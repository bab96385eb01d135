import ShellInit.Config
import ShellInit.Order

/-!
# Compiling a configuration

From the directives that apply to a shell and a platform to the lines of a script, every directive
after those it waits for. Each label that is waited for must be declared somewhere in the
configuration, if only by a directive that does not apply.
-/

namespace ShellInit

inductive CompileError
  | unsupportedShell (name : String)
  | circular
  | undeclared (label command : String)
deriving DecidableEq, Repr

def CompileError.message : CompileError → String
  | .unsupportedShell name =>
    s!"Unsupported shell '{name}': must be one of " ++
      ", ".intercalate ((Tagged.all : List Shell).map tag)
  | .circular => "Configuration contains a circular dependency"
  | .undeclared label command => s!"Entry `{command}` depends on unknown label '{label}'"

def Shell.named (name : String) : Except CompileError Shell :=
  match ofTag? name with
  | some shell => .ok shell
  | none => .error (.unsupportedShell name)

/-! ## Dependencies -/

/-- Whether some directive can be waited for by this label. -/
def declares (ds : List Directive) (label : String) : Bool :=
  ds.any fun d ↦ d.isLabeled && d.label == label

/-- The first directive that waits for a label nobody declares, with the first such label. -/
def firstUndeclared (ds : List Directive) : Option (Directive × String) :=
  ds.findSome? fun d ↦ (d.depends.find? fun label ↦ !declares ds label).map (d, ·)

/-- For each directive the indices of those that wait for it. -/
def dependents (ds : List Directive) : Edges :=
  ds.map fun d ↦ ds.zipIdx.filterMap fun (other, i) ↦ if other.waitsFor d then some i else none

/-- The directives in an order in which each follows those it waits for. -/
def arrange (ds : List Directive) : Except CompileError (List Directive) :=
  let order := releaseOrder (dependents ds)
  if order.length < ds.length then .error .circular
  else .ok (order.filterMap (ds[·]?))

/-! ## The script -/

/-- Lines joined by newlines, without one at the end. -/
def script (lines : List String) : String := "\n".intercalate lines

namespace Config

/-- The directives that apply to a shell on a platform, in the order of declaration. -/
def kept (c : Config) (shell : Shell) (platform : Platform) : List Directive :=
  c.directives.filter (·.appliesTo shell platform)

def checkDeclared (c : Config) (dialect : Dialect) : Except CompileError Unit :=
  match firstUndeclared c.directives with
  | some (d, label) => .error (.undeclared label (d.command dialect))
  | none => .ok ()

def plan (c : Config) (shell : Shell) (platform : Platform) :
    Except CompileError (List Directive) := do
  c.checkDeclared shell.dialect
  arrange (c.kept shell platform)

def compile (c : Config) (shellName : String) (platform : Platform) :
    Except CompileError String := do
  let shell ← Shell.named shellName
  let directives ← c.plan shell platform
  return script (directives.map (·.line shell.dialect))

/-- What happened on the way to the script, or until it failed. -/
def compileNotes (c : Config) (shellName : String) (platform : Platform) : List String :=
  match Shell.named shellName with
  | .error _ => []
  | .ok shell =>
    let begun := s!"compiling for {tag shell} on {platform.text}"
    match c.checkDeclared shell.dialect with
    | .error _ => [begun]
    | .ok () =>
      let skipped := c.directives.filter (!·.appliesTo shell platform)
      begun :: skipped.map (fun d ↦ s!"skipping `{d.command shell.dialect}`: not applicable") ++
        [s!"{(c.kept shell platform).length} of {c.directives.length} entries apply"]

end Config

end ShellInit
