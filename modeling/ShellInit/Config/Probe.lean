import ShellInit.Config

/-!
# Probing guards

Guards are tested by the shell when it starts. Probing them on the present machine explains why a
line may be skipped there, and changes nothing else.
-/

namespace ShellInit

inductive Probe
  | executable (name : String)
  | existence (path : String)
deriving DecidableEq, Repr

structure Surroundings where
  /-- Whether the name is found as an executable. -/
  executable : String → Bool
  /-- Whether the path exists. -/
  existence : String → Bool

def Surroundings.passes (s : Surroundings) : Probe → Bool
  | .executable name => s.executable name
  | .existence path => s.existence path

/-- Whether a path reads the same without a shell that expands it. -/
def isLiteralPath (path : String) : Bool :=
  !path.toList.contains '$' && path.toList.head? ≠ some '~'

def Directive.probes (d : Directive) : List Probe :=
  (d.options.ifExecutable.map .executable).toList ++
    ((d.options.ifExists.filter isLiteralPath).map .existence).toList

def Probe.note (kind : Kind) : Probe → String
  | .executable name => s!"{tag kind}: `{name}` is not on PATH here"
  | .existence path => s!"{tag kind}: {path} does not exist here"

/-- A note for each guard that the machine does not pass, in the order of declaration. -/
def Config.probeNotes (c : Config) (s : Surroundings) : List String :=
  c.directives.flatMap fun d ↦
    (d.probes.filter (!s.passes ·)).map (Probe.note d.action.kind)

end ShellInit
