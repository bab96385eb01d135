import ShellInit.Directive

/-!
# Configurations

A configuration declares directives in five lists, one for each kind.
-/

namespace ShellInit

/-- What a list of a configuration declares: the fields of its kind, and options. -/
structure Declared (α : Type) where
  fields : α
  options : Options := {}
deriving DecidableEq, Repr

def Declared.directive {α : Type} (action : α → Action) (d : Declared α) : Directive :=
  ⟨action d.fields, d.options⟩

/-- The five lists of a configuration. -/
structure Config where
  /-- Commands that are written as they stand. -/
  evaluates : List (Declared String) := []
  /-- Files to read in. -/
  sources : List (Declared String) := []
  /-- Names of commands. -/
  aliases : List (Declared Binding) := []
  /-- Exported variables. -/
  environments : List (Declared Binding) := []
  /-- Directories of the search path. -/
  paths : List (Declared String) := []
deriving DecidableEq, Repr

namespace Config

def ofKind (c : Config) : Kind → List Directive
  | .evaluates => c.evaluates.map (Declared.directive .run)
  | .sources => c.sources.map (Declared.directive .sourceFile)
  | .aliases => c.aliases.map (Declared.directive .defineAlias)
  | .environments => c.environments.map (Declared.directive .exportVariable)
  | .paths => c.paths.map (Declared.directive .addPath)

/-- All directives in the order of declaration: kind after kind, each in its own order. -/
def directives (c : Config) : List Directive := (Tagged.all : List Kind).flatMap c.ofKind

def size (c : Config) : Nat :=
  c.paths.length + c.environments.length + c.aliases.length + c.sources.length +
    c.evaluates.length

def isEmpty (c : Config) : Bool := c.size = 0

end Config

end ShellInit
