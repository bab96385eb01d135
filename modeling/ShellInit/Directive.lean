import ShellInit.Platform
import ShellInit.Selection
import ShellInit.Shell

/-!
# Directives

The units of a configuration: an action, and the conditions under which and the order in which it is
written into the script.
-/

namespace ShellInit

/-- Kinds of directives, each with a list of its own in a configuration. -/
inductive Kind
  | evaluates
  | sources
  | aliases
  | environments
  | paths
deriving DecidableEq, Repr

instance : Tagged Kind where
  all := [.evaluates, .sources, .aliases, .environments, .paths]
  tag
    | .evaluates => "evaluates"
    | .sources => "sources"
    | .aliases => "aliases"
    | .environments => "environments"
    | .paths => "paths"

structure Binding where
  value : String
  name : String
deriving DecidableEq, Repr

inductive Action
  | sourceFile (file : String)
  | defineAlias (binding : Binding)
  | exportVariable (binding : Binding)
  | addPath (directory : String)
  | run (command : String)
deriving DecidableEq, Repr

namespace Action

def kind : Action → Kind
  | .run _ => .evaluates
  | .sourceFile _ => .sources
  | .defineAlias _ => .aliases
  | .exportVariable _ => .environments
  | .addPath _ => .paths

/-- The written fields with their values. -/
def fields : Action → List (String × String)
  | .sourceFile file => [("path", file)]
  | .addPath directory => [("path", directory)]
  | .defineAlias binding | .exportVariable binding =>
    [("from", binding.value), ("to", binding.name)]
  | .run command => [("command", command)]

/-- The command for the action, without guards. -/
def render (dialect : Dialect) : Action → String
  | .sourceFile file => dialect.sourceFile file
  | .defineAlias binding => dialect.defineAlias binding.name binding.value
  | .exportVariable binding => dialect.exportVariable binding.name binding.value
  | .addPath directory => dialect.addPath directory
  | .run command => dialect.run command

end Action

/-- Conditions and order of a directive. -/
structure Options where
  /-- Operating systems it is for. -/
  os : Option (Selection Os) := none
  /-- Architectures it is for. -/
  arch : Option (Selection Arch) := none
  /-- Shells it is for. -/
  shell : Option (Selection Shell) := none
  /-- Runs only if this is on the search path when the shell starts. -/
  ifExecutable : Option String := none
  /-- Runs only if this path exists when the shell starts. -/
  ifExists : Option String := none
  /-- The name by which others wait for it. -/
  label : Option String := none
  /-- Labels it waits for. -/
  depends : Option (Selection String) := none
deriving DecidableEq, Repr

/-- An action with its conditions and order. -/
structure Directive where
  action : Action
  options : Options
deriving DecidableEq, Repr

namespace Directive

/-- The label, empty if none is set; nothing can wait for the empty label. -/
def label (d : Directive) : String := d.options.label.getD ""

/-- The labels that the directive waits for, as written. -/
def depends (d : Directive) : List String := (d.options.depends.map Selection.toList).getD []

def isLabeled (d : Directive) : Bool := d.label ≠ ""

def dependsOn (d : Directive) (label : String) : Bool := d.depends.contains label

def waitsFor (d other : Directive) : Bool := other.isLabeled && d.dependsOn other.label

def appliesTo (d : Directive) (shell : Shell) (platform : Platform) : Bool :=
  Selection.admits d.options.shell (some shell) &&
    Selection.admits d.options.arch platform.arch &&
    Selection.admits d.options.os platform.os

def command (d : Directive) (dialect : Dialect) : String := d.action.render dialect

/-- A command behind the guards of the directive, the test for the path first. -/
def guarded (d : Directive) (dialect : Dialect) (command : String) : String :=
  let command :=
    match d.options.ifExecutable with
    | some executable => dialect.ifExecutable executable command
    | none => command
  match d.options.ifExists with
  | some path => dialect.ifExists path command
  | none => command

/-- What the directive contributes to the script. -/
def line (d : Directive) (dialect : Dialect) : String := d.guarded dialect (d.command dialect)

end Directive

end ShellInit
