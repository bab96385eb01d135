import ShellInit.Tag

/-!
# Shells and their dialects

The shells that a script can be made for, and how each of them writes the actions and guards of a
configuration. Texts are put in as they stand, without quoting.
-/

namespace ShellInit

inductive Shell
  | bash
  | zsh
  | fish
deriving DecidableEq, Repr

instance : Tagged Shell where
  all := [.bash, .zsh, .fish]
  tag
    | .bash => "bash"
    | .zsh => "zsh"
    | .fish => "fish"

inductive Dialect
  | posix
  | fish
deriving DecidableEq, Repr

def Shell.dialect : Shell → Dialect
  | .bash | .zsh => .posix
  | .fish => .fish

namespace Dialect

/-- What stands before a command that runs only if an executable is on the search path. -/
def executableGuard (_ : Dialect) (executable : String) : String :=
  s!"command -v {executable} >/dev/null 2>&1 && "

/-- What stands before a command that runs only if a path exists. -/
def existenceGuard (d : Dialect) (path : String) : String :=
  match d with
  | .posix => s!"[ -e {path} ] && "
  | .fish => s!"test -e {path} && "

/-- Reads a file into the running shell. -/
def sourceFile (_ : Dialect) (file : String) : String := s!"source {file}"

/-- Lets `name` stand for `expansion`. -/
def defineAlias (d : Dialect) (name expansion : String) : String :=
  match d with
  | .posix => s!"alias {name} {expansion}"
  | .fish => s!"alias {name} \"{expansion}\""

def exportVariable (d : Dialect) (name value : String) : String :=
  match d with
  | .posix => s!"export {name}={value}"
  | .fish => s!"set --export --unpath {name} {value}"

def addPath (d : Dialect) (directory : String) : String :=
  match d with
  | .posix => s!"export PATH={directory}:$PATH"
  | .fish => s!"set --path PATH $PATH {directory}"

theorem exportVariable_posix (name value : String) :
    posix.exportVariable name value = "export " ++ name ++ "=" ++ value := rfl

theorem exportVariable_fish (name value : String) :
    fish.exportVariable name value = "set --export --unpath " ++ name ++ " " ++ value := rfl

theorem addPath_posix (directory : String) :
    posix.addPath directory = "export PATH=" ++ directory ++ ":$PATH" := rfl

theorem addPath_fish (directory : String) :
    fish.addPath directory = "set --path PATH $PATH " ++ directory := rfl

def run (_ : Dialect) (command : String) : String := command

def ifExecutable (d : Dialect) (executable command : String) : String :=
  d.executableGuard executable ++ command

def ifExists (d : Dialect) (path command : String) : String :=
  d.existenceGuard path ++ command

end Dialect

end ShellInit
