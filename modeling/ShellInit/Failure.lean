import ShellInit.Compile
import ShellInit.Files.Fault

/-!
# Failures

Why a run ended without a script: its documents could not be loaded, the configuration could not be
compiled, or the script could not be written. A failure has a message and sometimes a cause below
it.
-/

namespace ShellInit

inductive LoadError
  | unreadable (path : String) (cause : Fault)
  | malformed (file : String) (reason : String)
  | invalid (reason : String)
deriving DecidableEq, Repr

namespace LoadError

def message : LoadError → String
  | .unreadable path _ => s!"IO error reading config file {path}"
  | .malformed file reason => s!"Invalid TOML syntax in {file}: {reason}"
  | .invalid reason => s!"Invalid configuration: {reason}"

def cause? : LoadError → Option Fault
  | .unreadable _ cause => some cause
  | _ => none

end LoadError

inductive Destination
  | stdout
  | file (path : String)
deriving DecidableEq, Repr

def Destination.name : Destination → String
  | .stdout => "stdout"
  | .file path => path

inductive Failure
  | load (error : LoadError)
  | compile (error : CompileError)
  | unwritable (destination : Destination) (cause : Fault)
deriving DecidableEq, Repr

namespace Failure

def message : Failure → String
  | .load error => error.message
  | .compile error => error.message
  | .unwritable destination _ => s!"writing output to {destination.name}"

def cause? : Failure → Option Fault
  | .load error => error.cause?
  | .compile _ => none
  | .unwritable _ cause => some cause

/-- The message, and the cause behind a colon. -/
def chain (f : Failure) : String :=
  ": ".intercalate (f.message :: (f.cause?.map Fault.text).toList)

end Failure

end ShellInit
