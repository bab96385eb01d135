/-!
# Events

What a run reports on its way: messages of several levels, each under a target that says which part
of the program speaks.
-/

namespace ShellInit

/-- How much an event matters, most first. -/
inductive Level
  | error
  | warn
  | info
  | debug
  | trace
deriving DecidableEq, Repr

/-- The rank of a level; greater is more detailed. -/
def Level.rank : Level → Nat
  | .error => 1
  | .warn => 2
  | .info => 3
  | .debug => 4
  | .trace => 5

/-- A message, which may be missing, with its level and target. -/
structure Event where
  level : Level
  target : String
  message : Option String
deriving DecidableEq, Repr

namespace Event

def text (e : Event) : String := e.message.getD ""

/-- Whether the event has the field; the message is its only one. -/
def hasField (e : Event) (name : String) : Bool := name = "message" && e.message.isSome

def stageTarget : String := "shellrc::stage"

def runTarget : String := "shellrc_cli::logging::logger"

def lintTarget : String := "shellrc_cli::config::validation"

def compileTarget : String := "shellrc_cli::compile"

def stage (message : String) : Event := ⟨.info, stageTarget, some message⟩

def error (message : String) : Event := ⟨.error, runTarget, some message⟩

def warn (message : String) : Event := ⟨.warn, runTarget, some message⟩

def info (message : String) : Event := ⟨.info, runTarget, some message⟩

def debug (message : String) : Event := ⟨.debug, runTarget, some message⟩

def lint (message : String) : Event := ⟨.debug, lintTarget, some message⟩

def compile (message : String) : Event := ⟨.debug, compileTarget, some message⟩

def isStage (e : Event) : Bool := e.level = .info && e.target = stageTarget

end Event

def warningCount (events : List Event) : Nat := events.countP (·.level = .warn)

end ShellInit
