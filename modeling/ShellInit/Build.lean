import ShellInit.Config.Lint
import ShellInit.Config.Probe
import ShellInit.Load
import ShellInit.Log.Event

/-!
# Building a script

From configuration files to a script, with the events on the way: findings are warnings, failing
guards are details, and neither changes the script.
-/

namespace ShellInit

/-- What a build knows of the machine it runs on. -/
structure Machine where
  read : TextReader
  /-- Which of the files that cannot be loaded is reported. -/
  pick : Nat := 0
  surroundings : Surroundings
  platform : Platform

/-- The number of lines in a text; a newline at its end does not begin another. -/
def lineCount (s : String) : Nat :=
  let chars := s.toList
  chars.count '\n' + if chars.getLast?.all (· = '\n') then 0 else 1

def Config.summary (c : Config) (fileCount : Nat) : String :=
  s!"{fileCount} files merged into {c.size} entries (" ++ ", ".intercalate [
    s!"{c.paths.length} paths", s!"{c.environments.length} environments",
    s!"{c.aliases.length} aliases", s!"{c.sources.length} sources",
    s!"{c.evaluates.length} evaluates"] ++ ")"

def Finding.text (f : Finding) : String := s!"  {f.place} [{f.item}]: {f.message}"

/-- The findings as warnings below a heading; nothing if there are none. -/
def Config.findingEvents (c : Config) : List Event :=
  c.findingCounts.map Event.lint ++
    if c.findings.isEmpty then []
    else
      Event.warn s!"found {c.findings.length} configuration warning(s):" ::
        c.findings.map fun f ↦ Event.warn f.text

/-- The events between loading and the outcome of the compilation. -/
def Config.buildEvents (c : Config) (m : Machine) (fileCount : Nat) (shellName : String) :
    List Event :=
  Event.debug (c.summary fileCount) :: c.findingEvents ++
    (c.probeNotes m.surroundings).map Event.debug ++
    Event.stage s!"Compiling for {shellName}" ::
    (c.compileNotes shellName m.platform).map Event.compile

/-- The events of a run and how it ended. -/
structure Report (α : Type) where
  events : List Event
  result : Except Failure α

def build (m : Machine) (paths : List String) (shellName : String) : Report String :=
  let opening := Event.stage "Loading configuration"
  match Config.load m.read paths m.pick with
  | .error e => ⟨[opening], .error (.load e)⟩
  | .ok config =>
    let events := opening :: config.buildEvents m paths.length shellName
    match config.compile shellName m.platform with
    | .error e => ⟨events, .error (.compile e)⟩
    | .ok script => ⟨events ++ [Event.debug s!"{lineCount script} lines emitted"], .ok script⟩

end ShellInit
