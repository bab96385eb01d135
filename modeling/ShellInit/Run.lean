import ShellInit.Args
import ShellInit.Build
import ShellInit.Files.Tree
import ShellInit.Log.Console
import ShellInit.Log.Filter

/-!
# Running the program

One run: the script is built, and then it goes to a file or to the standard output. The effect on
the world is a function of the world before, so that it can be stated what stays as it was.
-/

namespace ShellInit

/-! ## Before and after the output -/

/-- The text that goes to a destination; the standard output gets a newline at the end. -/
structure Output where
  destination : Destination
  text : String
deriving DecidableEq, Repr

def Command.output (c : Command) (script : String) : Output :=
  match c.out with
  | some path => ⟨.file path, script⟩
  | none => ⟨.stdout, script ++ "\n"⟩

/-- Everything up to the output: the events so far, and what is to be put out. -/
def Command.prepare (c : Command) (m : Machine) : Report Output :=
  let report := build m c.files c.shell
  ⟨Event.debug s!"platform: {m.platform.text}" :: report.events, report.result.map c.output⟩

def closing (destination : Destination) (warnings : Nat) : List Event :=
  (match destination with
    | .file path => [Event.info s!"wrote {path}"]
    | .stdout => []) ++
  if 0 < warnings then [Event.info s!"completed with {warnings} warning(s)"] else []

/-- The whole report, once it is known whether the output could be put out. -/
def conclude (events : List Event) (output : Output) (written : Except Fault Unit) :
    Report Unit :=
  match written with
  | .error fault => ⟨events, .error (.unwritable output.destination fault)⟩
  | .ok () => ⟨events ++ closing output.destination (warningCount events), .ok ()⟩

/-! ## The world -/

/-- How many bytes of an output are taken, and why not more. -/
structure Limit where
  room : Nat
  refusal : Fault

/-- What a run reads and changes. -/
structure World where
  files : FileTree
  stdout : ByteArray := .empty
  /-- Why no file can be opened for writing, if none can. -/
  lock : Option Fault := none
  limit : Option Limit := none
  /-- Names of executables on the search path. -/
  executables : List String := []
  signs : Platform.Signs
  /-- Which of the files that cannot be loaded is reported. -/
  pick : Nat := 0

namespace World

def machine (w : World) : Machine where
  read := w.files.readText
  pick := w.pick
  surroundings :=
    { executable := fun name ↦
        if 1 < (pathParts name).length then w.files.isExecutable name
        else w.executables.contains name
      existence := w.files.holds }
  platform := Platform.ofSigns w.signs

def taken (w : World) (text : String) : ByteArray :=
  match w.limit with
  | none => text.toUTF8
  | some limit => text.toUTF8.extract 0 limit.room

/-- Whether all of a text is taken, and why not. -/
def accept (w : World) (text : String) : Except Fault Unit :=
  match w.limit with
  | none => .ok ()
  | some limit => if text.utf8ByteSize ≤ limit.room then .ok () else .error limit.refusal

def openFile (w : World) (path : String) : Except Fault Place := do
  let place ← w.files.target path
  match w.lock with
  | none => .ok place
  | some fault => .error fault

/-- Puts out a text. A file is emptied as soon as it has been opened, and what has been taken before
a refusal stays. -/
def put (w : World) (output : Output) : Except Fault Unit × World :=
  match output.destination with
  | .stdout => (w.accept output.text, { w with stdout := w.stdout ++ w.taken output.text })
  | .file path =>
    match w.openFile path with
    | .error fault => (.error fault, w)
    | .ok place =>
      (w.accept output.text, { w with files := w.files.write place (w.taken output.text) })

end World

/-- A run in a world: its report, and the world after it. -/
def Command.run (c : Command) (w : World) : Report Unit × World :=
  let prepared := c.prepare w.machine
  match prepared.result with
  | .error failure => (⟨prepared.events, .error failure⟩, w)
  | .ok output =>
    let (written, after) := w.put output
    (conclude prepared.events output written, after)

/-! ## The program -/

def logVariable : String := "SHELLRC_LOG"

structure Console where
  /-- The log filter that is asked for. -/
  filter : Option String := none
  /-- Whether colours are shown. -/
  ansi : Bool := false

def Console.show (console : Console) (verbose : Bool) (events : List Event) : String :=
  let filter := LogFilter.choose console.filter verbose
  String.join ((events.filter filter.shows).map (Event.line console.ansi))

/-- The console text of a report; a failure is shown whatever the filter. -/
def Console.transcript (console : Console) (verbose : Bool) (report : Report Unit) : String :=
  console.show verbose report.events ++
    match report.result with
    | .ok () => ""
    | .error failure => failureLine console.ansi failure.chain

def Report.exitCode (report : Report Unit) : Nat :=
  match report.result with
  | .ok () => 0
  | .error _ => 1

/-- What is left of an execution: the exit code, the console text, and the world. A command line
that cannot be used has no console text that is fixed. -/
structure Execution where
  code : Nat
  stderr : Option String
  world : World

def execute (args : List String) (console : Console) (w : World) : Execution :=
  match Command.ofArgs args with
  | .error .help => ⟨0, some "", (w.put ⟨.stdout, helpText⟩).2⟩
  | .error .version => ⟨0, some "", (w.put ⟨.stdout, versionText⟩).2⟩
  | .error _ => ⟨2, none, w⟩
  | .ok command =>
    let (report, after) := command.run w
    ⟨report.exitCode, some (console.transcript command.verbose report), after⟩

end ShellInit
