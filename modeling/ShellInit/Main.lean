import ShellInit.Run

/-!
# The program

The outer layer: it gathers what a run reads from the machine, lets the library decide, and carries
out the output. A file that is found where an executable is looked for counts as one.
-/

namespace ShellInit

/-- The code of a system error, which some calls report negated. -/
def systemCode (code : UInt32) : Nat :=
  if code.toNat < 0x80000000 then code.toNat else 0x100000000 - code.toNat

def Fault.ofError : IO.Error → Fault
  | .noFileOrDirectory _ code _ | .invalidArgument _ code _ | .permissionDenied _ code _
  | .resourceExhausted _ code _ | .inappropriateType _ code _ | .noSuchThing _ code _
  | .alreadyExists _ code _ => .system (systemCode code)
  | .otherError code _ | .resourceBusy code _ | .hardwareFault code _
  | .illegalOperation code _ => .system (systemCode code)
  | e => .other (toString e)

def attempt {α : Type} (action : IO α) : IO (Except Fault α) := do
  try
    return .ok (← action)
  catch e =>
    return .error (.ofError e)

def readDisk (path : String) : IO (Except Fault String) := do
  match ← attempt (IO.FS.readBinFile path) with
  | .error fault => return .error fault
  | .ok bytes =>
    match String.fromUTF8? bytes with
    | some text => return .ok text
    | none => return .error .notUtf8

def existsOnDisk (path : String) : IO Bool := do
  return (← attempt (IO.FS.realPath path)).isOk

/-- Whether a path on the disk leads to a file that can be read, which no directory can. -/
def isReadableOnDisk (path : String) : IO Bool := do
  let glance : IO Unit := do
    let handle ← IO.FS.Handle.mk path .read
    discard (handle.read 1)
  return (← attempt glance).isOk

def answerProbe : Probe → IO Bool
  | .existence path => existsOnDisk path
  | .executable name => do
    if name = "" then return false
    let parts := pathParts name
    if 1 < parts.length then return ← isReadableOnDisk ("/".intercalate parts)
    let directories := ((← IO.getEnv "PATH").getD "").splitOn ":"
    directories.anyM fun directory ↦ isReadableOnDisk s!"{directory}/{name}"

/-- The first line of a file that the kernel keeps, if it can be read. -/
def kernelFact (name : String) : IO (Option String) := do
  return (← readDisk s!"/proc/sys/kernel/{name}").toOption.map fun text ↦
    .ofList (text.toList.takeWhile (· ≠ '\n'))

def gatherSigns : IO Platform.Signs := do
  let system := (← kernelFact "ostype").getD ""
  let exported ← Platform.subsystemVariables.filterM fun name ↦ do
    return (← IO.getEnv name).isSome
  return {
    os := .ofList (system.toList.map Char.toLower)
    arch := (← kernelFact "arch").getD ""
    exported
    kernelRelease := ← kernelFact "osrelease" }

def gatherMachine (paths : List String) : IO Machine := do
  let texts ← paths.mapM fun path ↦ do return (path, ← readDisk path)
  let read : TextReader := fun path ↦ (texts.lookup path).getD (.error .notFound)
  let probes := match Config.load read paths 0 with
    | .ok config => config.directives.flatMap Directive.probes
    | .error _ => []
  let passed ← probes.filterM answerProbe
  return {
    read
    surroundings :=
      { executable := fun name ↦ passed.contains (.executable name)
        existence := fun path ↦ passed.contains (.existence path) }
    platform := .ofSigns (← gatherSigns) }

def Output.perform (o : Output) : IO (Except Fault Unit) :=
  attempt <|
    match o.destination with
    | .file path => IO.FS.writeFile path o.text
    | .stdout => do
      let stdout ← IO.getStdout
      stdout.putStr o.text
      stdout.flush

def Command.perform (c : Command) : IO (Report Unit) := do
  let prepared := c.prepare (← gatherMachine c.files)
  match prepared.result with
  | .error failure => return ⟨prepared.events, .error failure⟩
  | .ok output => return conclude prepared.events output (← output.perform)

/-- Runs the program; the result is its exit code. -/
def perform (args : List String) : IO UInt32 := do
  match Command.ofArgs args with
  | .error .help => IO.print helpText; return 0
  | .error .version => IO.print versionText; return 0
  | .error e => IO.eprintln e.message; return 2
  | .ok command =>
    let console : Console :=
      { filter := ← IO.getEnv logVariable, ansi := ← (← IO.getStderr).isTty }
    let report ← command.perform
    IO.eprint (console.transcript command.verbose report)
    return .ofNat report.exitCode

end ShellInit

def main (args : List String) : IO UInt32 := ShellInit.perform args
