/-!
# The command line

What the program is asked to do. Options may stand anywhere among the files; after two dashes
everything is a file. Values are checked when the next option or the end is reached, so that an
unknown option is reported first.
-/

namespace ShellInit

/-- What the program is asked to do. -/
structure Command where
  /-- Files to load, in their order. -/
  files : List String
  /-- Name of the shell. -/
  shell : String
  /-- File to write instead of the standard output. -/
  out : Option String
  verbose : Bool
deriving DecidableEq, Repr

/-- Why there is nothing to do. -/
inductive ArgError
  | missingRequired
  | unknownArgument
  | invalidValue
  | conflict
  | tooManyValues
  | help
  | version
deriving DecidableEq, Repr

def ArgError.message : ArgError → String
  | .missingRequired => "error: a shell and at least one file are required"
  | .unknownArgument => "error: unexpected argument"
  | .invalidValue => "error: an option or a file has no value"
  | .conflict => "error: an option is given twice"
  | .tooManyValues => "error: an option takes no value"
  | .help | .version => ""

inductive Flag
  | shell
  | out
  | verbose
  | help
  | version
deriving DecidableEq, Repr

namespace Flag

def ofLong? : String → Option Flag
  | "shell" => some .shell
  | "out" => some .out
  | "verbose" => some .verbose
  | "help" => some .help
  | "version" => some .version
  | _ => none

def ofShort? : Char → Option Flag
  | 's' => some .shell
  | 'o' => some .out
  | 'v' => some .verbose
  | 'h' => some .help
  | 'V' => some .version
  | _ => none

def takesValue : Flag → Bool
  | .shell | .out => true
  | .verbose | .help | .version => false

end Flag

/-- What has been read but not yet checked. -/
inductive Pending
  | files (paths : List String)
  | option (flag : Flag) (value : Option String)
deriving DecidableEq, Repr

/-- What has been read so far. -/
structure Progress where
  files : List String := []
  shell : Option String := none
  out : Option String := none
  verbose : Bool := false
  pending : Option Pending := none
deriving DecidableEq, Repr

namespace Progress

def apply (p : Progress) (flag : Flag) (value : Option String) : Except ArgError Progress :=
  match flag, value with
  | .help, _ => .error .help
  | .version, _ => .error .version
  | .verbose, _ => if p.verbose then .error .conflict else .ok { p with verbose := true }
  | .shell, some name => if p.shell.isSome then .error .conflict else .ok { p with shell := name }
  | .out, some path =>
    if p.out.isSome then .error .conflict
    else if path = "" then .error .invalidValue
    else .ok { p with out := path }
  | .shell, none | .out, none => .error .invalidValue

/-- Checks what is pending. -/
def settle (p : Progress) : Except ArgError Progress :=
  let settled := { p with pending := none }
  match p.pending with
  | none => .ok settled
  | some (.files paths) =>
    if paths.contains "" then .error .invalidValue
    else .ok { settled with files := p.files ++ paths }
  | some (.option flag value) => settled.apply flag value

/-- An option with the value attached to it, if any. -/
def option (p : Progress) (flag : Flag) (attached : Option String) : Except ArgError Progress := do
  let p ← p.settle
  if flag.takesValue && attached.isNone then
    return { p with pending := some (.option flag none) }
  else
    p.apply flag attached

def file (p : Progress) (path : String) : Except ArgError Progress := do
  match p.pending with
  | some (.files paths) => return { p with pending := some (.files (paths ++ [path])) }
  | _ => return { ← p.settle with pending := some (.files [path]) }

/-- A value, of the option that waits for one, or else a file. -/
def value (p : Progress) (text : String) : Except ArgError Progress :=
  match p.pending with
  | some (.option flag none) => .ok { p with pending := some (.option flag (some text)) }
  | _ => p.file text

/-- An option after two dashes, perhaps with a value behind an equals sign. -/
def long (p : Progress) (text : List Char) : Except ArgError Progress :=
  let (name, rest) := text.span (· ≠ '=')
  let attached := if rest.isEmpty then none else some (String.ofList rest.tail)
  match Flag.ofLong? (.ofList name) with
  | none => .error .unknownArgument
  | some flag =>
    if attached.isSome && !flag.takesValue then .error .tooManyValues
    else p.option flag attached

/-- Options after one dash; the rest of the word is the value of one that takes it. -/
def shorts (p : Progress) : List Char → Except ArgError Progress
  | [] => .ok p
  | c :: rest =>
    match Flag.ofShort? c with
    | none => .error .unknownArgument
    | some flag =>
      if flag.takesValue then
        p.option flag <|
          match rest with
          | [] => none
          | '=' :: value => some (.ofList value)
          | value => some (.ofList value)
      else do
        let p ← p.option flag none
        p.shorts rest

def word (p : Progress) (text : String) : Except ArgError Progress :=
  match text.toList with
  | '-' :: '-' :: name => p.long name
  | '-' :: c :: rest => p.shorts (c :: rest)
  | _ => p.value text

def words (p : Progress) : List String → Except ArgError Progress
  | [] => p.settle
  | "--" :: files => do
    let p ← files.foldlM file p
    p.settle
  | text :: rest => do
    let p ← p.word text
    p.words rest

end Progress

/-- What the words after the program's name ask for. -/
def Command.ofArgs (args : List String) : Except ArgError Command := do
  let p ← Progress.words {} args
  match p.shell with
  | some shell =>
    if p.files.isEmpty then .error .missingRequired
    else .ok { files := p.files, shell, out := p.out, verbose := p.verbose }
  | none => .error .missingRequired

/-! ## Texts -/

def helpText : String :=
  "Compile declarative TOML into a shell init script\n\n" ++
  "Usage: shellrc [OPTIONS] --shell <SHELL> <FILES>...\n\n" ++
  "Arguments:\n" ++
  "  <FILES>...  Config files to merge, in order (later files extend earlier ones)\n\n" ++
  "Options:\n" ++
  "  -s, --shell <SHELL>  Target shell (bash, zsh, fish)\n" ++
  "  -o, --out <OUT>      Write the script to this file instead of stdout\n" ++
  "  -v, --verbose        Enable verbose output\n" ++
  "  -h, --help           Print help\n" ++
  "  -V, --version        Print version\n"

/-- The version where none is given from outside. -/
def versionText : String := "shellrc 0.1.0\n"

end ShellInit
