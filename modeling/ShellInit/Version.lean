import ShellInit.Text.Blank
import ShellInit.Text.Utf8

/-!
# The version stamp

Which version a build of the program is given: the one that is asked for, or else what the version
control has to say about the sources, if anything.
-/

namespace ShellInit.Version

def versionVariable : String := "SHELLRC_VERSION"

def query : List String := ["describe", "--tags", "--always", "--dirty"]

structure Answer where
  output : List UInt8
  code : Nat

def Answer.version? (a : Answer) : Option String :=
  let text := Text.trim (Text.decodeForgiving a.output)
  if a.code = 0 ∧ text ≠ "" then some text else none

def isQueried (asked : Option String) : Bool := asked.isNone

def stamp? (asked : Option String) (answer : Option Answer) : Option String :=
  asked.or (answer.bind Answer.version?)

/-- The instructions for the build: the version, and when to ask again. -/
def instructions (asked : Option String) (answer : Option Answer) : String :=
  (match stamp? asked answer with
    | some version => s!"cargo:rustc-env={versionVariable}={version}\n"
    | none => "") ++
  s!"cargo:rerun-if-env-changed={versionVariable}\n"

end ShellInit.Version
