import ShellInit.Config.Schema
import ShellInit.Failure
import ShellInit.Toml.Document
import ShellInit.Toml.Merge

/-!
# Loading a configuration

Documents are read and laid over each other in their order, and the result is checked against the
schema. Files are read side by side: if several cannot be loaded, any one of them may be reported.
-/

namespace ShellInit

open Toml (Table)

abbrev TextReader := String → Except Fault String

def parseDocument (file text : String) : Except LoadError Table :=
  match Table.ofText? text with
  | some table => .ok table
  | none => .error (.malformed file "not a TOML document")

def loadDocument (read : TextReader) (path : String) : Except LoadError Table := do
  let text ← (read path).mapError (.unreadable path)
  parseDocument path text

def Config.check (t : Table) : Except LoadError Config :=
  (Config.ofTable t).mapError fun mismatch ↦ .invalid mismatch.text

def loadErrors (read : TextReader) (paths : List String) : List LoadError :=
  paths.filterMap fun path ↦
    match loadDocument read path with
    | .ok _ => none
    | .error error => some error

/-- The configuration that files describe together. Of the files that cannot be loaded, the pick is
the one that is reported, or else the first. -/
def Config.load (read : TextReader) (paths : List String) (pick : Nat) :
    Except LoadError Config := do
  let documents ← (paths.mapM (loadDocument read)).mapError fun first ↦
    (loadErrors read paths).getD pick first
  Config.check (Table.mergeAll documents)

end ShellInit
