import ShellInit.Toml.Draft
import ShellInit.Toml.Literal
import ShellInit.Toml.MomentTable
import ShellInit.Toml.Number

/-!
# Reading documents

A document is a list of statements, one a line: assignments of values to keys, and headers that say
in which table the assignments after them stand. A document is accepted whole or not at all.
-/

namespace ShellInit.Toml

/-- So many arrays and inline tables may stand in each other, and so many keys on a path. -/
def nestingLimit : Nat := 79

/-! ## Keys -/

def isBareKey (c : Char) : Bool := c.isAlphanum || c = '_' || c = '-'

def readKey : Reader String := do
  match ← Reader.rest with
  | '"' :: after => set after; .ofList <$> readBasic
  | '\'' :: after => set after; .ofList <$> readVerbatim
  | _ =>
    let key ← Reader.takeWhile isBareKey
    guard !key.isEmpty
    return .ofList key

/-- Keys with points between them, blanks around each being taken off. -/
def readPath : Reader Path :=
  Reader.iterate (fun parents ↦ do
    skipGap
    let key ← readKey
    skipGap
    if (← Reader.rest).head? = some '.' then
      Reader.char '.'
      return .inl (key :: parents)
    guard (parents.length < nestingLimit)
    return .inr ⟨parents.reverse, key⟩) []

def readAssignment (value : Reader Value) : Reader (Path × Value) := do
  let path ← readPath
  Reader.char '='
  skipGap
  return (path, ← value)

/-! ## Values -/

def readScalar : Reader Value := do
  match ← Reader.rest with
  | '"' :: _ | '\'' :: _ => .string <$> readString
  | 't' :: _ => Reader.word "true"; return .boolean true
  | 'f' :: _ => Reader.word "false"; return .boolean false
  | s => if Moment.begins s then .moment <$> Moment.read .word else readNumber

def readItems (value : Reader Value) : Reader Value :=
  .array <$> listed ']' true skipLines value

def readInline (value : Reader Value) : Reader Value := do
  let assignments ← listed '\x7d' false skipGap (readAssignment value)
  let draft ← Draft.assignAll [] assignments
  return .table draft.toTable

/-- A value in which arrays and inline tables nest up to the given depth. -/
def readValue : Nat → Reader Value
  | 0 => readScalar
  | depth + 1 => do
    match ← Reader.rest with
    | '[' :: after => set after; readItems (readValue depth)
    | '\x7b' :: after => set after; readInline (readValue depth)
    | _ => readScalar

/-! ## Statements -/

inductive Statement
  | assign (path : Path) (value : Value)
  | table (path : Path)
  | element (path : Path)

def readStatement : Reader Statement := do
  let statement ← match ← Reader.rest with
    | '[' :: '[' :: after => do
      set after
      let path ← readPath
      Reader.word "]]"
      pure (.element path)
    | '[' :: after => do
      set after
      let path ← readPath
      Reader.char ']'
      pure (.table path)
    | _ => do
      let (path, value) ← readAssignment (readValue nestingLimit)
      pure (.assign path value)
  endLine
  return statement

/-- All statements of a document; a byte order mark may come first. -/
def readStatements : Reader (List Statement) := do
  modify fun s ↦ if s.head? = some '\ufeff' then s.tail else s
  Reader.iterate (fun statements ↦ do
    skipLines
    if (← Reader.rest).isEmpty then return .inr statements.reverse
    return .inl ((← readStatement) :: statements)) []

/-! ## Sections -/

structure Section where
  header : Statement
  assignments : List (Path × Value)

/-- The assignments before the first header, and the sections after them. -/
def sections : List Statement → List (Path × Value) × List Section
  | [] => ([], [])
  | .assign path value :: rest =>
    let (assignments, after) := sections rest
    ((path, value) :: assignments, after)
  | header :: rest =>
    let (assignments, after) := sections rest
    ([], ⟨header, assignments⟩ :: after)

def Draft.addSection (d : Draft) (s : Section) : Option Draft :=
  match s.header with
  | .table path => d.addTable path s.assignments
  | .element path => d.addElement path s.assignments
  | .assign path value => d.assignAll ((path, value) :: s.assignments)

/-- The table that statements describe, unless they contradict each other. -/
def Table.ofStatements? (statements : List Statement) : Option Table := do
  let (assignments, sections) := sections statements
  let root ← Draft.assignAll [] assignments
  (← sections.foldlM Draft.addSection root).toTable.restored?

def Table.ofText? (text : String) : Option Table := do
  Table.ofStatements? (← Reader.whole? readStatements text)

end ShellInit.Toml
