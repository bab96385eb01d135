import ShellInit.Toml.Layout

/-!
# Reading strings

Strings between double quotes have escapes, those between single quotes have none; three quotes at
each end admit line breaks. A line break is one newline however it is written, and the first one
behind three opening quotes does not count.
-/

namespace ShellInit.Toml

def readEscape : Reader Char := do
  match ← Reader.next with
  | 'b' => return '\x08'
  | 't' => return '\t'
  | 'n' => return '\n'
  | 'f' => return '\x0c'
  | 'r' => return '\r'
  | '"' => return '"'
  | '\\' => return '\\'
  | 'u' => Reader.codePoint (pure ()) 4
  | 'U' => Reader.codePoint (pure ()) 8
  | _ => failure

def readBasic : Reader (List Char) :=
  Reader.iterate (fun read ↦ do
    match ← Reader.next with
    | '"' => return .inr read.reverse
    | '\\' => return .inl ((← readEscape) :: read)
    | c => guard (isPlain c); return .inl (c :: read)) []

def readVerbatim : Reader (List Char) := do
  let text ← Reader.takeWhile fun c ↦ isPlain c && c ≠ '\''
  Reader.char '\''
  return text

/-- Takes off the quotes that end a string of several lines: three, with up to two before them that
belong to the string. The answer counts these. -/
def closing? (quote : Char) : Reader (Option Nat) := do
  let quotes := ((← Reader.rest).take 5).takeWhile (· = quote)
  if quotes.length < 3 then return none
  modify (List.drop quotes.length)
  return some (quotes.length - 3)

/-- A string of several lines, after the three quotes; `piece` reads what else is special in it. -/
def readLines (quote : Char) (piece : List Char → Reader (Option (List Char))) :
    Reader (List Char) := do
  discard lineBreak?
  Reader.iterate (fun read ↦ do
    if let some count ← closing? quote then
      return .inr (List.replicate count quote ++ read).reverse
    if ← lineBreak? then return .inl ('\n' :: read)
    if let some read ← piece read then return .inl read
    let c ← Reader.next
    guard (isPlain c)
    return .inl (c :: read)) []

/-- An escape, or a backslash that ends its line and takes the blank space after it along. -/
def readBackslash (read : List Char) : Reader (Option (List Char)) :=
  Reader.ifWord "\\" do
    let after := (← Reader.rest).dropWhile isGap
    match after with
    | '\n' :: _ | '\r' :: '\n' :: _ =>
      set after
      Reader.iterate (fun _ ↦ do
        if ← lineBreak? then
          skipGap
          return .inl ()
        return .inr ()) ()
      return read
    | _ => return (← readEscape) :: read

def readString : Reader String := do
  match ← Reader.rest with
  | '"' :: '"' :: '"' :: after => set after; .ofList <$> readLines '"' readBackslash
  | '"' :: after => set after; .ofList <$> readBasic
  | '\'' :: '\'' :: '\'' :: after =>
    set after; .ofList <$> readLines '\'' fun _ ↦ return none
  | '\'' :: after => set after; .ofList <$> readVerbatim
  | _ => failure

end ShellInit.Toml
