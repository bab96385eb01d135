import ShellInit.Text.Reader

/-!
# Blanks, lines and comments

What stands between the words of a document, and lists of items between brackets.
-/

namespace ShellInit.Toml

def isGap (c : Char) : Bool := c = ' ' || c = '\t'

/-- Characters other than the controls, the tab being allowed. -/
def isPlain (c : Char) : Bool := c = '\t' || (32 ≤ c.toNat && c.toNat ≠ 127)

def lineBreak? : Reader Bool := do
  match ← Reader.rest with
  | '\n' :: after => set after; return true
  | '\r' :: '\n' :: after => set after; return true
  | _ => return false

def skipGap : Reader Unit := do discard <| Reader.takeWhile isGap

def skipComment : Reader Unit := do
  if (← Reader.rest).head? = some '#' then discard <| Reader.takeWhile isPlain

/-- Takes off blanks and a comment up to the end of the line, which must follow. -/
def endLine : Reader Unit := do
  skipGap
  skipComment
  unless (← Reader.rest).isEmpty do guard (← lineBreak?)

def skipLines : Reader Unit :=
  Reader.iterate (fun _ ↦ do
    skipGap
    skipComment
    return if ← lineBreak? then .inl () else .inr ()) ()

/-- Items between commas up to the closing character; a comma may follow the last where `trailing`
holds. Blanks around the items are taken off by `skip`. -/
def listed {α : Type} (close : Char) (trailing : Bool) (skip : Reader Unit) (item : Reader α) :
    Reader (List α) := do
  let closed? : Reader Bool := do
    if (← Reader.rest).head? = some close then
      Reader.char close
      return true
    return false
  skip
  if ← closed? then return []
  Reader.iterate (fun items ↦ do
    let items := (← item) :: items
    skip
    if ← closed? then return .inr items.reverse
    Reader.char ','
    skip
    if trailing then
      if ← closed? then return .inr items.reverse
    return .inl items) []

end ShellInit.Toml
