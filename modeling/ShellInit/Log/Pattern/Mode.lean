import ShellInit.Text.Blank
import ShellInit.Text.Reader

/-!
# Modes of a pattern

The flags of a pattern say how what follows them is read. The properties of characters beyond ASCII
are not at hand, so a mode does not admit what asks for them: a kind of characters, the edge of a
word, or a character in either case, while characters are meant beyond ASCII; and what fits bytes
that are no text, while bytes are meant.
-/

namespace ShellInit.Pattern

/-- How a stretch of a pattern is read. -/
structure Mode where
  /-- Characters fit in either case. -/
  caseless : Bool := false
  /-- Characters are meant, not bytes. -/
  unicode : Bool := true
  /-- Blanks and comments stand for nothing. -/
  spaced : Bool := false
deriving DecidableEq, Repr

inductive Atom
  /-- A character, which may be given as a byte. -/
  | char (c : Char) (isByte : Bool)
  /-- The characters of a kind, or all others. -/
  | kind (negated : Bool)
  /-- The start or the end of the text. -/
  | anchor
  /-- The edge of a word, or its absence. -/
  | edge
deriving DecidableEq, Repr

namespace Mode

def admits (m : Mode) : Atom → Bool
  | .char c isByte => if m.unicode then !m.caseless else !isByte || c.toNat < 128
  | .kind negated => !m.unicode && !negated
  | .anchor => true
  | .edge => !m.unicode

/-- The mode behind flags, of which those behind a dash are taken back. -/
def change (m : Mode) (flags : List Char) : Mode :=
  let (on, off) := flags.span (· ≠ '-')
  let state (flag : Char) (before : Bool) : Bool :=
    on.contains flag || (before && !off.contains flag)
  { caseless := state 'i' m.caseless, unicode := state 'u' m.unicode, spaced := state 'x' m.spaced }

/-! ## Blanks -/

/-- A text without the blanks and comments in front of it. A comment goes from a hash to the end of
the line; the text may begin in one. -/
def dropComments (inComment : Bool) : List Char → List Char
  | [] => []
  | c :: s =>
    if inComment then dropComments (c ≠ '\n') s
    else if Text.isBlank c then dropComments false s
    else if c = '#' then dropComments true s
    else c :: s

def skip (m : Mode) : Reader Unit := do
  if m.spaced then modify (dropComments false)

/-- The next character, if blanks stand for nothing with a single hash among them. -/
def glance (m : Mode) (s : List Char) : Option Char :=
  if m.spaced then
    match s.dropWhile Text.isBlank with
    | '#' :: s => (s.dropWhile Text.isBlank).head?
    | s => s.head?
  else
    s.head?

/-! ## Escapes -/

def readEscape (m : Mode) : Reader Atom := do
  match ← Reader.next with
  | 'd' | 's' | 'w' => return .kind false
  | 'D' | 'S' | 'W' => return .kind true
  | 'A' | 'z' => return .anchor
  | 'b' | 'B' | '<' | '>' => return .edge
  | 'a' => return .char '\x07' false
  | 'f' => return .char '\x0c' false
  | 't' => return .char '\t' false
  | 'n' => return .char '\n' false
  | 'r' => return .char '\r' false
  | 'v' => return .char '\x0b' false
  | 'x' => return .char (← Reader.codePoint m.skip 2) true
  | 'u' => return .char (← Reader.codePoint m.skip 4) false
  | 'U' => return .char (← Reader.codePoint m.skip 8) false
  | c =>
    guard (c.toNat < 128 && !c.isAlphanum)
    return .char c false

end Mode

end ShellInit.Pattern
