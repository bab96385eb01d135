/-!
# Reading text piece by piece

A reader takes a piece off the front of a text, or refuses the text. What is read is accepted or
refused as a whole, so a refusal carries no reason.
-/

namespace ShellInit

/-- Reads an `α` off the front of what remains. -/
abbrev Reader (α : Type) := StateT (List Char) Option α

namespace Reader

variable {α σ : Type}

def rest : Reader (List Char) := get

def next : Reader Char := do
  match ← rest with
  | c :: after => set after; return c
  | [] => failure

def char (c : Char) : Reader Unit := do guard ((← next) = c)

def word (s : String) : Reader Unit := s.toList.forM char

def takeWhile (p : Char → Bool) : Reader (List Char) :=
  fun s ↦ some (s.span p)

/-- A number of so many hexadecimal digits behind those of `value`. Each digit may have something
in front of it, which another reader takes off. -/
def hexadecimal (front : Reader Unit) : Nat → Nat → Reader Nat
  | 0, value => return value
  | count + 1, value => do
    front
    let c ← next
    if c.isDigit then
      hexadecimal front count (16 * value + (c.toNat - '0'.toNat))
    else
      guard (('a' ≤ c && c ≤ 'f') || ('A' ≤ c && c ≤ 'F'))
      hexadecimal front count (16 * value + (c.toLower.toNat - 'a'.toNat + 10))

/-- The character with a code point in hexadecimal of so many digits. -/
def codePoint (front : Reader Unit) (count : Nat) : Reader Char := do
  let code ← hexadecimal front count 0
  guard code.isValidChar
  return Char.ofNat code

/-- Runs the reader if what remains begins with the text, which it takes off. -/
def ifWord (s : String) (reader : Reader α) : Reader (Option α) := do
  if s.toList.isPrefixOf (← rest) then
    word s
    some <$> reader
  else
    return none

/-- Repeats a step up to `n` times, until it gives an answer. -/
def repeatUpTo (step : σ → Reader (σ ⊕ α)) : Nat → σ → Reader α
  | 0, _ => failure
  | n + 1, state => do
    match ← step state with
    | .inl state => repeatUpTo step n state
    | .inr answer => return answer

/-- Repeats a step that takes off at least one character, until it gives an answer. -/
def iterate (step : σ → Reader (σ ⊕ α)) (state : σ) : Reader α :=
  fun s ↦ repeatUpTo step (s.length + 1) state s

def whole? (reader : Reader α) (s : String) : Option α :=
  match reader.run s.toList with
  | some (value, []) => some value
  | _ => none

end Reader

end ShellInit
