import ShellInit.Text.Reader
import ShellInit.Toml.Moment

/-!
# Reading dates and times

The written forms of a date or time. A lower-case `t` or a blank may stand between date and time, a
lower-case `z` for UTC, and digits beyond the nanosecond are dropped. As a word of a document it has
an offset that a clock could show; as a text of its own it may have any offset of up to a day.
-/

namespace ShellInit.Toml

def ofDigits (digits : List Char) : Nat :=
  digits.foldl (fun n c ↦ 10 * n + (c.toNat - '0'.toNat)) 0

/-- Exactly so many decimal digits, as a number. -/
def fixedDigits (count : Nat) : Reader Nat := do
  let digits := (← Reader.rest).take count
  guard (digits.length = count && digits.all Char.isDigit)
  modify (List.drop count)
  return ofDigits digits

/-- How a date or time is written: as a word of a document, or as a text of its own. -/
inductive Setting
  | word
  | ownText
deriving DecidableEq, Repr

def Setting.acceptsOffset (setting : Setting) (hours minutes : Nat) : Bool :=
  match setting with
  | .word => hours ≤ 23 && minutes ≤ 59
  | .ownText => hours * 60 + minutes ≤ 24 * 60

namespace Moment

def readDate : Reader Date := do
  let year ← fixedDigits 4
  Reader.char '-'
  let month ← fixedDigits 2
  Reader.char '-'
  let day ← fixedDigits 2
  let date : Date := ⟨year, month, day⟩
  guard date.valid
  return date

/-- The fraction of a second in nanoseconds; zero where none is written. -/
def readFraction : Reader Nat := do
  if (← Reader.rest).head? = some '.' then
    Reader.char '.'
    let digits ← Reader.takeWhile Char.isDigit
    guard !digits.isEmpty
    return ofDigits ((digits ++ List.replicate 9 '0').take 9)
  return 0

def readTime : Reader Time := do
  let hour ← fixedDigits 2
  Reader.char ':'
  let minute ← fixedDigits 2
  Reader.char ':'
  let second ← fixedDigits 2
  let time : Time := ⟨hour, minute, second, ← readFraction⟩
  guard time.valid
  return time

/-- Hours and minutes ahead of UTC or behind it. -/
def readOffset (setting : Setting) : Reader Offset := do
  match ← Reader.next with
  | 'Z' | 'z' => return .zulu
  | '+' => return .minutes (← ahead)
  | '-' => return .minutes (-(← ahead))
  | _ => failure
where
  ahead : Reader Int := do
    let hour ← fixedDigits 2
    Reader.char ':'
    let minute ← fixedDigits 2
    guard (setting.acceptsOffset hour minute)
    return hour * 60 + minute

def readMark : Reader Unit := do
  let c ← Reader.next
  guard (c = 'T' || c = 't' || c = ' ')

/-- The longest date or time at the front. -/
def read (setting : Setting) : Reader Moment := do
  match ← Reader.rest with
  | _ :: _ :: ':' :: _ => .time <$> readTime
  | _ =>
    let day ← readDate
    match ← optional (readMark *> readTime) with
    | none => return .date day
    | some clock =>
      match ← optional (readOffset setting) with
      | none => return .dateTime day clock
      | some offset => return .offsetDateTime day clock offset

def begins (s : List Char) : Bool :=
  match s with
  | a :: b :: ':' :: _ => a.isDigit && b.isDigit
  | a :: b :: c :: d :: '-' :: _ => a.isDigit && b.isDigit && c.isDigit && d.isDigit
  | _ => false

def ofText? (s : String) : Option Moment := Reader.whole? (read .ownText) s

end Moment

end ShellInit.Toml
