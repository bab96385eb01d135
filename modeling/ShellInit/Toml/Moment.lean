/-!
# Dates and times

Calendar dates, times of day, and the two together with or without an offset from UTC, each with its
canonical text: a capital `T` in between, a capital `Z`, and no trailing zeros in the fraction.
-/

namespace ShellInit.Toml

/-- A day of the proleptic Gregorian calendar. -/
structure Date where
  year : Nat
  month : Nat
  day : Nat
deriving DecidableEq, Repr

/-- A time of day; second 60 is a leap second. -/
structure Time where
  hour : Nat
  minute : Nat
  second : Nat
  nanosecond : Nat
deriving DecidableEq, Repr

inductive Offset
  | zulu
  | minutes (ahead : Int)
deriving DecidableEq, Repr

inductive Moment
  | date (date : Date)
  | time (time : Time)
  | dateTime (date : Date) (time : Time)
  | offsetDateTime (date : Date) (time : Time) (offset : Offset)
deriving DecidableEq, Repr

def zeroPadded (width n : Nat) : String :=
  let digits := Nat.toDigits 10 n
  .ofList (List.replicate (width - digits.length) '0' ++ digits)

def daysInMonth (year month : Nat) : Nat :=
  if month = 2 then
    if year % 4 = 0 ∧ (year % 100 ≠ 0 ∨ year % 400 = 0) then 29 else 28
  else if month = 4 ∨ month = 6 ∨ month = 9 ∨ month = 11 then 30
  else 31

namespace Date

def valid (d : Date) : Bool :=
  1 ≤ d.month && d.month ≤ 12 && 1 ≤ d.day && d.day ≤ daysInMonth d.year d.month

def text (d : Date) : String :=
  zeroPadded 4 d.year ++ "-" ++ zeroPadded 2 d.month ++ "-" ++ zeroPadded 2 d.day

end Date

namespace Time

def valid (t : Time) : Bool := t.hour ≤ 23 && t.minute ≤ 59 && t.second ≤ 60

/-- The fraction of a second behind its point, if there is one. -/
def fractionText (t : Time) : String :=
  if t.nanosecond = 0 then ""
  else "." ++ .ofList ((zeroPadded 9 t.nanosecond).toList.reverse.dropWhile (· == '0')).reverse

def text (t : Time) : String :=
  zeroPadded 2 t.hour ++ ":" ++ zeroPadded 2 t.minute ++ ":" ++ zeroPadded 2 t.second ++
    t.fractionText

end Time

def Offset.text : Offset → String
  | .zulu => "Z"
  | .minutes ahead =>
    (if ahead < 0 then "-" else "+") ++
      zeroPadded 2 (ahead.natAbs / 60) ++ ":" ++ zeroPadded 2 (ahead.natAbs % 60)

def Moment.text : Moment → String
  | .date d => d.text
  | .time t => t.text
  | .dateTime d t => d.text ++ "T" ++ t.text
  | .offsetDateTime d t o => d.text ++ "T" ++ t.text ++ o.text

end ShellInit.Toml
