/-!
# Forgiving UTF-8

Bytes read as UTF-8 where an ill-formed stretch does not spoil the rest: each longest piece that
begins a well-formed sequence but does not complete it, and each byte that begins none, becomes one
replacement character.
-/

namespace ShellInit.Text

/-- An unfinished sequence: its bits so far, how many bytes it lacks, and which may come next. -/
structure Utf8Open where
  bits : Nat
  lacking : Nat
  low : UInt8 := 0x80
  high : UInt8 := 0xbf

/-- How a byte begins a sequence: complete in itself, open, or not at all. -/
inductive Utf8Lead
  | complete (c : Char)
  | opens (o : Utf8Open)
  | stray

/-- The reading of a byte at which a sequence may begin; shortest forms only, and no surrogates. -/
def Utf8Lead.ofByte (b : UInt8) : Utf8Lead :=
  let n := b.toNat
  if n < 0x80 then .complete (Char.ofNat n)
  else if n < 0xc2 then .stray
  else if n < 0xe0 then .opens { bits := n - 0xc0, lacking := 0 }
  else if n < 0xf0 then
    .opens { bits := n - 0xe0, lacking := 1,
             low := if n = 0xe0 then 0xa0 else 0x80, high := if n = 0xed then 0x9f else 0xbf }
  else if n < 0xf5 then
    .opens { bits := n - 0xf0, lacking := 2,
             low := if n = 0xf0 then 0x90 else 0x80, high := if n = 0xf4 then 0x8f else 0xbf }
  else .stray

def replacement : Char := Char.ofNat 0xfffd

/-- The characters of the bytes, after the sequence that is open, if any. -/
def decodeAfter : Option Utf8Open → List UInt8 → List Char
  | none, [] => []
  | some _, [] => [replacement]
  | pending, b :: rest =>
    let fresh (before : List Char) : List Char :=
      match Utf8Lead.ofByte b with
      | .complete c => before ++ c :: decodeAfter none rest
      | .opens o => before ++ decodeAfter (some o) rest
      | .stray => before ++ replacement :: decodeAfter none rest
    match pending with
    | none => fresh []
    | some o =>
      if o.low ≤ b && b ≤ o.high then
        let bits := o.bits * 64 + (b.toNat - 0x80)
        match o.lacking with
        | 0 => Char.ofNat bits :: decodeAfter none rest
        | n + 1 => decodeAfter (some { bits, lacking := n }) rest
      else fresh [replacement]

/-- The bytes as a text, with a replacement character for each ill-formed piece. -/
def decodeForgiving (bytes : List UInt8) : String := .ofList (decodeAfter none bytes)

end ShellInit.Text
