import ShellInit.Text.Printable

/-!
# Quoted texts

A text between double quotes in which every character can be told apart: quotes, backslashes and the
usual controls have short escapes, and any other character that does not show as itself is written
as its code point in hexadecimal.
-/

namespace ShellInit.Text

/-- A code point in hexadecimal between braces. -/
def hexEscape (c : Char) : String :=
  "\\u\x7b" ++ .ofList (Nat.toDigits 16 c.toNat) ++ "\x7d"

def escape (c : Char) : String :=
  match c with
  | '\x00' => "\\0"
  | '\t' => "\\t"
  | '\r' => "\\r"
  | '\n' => "\\n"
  | '"' => "\\\""
  | '\\' => "\\\\"
  | _ => if isPrintable c then c.toString else hexEscape c

def quoted (s : String) : String :=
  "\"" ++ String.join (s.toList.map escape) ++ "\""

end ShellInit.Text
