import Cutscene.Text.Unshown
/-!
# Quoted text in diagnostics

A quoted text stands between double quotes. A quote, a backslash and four controls have short
escapes; a character that cannot be shown on its own is written by its number.
-/

namespace Cutscene.Text

/-- The lower-case hexadecimal digits of a number. -/
def hexOf (n : Nat) : String :=
  String.ofList (Nat.toDigits 16 n)

/-- One character inside quotes. -/
def quoteChar (c : Char) : String :=
  match c with
  | '"' => "\\\""
  | '\\' => "\\\\"
  | '\n' => "\\n"
  | '\r' => "\\r"
  | '\t' => "\\t"
  | '\x00' => "\\0"
  | c => if isUnshown c then "\\u\x7b" ++ hexOf c.toNat ++ "\x7d" else c.toString

/-- A text in double quotes. -/
def quoted (s : String) : String :=
  "\"" ++ String.join (s.toList.map quoteChar) ++ "\""

example : quoted "a\"b\n" = "\"a\\\"b\\n\"" := by decide +kernel

end Cutscene.Text
