import Cutscene.Decimal.Layout
import Cutscene.Json.Tree
import Cutscene.Text.Quoted
/-!
# Writing documents

`Doc` is a document to be written, with its numbers already spelt. A document is written on one
line (`Doc.compact`) or with one entry a line and two spaces of indentation for each level
(`Doc.pretty`).
-/

namespace Cutscene.Json

/-- A document to be written. -/
inductive Doc where
  | null
  | bool (value : Bool)
  | number (spelling : String)
  | text (value : String)
  | list (items : List Doc)
  | object (members : List (String × Doc))

/-- The written form of double-precision numbers. -/
def floatLayout : Decimal.Layout :=
  { positional := some (-5, 15), keepsPoint := true, signsExponent := true, tie := .toEven
    infinity := "inf", nan := "NaN" }

/-- The written form of single-precision numbers. -/
def float32Layout : Decimal.Layout :=
  { floatLayout with positional := some (-6, 12) }

/-- The four digits of a control character in an escape. -/
def controlDigits (c : Char) : List Char :=
  ['0', '0', Nat.digitChar (c.toNat / 16), Nat.digitChar (c.toNat % 16)]

/-- One character inside a text literal. -/
def escapeChar (c : Char) : List Char :=
  match c with
  | '"' => ['\\', '"']
  | '\\' => ['\\', '\\']
  | '\x08' => ['\\', 'b']
  | '\t' => ['\\', 't']
  | '\n' => ['\\', 'n']
  | '\x0c' => ['\\', 'f']
  | '\r' => ['\\', 'r']
  | c => if c.toNat < 0x20 then '\\' :: 'u' :: controlDigits c else [c]

/-- A text literal. -/
def textLiteral (s : String) : List Char :=
  '"' :: s.toList.flatMap escapeChar ++ ['"']

namespace Doc

/-- A whole number. -/
def nat (n : Nat) : Doc :=
  .number (toString n)

/-- A whole number, perhaps below zero. -/
def int (n : Int) : Doc :=
  .number (toString n)

/-- A double-precision number; what is no number is written as null. -/
def float (x : Float) : Doc :=
  if x.isFinite then .number (floatLayout.float x) else .null

/-- A single-precision number; what is no number is written as null. -/
def float32 (x : Float32) : Doc :=
  if x.isFinite then .number (float32Layout.float32 x) else .null

/-- A list of texts. -/
def texts (xs : List String) : Doc :=
  .list (xs.map .text)

/-- The break before an entry `level` levels deep, in the indented form only. -/
def lineBreak (indented : Bool) (level : Nat) : List Char :=
  if indented then '\n' :: List.replicate (2 * level) ' ' else []

/-- What stands between a key and its value. -/
def colon (indented : Bool) : List Char :=
  if indented then [':', ' '] else [':']

mutual

/-- The characters of a document whose entries stand `level + 1` levels deep. -/
def chars (indented : Bool) (level : Nat) : Doc → List Char
  | .null => ['n', 'u', 'l', 'l']
  | .bool true => ['t', 'r', 'u', 'e']
  | .bool false => ['f', 'a', 'l', 's', 'e']
  | .number spelling => spelling.toList
  | .text s => textLiteral s
  | .list [] => ['[', ']']
  | .list (d :: ds) =>
    '[' :: lineBreak indented (level + 1) ++ chars indented (level + 1) d
      ++ itemChars indented (level + 1) ds ++ lineBreak indented level ++ [']']
  | .object [] => ['{', '}']
  | .object ((key, d) :: ds) =>
    '{' :: lineBreak indented (level + 1) ++ textLiteral key ++ colon indented
      ++ chars indented (level + 1) d ++ memberChars indented (level + 1) ds
      ++ lineBreak indented level ++ ['}']

/-- The items behind the first one. -/
def itemChars (indented : Bool) (level : Nat) : List Doc → List Char
  | [] => []
  | d :: ds =>
    ',' :: lineBreak indented level ++ chars indented level d ++ itemChars indented level ds

/-- The members behind the first one. -/
def memberChars (indented : Bool) (level : Nat) : List (String × Doc) → List Char
  | [] => []
  | (key, d) :: ds =>
    ',' :: lineBreak indented level ++ textLiteral key ++ colon indented ++ chars indented level d
      ++ memberChars indented level ds

end

/-- A document on one line. -/
def compact (d : Doc) : String :=
  String.ofList (d.chars false 0)

/-- A document with one entry a line. -/
def pretty (d : Doc) : String :=
  String.ofList (d.chars true 0)

example : compact (.object [("a", nat 1), ("b", texts [])]) = "\x7b\"a\":1,\"b\":[]\x7d" := by
  decide +kernel

end Doc

mutual

/-- The document that has this content. -/
def Value.doc : Value → Doc
  | .null => .null
  | .bool b => .bool b
  | .number (.int n) => .int n
  | .number (.float x) => .float x
  | .text s => .text s
  | .list items => .list (docItems items)
  | .object members => .object (docMembers members)

/-- The documents of the items of a list. -/
def Value.docItems : List Value → List Doc
  | [] => []
  | v :: rest => v.doc :: docItems rest

/-- The documents of the members of an object. -/
def Value.docMembers : List (String × Value) → List (String × Doc)
  | [] => []
  | (key, v) :: rest => (key, v.doc) :: docMembers rest

end

end Cutscene.Json
