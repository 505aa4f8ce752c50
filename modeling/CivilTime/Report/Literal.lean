import CivilTime.Argument
import CivilTime.Text.Quoted

/-!
# Literals

The arguments of a report's cases are given as JSON values, and the report shows them in
that form again: items are parted by a comma and a space, a name and its value by a colon
and a space, and in texts everything outside the printable ASCII characters is escaped.
A character beyond the first 65536 is written as the two units of its surrogate pair.

* `CivilTime.Report.Literal.text`: the text of a literal;
* `CivilTime.Report.Literal.toArgument`: the argument that it stands for.
-/

namespace CivilTime.Report

/-- A JSON value without fractional numbers. -/
inductive Literal
  | null
  | boolean (b : Bool)
  | integer (n : Int)
  | text (s : String)
  | list (items : List Literal)
  | record (entries : List (String × Literal))
  deriving Inhabited

namespace Literal

/-- A unit of 16 bits, escaped. -/
def escapedUnit (unit : Nat) : List Char :=
  '\\' :: 'u' :: Text.hexChars 4 unit

/-- A character of a text. -/
def escapedChar (c : Char) : List Char :=
  if c = Text.doubleQuote ∨ c = '\\' then ['\\', c]
  else if c = '\n' then ['\\', 'n']
  else if c = '\r' then ['\\', 'r']
  else if c = '\t' then ['\\', 't']
  else if c.toNat = 0x08 then ['\\', 'b']
  else if c.toNat = 0x0C then ['\\', 'f']
  else if 0x20 ≤ c.toNat ∧ c.toNat ≤ 0x7E then [c]
  else if c.toNat < 0x10000 then escapedUnit c.toNat
  else
    let rest := c.toNat - 0x10000
    escapedUnit (0xD800 + rest / 0x400) ++ escapedUnit (0xDC00 + rest % 0x400)

/-- A text between its quotes. -/
def quotedText (s : String) : String :=
  String.ofList (Text.doubleQuote :: (s.toList.flatMap escapedChar ++ [Text.doubleQuote]))

mutual

/-- **The text of a literal.** -/
def toText : Literal → String
  | null => "null"
  | boolean b => if b then "true" else "false"
  | integer n => toString n
  | text s => quotedText s
  | list items => "[" ++ ", ".intercalate (itemTexts items) ++ "]"
  | record entries => "\x7b" ++ ", ".intercalate (entryTexts entries) ++ "\x7d"

/-- The texts of the items of a list. -/
def itemTexts : List Literal → List String
  | [] => []
  | item :: rest => item.toText :: itemTexts rest

/-- The texts of the entries of a record. -/
def entryTexts : List (String × Literal) → List String
  | [] => []
  | (name, value) :: rest => (quotedText name ++ ": " ++ value.toText) :: entryTexts rest

end

/-- The argument that a literal stands for. -/
def toArgument : Literal → Argument
  | null => .nil
  | boolean b => .boolean b
  | integer n => .integer n
  | text s => .text s
  | list _ => .other "list"
  | record _ => .other "dict"

end Literal

end CivilTime.Report
