import CivilTime.Text.Unprintable

/-!
# Quoted text

A text inside a message is put between quotes, so that its ends and its invisible
characters can be seen. The quote is the single one, unless the text holds a single
quote and no double one; then it is the double one. Inside,

* the quote in use and the backslash follow a backslash;
* tab, line feed and carriage return are written `\t`, `\n` and `\r`;
* any other unprintable character is written by its code point in hexadecimal, `\x`
  with two digits, `\u` with four or `\U` with eight, the shortest that holds it;
* every other character stands for itself.
-/

namespace CivilTime.Text

/-- The single quote. -/
def singleQuote : Char := Char.ofNat 0x27

/-- The double quote. -/
def doubleQuote : Char := Char.ofNat 0x22

/-- A number in hexadecimal, in lower case and filled up with zeros. -/
def hexChars (width n : Nat) : List Char :=
  let digits := Nat.toDigits 16 n
  List.replicate (width - digits.length) '0' ++ digits

/-- The quote a text is put between. -/
def quoteFor (s : List Char) : Char :=
  if singleQuote ∈ s ∧ doubleQuote ∉ s then doubleQuote else singleQuote

/-- One character between quotes. -/
def quotedChar (quote c : Char) : List Char :=
  if c = quote ∨ c = '\\' then ['\\', c]
  else if c = '\t' then ['\\', 't']
  else if c = '\n' then ['\\', 'n']
  else if c = '\r' then ['\\', 'r']
  else if isPrintable c then [c]
  else if c.toNat < 0x100 then '\\' :: 'x' :: hexChars 2 c.toNat
  else if c.toNat < 0x10000 then '\\' :: 'u' :: hexChars 4 c.toNat
  else '\\' :: 'U' :: hexChars 8 c.toNat

/-- **The quoted form** of a text. -/
def quoted (s : String) : String :=
  let chars := s.toList
  let quote := quoteFor chars
  String.ofList (quote :: (chars.flatMap (quotedChar quote) ++ [quote]))

end CivilTime.Text
