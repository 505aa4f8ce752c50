/-!
# Text set to a width

The fields of a written time stand in columns: numbers are filled up with zeros,
words with spaces. A width is counted in characters and is only ever a least width –
a text that is too long for its column is written in full.

The sign of a negative number **counts as one of its characters**, so that `-1` to a
width of four is `-001`.
-/

namespace CivilTime.Text

/-- The characters of a whole number, filled up with zeros behind its sign. -/
def zeroPaddedChars (width : Nat) (n : Int) : List Char :=
  let sign := if n < 0 then ['-'] else []
  let digits := Nat.toDigits 10 n.natAbs
  sign ++ List.replicate (width - sign.length - digits.length) '0' ++ digits

/-- A whole number, filled up with zeros behind its sign. -/
def zeroPadded (width : Nat) (n : Int) : String :=
  String.ofList (zeroPaddedChars width n)

/-- One character, repeated. -/
def rule (c : Char) (length : Nat) : String :=
  String.ofList (List.replicate length c)

/-- A text at the left of its column. -/
def alignLeft (width : Nat) (s : String) : String :=
  s ++ rule ' ' (width - s.length)

/-- A text at the right of its column. -/
def alignRight (width : Nat) (s : String) : String :=
  rule ' ' (width - s.length) ++ s

end CivilTime.Text
