/-!
# Binary floating-point numbers

The numbers of the binary64 format: a sign, a significand below 2⁵³ and a power of two,
beside the infinities and the numbers that are none. They come in as words of 64 bits
and go out as such; in between they are exact rational numbers.

**Rounding** is to the nearest number of the format, and halfway between two of them to
the one with the even significand. A rational number overflows when it would round to
2¹⁰²⁴ or beyond, that is, from 2¹⁰²⁴ – 2⁹⁷⁰ on.

* `CivilTime.Binary64.ofBits`, `CivilTime.Binary64.toBits`: the words;
* `CivilTime.Binary64.toRat`, `CivilTime.Binary64.truncate`: the value, and its whole part;
* `CivilTime.Binary64.nearest`: rounding;
* `CivilTime.Binary64.overflows`: the rational numbers beyond the format.
-/

namespace CivilTime

/-- A number of the binary64 format. A finite one is its significand times two to its
exponent. -/
inductive Binary64
  | nan
  | infinite (negative : Bool)
  | finite (negative : Bool) (significand : Nat) (exponent : Int)
  deriving DecidableEq, Repr

namespace Binary64

/-- The exponent of the least numbers of the format. -/
def minExponent : Int := -1074

/-- The exponent of the greatest numbers of the format. -/
def maxExponent : Int := 971

/-- Two to a power. -/
def pow2 (k : Nat) : Nat := Nat.pow 2 k

/-! ### Words -/

/-- The number a word of 64 bits stands for: from the top a sign, eleven bits of
exponent and 52 bits of fraction. -/
def ofBits (word : Nat) : Binary64 :=
  let negative := decide (pow2 63 ≤ word)
  let field : Nat := word / pow2 52 % pow2 11
  let fraction := word % pow2 52
  if field = 2047 then (if fraction = 0 then infinite negative else nan)
  else if field = 0 then finite negative fraction minExponent
  else finite negative (pow2 52 + fraction) ((field : Int) - 1075)

/-- The word of a number. A number that is none gets the quiet word without a sign. -/
def toBits : Binary64 → Nat
  | nan => 2047 * pow2 52 + pow2 51
  | infinite negative => signBit negative + 2047 * pow2 52
  | finite negative significand exponent =>
    if significand < pow2 52 then signBit negative + significand
    else signBit negative + (exponent + 1075).toNat * pow2 52 + (significand - pow2 52)
where
  /-- The top bit of the word of a negative number. -/
  signBit (negative : Bool) : Nat := if negative then pow2 63 else 0

/-! ### Values -/

/-- The value of a finite number, and 0 for the others. -/
def toRat : Binary64 → Rat
  | finite negative significand exponent =>
    let size : Rat :=
      if exponent < 0 then mkRat significand (pow2 exponent.natAbs)
      else mkRat (significand * pow2 exponent.natAbs) 1
    if negative then -size else size
  | _ => 0

/-- The whole part of a rational number: what is left of it towards zero. -/
def wholePart (q : Rat) : Int :=
  q.num.tdiv q.den

/-- The whole part of a finite number, and 0 for the others. -/
def truncate (x : Binary64) : Int :=
  wholePart x.toRat

/-! ### Rounding -/

/-- The whole number nearest to a quotient; halfway, the even one. -/
def roundQuotient (n d : Nat) : Nat :=
  let q := n / d
  let rest := n % d
  if 2 * rest < d ∨ 2 * rest = d ∧ q % 2 = 0 then q else q + 1

/-- The exponent that a positive quotient is rounded at: with it, the quotient has 53
binary places before the point, unless that is below the format. -/
def quotientExponent (n d : Nat) : Int :=
  let guess := (n.log2 : Int) - d.log2
  let reached := if guess < 0 then d ≤ n * pow2 guess.natAbs else d * pow2 guess.natAbs ≤ n
  max (if reached then guess - 52 else guess - 53) minExponent

/-- A positive quotient, rounded to a significand at an exponent. -/
def roundAt (n d : Nat) (exponent : Int) : Nat :=
  if exponent < 0 then roundQuotient (n * pow2 exponent.natAbs) d
  else roundQuotient n (d * pow2 exponent.natAbs)

/-- **Rounding to the nearest number of the format.** Zero is positive. -/
def nearest (q : Rat) : Binary64 :=
  let negative := decide (q < 0)
  let n := q.num.natAbs
  if n = 0 then finite false 0 minExponent
  else
    let exponent := quotientExponent n q.den
    let significand := roundAt n q.den exponent
    -- a carry out of the significand moves the point
    let carried := significand = pow2 53
    let exponent := if carried then exponent + 1 else exponent
    if maxExponent < exponent then infinite negative
    else finite negative (if carried then pow2 52 else significand) exponent

/-- Whether a rational number is beyond all numbers of the format, after rounding. -/
def overflows (q : Rat) : Bool :=
  (pow2 1024 - pow2 970) * q.den ≤ q.num.natAbs

end Binary64

end CivilTime
