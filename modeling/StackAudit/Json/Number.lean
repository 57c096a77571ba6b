import StackAudit.Numeral

/-!
# Number literals

The grammar of JSON numbers, and the number that a literal stands for. Whole literals that fit
sixty-four bits are integers; all others are binary64 numbers, found in two rounded steps: the
digits that fit a word of sixty-four bits make a significand, and the significand is then multiplied
or divided by a power of ten.
-/

namespace StackAudit.Json

open Text (decimalValue)

/-- A number as it is written. -/
structure NumberLiteral where
  negative : Bool
  /-- The digits before the point. -/
  whole : List Char
  /-- The digits after the point, if there is one. -/
  fraction : Option (List Char)
  /-- The exponent, if there is one. -/
  exponent : Option Int

namespace NumberLiteral

/-- The fraction part of a literal: nothing, or a point and at least one digit; and what follows. -/
def splitFraction? : List Char → Option (Option (List Char) × List Char)
  | '.' :: rest =>
    let digits := rest.takeWhile Char.isDigit
    if digits = [] then none else some (some digits, rest.dropWhile Char.isDigit)
  | rest => some (none, rest)

/-- The exponent part of a literal: nothing, or `e`, an optional sign and at least one digit. -/
def exponent? : List Char → Option (Option Int)
  | [] => some none
  | mark :: rest => if mark = 'e' ∨ mark = 'E' then (Text.integer? rest).map some else none

/-- Reads a literal: an optional minus, digits without a superfluous zero in front, a fraction and
an exponent. -/
def ofChars? (text : List Char) : Option NumberLiteral := do
  let (negative, rest) := match text with
    | '-' :: rest => (true, rest)
    | rest => (false, rest)
  let whole := rest.takeWhile Char.isDigit
  guard (whole ≠ [] ∧ (whole.head? = some '0' → whole = ['0']))
  let (fraction, rest) ← splitFraction? (rest.dropWhile Char.isDigit)
  let exponent ← exponent? rest
  return { negative, whole, fraction, exponent }

/-- Appends digits to a significand while it stays below `2 ^ 64`; the rest of the digits is left.
-/
def appendDigits (significand : Nat) : List Char → Nat × List Char
  | [] => (significand, [])
  | c :: rest =>
    let longer := 10 * significand + (c.toNat - 48)
    if longer < 1 <<< 64 then appendDigits longer rest else (significand, c :: rest)

/-- The power of ten as a binary64 number. -/
def tenTo (n : Nat) : Binary64 := Binary64.ofRatio false (Nat.pow 10 n) 1

/-- Multiplies by a power of ten with one rounding, or with one rounding for every 308 powers when
there are more than 308 to divide by. Overflow gives nothing. -/
def scaleByTens (x : Binary64) (e : Int) : Option Binary64 :=
  if e < -308 then
    if x.isZero then some x else scaleByTens (x.div (tenTo 308)) (e + 308)
  else if e < 0 then some (x.div (tenTo e.natAbs))
  else if e ≤ 308 then
    let product := x.mul (tenTo e.toNat)
    if product.isInfinite then none else some product
  else if x.isZero then some x
  else none
termination_by (-e).toNat

/-- The binary64 number of a literal. Digits before the point that do not fit the significand raise
the exponent, and digits after the point that do not fit are dropped. -/
def toBinary64? (literal : NumberLiteral) : Option Binary64 :=
  let (significand, surplus) := appendDigits 0 literal.whole
  let fraction := literal.fraction.getD []
  let (significand, dropped) := appendDigits significand fraction
  let exponent : Int :=
    literal.exponent.getD 0 + surplus.length - (fraction.length - dropped.length : Nat)
  (scaleByTens (Binary64.ofRatio false significand 1) exponent).map fun x =>
    if literal.negative then x.neg else x

/-- The number that a literal stands for, unless it is too large for a binary64 number. A whole
literal is an integer if it is between `-2 ^ 63` and `2 ^ 64 - 1`, except for `-0`. -/
def toNumeral? (literal : NumberLiteral) : Option Numeral :=
  let n := decimalValue literal.whole
  if literal.fraction.isSome || literal.exponent.isSome then literal.toBinary64?.map .float
  else if literal.negative ∧ 0 < n ∧ n ≤ 1 <<< 63 then some (.int (-n))
  else if !literal.negative ∧ n < 1 <<< 64 then some (.int n)
  else literal.toBinary64?.map .float

end NumberLiteral

end StackAudit.Json
