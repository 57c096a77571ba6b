/-!
# Binary64 numbers, exactly

A binary64 number is a sign and a magnitude. The magnitude is a place in the ascending row of all
magnitudes: zero first, then the subnormal numbers, the normal ones, infinity, and past infinity the
places that are not numbers. So the order of magnitudes is the order of these places, and the sixty
four bits of a number are its sign and its place.

All arithmetic is exact arithmetic on natural numbers followed by one rounding: `ofRatio` takes a
quotient of naturals to the nearest binary64 number, a tie to the one with an even significand.
-/

namespace StackAudit

/-- A binary64 number: its sign and the place of its magnitude. -/
structure Binary64 where
  negative : Bool
  magnitude : Fin (1 <<< 63)
  deriving DecidableEq

namespace Binary64

/-- The place of infinity. Every finite magnitude is before it; what is after it is not a number. -/
def infinitePlace : Nat := 2047 <<< 52

/-- Neither finite nor infinite. -/
def isNaN (x : Binary64) : Bool := infinitePlace < x.magnitude.val

/-- One of the two infinities. -/
def isInfinite (x : Binary64) : Bool := x.magnitude.val == infinitePlace

/-- One of the two zeros. -/
def isZero (x : Binary64) : Bool := x.magnitude.val == 0

/-- The number at a place; places past infinity count as infinity. -/
def ofPlace (negative : Bool) (place : Nat) : Binary64 where
  negative
  magnitude := ⟨min place infinitePlace, by simp only [infinitePlace]; omega⟩

/-- The zero of a sign. -/
def zero (negative : Bool) : Binary64 := ofPlace negative 0

/-- The infinity of a sign. -/
def infinity (negative : Bool) : Binary64 := ofPlace negative infinitePlace

/-- The quiet "not a number". -/
def nan : Binary64 where
  negative := false
  magnitude := ⟨infinitePlace + 1 <<< 51, by decide⟩

/-- The integer significand of a finite number: `|x| = significand · 2 ^ exponent`. -/
def significand (x : Binary64) : Nat :=
  if x.magnitude.val < 1 <<< 52 then x.magnitude.val
  else 1 <<< 52 + x.magnitude.val % 1 <<< 52

/-- The binary exponent that goes with `significand`. -/
def exponent (x : Binary64) : Int :=
  (max 1 (x.magnitude.val >>> 52) : Nat) - 1075

/-- The same magnitude with the other sign. -/
def neg (x : Binary64) : Binary64 := { x with negative := !x.negative }

/-- The sixty-four bits, as a natural number. -/
def bits (x : Binary64) : Nat :=
  (if x.negative then 1 <<< 63 else 0) + x.magnitude.val

/-! ## Rounding -/

/-- The natural number nearest to `num / den`; a tie goes to the even one. -/
def roundDiv (num den : Nat) : Nat :=
  if 2 * (num % den) < den then num / den
  else if den < 2 * (num % den) then num / den + 1
  else num / den + num / den % 2

/-- The binary64 number nearest to `num / den`, a tie to the even significand. Quotients too large
for a finite number become infinity. -/
def ofRatio (negative : Bool) (num den : Nat) : Binary64 :=
  if num = 0 then zero negative
  else
    let start : Int := max (-1074) ((num.log2 : Int) - den.log2 - 53)
    let quotient (e : Int) (round : Nat → Nat → Nat) : Nat :=
      round (num <<< (-e).toNat) (den <<< e.toNat)
    let e := if quotient start (· / ·) < 1 <<< 53 then start else start + 1
    ofPlace negative ((e + 1074).toNat <<< 52 + quotient e roundDiv)

/-- The binary64 number nearest to an integer. -/
def ofInt (n : Int) : Binary64 := ofRatio (n < 0) n.natAbs 1

/-- The nearest number to `± num / den · 2 ^ e`. -/
def ofScaledRatio (negative : Bool) (num den : Nat) (e : Int) : Binary64 :=
  ofRatio negative (num <<< e.toNat) (den <<< (-e).toNat)

/-- The rounded product of two finite numbers. -/
def mul (x y : Binary64) : Binary64 :=
  ofScaledRatio (x.negative != y.negative) (x.significand * y.significand) 1
    (x.exponent + y.exponent)

/-- The rounded quotient of two finite numbers, the second of them not zero. -/
def div (x y : Binary64) : Binary64 :=
  ofScaledRatio (x.negative != y.negative) x.significand y.significand (x.exponent - y.exponent)

/-! ## Order -/

/-- The place with the sign of the number: an integer that grows with the number, the same for both
zeros. -/
def signedPlace (x : Binary64) : Int :=
  if x.negative then -(x.magnitude.val : Int) else x.magnitude.val

/-- The numeric order; what is not a number compares with nothing. -/
def compare? (x y : Binary64) : Option Ordering :=
  if x.isNaN || y.isNaN then none else some (compare x.signedPlace y.signedPlace)

/-- Numeric equality: the zeros are equal, and what is not a number equals nothing. -/
def equals (x y : Binary64) : Bool := x.compare? y == some .eq

end Binary64

end StackAudit
