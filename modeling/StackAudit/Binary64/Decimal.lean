import StackAudit.Binary64
import StackAudit.Text.Integer

/-!
# Decimal texts as binary64 numbers

`Binary64.ofDecimal` rounds a decimal `± digits · 10 ^ exponent` correctly, and `Binary64.ofText?`
reads the usual spellings of one: a sign, digits around an optional point, an exponent, and the
words `inf`, `infinity` and `nan` in any case.
-/

namespace StackAudit.Binary64

open Text (decimalValue splitSign)

/-- The nearest binary64 number to `± d · 10 ^ exponent`, for the natural number `d` that the digits
spell. Numbers from `10 ^ 310` on are infinite and numbers below `10 ^ -330` are zero, so that no
power larger than needed is ever formed. -/
def ofDecimal (negative : Bool) (digits : List Char) (exponent : Int) : Binary64 :=
  let digits := digits.dropWhile (· = '0')
  let order := digits.length + exponent
  if digits.isEmpty || order < -330 then zero negative
  else if 310 < order then infinity negative
  else
    ofRatio negative (decimalValue digits * Nat.pow 10 exponent.toNat)
      (Nat.pow 10 (-exponent).toNat)

/-- The exponent part of a decimal: nothing, or `e` and a whole number with at least one digit. -/
def exponentOfText? : List Char → Option Int
  | [] => some 0
  | mark :: rest => if mark = 'e' ∨ mark = 'E' then Text.integer? rest else none

/-- An unsigned decimal: digits, of which a point may stand before, within or after, and an optional
exponent. At least one digit is needed. -/
def ofDigits? (negative : Bool) (text : List Char) : Option Binary64 := do
  let whole := text.takeWhile Char.isDigit
  let rest := text.dropWhile Char.isDigit
  let (fraction, rest) := match rest with
    | '.' :: rest => (rest.takeWhile Char.isDigit, rest.dropWhile Char.isDigit)
    | rest => ([], rest)
  guard (whole ++ fraction ≠ [])
  let exponent ← exponentOfText? rest
  return ofDecimal negative (whole ++ fraction) (exponent - fraction.length)

/-- Reads a decimal number, an infinity or `nan`; nothing may stand around it. -/
def ofText? (text : List Char) : Option Binary64 :=
  let (negative, rest) := splitSign text
  match String.ofList (rest.map Char.toLower) with
  | "inf" | "infinity" => some (infinity negative)
  | "nan" => some nan
  | _ => ofDigits? negative rest

end StackAudit.Binary64
