/-!
# Whole numbers in texts

Decimal integers with an optional sign, and hexadecimal digits.
-/

namespace StackAudit.Text

/-- The natural number that a row of decimal digits spells. -/
def decimalValue (digits : List Char) : Nat :=
  digits.foldl (fun n c => 10 * n + (c.toNat - 48)) 0

/-- Cuts off a leading sign; `true` stands for minus. -/
def splitSign : List Char → Bool × List Char
  | '-' :: rest => (true, rest)
  | '+' :: rest => (false, rest)
  | rest => (false, rest)

/-- A row of at least one decimal digit. -/
def natural? (digits : List Char) : Option Nat :=
  if digits ≠ [] ∧ digits.all Char.isDigit then some (decimalValue digits) else none

/-- A decimal integer. One sign may stand in front, and any number of leading zeros. -/
def integer? (text : List Char) : Option Int :=
  let (minus, digits) := splitSign text
  (natural? digits).map fun n => if minus then -n else n

/-- The integers of sixty-four bits with sign. -/
def IsInt64 (n : Int) : Prop :=
  -9223372036854775808 ≤ n ∧ n ≤ 9223372036854775807

instance (n : Int) : Decidable (IsInt64 n) := inferInstanceAs (Decidable (_ ∧ _))

/-- A decimal integer of sixty-four bits. -/
def int64? (text : List Char) : Option Int :=
  (integer? text).filter fun n => decide (IsInt64 n)

/-- The value of a hexadecimal digit. -/
def hexDigit? (c : Char) : Option Nat :=
  if '0' ≤ c ∧ c ≤ '9' then some (c.toNat - 48)
  else if 'a' ≤ c ∧ c ≤ 'f' then some (c.toNat - 87)
  else if 'A' ≤ c ∧ c ≤ 'F' then some (c.toNat - 55)
  else none

/-- The natural number that hexadecimal digits spell, with nothing else among them. -/
def hexValue? (digits : List Char) : Option Nat :=
  digits.foldlM (fun n c => (hexDigit? c).map (16 * n + ·)) 0

/-- At least `width` hexadecimal digits, in lower case. -/
def hexText (width n : Nat) : String :=
  let digits := Nat.toDigits 16 n
  String.ofList (List.replicate (width - digits.length) '0' ++ digits)

end StackAudit.Text
