import StackAudit.Instant

/-!
# Written instants

The text of an instant is `YYYY-MM-DDThh:mm:ssZ`, with as many digits of a fraction as are needed
out of none, three, six and nine. A leap second is written as second 60. Years outside of 0 to 9999
have a sign.
-/

namespace StackAudit.Instant

/-- At least `width` decimal digits. -/
def padded (width n : Nat) : List Char :=
  let digits := Nat.toDigits 10 n
  List.replicate (width - digits.length) '0' ++ digits

/-- Four digits, or a sign and at least four digits. -/
def yearText (year : Int) : List Char :=
  if 0 ≤ year ∧ year ≤ 9999 then padded 4 year.toNat
  else (if year < 0 then '-' else '+') :: padded 4 year.natAbs

/-- The fraction of a second in the fewest groups of three digits. -/
def fractionText (nanos : Nat) : List Char :=
  if nanos = 0 then []
  else if nanos % 1000000 = 0 then '.' :: padded 3 (nanos / 1000000)
  else if nanos % 1000 = 0 then '.' :: padded 6 (nanos / 1000)
  else '.' :: padded 9 nanos

/-- The characters of the text of an instant. -/
def characters (t : Instant) : List Char :=
  let leap := t.nanos / 1000000000
  yearText t.date.year ++ '-' :: padded 2 t.date.month ++ '-' :: padded 2 t.date.day
    ++ 'T' :: padded 2 (t.secondOfDay / 3600)
    ++ ':' :: padded 2 (t.secondOfDay / 60 % 60)
    ++ ':' :: padded 2 (t.secondOfDay % 60 + leap)
    ++ fractionText (t.nanos % 1000000000) ++ ['Z']

/-- The text of an instant. -/
def text (t : Instant) : String := String.ofList t.characters

end StackAudit.Instant
