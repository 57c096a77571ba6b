import StackAudit.Binary64

/-!
# The shortest text of a binary64 number

`Binary64.shortestDigits` finds the fewest decimal digits that read back as the number: it tries
ever finer grids of decimals and takes the first one that has a point among the reals that round to
the number. Of two such points the nearer is taken, and the even one of a tie.

`Binary64.text` lays the digits out: plain for decimal exponents from -5 to 15, with an exponent
otherwise.
-/

namespace StackAudit.Binary64

/-- The decimal `digits · 10 ^ exponent`. -/
structure ShortDecimal where
  digits : Nat
  exponent : Int

/-- The point of the grid of multiples of `10 ^ k` that is nearest to a positive finite number, if
one of the two points around the number reads back as it.

Measured in quarters of the last binary place, the number is `4 · significand` and the reals that
round to it reach two quarters up and two quarters down, only one down where the next smaller
magnitude is nearer. The ends belong to them when the significand is even. -/
def gridPoint? (x : Binary64) (k : Int) : Option ShortDecimal :=
  let m := x.significand
  let quarter := x.exponent - 2
  let below := if m = 1 <<< 52 ∧ -1074 < x.exponent then 1 else 2
  let scalePoint := Nat.pow 10 k.toNat <<< (-quarter).toNat
  let scaleQuarter := Nat.pow 10 (-k).toNat <<< quarter.toNat
  let value := 4 * m * scaleQuarter
  let low := (4 * m - below) * scaleQuarter
  let high := (4 * m + 2) * scaleQuarter
  let reads (c : Nat) : Bool :=
    if m % 2 = 0 then low ≤ c * scalePoint && c * scalePoint ≤ high
    else low < c * scalePoint && c * scalePoint < high
  let c := value / scalePoint
  match reads c, reads (c + 1) with
  | false, false => none
  | true, false => some ⟨c, k⟩
  | false, true => some ⟨c + 1, k⟩
  | true, true => some ⟨roundDiv value scalePoint, k⟩

/-- The first grid with a point that reads back, from the grid of `10 ^ k` towards finer ones. -/
def firstGridPoint (x : Binary64) (k : Int) : Nat → ShortDecimal
  | 0 => ⟨0, 0⟩
  | grids + 1 => (x.gridPoint? k).getD (firstGridPoint x (k - 1) grids)

/-- The fewest digits that read back as a positive finite number. The search starts one or two
powers of ten above the number; seventeen digits always suffice. -/
def shortestDigits (x : Binary64) : ShortDecimal :=
  let order := ((x.significand.log2 : Int) + x.exponent) * 30103 / 100000
  firstGridPoint x (order + 2) 24

/-- The layout of digits `d₁ d₂ … dₙ` that stand for `d₁.d₂…dₙ · 10 ^ e`. -/
def layout (digits : List Char) (e : Int) : List Char :=
  let zeros (n : Nat) : List Char := List.replicate n '0'
  if -5 ≤ e ∧ e < 0 then '0' :: '.' :: zeros (-e - 1).toNat ++ digits
  else if 0 ≤ e ∧ e < 16 then
    let whole := digits.take (e.toNat + 1)
    let fraction := digits.drop (e.toNat + 1)
    whole ++ zeros (e.toNat + 1 - digits.length)
      ++ '.' :: if fraction = [] then ['0'] else fraction
  else
    let fraction := digits.drop 1
    digits.take 1 ++ (if fraction = [] then [] else '.' :: fraction)
      ++ 'e' :: (if e < 0 then '-' else '+') :: Nat.toDigits 10 e.natAbs

/-- The text of a finite number: its shortest digits, a fraction of at least one digit in the plain
layout, and the sign of a negative number or zero in front. -/
def text (x : Binary64) : String :=
  let unsigned :=
    if x.isZero then ['0', '.', '0']
    else
      let short := x.shortestDigits
      let digits := Nat.toDigits 10 short.digits
      let trimmed := (digits.reverse.dropWhile (· = '0')).reverse
      layout trimmed (short.exponent + digits.length - 1)
  String.ofList (if x.negative then '-' :: unsigned else unsigned)

end StackAudit.Binary64
