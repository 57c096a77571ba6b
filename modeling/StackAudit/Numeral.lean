import StackAudit.Binary64.Shortest
import StackAudit.Text.Integer

/-!
# Numbers of documents

A number of a document is an integer or a binary64 number; the two kinds are kept apart, so that
`1` and `1.0` are different numbers.
-/

namespace StackAudit

/-- A number: an integer, or a finite binary64 number. -/
inductive Numeral where
  | int (value : Int)
  | float (value : Binary64)
  deriving DecidableEq

namespace Numeral

/-- An integer in decimal, or the shortest text of a binary64 number. -/
def text : Numeral → String
  | .int n => toString n
  | .float x => x.text

/-- The nearest binary64 number. -/
def toBinary64 : Numeral → Binary64
  | .int n => Binary64.ofInt n
  | .float x => x

/-- An integer that has sixty-four bits with sign. -/
def toInt64? : Numeral → Option Int
  | .int n => if Text.IsInt64 n then some n else none
  | .float _ => none

/-- Equality of numbers: within the integers, and numeric within the binary64 numbers. -/
def equals : Numeral → Numeral → Bool
  | .int m, .int n => m == n
  | .float x, .float y => x.equals y
  | _, _ => false

end Numeral

end StackAudit
