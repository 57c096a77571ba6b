import StackAudit.AddressBlock.Reader
import StackAudit.Condition.Operator
import StackAudit.Pattern.Wildcard
import StackAudit.Text.Decomposition
import StackAudit.Value

/-!
# Matchers

A matcher is a comparison with its operand: it accepts or rejects a single value of a request. An
operand that cannot be read as what the comparison compares is never matched, not even by a negated
comparison; a value that cannot be read so does not match either.
-/

namespace StackAudit

/-- A comparison with the operand that it compares to. -/
inductive Matcher where
  | bool (expected : Option Bool)
  | null (expected : Bool)
  | text (expected : String) (negated : Bool)
  | ignoreCase (expected : List Char) (negated : Bool)
  | like (pattern : Wildcard) (negated : Bool)
  | numeric (relation : Relation) (expected : Option Binary64)
  | date (relation : Relation) (expected : Option Instant)
  | address (expected : Option AddressBlock) (negated : Bool)

namespace Matcher

/-- The block of addresses that the text of a value spells. -/
def addressBlock? (v : Value) : Option AddressBlock :=
  AddressBlock.ofChars? (Text.trimBlanks v.text.toList)

/-- Gives a comparison its operand. Only a wildcard pattern can fail to be one. -/
def bind (operand : Value) : Comparison → Except Error Matcher
  | .bool => .ok (bool operand.asBool?)
  | .null => .ok (null (operand.asBool?.getD false))
  | .text _ negated => .ok (text operand.text negated)
  | .ignoreCase negated => .ok (ignoreCase (Text.caselessForm operand.text) negated)
  | .like _ negated => (Wildcard.ofText operand.text).map (like · negated)
  | .numeric relation => .ok (numeric relation operand.asBinary64?)
  | .date relation => .ok (date relation operand.asInstant?)
  | .address negated => .ok (address (addressBlock? operand) negated)
  | .binary => .ok (text operand.text false)

/-- A value of a request matches. -/
def accepts (actual : Value) : Matcher → Bool
  | bool expected => expected.isSome && actual.asBool? == expected
  | null expected => actual.isNull == expected
  | text expected negated => (actual.text == expected) != negated
  | ignoreCase expected negated => (Text.caselessForm actual.text == expected) != negated
  | like pattern negated => pattern.accepts actual.text != negated
  | numeric relation expected =>
    match actual.asBinary64?, expected with
    | some a, some e => (a.compare? e).any relation.holds
    | _, _ => false
  | date relation expected =>
    match actual.asInstant?, expected with
    | some a, some e => relation.holds (a.compare e)
    | _, _ => false
  | address expected negated =>
    match expected, addressBlock? actual with
    | some e, some a => e.holds a != negated
    | _, _ => false

end Matcher

end StackAudit
