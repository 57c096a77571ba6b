import StackAudit.Error

/-!
# Condition operators

An operator of a condition is a comparison, perhaps with a quantifier in front for keys with several
values, and perhaps with `IfExists` behind for keys that may be missing. Colons in the name of an
operator make no difference.
-/

namespace StackAudit

/-- How two quantities are to be ordered. -/
inductive Relation where
  | equal
  | notEqual
  | less
  | lessOrEqual
  | greater
  | greaterOrEqual
  deriving DecidableEq

namespace Relation

/-- The end of the names of the comparisons with a relation. -/
def name : Relation → String
  | equal => "Equals"
  | notEqual => "NotEquals"
  | less => "LessThan"
  | lessOrEqual => "LessThanEquals"
  | greater => "GreaterThan"
  | greaterOrEqual => "GreaterThanEquals"

/-- The relation holds of two quantities in the given order. -/
def holds : Relation → Ordering → Bool
  | equal, o => o = .eq
  | notEqual, o => o ≠ .eq
  | less, o => o = .lt
  | lessOrEqual, o => o ≠ .gt
  | greater, o => o = .gt
  | greaterOrEqual, o => o ≠ .lt

end Relation

/-- The two names under which texts are compared. -/
inductive TextKind where
  | string
  | arn
  deriving DecidableEq

/-- The name of a kind of text. -/
def TextKind.name : TextKind → String
  | string => "String"
  | arn => "Arn"

/-- A comparison of a value of the request with a value of the condition. -/
inductive Comparison where
  | bool
  /-- Whether the key is missing. -/
  | null
  /-- The texts are equal, or are not. -/
  | text (kind : TextKind) (negated : Bool)
  /-- The texts are equal but for case, or are not. -/
  | ignoreCase (negated : Bool)
  /-- The text matches a wildcard pattern, or does not. -/
  | like (kind : TextKind) (negated : Bool)
  | numeric (relation : Relation)
  | date (relation : Relation)
  /-- The addresses are within a block, or are not. -/
  | address (negated : Bool)
  | binary
  deriving DecidableEq

namespace Comparison

/-- `Not` in the name of a negated comparison. -/
def notName (negated : Bool) : String := if negated then "Not" else ""

/-- The name of a comparison. -/
def name : Comparison → String
  | bool => "Bool"
  | null => "Null"
  | text kind negated => kind.name ++ notName negated ++ "Equals"
  | ignoreCase negated => "String" ++ notName negated ++ "EqualsIgnoreCase"
  | like kind negated => kind.name ++ notName negated ++ "Like"
  | numeric relation => "Numeric" ++ relation.name
  | date relation => "Date" ++ relation.name
  | address negated => notName negated ++ "IpAddress"
  | binary => "BinaryEquals"

/-- All comparisons. -/
def all : List Comparison :=
  [bool, null,
    text .string false, text .string true, ignoreCase false, ignoreCase true,
    like .string false, like .string true,
    text .arn false, text .arn true, like .arn false, like .arn true,
    numeric .equal, numeric .notEqual, numeric .less, numeric .lessOrEqual, numeric .greater,
    numeric .greaterOrEqual,
    date .equal, date .notEqual, date .less, date .lessOrEqual, date .greater,
    date .greaterOrEqual,
    address false, address true, binary]

/-- The comparison of a name. -/
def ofName? (s : String) : Option Comparison := all.find? fun c => c.name = s

theorem mem_all (c : Comparison) : c ∈ all := by
  cases c with
  | text kind negated => cases kind <;> cases negated <;> decide
  | ignoreCase negated => cases negated <;> decide
  | like kind negated => cases kind <;> cases negated <;> decide
  | numeric relation => cases relation <;> decide
  | date relation => cases relation <;> decide
  | address negated => cases negated <;> decide
  | _ => decide

end Comparison

/-- How the several values of a key count. -/
inductive Quantifier where
  | plain
  | forAllValues
  | forAnyValue
  deriving DecidableEq

namespace Quantifier

/-- The name of a quantifier; in an operator a plain one is not written. -/
def name : Quantifier → String
  | plain => "Plain"
  | forAllValues => "ForAllValues"
  | forAnyValue => "ForAnyValue"

/-- The quantifier of a name. -/
def ofName? : String → Option Quantifier
  | "Plain" => some plain
  | "ForAllValues" => some forAllValues
  | "ForAnyValue" => some forAnyValue
  | _ => none

end Quantifier

/-- An operator of a condition. -/
structure Operator where
  quantifier : Quantifier
  comparison : Comparison
  /-- The condition only applies if the key is there. -/
  ifExists : Bool
  deriving DecidableEq

namespace Operator

/-- The operator of a comparison, without quantifier and without `IfExists`. -/
def plain (c : Comparison) : Operator := ⟨.plain, c, false⟩

/-- The name of an operator, with a colon after the quantifier. -/
def name (o : Operator) : String :=
  (match o.quantifier with
    | .plain => ""
    | .forAllValues => "ForAllValues:"
    | .forAnyValue => "ForAnyValue:")
  ++ o.comparison.name ++ if o.ifExists then "IfExists" else ""

/-- The rest of a text after its beginning. -/
def afterStart? (start text : List Char) : Option (List Char) :=
  if start.isPrefixOf text then some (text.drop start.length) else none

/-- The rest of a text before its end. -/
def beforeEnd? (ending text : List Char) : Option (List Char) :=
  (afterStart? ending.reverse text.reverse).map List.reverse

/-- The quantifier at the beginning of a name without colons, and the rest of the name. -/
def splitQuantifier (text : List Char) : Quantifier × List Char :=
  match afterStart? "ForAllValues".toList text with
  | some rest => (.forAllValues, rest)
  | none =>
    match afterStart? "ForAnyValue".toList text with
    | some rest => (.forAnyValue, rest)
    | none => (.plain, text)

/-- Whether a name ends in `IfExists`, and the rest of the name. -/
def splitIfExists (text : List Char) : Bool × List Char :=
  match beforeEnd? "IfExists".toList text with
  | some rest => (true, rest)
  | none => (false, text)

/-- The operator of a name. -/
def ofName (s : String) : Except Error Operator :=
  let (quantifier, rest) := splitQuantifier (s.toList.filter (· ≠ ':'))
  let (ifExists, rest) := splitIfExists rest
  match Comparison.ofName? (String.ofList rest) with
  | some comparison => .ok { quantifier, comparison, ifExists }
  | none => .error (.unknownConditionOperator s)

/-- An operator in JSON. -/
def toJson (o : Operator) : Json :=
  .obj [("quantifier", .str o.quantifier.name), ("base", .str o.comparison.name),
    ("if_exists", .bool o.ifExists)]

/-- Reads an operator from JSON. -/
def ofWritten? (written : Json.Written) : Option Operator := do
  match ← written.fields? ["quantifier", "base", "if_exists"] with
  | [some quantifier, some comparison, some ifExists] =>
    return {
      quantifier := ← quantifier.unitVariant?.bind Quantifier.ofName?
      comparison := ← comparison.unitVariant?.bind Comparison.ofName?
      ifExists := ← ifExists.truth? }
  | _ => none

/-- Reads an operator from a JSON text. -/
def ofText (text : String) : Except Error Operator :=
  match Json.Written.ofText? text >>= ofWritten? with
  | some o => .ok o
  | none => .error .notJson

end Operator

end StackAudit
