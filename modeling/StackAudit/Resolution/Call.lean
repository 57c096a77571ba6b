import StackAudit.Error
import StackAudit.Intrinsic
import StackAudit.Resolution.Substitution
import StackAudit.Text.Base64
import StackAudit.Text.Splitting

/-!
# Calls of intrinsic functions

A function sees its argument as an `Argument`: the outcomes of the items if the argument is written
as a list, and one outcome otherwise. `Intrinsic.apply` computes the outcome of a call from that.
The shape of the argument is looked at first; then the outcomes are taken from left to right, and
the first error among those that are needed is the error of the call.
-/

namespace StackAudit

/-- A value, or the reason why there is none. -/
abbrev Outcome := Except Error Value

/-- An argument of a function: the outcomes of the items of a list, or a single outcome. -/
inductive Argument where
  | single (outcome : Outcome)
  | items (outcomes : List Outcome)

/-- All values of a list of outcomes, or the first error. -/
def collect : List Outcome → Except Error (List Value)
  | [] => .ok []
  | outcome :: rest => do
    let value ← outcome
    let values ← collect rest
    return value :: values

/-- The argument as one value. Absent items are left out of a list. -/
def Argument.whole : Argument → Outcome
  | single outcome => outcome
  | items outcomes => (collect outcomes).map fun values => .list (values.filter (!·.isNoValue))

/-- The text of the argument as one value. -/
def Argument.text (a : Argument) : Except Error String := a.whole.map Value.text

namespace Intrinsic

/-- The error of an argument of the wrong shape. -/
def misshapen {α : Type} (f : Intrinsic) (expected : String) : Except Error α :=
  .error (.unsupportedValueType (f.name ++ " expects " ++ expected))

/-- The error of an argument that is no list of the right length. -/
def misnumbered {α : Type} (f : Intrinsic) (arity : Nat) : Except Error α :=
  f.misshapen ("a list of " ++ toString arity ++ " arguments")

/-- The outcome of `Fn::Join`: the texts of the items with the delimiter between them. -/
def joinOutcome (delimiter items : Outcome) : Outcome := do
  let delimiter ← delimiter
  let items ← items
  return .string (delimiter.text.intercalate (items.elements.map Value.text))

/-- The outcome of `Fn::Sub` with variables. -/
def subOutcome (scope : Scope) (template bound : Outcome) : Outcome := do
  let template ← template
  match ← bound with
  | .map entries => return .string (Substitution.apply entries scope template.text)
  | _ => misshapen sub "a variables mapping"

/-- The outcome of `Fn::Select`: the item at an index, or null if there is none. What is no list
stands for all of its items. -/
def selectOutcome (index items : Outcome) : Outcome := do
  match (← index).asInt64? with
  | none => misshapen select "an integer index"
  | some i =>
    match ← items with
    | .list values => return if i < 0 then .null else values.getD i.toNat .null
    | value => return value

/-- The outcome of `Fn::Split`: the parts of a text between delimiters. -/
def splitOutcome (delimiter source : Outcome) : Outcome := do
  let delimiter ← delimiter
  let source ← source
  return .list ((Text.split delimiter.text source.text).map .string)

/-- The outcome of `Fn::FindInMap`. -/
def findInMapOutcome (scope : Scope) (name top second : Outcome) : Outcome := do
  let name ← name
  let top ← top
  let second ← second
  return scope.mapping name.text top.text second.text

/-- The outcome of `Fn::If`: that of the branch which the condition chooses. The other branch makes
no difference. -/
def ifOutcome (scope : Scope) (name whenTrue whenFalse : Outcome) : Outcome := do
  if scope.condition (← name).text then whenTrue else whenFalse

/-- The outcome of `Fn::Equals`: the canonical forms are compared. -/
def equalsOutcome (left right : Outcome) : Outcome := do
  let left ← left
  let right ← right
  return .bool (left.canonical.equals right.canonical)

/-- The outcome of `Fn::Not`. -/
def notOutcome (operands : List Outcome) : Outcome := do
  match ← collect operands with
  | [operand] => return .bool !operand.truthy
  | _ => misshapen not "exactly one operand"

/-- The outcome of a call. -/
def apply (scope : Scope) : Intrinsic → Argument → Outcome
  | ref, a | importValue, a => a.text.map scope.reference
  | condition, a => a.text.map fun name => .bool (scope.condition name)
  | base64, a => a.text.map fun text => .string (Text.base64 text)
  | getAtt, _ => .ok (.string "GETATT")
  | getAZs, _ => .ok (.string "GETAZS")
  | join, .items [delimiter, items] => joinOutcome delimiter items
  | join, _ => join.misnumbered 2
  | split, .items [delimiter, source] => splitOutcome delimiter source
  | split, _ => split.misnumbered 2
  | select, .items [index, items] => selectOutcome index items
  | select, _ => select.misnumbered 2
  | equals, .items [left, right] => equalsOutcome left right
  | equals, _ => equals.misnumbered 2
  | findInMap, .items [name, top, second] => findInMapOutcome scope name top second
  | findInMap, _ => findInMap.misnumbered 3
  | ifElse, .items [name, whenTrue, whenFalse] => ifOutcome scope name whenTrue whenFalse
  | ifElse, _ => ifElse.misnumbered 3
  | sub, .single template | sub, .items [template] => subOutcome scope template (.ok (.map []))
  | sub, .items [template, bound] => subOutcome scope template bound
  | sub, .items _ => sub.misshapen "a string or [template, variables]"
  | and, .items operands => (collect operands).map fun values => .bool (values.all Value.truthy)
  | or, .items operands => (collect operands).map fun values => .bool (values.any Value.truthy)
  | not, .items operands => notOutcome operands
  | and, .single _ => and.misshapen "a list of operands"
  | or, .single _ => or.misshapen "a list of operands"
  | not, .single _ => not.misshapen "a list of operands"

end Intrinsic

end StackAudit
