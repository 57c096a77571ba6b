import StackAudit.Json.Decoding

/-!
# Errors

What can go wrong when templates and policies are read, resolved and compiled, the message of each
error, and the form of errors in JSON.
-/

namespace StackAudit

/-- The reason why an operation has no result. -/
inductive Error where
  /-- A function argument of the wrong shape. -/
  | unsupportedValueType (expectation : String)
  /-- A comparison value that still holds a function call. -/
  | malformedConditionOperand (operator key : String)
  /-- A template condition that is not a boolean. -/
  | invalidBooleanCoercion (condition value : String)
  /-- A name that is no condition operator. -/
  | unknownConditionOperator (name : String)
  /-- A document without the form it must have. -/
  | invalidFormat (reason : String)
  /-- A text pattern that cannot be used. -/
  | invalidPattern (reason : String)
  /-- A text that is not JSON, or not JSON of the expected form. -/
  | json (reason : String)
  deriving DecidableEq

namespace Error

/-- The message of an error. -/
def message : Error → String
  | unsupportedValueType expectation => "unsupported value type: " ++ expectation
  | malformedConditionOperand operator key =>
    "condition operand for " ++ operator ++ " on key '" ++ key ++ "' is not resolved"
  | invalidBooleanCoercion condition value =>
    "condition '" ++ condition ++ "' did not resolve to a boolean: " ++ value
  | unknownConditionOperator name => "unknown condition operator: " ++ name
  | invalidFormat reason => "Invalid format: " ++ reason
  | invalidPattern reason => "invalid pattern: " ++ reason
  | json reason => "failed to parse template: " ++ reason

/-- The name of the kind of an error. -/
def kind : Error → String
  | unsupportedValueType _ => "UnsupportedValueType"
  | malformedConditionOperand _ _ => "MalformedConditionOperand"
  | invalidBooleanCoercion _ _ => "InvalidBooleanCoercion"
  | unknownConditionOperator _ => "UnknownConditionOperator"
  | invalidFormat _ => "InvalidFormat"
  | invalidPattern _ => "InvalidPattern"
  | json _ => "Json"

/-- A text that is not JSON. -/
def notJson : Error := json "the text is not valid JSON"

/-- An error in JSON: an object whose only member is its kind, with a text or the texts of the named
fields as content. -/
def toJson (e : Error) : Json :=
  let content : Json := match e with
    | malformedConditionOperand operator key =>
      .obj [("operator", .str operator), ("key", .str key)]
    | invalidBooleanCoercion condition value =>
      .obj [("condition", .str condition), ("value", .str value)]
    | unsupportedValueType text | unknownConditionOperator text | invalidFormat text
    | invalidPattern text | json text => .str text
  .obj [(e.kind, content)]

/-- Two texts as the fields of a record. -/
def textPair? (first second : String) (content : Json.Written) : Option (String × String) := do
  match ← content.fields? [first, second] with
  | [some a, some b] => return (← a.text?, ← b.text?)
  | _ => none

/-- Reads an error from JSON. -/
def ofWritten? (written : Json.Written) : Option Error := do
  match ← written.variant? with
  | (kind, some content) =>
    match kind with
    | "UnsupportedValueType" => content.text?.map unsupportedValueType
    | "MalformedConditionOperand" =>
      (textPair? "operator" "key" content).map fun (o, k) => malformedConditionOperand o k
    | "InvalidBooleanCoercion" =>
      (textPair? "condition" "value" content).map fun (c, v) => invalidBooleanCoercion c v
    | "UnknownConditionOperator" => content.text?.map unknownConditionOperator
    | "InvalidFormat" => content.text?.map invalidFormat
    | "InvalidPattern" => content.text?.map invalidPattern
    | "Json" => content.text?.map json
    | _ => none
  | _ => none

/-- Reads an error from a JSON text. -/
def ofText (text : String) : Except Error Error :=
  match Json.Written.ofText? text >>= ofWritten? with
  | some e => .ok e
  | none => .error notJson

end Error

end StackAudit
