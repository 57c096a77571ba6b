import StackAudit.Error
import StackAudit.Node
import StackAudit.Text.Splitting

/-!
# Parameters

A template declares parameters with a type and perhaps a default. A reference to a parameter yields
text, or a list of texts for the list types. What a secret parameter holds never shows: a reference
to it only tells where its value would come from.
-/

namespace StackAudit

/-- A declared parameter. -/
structure Parameter where
  name : String
  type : String
  default? : Option Value
  /-- The value is a secret. -/
  noEcho : Bool
  allowedValues : List Value

namespace Parameter

/-- The parameter that a declaration declares, such as
`{"Type": "String", "Default": "a", "NoEcho": true}`. -/
def ofNode (name : String) (declaration : Node) : Except Error Parameter :=
  let invalid {α : Type} (reason : String) : Except Error α := .error (.invalidFormat reason)
  match declaration with
  | .map body => do
    let type ← match (body.lookup "Type").bind Node.asString? with
      | some type => .ok type
      | none => invalid ("parameter '" ++ name ++ "' has no Type")
    let default? ← match body.lookup "Default" with
      | none => .ok none
      | some node =>
        match node.toValue? with
        | some value => .ok (some value)
        | none => invalid ("default of parameter '" ++ name ++ "' must be a literal")
    let field (key : String) : Option Value := (body.lookup key).bind Node.toValue?
    return {
      name, type, default?
      noEcho := ((field "NoEcho").bind Value.asBool?).getD false
      allowedValues := ((field "AllowedValues").map Value.elements).getD [] }
  | _ => invalid ("parameter '" ++ name ++ "' must be a mapping")

/-- The type is one of the list types. -/
def isList (p : Parameter) : Bool :=
  p.type = "CommaDelimitedList" || "List<".isPrefixOf p.type

/-- A value with an empty text counts as not given. -/
def isPresent (value : Option Value) : Bool := value.any fun v => v.text ≠ ""

/-- What a reference to a secret parameter yields: whether there is a value, a default or neither.
-/
def secretText (p : Parameter) (provided : Option Value) : String :=
  if isPresent provided then "NOECHO_WITH_VALUE"
  else if isPresent p.default? then "NOECHO_WITH_DEFAULT"
  else "NOECHO_NO_DEFAULT"

/-- The texts of a list: of its items, or of the parts of its text between commas without the blanks
around them. -/
def listTexts : Value → List String
  | .list items => items.map Value.text
  | value => (Text.split "," value.text).map Text.trim

/-- What a reference to a parameter yields when a value is provided or not; nothing if there is no
default either. -/
def refValue (p : Parameter) (provided : Option Value) : Option Value :=
  if p.noEcho then some (.string (p.secretText provided))
  else (provided.or p.default?).map fun value =>
    if p.isList then .list ((listTexts value).map .string) else .string value.text

/-- A parameter in JSON. -/
def toJson (p : Parameter) : Json :=
  .obj [("name", .str p.name), ("param_type", .str p.type),
    ("default", (p.default?.map Value.toJson).getD .null), ("no_echo", .bool p.noEcho),
    ("allowed_values", .arr (p.allowedValues.map Value.toJson))]

end Parameter

end StackAudit
