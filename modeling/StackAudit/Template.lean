import StackAudit.Parameter
import StackAudit.Resolution.Scope

/-!
# Templates

A template has parameters, mappings, conditions, resources and outputs. Conditions, resources and
outputs stay nodes until the template is resolved; mappings must be values from the start.
-/

namespace StackAudit

/-- A template. -/
structure Template where
  parameters : List (String × Parameter)
  mappings : Mappings
  conditions : List (String × Node)
  resources : List (String × Node)
  outputs : List (String × Node)

namespace Template

/-- The entries of a section of a template; a missing section has none. -/
def sectionOf (body : List (String × Node)) (name : String) : Except Error (List (String × Node)) :=
  match body.lookup name with
  | none => .ok []
  | some (.map entries) => .ok entries
  | some _ => .error (.invalidFormat (name ++ " section must be a mapping"))

/-- The two levels of keys of a mapping. -/
def mappingOf? (node : Node) : Option (Table (Table Value)) :=
  match node.toValue? with
  | some (.map tops) => do
    let tops ← tops.mapM fun (top, seconds) =>
      seconds.asMap?.map fun seconds => (top, Table.ofList seconds)
    return .ofList tops
  | _ => none

/-- The mappings of the entries of the section. -/
def mappingsOf (entries : List (String × Node)) : Except Error Mappings := do
  let mappings ← entries.mapM fun (name, node) =>
    match mappingOf? node with
    | some mapping => .ok (name, mapping)
    | none => .error (.invalidFormat ("mapping '" ++ name ++ "' must be two levels of keys"))
  return .ofList mappings

/-- The template that a node describes. -/
def ofNode : Node → Except Error Template
  | .map body => do
    let parameters ← (← sectionOf body "Parameters").mapM fun (name, node) => do
      return (name, ← Parameter.ofNode name node)
    let mappings ← mappingsOf (← sectionOf body "Mappings")
    let conditions ← sectionOf body "Conditions"
    let resources ← sectionOf body "Resources"
    let outputs ← sectionOf body "Outputs"
    return { parameters, mappings, conditions, resources, outputs }
  | _ => .error (.invalidFormat "template must be a mapping")

/-- Reads a template from a JSON text. -/
def ofText (text : String) : Except Error Template :=
  match Json.ofText? text with
  | some json => ofNode (.ofJson json)
  | none => .error .notJson

end Template

end StackAudit
