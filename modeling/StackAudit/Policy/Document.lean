import StackAudit.Policy.Principal

/-!
# Policy documents

A policy document is a list of statements that allow or deny actions on resources. The fields of a
statement stay nodes, so that a document can be looked at before its template is resolved.
-/

namespace StackAudit

/-- What a statement does. -/
inductive Effect where
  | allow
  | deny
  deriving DecidableEq

namespace Effect

/-- The word for an effect. -/
def name : Effect → String
  | allow => "Allow"
  | deny => "Deny"

/-- The effect of a word. -/
def ofName? : String → Option Effect
  | "Allow" => some allow
  | "Deny" => some deny
  | _ => none

/-- Reads an effect from JSON. -/
def ofWritten? (written : Json.Written) : Option Effect := written.unitVariant?.bind ofName?

end Effect

/-- A statement of a policy. -/
structure Statement where
  sid : Option String := none
  effect : Effect
  action : Option Node := none
  notAction : Option Node := none
  resource : Option Node := none
  notResource : Option Node := none
  principal : Option Principal := none
  notPrincipal : Option Principal := none
  condition : Option Node := none

/-- A policy document. -/
structure PolicyDocument where
  version : Option String := none
  statements : List Statement

namespace Statement

/-- The principal element under a name, if there is one. -/
def principalOf (body : List (String × Node)) (name : String) : Except Error (Option Principal) :=
  match body.lookup name with
  | none => .ok none
  | some node => (Principal.ofNode node).map some

/-- The statement that a node describes. -/
def ofNode : Node → Except Error Statement
  | .map body => do
    let effect ← match ((body.lookup "Effect").bind Node.asString?).bind Effect.ofName? with
      | some effect => .ok effect
      | none => .error (.invalidFormat "statement Effect must be Allow or Deny")
    let principal ← principalOf body "Principal"
    let notPrincipal ← principalOf body "NotPrincipal"
    return {
      sid := (body.lookup "Sid").bind Node.asString?
      effect
      action := body.lookup "Action"
      notAction := body.lookup "NotAction"
      resource := body.lookup "Resource"
      notResource := body.lookup "NotResource"
      principal
      notPrincipal
      condition := body.lookup "Condition" }
  | _ => .error (.invalidFormat "statement must be a mapping")

/-- Resolves a field; it may turn out to be absent. -/
def resolveField (scope : Scope) : Option Node → Except Error (Option Node)
  | none => .ok none
  | some node => do
    let value ← node.resolve scope
    return if value.isNoValue then none else some (.ofValue value)

/-- Resolves a principal field. -/
def resolvePrincipal (scope : Scope) : Option Principal → Except Error (Option Principal)
  | none => .ok none
  | some principal => principal.resolve scope

/-- Resolves all fields of a statement. -/
def resolve (scope : Scope) (s : Statement) : Except Error Statement := do
  let action ← resolveField scope s.action
  let notAction ← resolveField scope s.notAction
  let resource ← resolveField scope s.resource
  let notResource ← resolveField scope s.notResource
  let principal ← resolvePrincipal scope s.principal
  let notPrincipal ← resolvePrincipal scope s.notPrincipal
  let condition ← resolveField scope s.condition
  return { s with action, notAction, resource, notResource, principal, notPrincipal, condition }

/-- A field of a statement in JSON; fields that are not there are left out. -/
def field (name : String) (content : Option Json) : List (String × Json) :=
  content.toList.map (name, ·)

/-- A statement in JSON. -/
def toJson (s : Statement) : Json :=
  .obj (field "Sid" (s.sid.map .str) ++ [("Effect", .str s.effect.name)]
    ++ field "Action" (s.action.map Node.toJson)
    ++ field "NotAction" (s.notAction.map Node.toJson)
    ++ field "Resource" (s.resource.map Node.toJson)
    ++ field "NotResource" (s.notResource.map Node.toJson)
    ++ field "Principal" (s.principal.map Principal.toJson)
    ++ field "NotPrincipal" (s.notPrincipal.map Principal.toJson)
    ++ field "Condition" (s.condition.map Node.toJson))

end Statement

namespace PolicyDocument

/-- The document that a node describes. There may be one statement, a list of them, or none. -/
def ofNode : Node → Except Error PolicyDocument
  | .map body => do
    let statements ← match body.lookup "Statement" with
      | none => .ok []
      | some node => node.elements.mapM Statement.ofNode
    return { version := (body.lookup "Version").bind Node.asString?, statements }
  | _ => .error (.invalidFormat "policy document must be a mapping")

/-- The document that a JSON value describes. -/
def ofJson (json : Json) : Except Error PolicyDocument := ofNode (.ofJson json)

/-- Resolves all statements of a document. -/
def resolve (scope : Scope) (d : PolicyDocument) : Except Error PolicyDocument := do
  return { d with statements := ← d.statements.mapM (Statement.resolve scope) }

/-- A document in JSON. -/
def toJson (d : PolicyDocument) : Json :=
  .obj (Statement.field "Version" (d.version.map .str)
    ++ [("Statement", .arr (d.statements.map Statement.toJson))])

end PolicyDocument

end StackAudit
