import StackAudit.Resolution

/-!
# Conditions of templates

Conditions are decided in the order in which they are declared, and each one sees those before it.
The entries of a template that name a condition are kept if it is true.
-/

namespace StackAudit

/-- The boolean that a condition resolves to; any other value is an error. -/
def verdict (name : String) : Value → Except Error Bool
  | .bool b => .ok b
  | value => .error (.invalidBooleanCoercion name value.text)

/-- Decides conditions one after the other and enters each into the scope. The scope is that of the
conditions decided before the first error, if there is one. -/
def decideConditions : List (String × Node) → Scope → Except Error (List (String × Bool)) × Scope
  | [], scope => (.ok [], scope)
  | (name, node) :: rest, scope =>
    match node.resolve scope >>= verdict name with
    | .error e => (.error e, scope)
    | .ok b =>
      let (verdicts, final) := decideConditions rest (scope.withCondition name b)
      (verdicts.map ((name, b) :: ·), final)

/-- An entry is kept unless it names a condition that is not true. -/
def isKept (scope : Scope) (entry : Node) : Bool :=
  match (entry.get? "Condition").bind Node.asString? with
  | some name => scope.condition name
  | none => true

/-- The values of the entries that are kept, in their order. -/
def resolveKept (scope : Scope) : List (String × Node) → Except Error (List (String × Value))
  | [] => .ok []
  | (name, node) :: rest =>
    if isKept scope node then do
      let value ← node.resolve scope
      let values ← resolveKept scope rest
      return (name, value) :: values
    else resolveKept scope rest

end StackAudit
