import StackAudit.Error
import StackAudit.Resolution

/-!
# Principals

Whom a statement is about: one principal, a list of them, or principals by kind. Whatever its form,
a principal element is a row of tokens, each a literal text or a function call that is not resolved.
-/

namespace StackAudit

/-- The principal element of a statement. -/
inductive Principal where
  | single (node : Node)
  | list (items : List Node)
  | typed (entries : List (String × Node))

/-- One principal: a text, or a call that has not been resolved. -/
inductive PrincipalToken where
  | literal (text : String)
  | unresolved (function : Intrinsic) (argument : Node)

namespace PrincipalToken

/-- The text of a literal token. -/
def asLiteral? : PrincipalToken → Option String
  | literal text => some text
  | unresolved _ _ => none

/-- A literal as it is, or a call in JSON. -/
def text : PrincipalToken → String
  | literal text => text
  | unresolved function argument => (Node.call function argument).toJson.render

/-- Equality of tokens. In calls the order of the entries of maps makes no difference. -/
def equals : PrincipalToken → PrincipalToken → Bool
  | literal a, literal b => a == b
  | unresolved f a, unresolved g b => (Node.call f a).equals (.call g b)
  | _, _ => false

end PrincipalToken

namespace Principal

/-- The principal element of a node; null, booleans, numbers and dates are none. -/
def ofNode : Node → Except Error Principal
  | .map entries => .ok (typed entries)
  | .list items => .ok (list items)
  | .string s => .ok (single (.string s))
  | .call function argument => .ok (single (.call function argument))
  | node => .error (.invalidFormat ("unsupported principal: " ++ node.toJson.render))

/-- The node of a principal element. -/
def toNode : Principal → Node
  | single node => node
  | list items => .list items
  | typed entries => .map entries

/-- The nodes that a principal element is made of. -/
def nodes : Principal → List Node
  | single node => [node]
  | list items => items
  | typed entries => entries.map (·.2)

mutual

/-- The tokens in a node. Numbers are literal texts; null, booleans and dates give none. -/
def tokensOf : Node → List PrincipalToken
  | .string s => [.literal s]
  | .number n => [.literal n.text]
  | .call function argument => [.unresolved function argument]
  | .list items => tokensOfItems items
  | .map entries => tokensOfEntries entries
  | _ => []

/-- The tokens in a list of nodes. -/
def tokensOfItems : List Node → List PrincipalToken
  | [] => []
  | item :: rest => tokensOf item ++ tokensOfItems rest

/-- The tokens in the entries of a map. -/
def tokensOfEntries : List (String × Node) → List PrincipalToken
  | [] => []
  | (_, node) :: rest => tokensOf node ++ tokensOfEntries rest

end

/-- The tokens of a principal element, in order. -/
def tokens (p : Principal) : List PrincipalToken := p.nodes.flatMap tokensOf

/-- A principal element in JSON. -/
def toJson (p : Principal) : Json := p.toNode.toJson

/-- Resolves a principal element; it may turn out to be absent. -/
def resolve (scope : Scope) (p : Principal) : Except Error (Option Principal) := do
  let value ← p.toNode.resolve scope
  if value.isNoValue then return none
  else return some (← ofNode (.ofValue value))

end Principal

end StackAudit
