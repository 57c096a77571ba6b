import StackAudit.Catalog
import StackAudit.Catalog.Privileged
import StackAudit.Condition.Compiled
import StackAudit.Policy.Document

/-!
# Queries on policies

What a policy document allows, and to whom. A function call that is not resolved is never a literal,
so it matches no pattern, and as a principal it is always reported.
-/

namespace StackAudit

namespace Node

mutual

/-- The strings of a node, at any depth of lists. -/
def literals : Node → List String
  | string s => [s]
  | list items => literalsOfItems items
  | _ => []

/-- The strings of a list of nodes. -/
def literalsOfItems : List Node → List String
  | [] => []
  | item :: rest => item.literals ++ literalsOfItems rest

end

theorem literalsOfItems_eq (items : List Node) :
    literalsOfItems items = items.flatMap literals := by
  induction items with
  | nil => rfl
  | cons item rest ih => simp [literalsOfItems, ih]

end Node

namespace Statement

/-- The strings of a field that may be missing. -/
def literalsOf (field : Option Node) : List String := (field.map Node.literals).getD []

/-- The statement allows something. -/
def isAllow (s : Statement) : Bool := s.effect = .allow

/-- The literal actions. -/
def actions (s : Statement) : List String := literalsOf s.action

/-- The literal actions that are excepted. -/
def notActions (s : Statement) : List String := literalsOf s.notAction

/-- The literal resources. -/
def resources (s : Statement) : List String := literalsOf s.resource

/-- The principals, in the order of the document. -/
def principals (s : Statement) : List PrincipalToken := (s.principal.map Principal.tokens).getD []

/-- The condition, ready to be compiled. -/
def statementCondition (s : Statement) : Except Error (Option StatementCondition) :=
  match s.condition with
  | none => .ok none
  | some node => (StatementCondition.ofNode node).map some

/-- The actions of a catalog that the statement is about: those that its actions match, and those
that its excepted actions do not match. -/
def expandedActions (s : Statement) (c : Catalog) : List String :=
  Text.ascending
    ((if s.action.isSome then c.expandAll s.actions false else [])
      ++ if s.notAction.isSome then c.expandAll s.notActions true else [])

end Statement

namespace PolicyDocument

/-- The statements that allow something. -/
def allowStatements (d : PolicyDocument) : List Statement := d.statements.filter Statement.isAllow

/-- The places of the statements with a property, from 0 on. -/
def placesWhere (d : PolicyDocument) (property : Statement → Bool) : List Nat :=
  (d.statements.zipIdx.filter fun (s, _) => property s).map (·.2)

/-- The places of the statements with a matching resource. -/
def statementsWith (d : PolicyDocument) (matching : String → Bool) : List Nat :=
  d.placesWhere fun s => s.resources.any matching

/-- The places of the statements that allow a matching action. -/
def allowedActionsWith (d : PolicyDocument) (matching : String → Bool) : List Nat :=
  d.placesWhere fun s => s.isAllow && s.actions.any matching

/-- The principals that are allowed something. -/
def allowedPrincipals (d : PolicyDocument) : List PrincipalToken :=
  d.allowStatements.flatMap Statement.principals

/-- The matching literal principals that are allowed something, in ascending order. -/
def allowedPrincipalsWith (d : PolicyDocument) (matching : String → Bool) : List String :=
  Text.ascending ((d.allowedPrincipals.filterMap PrincipalToken.asLiteral?).filter matching)

/-- A token is a literal of the list. -/
def isListed (whitelist : List String) (token : PrincipalToken) : Bool :=
  token.asLiteral?.any whitelist.contains

/-- The principals that are allowed something without being on the list, each at its first
appearance. -/
def nonWhitelistedAllowedPrincipals (d : PolicyDocument) (whitelist : List String) :
    List PrincipalToken :=
  d.allowedPrincipals.foldl
    (fun reported token =>
      if isListed whitelist token || reported.any token.equals then reported
      else reported ++ [token])
    []

/-- The literal actions that are allowed. -/
def allowedActions (d : PolicyDocument) : List String := d.allowStatements.flatMap Statement.actions

/-- The literal actions with wildcards that are allowed, each at its first appearance. -/
def allowedActionsWithWildcard (d : PolicyDocument) : List String :=
  (d.allowedActions.filter Wildcard.occursIn).eraseDups

/-- The actions of a catalog that are allowed. -/
def expandedAllowedActions (d : PolicyDocument) (c : Catalog) : List String :=
  Text.ascending (d.allowStatements.flatMap (·.expandedActions c))

/-- The actions of a reference list that some literal allowed action matches, or those that none
matches. -/
def privilegedActionsIn (d : PolicyDocument) (reference : List String) (difference : Bool) :
    List String :=
  let patterns := Catalog.patternsOf d.allowedActions.eraseDups
  Text.ascending (reference.filter fun action => patterns.any (·.accepts action) != difference)

/-- The privileged actions that are allowed, or those that are not. -/
def privilegedActions (d : PolicyDocument) (difference : Bool) : List String :=
  d.privilegedActionsIn Catalog.privilegedActions difference

end PolicyDocument

end StackAudit
