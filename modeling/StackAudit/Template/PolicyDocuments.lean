import StackAudit.Policy.Document
import StackAudit.Template.Resolved

/-!
# Policy documents in templates

The policy documents of a resolved template are the maps under certain names, wherever they stand in
a resource. What is in such a map is not searched again.
-/

namespace StackAudit

/-- The names whose maps are policy documents. -/
def policyNames : List String := ["PolicyDocument", "AssumeRolePolicyDocument", "KeyPolicy"]

namespace Value

/-- A map under one of the names. -/
def isPolicy (name : String) (v : Value) : Bool := policyNames.contains name && v.asMap?.isSome

mutual

/-- The policies in a value: depth first, the entries of maps in order of names. -/
def policies : Value → List Value
  | map entries => policiesOfEntries entries
  | list items => policiesOfItems items
  | _ => []

/-- The policies in the items of a list. -/
def policiesOfItems : List Value → List Value
  | [] => []
  | item :: rest => item.policies ++ policiesOfItems rest

/-- The policies in the entries of a map. -/
def policiesOfEntries : List (String × Value) → List Value
  | [] => []
  | (name, value) :: rest =>
    (if value.isPolicy name then [value] else value.policies) ++ policiesOfEntries rest

end

theorem policiesOfItems_eq (items : List Value) :
    policiesOfItems items = items.flatMap policies := by
  induction items with
  | nil => rfl
  | cons item rest ih => simp [policiesOfItems, ih]

theorem policiesOfEntries_eq (entries : List (String × Value)) :
    policiesOfEntries entries =
      entries.flatMap fun e => if e.2.isPolicy e.1 then [e.2] else e.2.policies := by
  induction entries with
  | nil => rfl
  | cons e rest ih => simp [policiesOfEntries, ih]

end Value

/-- The policy documents of a resolved template with the names of their resources. A map that is no
readable document is passed over. -/
def ResolvedTemplate.policyDocuments (t : ResolvedTemplate) : List (String × PolicyDocument) :=
  t.resources.flatMap fun (name, resource) =>
    resource.policies.filterMap fun policy =>
      (PolicyDocument.ofNode (.ofValue policy)).toOption.map (name, ·)

end StackAudit
