import StackAudit.Resolution

/-!
# Calls within nodes

A call is written in one of two ways: as a call node, or as a map whose only entry is named for a
function. `Node.callOf?` recognises the second one, and `Node.calls` lists the calls of a node at
every depth, however they are written. `Node.evaluate_map` says that the two ways are resolved
alike, so what a call resolves to is said once for both (`Node.IsCallOf.resolve_eq`). Only call
nodes keep a node from being a value (`Node.isSome_toValue?`).
-/

namespace StackAudit.Node

/-- The call that a single entry named for a function stands for. -/
def callOf? : List (String × Node) → Option (Intrinsic × Node)
  | [(name, argument)] => (Intrinsic.ofName? name).map (·, argument)
  | _ => none

mutual

/-- The calls in a node, at any depth and in either form. -/
def calls : Node → List (Intrinsic × Node)
  | list items => callsOfItems items
  | map entries => (callOf? entries).toList ++ callsOfEntries entries
  | call function argument => (function, argument) :: argument.calls
  | _ => []

/-- The calls in the items of a list. -/
def callsOfItems : List Node → List (Intrinsic × Node)
  | [] => []
  | item :: rest => item.calls ++ callsOfItems rest

/-- The calls in the entries of a map. -/
def callsOfEntries : List (String × Node) → List (Intrinsic × Node)
  | [] => []
  | (_, node) :: rest => node.calls ++ callsOfEntries rest

end

/-- The calls in the items, item by item. -/
theorem callsOfItems_eq (items : List Node) : callsOfItems items = items.flatMap calls := by
  induction items with
  | nil => rfl
  | cons item rest ih => simp [callsOfItems, ih]

/-- The calls in the entries, entry by entry. -/
theorem callsOfEntries_eq (entries : List (String × Node)) :
    callsOfEntries entries = entries.flatMap (·.2.calls) := by
  induction entries with
  | nil => rfl
  | cons e rest ih => simp [callsOfEntries, ih]

/-- The call that a map stands for is of the only entry. -/
theorem callOf?_eq_some_iff {entries : List (String × Node)} {f : Intrinsic} {argument : Node} :
    callOf? entries = some (f, argument) ↔ entries = [(f.name, argument)] := by
  match entries with
  | [] => simp [callOf?]
  | [(name, node)] =>
    rw [callOf?, Option.map_eq_some_iff]
    constructor
    · rintro ⟨g, hg, heq⟩
      cases heq
      rw [Intrinsic.name_of_ofName? hg]
    · intro heq
      cases heq
      exact ⟨f, Intrinsic.ofName?_name f, rfl⟩
  | _ :: _ :: _ => simp [callOf?]

/-- A map is resolved like the call it stands for, or else as data. -/
theorem evaluate_map (scope : Scope) (entries : List (String × Node)) :
    (map entries).evaluate scope = .single (match callOf? entries with
      | some (function, argument) => function.apply scope (argument.evaluate scope)
      | none => dataOutcome (evaluateEntries scope entries)) := by
  -- only a single entry can be named for a function, so the number of entries decides first
  match entries with
  | [] => rfl
  | [(name, argument)] =>
    rw [evaluate, evaluateEntries, evaluateEntries, mapOutcome, callOf?]
    cases Intrinsic.ofName? name with
    | none => rfl
    | some function => rfl
  | _ :: _ :: _ => rfl

/-! ## What calls resolve to -/

/-- A node is a call of a function on an argument, in either form. -/
inductive IsCallOf : Node → Intrinsic → Node → Prop where
  | call (f : Intrinsic) (argument : Node) : IsCallOf (.call f argument) f argument
  | map (f : Intrinsic) (argument : Node) : IsCallOf (.map [(f.name, argument)]) f argument

/-- A map that stands for a call resolves like the call. -/
theorem resolve_map_name (scope : Scope) (f : Intrinsic) (argument : Node) :
    (map [(f.name, argument)]).resolve scope = (call f argument).resolve scope := by
  have hcall : callOf? [(f.name, argument)] = some (f, argument) := callOf?_eq_some_iff.2 rfl
  rw [resolve, evaluate_map, hcall]
  rfl

/-- A call on a list gets the outcomes of the items. -/
theorem resolve_call_list (scope : Scope) (f : Intrinsic) (items : List Node) :
    (call f (.list items)).resolve scope = f.apply scope (.items (items.map (resolve scope))) := by
  rw [resolve, evaluate, evaluate, evaluateItems_eq]
  rfl

/-- A call resolves to what the function makes of its argument, however it is written. -/
theorem IsCallOf.resolve_eq {n argument : Node} {f : Intrinsic} (h : n.IsCallOf f argument)
    (scope : Scope) : n.resolve scope = f.apply scope (argument.evaluate scope) := by
  cases h with
  | call => rfl
  | map => rw [resolve_map_name]; rfl

/-- A call on a list gets the outcomes of the items, however it is written. -/
theorem IsCallOf.resolve_list_eq {n : Node} {f : Intrinsic} {items : List Node}
    (h : n.IsCallOf f (.list items)) (scope : Scope) :
    n.resolve scope = f.apply scope (.items (items.map (resolve scope))) := by
  rw [h.resolve_eq, ← resolve_call_list]
  rfl

/-- A call on a list of two gets both outcomes. -/
theorem IsCallOf.resolve_pair_eq {n a b : Node} {f : Intrinsic} (h : n.IsCallOf f (.list [a, b]))
    (scope : Scope) :
    n.resolve scope = f.apply scope (.items [a.resolve scope, b.resolve scope]) := by
  rw [h.resolve_list_eq, List.map_cons, List.map_singleton]

/-! ## Nodes without call nodes -/

/-- A list is free of call nodes if its items are. -/
theorem containsCall_list_eq_false_iff {items : List Node} :
    (list items).containsCall = false ↔ ∀ item ∈ items, item.containsCall = false := by
  rw [containsCall, anyContainsCall_eq, List.any_eq_false]
  simp only [Bool.not_eq_true]

/-- A map is free of call nodes if the nodes of its entries are. -/
theorem containsCall_map_eq_false_iff {entries : List (String × Node)} :
    (map entries).containsCall = false ↔ ∀ e ∈ entries, e.2.containsCall = false := by
  rw [containsCall, anyEntryContainsCall_eq, List.any_eq_false]
  simp only [Bool.not_eq_true]

mutual

/-- A node is a value unless a call node stands somewhere in it. -/
theorem isSome_toValue? : ∀ n : Node, n.toValue?.isSome = !n.containsCall
  | null => rfl
  | bool _ => rfl
  | number _ => rfl
  | string _ => rfl
  | date _ => rfl
  | list items => by rw [toValue?, containsCall, Option.isSome_map, isSome_toValues? items]
  | map entries => by
    rw [toValue?, containsCall, Option.isSome_map, isSome_toValueEntries? entries]
  | call _ _ => rfl

/-- Items are values unless a call node stands in one of them. -/
theorem isSome_toValues? : ∀ items : List Node,
    (toValues? items).isSome = !anyContainsCall items
  | [] => rfl
  | item :: rest => by
    rw [toValues?, anyContainsCall, Bool.not_or, ← isSome_toValue? item, ← isSome_toValues? rest]
    cases item.toValue? <;> cases toValues? rest <;> rfl

/-- Entries are values unless a call node stands in one of them. -/
theorem isSome_toValueEntries? : ∀ entries : List (String × Node),
    (toValueEntries? entries).isSome = !anyEntryContainsCall entries
  | [] => rfl
  | (_, node) :: rest => by
    rw [toValueEntries?, anyEntryContainsCall, Bool.not_or, ← isSome_toValue? node,
      ← isSome_toValueEntries? rest]
    cases node.toValue? <;> cases toValueEntries? rest <;> rfl

end

end StackAudit.Node
