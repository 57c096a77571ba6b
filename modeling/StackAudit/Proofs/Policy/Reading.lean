import StackAudit.Proofs.Policy.Commutation
import StackAudit.Proofs.Resolution.Origin

/-!
# What documents are made of

Reading a document only takes a node apart: the fields and the principals of its statements are
parts of the node. So a property that all parts of the node have is a property of all nodes that the
statements are made of (`PolicyDocument.madeOf_of_ofNode`).
-/

namespace StackAudit

/-! ## Parts -/

namespace Node

/-- What a map has under a name is part of it. -/
theorem Part.of_lookup {entries : List (String × Node)} {name : String} {node : Node}
    (h : entries.lookup name = some node) : node.Part (map entries) := by
  obtain ⟨before, after, rfl, -⟩ := List.lookup_eq_some_iff.1 h
  exact .entry (e := (name, node)) (by simp) .self

/-- The elements of a node are parts of it, also of one that is its own element. -/
theorem Part.of_mem_elements {n item : Node} (h : item ∈ n.elements) : item.Part n := by
  cases n with
  | list items => exact .item h .self
  | _ =>
    obtain rfl := List.mem_singleton.1 h
    exact .self

end Node

/-! ## Principals -/

namespace Principal

/-- The tokens of the items, item by item. -/
theorem tokensOfItems_eq (items : List Node) : tokensOfItems items = items.flatMap tokensOf := by
  induction items with
  | nil => rfl
  | cons item rest ih => rw [tokensOfItems, ih, List.flatMap_cons]

/-- The tokens of the entries, entry by entry. -/
theorem tokensOfEntries_eq (entries : List (String × Node)) :
    tokensOfEntries entries = entries.flatMap (tokensOf ·.2) := by
  induction entries with
  | nil => rfl
  | cons e rest ih => rw [tokensOfEntries, ih, List.flatMap_cons]

/-- The tokens of a principal element are those of its node. -/
theorem tokens_eq (p : Principal) : p.tokens = tokensOf p.toNode := by
  cases p with
  | single node => exact List.flatMap_singleton tokensOf node
  | list items => exact (tokensOfItems_eq items).symm
  | typed entries => rw [tokens, nodes, List.flatMap_map, toNode, tokensOf, tokensOfEntries_eq]

/-- What is read as a principal is the node itself. -/
theorem toNode_of_ofNode {node : Node} {p : Principal} (h : ofNode node = .ok p) :
    p.toNode = node := by
  cases node <;> cases h <;> rfl

/-- A principal that is resolved is the node of a value. -/
theorem exists_toNode_of_resolve {scope : Scope} {p q : Principal}
    (h : p.resolve scope = .ok (some q)) :
    ∃ value, p.toNode.resolve scope = .ok value ∧ q.toNode = .ofValue value := by
  obtain ⟨value, hvalue, h⟩ := bind_eq_ok_iff.1 h
  split at h
  · cases h
  · obtain ⟨read, hread, heq⟩ := bind_eq_ok_iff.1 h
    obtain rfl := Option.some.inj (Except.ok.inj heq)
    exact ⟨value, hvalue, toNode_of_ofNode hread⟩

/-- A principal that turns out to be absent resolves to the mark. -/
theorem resolve_toNode_of_resolve_none {scope : Scope} {p : Principal}
    (h : p.resolve scope = .ok none) : p.toNode.resolve scope = .ok .noValue := by
  obtain ⟨value, hvalue, h⟩ := bind_eq_ok_iff.1 h
  cases hmark : value.isNoValue with
  | true => rw [hvalue, Value.eq_noValue_of_isNoValue hmark]
  | false =>
    rw [hmark] at h
    obtain ⟨read, -, heq⟩ := bind_eq_ok_iff.1 h
    cases heq

end Principal

/-! ## Statements and documents -/

namespace Statement

/-- The fields that are nodes. -/
def fields (s : Statement) : List (Option Node) :=
  [s.action, s.notAction, s.resource, s.notResource, s.condition]

/-- Whom a statement is about, and whom it excepts. -/
def principalFields (s : Statement) : List (Option Principal) := [s.principal, s.notPrincipal]

/-- All nodes that a statement is made of have a property. -/
structure MadeOf (P : Node → Prop) (s : Statement) : Prop where
  fields : ∀ node, some node ∈ s.fields → P node
  principals : ∀ p, some p ∈ s.principalFields → P p.toNode

variable {P : Node → Prop}

/-- A principal element that is read is what the statement has under its name. -/
theorem lookup_of_principalOf {body : List (String × Node)} {name : String} {p : Principal}
    (h : principalOf body name = .ok (some p)) : body.lookup name = some p.toNode := by
  unfold principalOf at h
  cases hlookup : body.lookup name with
  | none =>
    rw [hlookup] at h
    cases h
  | some node =>
    rw [hlookup] at h
    obtain ⟨q, hq, heq⟩ := map_eq_ok_iff.1 h
    obtain rfl := Option.some.inj heq
    rw [Principal.toNode_of_ofNode hq]

/-- A statement that is read is made of parts of the node. -/
theorem madeOf_of_ofNode (hpart : ∀ {m n : Node}, P n → m.Part n → P m) {node : Node}
    {s : Statement} (h : ofNode node = .ok s) (hnode : P node) : s.MadeOf P := by
  cases node with
  | map body =>
    obtain ⟨-, hprincipal, hnotPrincipal, -, haction, hnotAction, hresource, hnotResource,
      hcondition⟩ := ofNode_map_eq_ok_iff.1 h
    -- every field is what the map has under its name, and so part of it
    have hlookup {name : String} {field : Node} (hfield : body.lookup name = some field) :
        P field := hpart hnode (.of_lookup hfield)
    refine ⟨fun field hfield => ?_, fun p hp => ?_⟩
    · rw [fields, haction, hnotAction, hresource, hnotResource, hcondition] at hfield
      simp only [List.mem_cons, List.not_mem_nil, or_false] at hfield
      rcases hfield with hfield | hfield | hfield | hfield | hfield <;>
        exact hlookup hfield.symm
    · simp only [principalFields, List.mem_cons, List.not_mem_nil, or_false] at hp
      rcases hp with hp | hp
      · exact hlookup (lookup_of_principalOf (hp ▸ hprincipal))
      · exact hlookup (lookup_of_principalOf (hp ▸ hnotPrincipal))
  | _ => cases h

end Statement

/-- The statements of a document that is read are read from parts of the node. -/
theorem PolicyDocument.exists_part_of_mem_statements {node : Node} {d : PolicyDocument}
    (h : ofNode node = .ok d) {s : Statement} (hs : s ∈ d.statements) :
    ∃ item, item.Part node ∧ Statement.ofNode item = .ok s := by
  cases node with
  | map body =>
    obtain ⟨-, hstatements⟩ := ofNode_map_eq_ok_iff.1 h
    unfold statementsOf at hstatements
    cases hlookup : body.lookup "Statement" with
    | none =>
      rw [hlookup] at hstatements
      rw [← Except.ok.inj hstatements] at hs
      cases hs
    | some node =>
      rw [hlookup] at hstatements
      obtain ⟨item, hitem, hread⟩ := exists_of_mem_right (mapM_eq_ok_iff.1 hstatements) hs
      exact ⟨item, (Node.Part.of_mem_elements hitem).trans (Node.Part.of_lookup hlookup), hread⟩
  | _ => cases h

/-- The statements of a document that is read are made of parts of the node. -/
theorem PolicyDocument.madeOf_of_ofNode {P : Node → Prop}
    (hpart : ∀ {m n : Node}, P n → m.Part n → P m) {node : Node} {d : PolicyDocument}
    (h : ofNode node = .ok d) (hnode : P node) : ∀ s ∈ d.statements, s.MadeOf P := by
  intro s hs
  obtain ⟨item, hitem, hread⟩ := exists_part_of_mem_statements h hs
  exact Statement.madeOf_of_ofNode hpart hread (hpart hnode hitem)

end StackAudit
