import StackAudit.Proofs.Resolution.CallForms
import StackAudit.Proofs.Resolution.WellShaped

/-!
# Where the parts of a value come from

Every list or map within the value of a node has one of two origins: it is what a list or a map of
data within the node resolves to, or it is part of a value that a call within the node takes over
whole. The second kind of value is never looked into: it is the value of a parameter or of a
mapping, or the list of the pieces of a text (`Node.origin_of_part`).

## Shape of the proof

`Intrinsic.apply_yields` says once what a call can yield: beside scalars and what is taken over, it
yields nothing but parts of the values of its argument. A function sees its argument as `Argument`,
and `Fn::If` has a value even if the list of its arguments has none. So the induction on the node
is about all outcomes of the node as an argument, and not only about its value.
-/

namespace StackAudit

/-! ## Parts -/

/-- A value is part of another: it is the same, or part of an item or of an entry. -/
inductive Value.Part (w : Value) : Value → Prop where
  | self : Part w w
  | item {items : List Value} {v : Value} : v ∈ items → Part w v → Part w (.list items)
  | entry {entries : List (String × Value)} {e : String × Value} : e ∈ entries → Part w e.2 →
      Part w (.map entries)

/-- A node is part of another: it is the same, or part of an item, of an entry or of the argument
of a call. -/
inductive Node.Part (m : Node) : Node → Prop where
  | self : Part m m
  | item {items : List Node} {n : Node} : n ∈ items → Part m n → Part m (.list items)
  | entry {entries : List (String × Node)} {e : String × Node} : e ∈ entries → Part m e.2 →
      Part m (.map entries)
  | argument (f : Intrinsic) {n : Node} : Part m n → Part m (.call f n)

namespace Value

/-- A list or a map. -/
def isCompound : Value → Bool
  | list _ | map _ => true
  | _ => false

/-- There is only one mark of an absent value. -/
theorem eq_noValue_of_isNoValue {v : Value} (h : v.isNoValue = true) : v = noValue := by
  cases v with
  | string s => rw [noValue, beq_iff_eq.1 h]
  | _ => cases h

/-- A scalar has no part but itself. -/
theorem Part.eq_of_isCompound {w v : Value} (h : w.Part v) (hv : v.isCompound = false) : w = v := by
  cases h with
  | self => rfl
  | item _ _ => cases hv
  | entry _ _ => cases hv

/-- A part of a part is a part. -/
theorem Part.trans {u v w : Value} (hu : u.Part v) (hv : v.Part w) : u.Part w := by
  induction hv with
  | self => exact hu
  | item hitem _ ih => exact .item hitem ih
  | entry he _ ih => exact .entry he ih

end Value

namespace Node

/-- A part of a part is a part. -/
theorem Part.trans {l m n : Node} (hl : l.Part m) (hm : m.Part n) : l.Part n := by
  induction hm with
  | self => exact hl
  | item hitem _ ih => exact .item hitem ih
  | entry he _ ih => exact .entry he ih
  | argument f _ ih => exact .argument f ih

/-- The calls in a part of a node are calls in the node. -/
theorem Part.calls_subset {m n : Node} (h : m.Part n) : m.calls ⊆ n.calls := by
  induction h with
  | self => exact fun _ hcall => hcall
  | item hitem _ ih =>
    intro call hcall
    rw [calls, callsOfItems_eq]
    exact List.mem_flatMap.2 ⟨_, hitem, ih hcall⟩
  | entry he _ ih =>
    intro call hcall
    rw [calls, callsOfEntries_eq]
    exact List.mem_append_right _ (List.mem_flatMap.2 ⟨_, he, ih hcall⟩)
  | argument f _ ih =>
    intro call hcall
    rw [calls]
    exact List.mem_cons_of_mem _ (ih hcall)

/-- Parts of well-formed nodes are well formed. -/
theorem WellFormed.of_part {m n : Node} (hn : n.WellFormed) (h : m.Part n) : m.WellFormed := by
  induction h with
  | self => exact hn
  | item hitem _ ih =>
    cases hn with
    | list hitems => exact ih (hitems _ hitem)
  | entry he _ ih =>
    cases hn with
    | map _ _ hentries => exact ih (hentries _ he)
  | argument f _ ih =>
    cases hn with
    | call _ hargument => exact ih hargument

/-- The parts of a node without calls hold no call. -/
theorem containsCall_of_part {m n : Node} (hn : n.containsCall = false) (h : m.Part n) :
    m.containsCall = false := by
  induction h with
  | self => exact hn
  | item hitem _ ih => exact ih (containsCall_list_eq_false_iff.1 hn _ hitem)
  | entry he _ ih => exact ih (containsCall_map_eq_false_iff.1 hn _ he)
  | argument => cases hn

end Node

/-! ## Calls -/

/-- A value is part of the value of a parameter or of a mapping. -/
inductive Scope.Holds (scope : Scope) (w : Value) : Prop where
  | param {name : String} {value : Value} : scope.params.get? name = some value → w.Part value →
      Holds scope w
  | mapping {name top second : String} {value : Value} :
      scope.mappings.find? name top second = some value → w.Part value → Holds scope w

/-- The outcomes of an argument: its own, or those of its items. -/
def Argument.outcomes : Argument → List Outcome
  | single outcome => [outcome]
  | items outcomes => outcomes

/-- What a call can yield from an argument: a scalar, the value of a parameter or of a mapping, the
pieces of a text, or part of a value of the argument. -/
inductive Intrinsic.Yields (scope : Scope) : Intrinsic → Argument → Value → Prop where
  | scalar {f : Intrinsic} {a : Argument} {v : Value} : v.isCompound = false → Yields scope f a v
  | param {f : Intrinsic} {a : Argument} {name : String} {v : Value} : f = .ref ∨ f = .importValue →
      scope.params.get? name = some v → Yields scope f a v
  | mapping {a : Argument} {name top second : String} {v : Value} :
      scope.mappings.find? name top second = some v → Yields scope .findInMap a v
  | pieces {a : Argument} (texts : List String) : Yields scope .split a (.list (texts.map .string))
  | operand {f : Intrinsic} {a : Argument} {x v : Value} : .ok x ∈ a.outcomes → v.Part x →
      Yields scope f a v

namespace Intrinsic

variable {scope : Scope}

/-- What `Fn::Select` yields is part of the items, or null. -/
theorem part_of_selectOutcome {index items : Outcome} {v : Value}
    (h : selectOutcome index items = .ok v) : v = .null ∨ ∃ x, items = .ok x ∧ v.Part x := by
  obtain ⟨i, -, h⟩ := bind_eq_ok_iff.1 h
  cases hi : i.asInt64? with
  | none =>
    rw [hi] at h
    cases h
  | some place =>
    rw [hi] at h
    obtain ⟨x, rfl, h⟩ := bind_eq_ok_iff.1 h
    cases x with
    | list values =>
      obtain rfl := Except.ok.inj h
      split
      · exact .inl rfl
      · rw [List.getD_eq_getElem?_getD]
        -- an index past the end selects null
        cases hget : values[place.toNat]? with
        | none => exact .inl rfl
        | some value => exact .inr ⟨_, rfl, .item (List.mem_of_getElem? hget) .self⟩
    | _ =>
      obtain rfl := Except.ok.inj h
      exact .inr ⟨_, rfl, .self⟩

/-- A call yields nothing else. -/
theorem apply_yields {f : Intrinsic} {a : Argument} {v : Value} (h : f.apply scope a = .ok v) :
    f.Yields scope a v := by
  have hbool {b : Bool} : f.Yields scope a (.bool b) := .scalar rfl
  cases f with
  | ref | importValue =>
    obtain ⟨name, -, rfl⟩ := map_eq_ok_iff.1 h
    rw [Scope.reference]
    cases hget : scope.params.get? name with
    | none => exact .scalar rfl
    | some value => exact .param (by simp) hget
  | condition | equals | and | or | not =>
    obtain ⟨b, rfl⟩ := Node.eq_bool_of_apply (by simp) h
    exact hbool
  | base64 =>
    obtain ⟨text, -, rfl⟩ := map_eq_ok_iff.1 h
    exact .scalar rfl
  | getAtt | getAZs =>
    cases h
    exact .scalar rfl
  | join =>
    obtain ⟨delimiter, items, rfl⟩ := exists_pair_of_apply rfl h
    obtain ⟨d, -, h⟩ := bind_eq_ok_iff.1 h
    obtain ⟨x, -, h⟩ := bind_eq_ok_iff.1 h
    cases h
    exact .scalar rfl
  | split =>
    obtain ⟨delimiter, source, rfl⟩ := exists_pair_of_apply rfl h
    obtain ⟨d, -, h⟩ := bind_eq_ok_iff.1 h
    obtain ⟨s, -, h⟩ := bind_eq_ok_iff.1 h
    cases h
    exact .pieces _
  | select =>
    obtain ⟨index, items, rfl⟩ := exists_pair_of_apply rfl h
    rcases part_of_selectOutcome h with rfl | ⟨x, rfl, hpart⟩
    · exact .scalar rfl
    · exact .operand (List.mem_cons_of_mem _ List.mem_cons_self) hpart
  | findInMap =>
    obtain ⟨name, top, second, rfl⟩ := exists_triple_of_apply rfl h
    obtain ⟨n, -, h⟩ := bind_eq_ok_iff.1 h
    obtain ⟨t, -, h⟩ := bind_eq_ok_iff.1 h
    obtain ⟨s, -, h⟩ := bind_eq_ok_iff.1 h
    obtain rfl := Except.ok.inj h
    rw [Scope.mapping]
    cases hfind : scope.mappings.find? n.text t.text s.text with
    | none => exact .scalar rfl
    | some value => exact .mapping hfind
  | ifElse =>
    obtain ⟨name, whenTrue, whenFalse, rfl⟩ := exists_triple_of_apply rfl h
    obtain ⟨n, -, h⟩ := bind_eq_ok_iff.1 h
    -- the branch that is taken is an outcome of its own, whatever the other one is
    split at h
    · exact .operand (by simp [Argument.outcomes, h]) .self
    · exact .operand (by simp [Argument.outcomes, h]) .self
  | sub =>
    -- `Fn::Sub` makes a text in each of its forms
    have hfilled {template bound : Outcome} (h : subOutcome scope template bound = .ok v) :
        v.isCompound = false := by
      obtain ⟨t, -, h⟩ := bind_eq_ok_iff.1 h
      obtain ⟨b, -, h⟩ := bind_eq_ok_iff.1 h
      cases b <;> cases h
      rfl
    cases a with
    | single template => exact .scalar (hfilled h)
    | items outcomes =>
      cases outcomes with
      | nil => cases h
      | cons template rest =>
        cases rest with
        | nil => exact .scalar (hfilled h)
        | cons bound rest =>
          cases rest with
          | nil => exact .scalar (hfilled h)
          | cons _ _ => cases h

end Intrinsic

/-! ## Origins -/

namespace Node

variable {scope : Scope}

/-- A call within a node takes over a value whole: that of a parameter or of a mapping, or the list
of the pieces of a text. -/
inductive Brings (scope : Scope) (n : Node) (x : Value) : Prop where
  | param {f : Intrinsic} {argument : Node} {name : String} : (f, argument) ∈ n.calls →
      f = .ref ∨ f = .importValue → (call f argument).resolve scope = .ok x →
      scope.params.get? name = some x → Brings scope n x
  | mapping {argument : Node} {name top second : String} : (.findInMap, argument) ∈ n.calls →
      (call .findInMap argument).resolve scope = .ok x →
      scope.mappings.find? name top second = some x → Brings scope n x
  | pieces {argument : Node} (texts : List String) : (.split, argument) ∈ n.calls →
      (call .split argument).resolve scope = .ok x → x = .list (texts.map .string) →
      Brings scope n x

/-- A list, or a map that stands for no call. -/
def IsData : Node → Prop
  | list _ => True
  | map entries => callOf? entries = none
  | _ => False

/-- A value is part of what a call within a node takes over, or data within the node resolves to it.
-/
def Origin (scope : Scope) (n : Node) (w : Value) : Prop :=
  (∃ x, n.Brings scope x ∧ w.Part x) ∨ ∃ m : Node, m.Part n ∧ m.IsData ∧ m.resolve scope = .ok w

/-- What a call within a part takes over, a call within the node takes over. -/
theorem Brings.of_part {m n : Node} {x : Value} (h : m.Brings scope x) (hm : m.Part n) :
    n.Brings scope x := by
  cases h with
  | param hcall hf hx hget => exact .param (hm.calls_subset hcall) hf hx hget
  | mapping hcall hx hfind => exact .mapping (hm.calls_subset hcall) hx hfind
  | pieces texts hcall hx htexts => exact .pieces texts (hm.calls_subset hcall) hx htexts

/-- An origin in a part of a node is an origin in the node. -/
theorem Origin.of_part {m n : Node} {w : Value} (h : m.Origin scope w) (hm : m.Part n) :
    n.Origin scope w := by
  rcases h with ⟨x, hx, hw⟩ | ⟨l, hl, hdata, hw⟩
  · exact .inl ⟨x, hx.of_part hm, hw⟩
  · exact .inr ⟨l, hl.trans hm, hdata, hw⟩

/-- All lists and maps within the outcomes of a node as an argument have an origin in the node. -/
def Traced (scope : Scope) (n : Node) : Prop :=
  ∀ x, .ok x ∈ (n.evaluate scope).outcomes → ∀ w : Value, w.Part x → w.isCompound = true →
    n.Origin scope w

/-- What is traced has a traced value. -/
theorem Traced.origin {n : Node} (h : n.Traced scope) {v w : Value} (hv : n.resolve scope = .ok v)
    (hw : w.Part v) (hcompound : w.isCompound = true) : n.Origin scope w := by
  cases hlist : n.asList? with
  | none =>
    refine h v ?_ w hw hcompound
    rw [evaluate_of_asList? hlist, hv]
    exact List.mem_singleton_self _
  | some items =>
    -- a list has no outcome of its own as an argument, so its items are asked instead
    obtain rfl : n = .list items := by
      cases n <;> cases hlist
      rfl
    have hall := hv
    obtain ⟨values, hrow, rfl⟩ := resolve_list_eq_ok_iff.1 hv
    cases hw with
    | self => exact .inr ⟨_, .self, trivial, hall⟩
    | item hitem hpart =>
      obtain ⟨item, hmem, hresolve⟩ := exists_of_mem_right hrow (List.mem_of_mem_filter hitem)
      refine h _ ?_ w hpart hcompound
      rw [evaluate, evaluateItems_eq, ← hresolve]
      exact List.mem_map_of_mem hmem

/-- What a call yields from a traced argument has an origin in the call. -/
theorem Traced.origin_of_apply {f : Intrinsic} {argument n : Node} (h : argument.Traced scope)
    (hcall : (f, argument) ∈ n.calls) (hargument : argument.Part n) {x w : Value}
    (hx : (call f argument).resolve scope = .ok x) (hw : w.Part x)
    (hcompound : w.isCompound = true) : n.Origin scope w := by
  cases Intrinsic.apply_yields hx with
  | scalar hscalar =>
    obtain rfl := hw.eq_of_isCompound hscalar
    cases hcompound.symm.trans hscalar
  | param hf hget => exact .inl ⟨x, .param hcall hf hx hget, hw⟩
  | mapping hfind => exact .inl ⟨x, .mapping hcall hx hfind, hw⟩
  | pieces texts => exact .inl ⟨_, .pieces texts hcall hx rfl, hw⟩
  | operand hmem hpart => exact (h _ hmem w (hw.trans hpart) hcompound).of_part hargument

/-- A scalar has no list and no map in it, so there is nothing to trace. -/
theorem traced_of_scalar {n : Node} {v : Value} (hn : n.evaluate scope = .single (.ok v))
    (hv : v.isCompound = false) : n.Traced scope := by
  intro x hx w hw hcompound
  rw [hn] at hx
  obtain rfl := Except.ok.inj (List.mem_singleton.1 hx)
  obtain rfl := hw.eq_of_isCompound hv
  cases hcompound.symm.trans hv

/-- What data resolves to has its origin in the data if the nodes in it are traced. -/
theorem origin_of_data {entries : List (String × Node)} (hdata : callOf? entries = none)
    (h : ∀ e ∈ entries, e.2.Traced scope) {x w : Value}
    (hx : (map entries).resolve scope = .ok x) (hw : w.Part x) (hcompound : w.isCompound = true) :
    (map entries).Origin scope w := by
  have hall := hx
  obtain ⟨values, hrow, rfl⟩ := (resolve_data_eq_ok_iff hdata).1 hx
  cases hw with
  | self => exact .inr ⟨_, .self, hdata, hall⟩
  | entry he hpart =>
    have hmem := List.mem_of_mem_filter (Entries.mem_of_mem_sort he)
    obtain ⟨entry, hentry, -, hresolve⟩ := exists_of_mem_right hrow hmem
    exact ((h entry hentry).origin hresolve hpart hcompound).of_part (.entry hentry .self)

/-- Every node is traced. -/
theorem traced (n : Node) : n.Traced scope := by
  induction n using Node.induct with
  | null | bool | number | string | date => exact traced_of_scalar rfl rfl
  | list items ih =>
    intro x hx w hw hcompound
    rw [evaluate, evaluateItems_eq] at hx
    obtain ⟨item, hitem, hresolve⟩ := List.mem_map.1 hx
    exact ((ih item hitem).origin hresolve hw hcompound).of_part (.item hitem .self)
  | map entries ih =>
    intro x hx w hw hcompound
    have hresolve : (map entries).resolve scope = .ok x := (List.mem_singleton.1 hx).symm
    cases hcall : callOf? entries with
    | none => exact origin_of_data hcall ih hresolve hw hcompound
    | some call =>
      obtain ⟨f, argument⟩ := call
      obtain rfl := callOf?_eq_some_iff.1 hcall
      -- a map that stands for a call yields what the call yields, from the node of its entry
      rw [resolve_map_name] at hresolve
      refine (ih _ List.mem_cons_self).origin_of_apply ?_ (.entry List.mem_cons_self .self) hresolve
        hw hcompound
      rw [calls, hcall]
      exact List.mem_cons_self
  | call f argument ih =>
    intro x hx w hw hcompound
    have hresolve : (call f argument).resolve scope = .ok x := (List.mem_singleton.1 hx).symm
    refine ih.origin_of_apply ?_ (.argument f .self) hresolve hw hcompound
    rw [calls]
    exact List.mem_cons_self

/-- Every list or map within the value of a node is part of what a call in the node takes over
whole, or it is what data within the node resolves to. -/
theorem origin_of_part {n : Node} {v w : Value} (hv : n.resolve scope = .ok v) (hw : w.Part v)
    (hcompound : w.isCompound = true) : n.Origin scope w :=
  n.traced.origin hv hw hcompound

/-- A map that is taken over is part of the value of a parameter or of a mapping: the pieces of a
text are strings. -/
theorem Brings.holds_map {n : Node} {x : Value} {entries : List (String × Value)}
    (h : n.Brings scope x) (hw : (Value.map entries).Part x) : scope.Holds (.map entries) := by
  cases h with
  | param _ _ _ hget => exact .param hget hw
  | mapping _ _ hfind => exact .mapping hfind hw
  | pieces texts _ _ htexts =>
    subst htexts
    cases hw with
    | item hitem hpart =>
      obtain ⟨text, -, rfl⟩ := List.mem_map.1 hitem
      cases hpart.eq_of_isCompound rfl

end Node

end StackAudit
