import StackAudit.Proofs.Template.Marks

/-!
# Resolving data without calls

A node without calls has a value of its own. All that resolution does to it is to leave out the
items and entries that are marked as absent, at every depth (`Value.pruned`), and the scope makes no
difference. So the node resolves to its own value exactly if no list and no map in it holds the mark
(`Node.resolve_eq_pruned`).
-/

namespace StackAudit

/-- What is left of a row, each place changed, is the row itself exactly if every place is left and
none changes. -/
theorem map_filter_eq_self_iff {α : Type} {keep : α → Bool} {f : α → α} {xs : List α} :
    (xs.filter keep).map f = xs ↔ ∀ x ∈ xs, keep x = true ∧ f x = x := by
  have hmap : xs.map f = xs ↔ ∀ x ∈ xs, f x = x := by
    simpa using List.map_inj_left (l := xs) (f := f) (g := id)
  constructor
  · intro h x hx
    -- a row of the same length has lost nothing
    have hlength : (xs.filter keep).length = xs.length := by rw [← List.length_map f, h]
    have hkeep := List.length_filter_eq_length_iff.1 hlength
    rw [List.filter_eq_self.2 hkeep] at h
    exact ⟨hkeep x hx, hmap.1 h x hx⟩
  · intro h
    rw [List.filter_eq_self.2 fun x hx => (h x hx).1]
    exact hmap.2 fun x hx => (h x hx).2

/-! ## Values without their marked parts -/

namespace Value

mutual

/-- A value without the items and entries that are marked as absent, at every depth. -/
def pruned : Value → Value
  | list items => list (prunedItems items)
  | map entries => map (prunedEntries entries)
  | value => value

/-- The items of a list without those that are marked. -/
def prunedItems : List Value → List Value
  | [] => []
  | item :: rest => if item.isNoValue then prunedItems rest else item.pruned :: prunedItems rest

/-- The entries of a map without those that are marked. -/
def prunedEntries : List (String × Value) → List (String × Value)
  | [] => []
  | (name, value) :: rest =>
    if value.isNoValue then prunedEntries rest else (name, value.pruned) :: prunedEntries rest

end

/-- A list is pruned by leaving out the marked items and pruning the others. -/
theorem pruned_list (items : List Value) :
    (list items).pruned = list ((items.filter (!·.isNoValue)).map pruned) := by
  have hitems : prunedItems items = (items.filter (!·.isNoValue)).map pruned := by
    induction items with
    | nil => rfl
    | cons item rest ih =>
      rw [prunedItems, ih, List.filter_cons]
      cases item.isNoValue <;> rfl
  rw [pruned, hitems]

/-- A map is pruned by leaving out the marked entries and pruning the others. -/
theorem pruned_map (entries : List (String × Value)) :
    (map entries).pruned =
      map ((entries.filter (!·.2.isNoValue)).map fun e => (e.1, e.2.pruned)) := by
  have hentries : prunedEntries entries =
      (entries.filter (!·.2.isNoValue)).map fun e => (e.1, e.2.pruned) := by
    induction entries with
    | nil => rfl
    | cons e rest ih =>
      rw [prunedEntries, ih, List.filter_cons]
      cases e.2.isNoValue <;> rfl
  rw [pruned, hentries]

/-- Pruning does not touch the mark itself. -/
@[simp]
theorem isNoValue_pruned (v : Value) : v.pruned.isNoValue = v.isNoValue := by
  cases v <;> rfl

/-- It makes no difference whether the marked items are left out first or last. -/
theorem filter_map_pruned (items : List Value) :
    (items.map pruned).filter (!·.isNoValue) = (items.filter (!·.isNoValue)).map pruned := by
  have hmarked : (!·.isNoValue) ∘ pruned = (!·.isNoValue) := by
    funext v
    simp
  rw [List.filter_map, hmarked]

/-- It makes no difference whether the marked entries are left out first or last. -/
theorem filter_mapEntries_pruned (entries : List (String × Value)) :
    (entries.map fun e => (e.1, e.2.pruned)).filter (!·.2.isNoValue) =
      (entries.filter (!·.2.isNoValue)).map fun e => (e.1, e.2.pruned) := by
  have hmarked : (!·.2.isNoValue) ∘ (fun e : String × Value => (e.1, e.2.pruned)) =
      (!·.2.isNoValue) := by
    funext e
    simp
  rw [List.filter_map, hmarked]

/-- No list and no map that is left holds the mark. -/
theorem not_holdsMark_of_part_pruned {v w : Value} (h : w.Part v.pruned) : ¬w.HoldsMark := by
  induction v using Value.induct with
  | null | bool | number | string | date =>
    obtain rfl := h.eq_of_isCompound rfl
    exact id
  | list items ih =>
    -- pruned first and filtered last, so that what is left is visibly without marks
    rw [pruned_list, ← filter_map_pruned] at h
    cases h with
    | self => exact not_holdsMark_list_filter _
    | item hmem hpart =>
      obtain ⟨item, hitem, rfl⟩ := List.mem_map.1 (List.mem_filter.1 hmem).1
      exact ih item hitem hpart
  | map entries ih =>
    rw [pruned_map, ← filter_mapEntries_pruned] at h
    cases h with
    | self => exact not_holdsMark_map_filter _
    | entry hmem hpart =>
      obtain ⟨e, he, rfl⟩ := List.mem_map.1 (List.mem_filter.1 hmem).1
      exact ih e he hpart

end Value

/-! ## Nodes that hold the mark -/

namespace Node

/-- The mark of an absent value. -/
def isMark (n : Node) : Bool := n.asString? == some Value.noValueText

/-- An item of the list or an entry of the map is the mark. -/
def HoldsMark : Node → Prop
  | list items => ∃ item ∈ items, item.isMark = true
  | map entries => ∃ e ∈ entries, e.2.isMark = true
  | _ => False

/-- Only the mark has a value that is marked as absent. -/
theorem isNoValue_of_toValue? {n : Node} {v : Value} (h : n.toValue? = some v) :
    v.isNoValue = n.isMark := by
  cases n with
  | call => cases h
  | list | map =>
    obtain ⟨_, -, rfl⟩ := Option.map_eq_some_iff.1 h
    rfl
  | _ => cases h; rfl

/-- What is said of all parts of a list is said of the list and of all parts of its items. -/
theorem forall_part_list_iff {P : Node → Prop} {items : List Node} :
    (∀ m : Node, m.Part (list items) → P m) ↔
      P (list items) ∧ ∀ item ∈ items, ∀ m : Node, m.Part item → P m := by
  constructor
  · intro h
    exact ⟨h _ .self, fun item hitem m hm => h m (.item hitem hm)⟩
  · rintro ⟨hself, hitems⟩ m hm
    cases hm with
    | self => exact hself
    | item hitem hpart => exact hitems _ hitem m hpart

/-- What is said of all parts of a map is said of the map and of all parts of its entries. -/
theorem forall_part_map_iff {P : Node → Prop} {entries : List (String × Node)} :
    (∀ m : Node, m.Part (map entries) → P m) ↔
      P (map entries) ∧ ∀ e ∈ entries, ∀ m : Node, m.Part e.2 → P m := by
  constructor
  · intro h
    exact ⟨h _ .self, fun e he m hm => h m (.entry he hm)⟩
  · rintro ⟨hself, hentries⟩ m hm
    cases hm with
    | self => exact hself
    | entry he hpart => exact hentries _ he m hpart

/-- Nothing is left out of the value of a node in which no list and no map holds the mark. -/
theorem pruned_eq_self_iff {n : Node} (hform : n.WellFormed) {v : Value}
    (hv : n.toValue? = some v) : v.pruned = v ↔ ∀ m : Node, m.Part n → ¬m.HoldsMark := by
  induction n using Node.induct generalizing v with
  | null | bool | number | string | date =>
    cases hv
    refine iff_of_true rfl fun m hm => ?_
    cases hm
    exact id
  | call => cases hv
  | list items ih =>
    obtain ⟨values, hvalues, rfl⟩ := Option.map_eq_some_iff.1 hv
    cases hform with
    | list hitems =>
    have hrow := (List.forall₂_and_left (p := (· ∈ items)) items values).2
      ⟨fun _ h => h, toValues?_eq_some_iff.1 hvalues⟩
    -- an item is kept if it is not the mark, and is as before if nothing within it is marked
    have hplaces :
        (∀ item ∈ items, item.isMark = false ∧ ∀ m : Node, m.Part item → ¬m.HoldsMark) ↔
          ∀ v ∈ values, (!v.isNoValue) = true ∧ v.pruned = v := by
      refine forall_mem_iff_of_forall₂ hrow fun item v h => ?_
      rw [isNoValue_of_toValue? h.2, ih item h.1 (hitems item h.1) h.2, Bool.not_eq_true']
    rw [forall_part_list_iff, Value.pruned_list, Value.list.injEq, map_filter_eq_self_iff,
      ← hplaces]
    simp [HoldsMark, forall_and]
  | map entries ih =>
    obtain ⟨values, hvalues, rfl⟩ := Option.map_eq_some_iff.1 hv
    have hentries := toValueEntries?_eq_some_iff.1 hvalues
    cases hform with
    | map _ hnames hnodes =>
    have hrow := (List.forall₂_and_left (p := (· ∈ entries)) entries values).2
      ⟨fun _ h => h, hentries⟩
    have hplaces :
        (∀ e ∈ entries, e.2.isMark = false ∧ ∀ m : Node, m.Part e.2 → ¬m.HoldsMark) ↔
          ∀ v ∈ values, (!v.2.isNoValue) = true ∧ (v.1, v.2.pruned) = v := by
      refine forall_mem_iff_of_forall₂ hrow fun e v h => ?_
      rw [isNoValue_of_toValue? h.2.2, Prod.ext_iff, ih e h.1 (hnodes e h.1) h.2.2,
        Bool.not_eq_true']
      simp
    -- names are distinct, so sorting loses no entry that could be marked
    have hsorted (v : String × Value) : v ∈ Entries.sort values ↔ v ∈ values := by
      have hdistinct : (values.map Prod.fst).Nodup := by rwa [map_fst_eq_of_forall₂ hentries]
      exact (Entries.perm_sort hdistinct).mem_iff
    rw [forall_part_map_iff, Value.pruned_map, Value.map.injEq, map_filter_eq_self_iff]
    simp only [hsorted, ← hplaces]
    simp [HoldsMark, forall_and]

/-! ## Resolution -/

/-- A node without calls resolves to its value without the marked parts. -/
theorem resolve_of_toValue? {n : Node} (hform : n.WellFormed) {v : Value}
    (hv : n.toValue? = some v) (scope : Scope) : n.resolve scope = .ok v.pruned := by
  induction n using Node.induct generalizing v with
  | null | bool | number | string | date => cases hv; rfl
  | call => cases hv
  | list items ih =>
    obtain ⟨values, hvalues, rfl⟩ := Option.map_eq_some_iff.1 hv
    cases hform with
    | list hitems =>
    refine resolve_list_eq_ok_iff.2 ⟨values.map Value.pruned, ?_, ?_⟩
    · refine (forall₂_congr_left (toValues?_eq_some_iff.1 hvalues)
        (Q := fun v c => v.pruned = c) fun item hitem v hv c => ?_).2 ?_
      · rw [ih item hitem (hitems item hitem) hv, Except.ok.injEq]
      · simp [List.forall₂_map_right_iff, List.forall₂_same]
    · rw [Value.pruned_list, Value.filter_map_pruned]
  | map entries ih =>
    obtain ⟨values, hvalues, rfl⟩ := Option.map_eq_some_iff.1 hv
    have hrow := toValueEntries?_eq_some_iff.1 hvalues
    cases hform with
    | map hdata hnames hnodes =>
    have hdistinct : (values.map Prod.fst).Nodup := by rwa [map_fst_eq_of_forall₂ hrow]
    refine (resolve_data_eq_ok_iff hdata).2
      ⟨values.map fun e => (e.1, e.2.pruned), ?_, ?_⟩
    · refine (forall₂_congr_left hrow
        (Q := fun v c => c = (v.1, v.2.pruned)) fun e he v hv c => ?_).2 ?_
      · rw [ih e he (hnodes e he) hv.2, Except.ok.injEq, hv.1, Prod.ext_iff, eq_comm (a := c.2)]
      · simp [List.forall₂_map_right_iff, List.forall₂_same]
    · rw [Value.pruned_map, ← Entries.sort_map_filter hdistinct, Value.filter_mapEntries_pruned]

/-- What is left of a list are the values of its other items, in their order. -/
theorem exists_resolve_list_eq_ok {items : List Node} (hform : (list items).WellFormed)
    (hcall : (list items).containsCall = false) (scope : Scope) :
    ∃ values, (list items).resolve scope = .ok (.list values) ∧
      List.Forall₂ (fun item v => item.resolve scope = .ok v) (items.filter (!·.isMark))
        values := by
  obtain ⟨v, hv⟩ := exists_toValue?_eq_some hcall
  have hresolve := resolve_of_toValue? hform hv scope
  obtain ⟨values, hvalues, rfl⟩ := Option.map_eq_some_iff.1 hv
  rw [Value.pruned_list] at hresolve
  refine ⟨_, hresolve, List.forall₂_map_right_iff.2 ?_⟩
  cases hform with
  | list hitems =>
  have hrow := (List.forall₂_and_left items values).2 ⟨hitems, toValues?_eq_some_iff.1 hvalues⟩
  -- item and value are marked together, so the two rows lose the same places
  have hpresent := List.rel_filter (p := (!·.isMark)) (q := (!·.isNoValue))
    (fun item v h => by simp [isNoValue_of_toValue? h.2]) hrow
  exact hpresent.imp fun item v h => resolve_of_toValue? h.1 h.2 scope

/-- In every scope a node without calls resolves to its own value without the marked items and
entries. Then no list and no map holds the mark, and what is left of a list keeps its order. Nothing
is left out exactly if no list and no map in the node holds the mark. -/
theorem resolve_eq_pruned {n : Node} (hform : n.WellFormed) (hcall : n.containsCall = false) :
    ∃ v, n.toValue? = some v ∧ (∀ scope, n.resolve scope = .ok v.pruned) ∧
      (∀ w : Value, w.Part v.pruned → ¬w.HoldsMark) ∧
      (∀ items, (list items).Part n → ∀ scope, ∃ values,
        (list items).resolve scope = .ok (.list values) ∧
          List.Forall₂ (fun item v => item.resolve scope = .ok v) (items.filter (!·.isMark))
            values) ∧
      (v.pruned = v ↔ ∀ m : Node, m.Part n → ¬m.HoldsMark) := by
  obtain ⟨v, hv⟩ := exists_toValue?_eq_some hcall
  refine ⟨v, hv, resolve_of_toValue? hform hv, fun w => Value.not_holdsMark_of_part_pruned, ?_,
    pruned_eq_self_iff hform hv⟩
  intro items hpart scope
  exact exists_resolve_list_eq_ok (hform.of_part hpart) (containsCall_of_part hcall hpart) scope

/-- A shelf with a lamp and a condition that are marked in part. -/
def shelf : Json :=
  .obj [("Lamp", .str "AWS::NoValue"),
    ("Condition", .arr [.str "worn", .str "AWS::NoValue",
      .obj [("Spine", .null), ("Cover", .str "AWS::NoValue")], .str "AWS::Region"])]

/-- The marked parts of the shelf are left out in every scope. What is left looks like a call. -/
theorem resolve_eq_pruned_shelf :
    (ofJson shelf).WellFormed ∧ (ofJson shelf).containsCall = false ∧
      (∀ scope, (ofJson shelf).resolve scope = .ok (.map [("Condition",
        .list [.string "worn", .map [("Spine", .null)], .string "AWS::Region"])])) ∧
      ∃ m : Node, m.Part (ofJson shelf) ∧ m.HoldsMark := by
  have hform : (ofJson shelf).WellFormed := wellFormed_ofJson (by simp [shelf])
  obtain ⟨v, hv, hresolve, -, -, hself⟩ := resolve_eq_pruned hform rfl
  obtain rfl : Value.map [("Condition", .list [.string "worn", .noValue,
      .map [("Cover", .noValue), ("Spine", .null)], .string "AWS::Region"]), ("Lamp", .noValue)] =
        v := Option.some.inj hv
  refine ⟨hform, rfl, hresolve, ?_⟩
  by_contra hnone
  have hwhole := hself.2 fun m hm hmark => hnone ⟨m, hm, hmark⟩
  cases hwhole

end Node

end StackAudit
