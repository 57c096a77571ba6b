import StackAudit.Proofs.Calls
import StackAudit.Proofs.Json.Distinct
import StackAudit.Proofs.Sequencing

/-!
# Data, part by part

A map that is data resolves to the map of what its entries resolve to, without those that are
absent; a list resolves likewise to the list of its items. `Node.EntryResolves` relates what a map
has under a name to what its value has under that name, and `Node.resolve_map_eq_ok` says that this
holds for all names at once. It takes a node whose maps are data and have distinct names
(`Node.WellFormed`), as every node of JSON is.
-/

namespace StackAudit.Node

/-! ## Well-formed nodes -/

/-- Every map within a node is data and has distinct names. -/
inductive WellFormed : Node → Prop where
  | null : WellFormed .null
  | bool (b : Bool) : WellFormed (.bool b)
  | number (n : Numeral) : WellFormed (.number n)
  | string (s : String) : WellFormed (.string s)
  | date (t : Instant) : WellFormed (.date t)
  | list {items : List Node} : (∀ item ∈ items, item.WellFormed) → WellFormed (.list items)
  | map {entries : List (String × Node)} : callOf? entries = none →
      (entries.map Prod.fst).Nodup → (∀ e ∈ entries, e.2.WellFormed) → WellFormed (.map entries)
  | call (function : Intrinsic) {argument : Node} : argument.WellFormed →
      WellFormed (.call function argument)

/-- The node of an object has the names of the object. -/
theorem map_fst_ofJsonMembers (members : List (String × Json)) :
    (ofJsonMembers members).map Prod.fst = members.map Prod.fst := by
  induction members with
  | nil => rfl
  | cons m rest ih => rw [ofJsonMembers, List.map_cons, List.map_cons, ih]

/-- Entries with distinct names and well-formed nodes make a well-formed map or call. -/
theorem wellFormed_ofEntries {entries : List (String × Node)}
    (hnames : (entries.map Prod.fst).Nodup) (hnodes : ∀ e ∈ entries, e.2.WellFormed) :
    (ofEntries entries).WellFormed := by
  match entries with
  | [] => exact .map rfl hnames hnodes
  | [(name, argument)] =>
    rw [ofEntries]
    split
    · exact .call _ (hnodes _ List.mem_cons_self)
    · -- the name of a single entry decides whether it is a call or data
      next hname => exact .map (by rw [callOf?, hname, Option.map_none]) hnames hnodes
  | _ :: _ :: _ => exact .map rfl hnames hnodes

mutual

/-- The node of a JSON value with distinct members is well formed. -/
theorem wellFormed_ofJson : ∀ {json : Json}, json.Distinct → (ofJson json).WellFormed
  | .null, _ => .null
  | .bool b, _ => .bool b
  | .num n, _ => .number n
  | .str s, _ => .string s
  | .arr items, .arr h => .list (wellFormed_ofJsonItems h)
  | .obj members, .obj hnames h => by
    rw [ofJson]
    refine wellFormed_ofEntries ?_ (wellFormed_ofJsonMembers h)
    rwa [map_fst_ofJsonMembers]

/-- The nodes of items with distinct members are well formed. -/
theorem wellFormed_ofJsonItems : ∀ {items : List Json}, (∀ item ∈ items, item.Distinct) →
    ∀ node ∈ ofJsonItems items, node.WellFormed
  | [], _, _, hnode => nomatch hnode
  | item :: rest, h, node, hnode => by
    rcases List.mem_cons.1 hnode with rfl | hnode
    · exact wellFormed_ofJson (h item List.mem_cons_self)
    · exact wellFormed_ofJsonItems (fun j hj => h j (List.mem_cons_of_mem item hj)) node hnode

/-- The nodes of members with distinct members are well formed. -/
theorem wellFormed_ofJsonMembers : ∀ {members : List (String × Json)},
    (∀ m ∈ members, m.2.Distinct) → ∀ e ∈ ofJsonMembers members, e.2.WellFormed
  | [], _, _, he => nomatch he
  | (name, json) :: rest, h, e, he => by
    rcases List.mem_cons.1 he with rfl | he
    · exact wellFormed_ofJson (h (name, json) List.mem_cons_self)
    · exact wellFormed_ofJsonMembers (fun m hm => h m (List.mem_cons_of_mem _ hm)) e he

end

/-- What a well-formed map has under a name is well formed. -/
theorem WellFormed.of_lookup {entries : List (String × Node)} (h : (Node.map entries).WellFormed)
    {name : String} {node : Node} (hnode : entries.lookup name = some node) : node.WellFormed := by
  cases h with
  | map _ hnames hnodes => exact hnodes _ ((Entries.lookup_eq_some_iff_mem hnames).1 hnode)

/-- The elements of a well-formed node are well formed. -/
theorem WellFormed.of_mem_elements {n item : Node} (h : n.WellFormed) (hitem : item ∈ n.elements) :
    item.WellFormed := by
  cases n with
  | list items =>
    cases h with
    | list h => exact h item hitem
  | _ =>
    obtain rfl := List.mem_singleton.1 hitem
    exact h

/-! ## Values as nodes -/

/-- The nodes of the items, item by item. -/
theorem ofValues_eq (items : List Value) : ofValues items = items.map ofValue := by
  induction items with
  | nil => rfl
  | cons item rest ih => simp [ofValues, ih]

/-- The nodes of the entries under their names. -/
theorem ofValueEntries_eq (entries : List (String × Value)) :
    ofValueEntries entries = entries.map fun e => (e.1, ofValue e.2) := by
  induction entries with
  | nil => rfl
  | cons e rest ih => rw [ofValueEntries, ih, List.map_cons]

/-- The node of an entry is found under the name of the entry. -/
theorem lookup_ofValueEntries (entries : List (String × Value)) (name : String) :
    (ofValueEntries entries).lookup name = (entries.lookup name).map ofValue := by
  induction entries with
  | nil => rfl
  | cons e rest ih =>
    rw [ofValueEntries, Entries.lookup_cons_ite, Entries.lookup_cons_ite, ih]
    split <;> rfl

/-- A value and its node have the same elements. -/
theorem elements_ofValue (v : Value) : (ofValue v).elements = v.elements.map ofValue := by
  cases v with
  | list items => exact ofValues_eq items
  | _ => rfl

/-- A value and its node are the same string or are both none. -/
theorem asString?_ofValue (v : Value) : (ofValue v).asString? = v.asString? := by
  cases v <;> rfl

/-- The node of a value holds no call. -/
theorem containsCall_ofValue (v : Value) : (ofValue v).containsCall = false := by
  induction v using Value.induct with
  | null | bool | number | string | date => rfl
  | list items ih =>
    rw [ofValue, ofValues_eq]
    exact containsCall_list_eq_false_iff.2 (List.forall_mem_map.2 ih)
  | map entries ih =>
    rw [ofValue, ofValueEntries_eq]
    exact containsCall_map_eq_false_iff.2 (List.forall_mem_map.2 ih)

/-! ## Nodes as values -/

/-- A node without calls has a value. -/
theorem exists_toValue?_eq_some {n : Node} (h : n.containsCall = false) :
    ∃ v, n.toValue? = some v := by
  rw [← Option.isSome_iff_exists, isSome_toValue?, h, Bool.not_false]

/-- Items have values in a row. -/
theorem toValues?_eq (items : List Node) : toValues? items = items.mapM toValue? := by
  induction items with
  | nil => rfl
  | cons item rest ih => rw [toValues?, ih, List.mapM_cons]

/-- Entries have values in a row, under their names. -/
theorem toValueEntries?_eq (entries : List (String × Node)) :
    toValueEntries? entries = entries.mapM fun e => e.2.toValue?.map (e.1, ·) := by
  induction entries with
  | nil => rfl
  | cons e rest ih =>
    rw [toValueEntries?, ih, List.mapM_cons]
    cases e.2.toValue? <;> rfl

/-- The values of the items of a list, one by one. -/
theorem toValues?_eq_some_iff {items : List Node} {values : List Value} :
    toValues? items = some values ↔
      List.Forall₂ (fun item v => item.toValue? = some v) items values := by
  rw [toValues?_eq, mapM_eq_some_iff]

/-- The values of the entries of a map, one by one. -/
theorem toValueEntries?_eq_some_iff {entries : List (String × Node)}
    {values : List (String × Value)} :
    toValueEntries? entries = some values ↔
      List.Forall₂ (fun e v => v.1 = e.1 ∧ e.2.toValue? = some v.2) entries values := by
  have hentry (e : String × Node) (v : String × Value) :
      e.2.toValue?.map (e.1, ·) = some v ↔ v.1 = e.1 ∧ e.2.toValue? = some v.2 := by
    rw [Option.map_eq_some_iff]
    constructor
    · rintro ⟨value, hvalue, rfl⟩
      exact ⟨rfl, hvalue⟩
    · rintro ⟨hname, hvalue⟩
      exact ⟨v.2, hvalue, by rw [← hname]⟩
  simp only [toValueEntries?_eq, mapM_eq_some_iff, hentry]

/-! ## Maps -/

/-- What a map and its value have under one name: nothing both, or a node and its value, or a node
whose value is absent. -/
inductive EntryResolves (scope : Scope) : Option Node → Option Value → Prop where
  | missing : EntryResolves scope none none
  | absent {node : Node} {value : Value} : node.resolve scope = .ok value →
      value.isNoValue = true → EntryResolves scope (some node) none
  | present {node : Node} {value : Value} : node.resolve scope = .ok value →
      value.isNoValue = false → EntryResolves scope (some node) (some value)

/-- Under a name that a map does not have its value has nothing. -/
theorem EntryResolves.eq_none {scope : Scope} {v : Option Value}
    (h : EntryResolves scope none v) : v = none := by
  cases h with
  | missing => rfl

/-- Entries resolve name by name once absent values are left out. -/
theorem entryResolves_filter {scope : Scope} {entries : List (String × Node)}
    {values : List (String × Value)}
    (h : List.Forall₂ (fun e v => v.1 = e.1 ∧ e.2.resolve scope = .ok v.2) entries values)
    (hnames : (entries.map Prod.fst).Nodup) (name : String) :
    EntryResolves scope (entries.lookup name) ((values.filter (!·.2.isNoValue)).lookup name) := by
  induction h with
  | nil => exact .missing
  | @cons e v rest others hhead hrest ih =>
    obtain ⟨hname, hvalue⟩ := hhead
    obtain ⟨hnot, hdistinct⟩ := List.nodup_cons.1 hnames
    have htail := ih hdistinct
    rw [Entries.lookup_cons_ite]
    by_cases heq : name = e.1
    · rw [if_pos heq]
      cases hmark : v.2.isNoValue with
      | false =>
        rw [List.filter_cons_of_pos (by rw [hmark]; rfl), Entries.lookup_cons_ite,
          if_pos (heq.trans hname.symm)]
        exact .present hvalue hmark
      | true =>
        -- no later entry has the name, so nothing stands in for what is left out
        rw [Entries.lookup_eq_none_iff_not_mem.2 (heq ▸ hnot)] at htail
        rw [List.filter_cons_of_neg (by rw [hmark]; decide), htail.eq_none]
        exact .absent hvalue hmark
    · rw [if_neg heq]
      cases hmark : v.2.isNoValue with
      | false =>
        rw [List.filter_cons_of_pos (by rw [hmark]; rfl), Entries.lookup_cons_ite,
          if_neg (hname ▸ heq)]
        exact htail
      | true =>
        rw [List.filter_cons_of_neg (by rw [hmark]; decide)]
        exact htail

/-- Entries that are related with their names kept have the same names. -/
theorem map_fst_eq_of_forall₂ {α β : Type} {R : String × α → String × β → Prop}
    {a : List (String × α)} {b : List (String × β)}
    (h : List.Forall₂ (fun x y => y.1 = x.1 ∧ R x y) a b) :
    b.map Prod.fst = a.map Prod.fst := by
  induction h with
  | nil => rfl
  | cons hhead _ ih => rw [List.map_cons, List.map_cons, hhead.1, ih]

/-- Names of a row that are kept stay distinct. -/
theorem nodup_map_fst_filter_of_forall₂ {α β : Type} {R : String × α → String × β → Prop}
    {a : List (String × α)} {b : List (String × β)}
    (h : List.Forall₂ (fun x y => y.1 = x.1 ∧ R x y) a b) (ha : (a.map Prod.fst).Nodup)
    (keep : String × β → Bool) : ((b.filter keep).map Prod.fst).Nodup := by
  refine List.Nodup.sublist (List.filter_sublist.map Prod.fst) ?_
  rwa [map_fst_eq_of_forall₂ h]

/-- Data resolves to the map of the values of its entries that are not absent. -/
theorem resolve_data_eq_ok_iff {scope : Scope} {entries : List (String × Node)}
    (hdata : callOf? entries = none) {value : Value} :
    (Node.map entries).resolve scope = .ok value ↔ ∃ values,
      List.Forall₂ (fun e v => v.1 = e.1 ∧ e.2.resolve scope = .ok v.2) entries values ∧
        value = .map (Entries.sort (values.filter (!·.2.isNoValue))) := by
  -- data is collected in the order of the entries, and sorted without what is absent
  rw [resolve, evaluate_map, hdata, evaluateEntries_eq]
  show dataOutcome _ = _ ↔ _
  rw [dataOutcome, map_eq_ok_iff]
  simp only [collectEntries_eq_ok_iff, List.forall₂_map_left_iff]
  exact exists_congr fun values => and_congr_right fun _ => eq_comm

/-- A map that is data resolves to a map, name by name. -/
theorem resolve_map_eq_ok {scope : Scope} {entries : List (String × Node)} {value : Value}
    (hform : (Node.map entries).WellFormed) (h : (Node.map entries).resolve scope = .ok value) :
    ∃ resolved, value = .map resolved ∧
      ∀ name, EntryResolves scope (entries.lookup name) (resolved.lookup name) := by
  cases hform with
  | map hcall hnames hnodes =>
    obtain ⟨values, hrow, rfl⟩ := (resolve_data_eq_ok_iff hcall).1 h
    refine ⟨_, rfl, fun name => ?_⟩
    have hdistinct := nodup_map_fst_filter_of_forall₂ hrow hnames (!·.2.isNoValue)
    rw [Entries.lookup_sort hdistinct]
    exact entryResolves_filter hrow hnames name

/-! ## Lists -/

/-- A list resolves to the list of the values of its items that are not absent. -/
theorem resolve_list_eq_ok_iff {scope : Scope} {items : List Node} {value : Value} :
    (Node.list items).resolve scope = .ok value ↔ ∃ values,
      List.Forall₂ (fun item v => item.resolve scope = .ok v) items values ∧
        value = .list (values.filter (!·.isNoValue)) := by
  have hrow (values : List Value) : items.map (resolve scope) = values.map .ok ↔
      List.Forall₂ (fun item v => item.resolve scope = .ok v) items values := by
    rw [← List.forall₂_eq_eq_eq, List.forall₂_map_left_iff, List.forall₂_map_right_iff]
  rw [resolve, evaluate, evaluateItems_eq, Argument.whole, map_eq_ok_iff]
  constructor
  · rintro ⟨values, hvalues, rfl⟩
    exact ⟨values, (hrow values).1 (collect_eq_ok_iff.1 hvalues), rfl⟩
  · rintro ⟨values, hvalues, rfl⟩
    exact ⟨values, collect_eq_ok_iff.2 ((hrow values).2 hvalues), rfl⟩

/-! ## Parts that are absent -/

/-- A call in either form. -/
def ReadsAsCall (n : Node) : Prop :=
  ∃ (f : Intrinsic) (argument : Node), n = call f argument ∨ n = map [(f.name, argument)]

/-- Only the mark of an absent value and calls resolve to the mark. -/
theorem eq_string_or_readsAsCall {scope : Scope} {n : Node} (h : n.resolve scope = .ok .noValue) :
    n = .string Value.noValueText ∨ n.ReadsAsCall := by
  cases n with
  | null | bool | number | date => cases h
  | string s =>
    obtain rfl := Value.string.inj (Except.ok.inj h)
    exact .inl rfl
  | list items =>
    obtain ⟨values, -, heq⟩ := resolve_list_eq_ok_iff.1 h
    cases heq
  | map entries =>
    -- data resolves to a map, which is never the mark
    cases hcall : callOf? entries with
    | none =>
      obtain ⟨values, -, heq⟩ := (resolve_data_eq_ok_iff hcall).1 h
      cases heq
    | some call =>
      obtain ⟨f, argument⟩ := call
      obtain rfl := callOf?_eq_some_iff.1 hcall
      exact .inr ⟨f, argument, .inr rfl⟩
  | call f argument => exact .inr ⟨f, argument, .inl rfl⟩

/-! ## Parts that are never absent -/

/-- A node is neither a call nor the mark of an absent value. -/
def Settled (n : Node) : Prop := n.isCall = false ∧ n ≠ .string Value.noValueText

/-- A settled node resolves to a value that is present and has the same characters. -/
theorem Settled.resolve {scope : Scope} {n : Node} {value : Value} (h : n.Settled)
    (hform : n.WellFormed) (hvalue : n.resolve scope = .ok value) :
    value.isNoValue = false ∧ value.asString? = n.asString? := by
  cases n with
  | null => cases hvalue; exact ⟨rfl, rfl⟩
  | bool b => cases hvalue; exact ⟨rfl, rfl⟩
  | number n => cases hvalue; exact ⟨rfl, rfl⟩
  | date t => cases hvalue; exact ⟨rfl, rfl⟩
  | string s =>
    cases hvalue
    refine ⟨beq_eq_false_iff_ne.2 fun heq => h.2 ?_, rfl⟩
    rw [heq]
  | list items =>
    obtain ⟨values, -, rfl⟩ := resolve_list_eq_ok_iff.1 hvalue
    exact ⟨rfl, rfl⟩
  | map entries =>
    obtain ⟨resolved, rfl, -⟩ := resolve_map_eq_ok hform hvalue
    exact ⟨rfl, rfl⟩
  | call f argument => cases h.1

end StackAudit.Node
