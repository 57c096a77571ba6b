import StackAudit.Proofs.Equality
import StackAudit.Proofs.Json.CallFree
import StackAudit.Proofs.Resolution.Origin

/-!
# Nodes and their values

Values are nodes without calls, less the order in which maps declare their entries. The node of a
value has that value. A node has a value exactly if no call is part of it, and then the node of its
value is the same up to the order of entries (`Node.Reordered`); there is no other value whose
entries are in order and of which this is true (`Node.toValue?_eq_some_iff`). What is read from JSON
has a value exactly if no part of the JSON value is an object whose only member is named for a
function, and it is the value that is read from JSON directly. `Node.toValue?_correspondence` says
all of this.

The maps of a value have their entries in order, however the value came about (`Value.Ordered`). The
maps of a node have distinct names, and its numbers are numbers (`Node.Sound`); otherwise a value
would keep one entry of a name only, and "not a number" would not equal itself.

## Shape of the proof

Maps are compared by what they have under each name. Sorting keeps that as names are distinct, so
the two inductions, from a node to its value (`Node.reordered_of_toValue?`) and from a value to a
node that is the same as its own (`Node.toValue?_of_reordered`), meet in one fact about lookups:
what is found among the values of entries is the value of what is found among the entries
(`Node.lookup_of_forall₂_toValue?`).
-/

namespace StackAudit

/-! ## Nodes up to the order of entries -/

/-- Two nodes are the same but for the order of the entries of maps, at any depth: two maps have the
same names, and what they have under a name is the same but for that order. -/
inductive Node.Reordered : Node → Node → Prop where
  | null : Reordered .null .null
  | bool (b : Bool) : Reordered (.bool b) (.bool b)
  | number (n : Numeral) : Reordered (.number n) (.number n)
  | string (s : String) : Reordered (.string s) (.string s)
  | date (t : Instant) : Reordered (.date t) (.date t)
  | list {items others : List Node} : List.Forall₂ Reordered items others →
      Reordered (.list items) (.list others)
  | map {entries others : List (String × Node)} :
      (entries.map Prod.fst).Perm (others.map Prod.fst) →
      (∀ name a b, entries.lookup name = some a → others.lookup name = some b → Reordered a b) →
      Reordered (.map entries) (.map others)
  | call (f : Intrinsic) {a b : Node} : Reordered a b → Reordered (.call f a) (.call f b)

namespace Node

variable {a b n : Node} {v : Value}

/-- Every node is itself up to the order of entries, also if names are not distinct. -/
theorem Reordered.refl (n : Node) : n.Reordered n := by
  induction n using Node.induct with
  | null => exact .null
  | bool b => exact .bool b
  | number n => exact .number n
  | string s => exact .string s
  | date t => exact .date t
  | list items ih => exact .list (List.forall₂_same.2 ih)
  | map entries ih =>
    refine .map (List.Perm.refl _) fun name a b ha hb => ?_
    -- the same lookup is made on both sides, so names need not be distinct
    obtain rfl := Option.some.inj (ha.symm.trans hb)
    obtain ⟨before, after, rfl, -⟩ := List.lookup_eq_some_iff.1 ha
    exact ih (name, a) (by simp)
  | call f argument ih => exact .call f ih

/-- The test of equality does not see the order of entries. -/
theorem Reordered.equals (h : a.Reordered b) (hb : b.Sound) : a.equals b = true := by
  induction hb generalizing a with
  | null => cases h; rfl
  | bool | string => cases h; exact beq_self_eq_true _
  | date => cases h; exact decide_eq_true rfl
  | number hn => cases h; exact hn.equals_self
  | list _ ih =>
    cases h with
    | list hrow =>
      have hequal := forall₂_imp_of_mem hrow.flip fun other hother _ => ih other hother
      exact list_equals_iff.2 ⟨_, rfl, hequal.flip⟩
  | @map others hothers _ ih =>
    cases h with
    | @map entries _ hnames hnodes =>
      have hlength : entries.length = others.length := by simpa using hnames.length_eq
      refine map_equals_iff.2 ⟨others, rfl, hlength, fun e he => ?_⟩
      obtain ⟨o, ho, hname⟩ := List.mem_map.1 (hnames.mem_iff.1 (List.mem_map_of_mem he))
      -- no other entry has the name, on neither side, so these two are what is found under it
      have hfound : entries.lookup e.1 = some e.2 :=
        (Entries.lookup_eq_some_iff_mem (hnames.symm.nodup hothers)).2 he
      have hother : others.lookup e.1 = some o.2 :=
        (Entries.lookup_eq_some_iff_mem hothers).2 (hname ▸ ho)
      exact ⟨o.2, hother, ih o ho (hnodes _ _ _ hfound hother)⟩
  | call f _ ih =>
    cases h with
    | call _ h => exact call_equals_iff.2 ⟨_, rfl, ih h⟩

/-! ## From nodes to values and back -/

/-- The node of a map has the names of the map. -/
theorem map_fst_ofValueEntries (entries : List (String × Value)) :
    (ofValueEntries entries).map Prod.fst = entries.map Prod.fst := by
  rw [ofValueEntries_eq, List.map_map]
  rfl

/-- What is found among the values of entries is the value of what is found among the entries. -/
theorem lookup_of_forall₂_toValue? {entries : List (String × Node)}
    {values : List (String × Value)}
    (h : List.Forall₂ (fun e v => v.1 = e.1 ∧ e.2.toValue? = some v.2) entries values)
    (name : String) : (entries.lookup name).map toValue? = (values.lookup name).map some := by
  induction h with
  | nil => rfl
  | @cons e v _ _ hhead _ ih =>
    obtain ⟨hname, hvalue⟩ := hhead
    rw [Entries.lookup_cons_ite, Entries.lookup_cons_ite, hname]
    split
    · rw [Option.map_some, Option.map_some, hvalue]
    · exact ih

/-- The node of the value of a node is that node up to the order of entries. -/
theorem reordered_of_toValue? (hn : n.Sound) (h : n.toValue? = some v) :
    (ofValue v).Reordered n := by
  induction hn generalizing v with
  | null => cases h; exact .null
  | bool b => cases h; exact .bool b
  | number => cases h; exact .number _
  | string s => cases h; exact .string s
  | date t => cases h; exact .date t
  | list _ ih =>
    obtain ⟨values, hvalues, rfl⟩ := Option.map_eq_some_iff.1 h
    have hrow := forall₂_imp_of_mem (toValues?_eq_some_iff.1 hvalues) fun item hitem _ =>
      ih item hitem
    rw [ofValue, ofValues_eq]
    exact .list (List.forall₂_map_left_iff.2 hrow.flip)
  | @map entries hnames _ ih =>
    obtain ⟨values, hvalues, rfl⟩ := Option.map_eq_some_iff.1 h
    have hrow := toValueEntries?_eq_some_iff.1 hvalues
    have hsame := map_fst_eq_of_forall₂ hrow
    have hdistinct : (values.map Prod.fst).Nodup := by rwa [hsame]
    rw [ofValue]
    -- names are distinct, so no value is lost when the values are sorted
    refine .map ?_ fun name a b ha hb => ?_
    · rw [map_fst_ofValueEntries, ← hsame]
      exact (Entries.perm_sort hdistinct).map Prod.fst
    · rw [lookup_ofValueEntries, Entries.lookup_sort hdistinct] at ha
      obtain ⟨value, hvalue, rfl⟩ := Option.map_eq_some_iff.1 ha
      have hfound := lookup_of_forall₂_toValue? hrow name
      rw [hb, hvalue, Option.map_some, Option.map_some, Option.some.injEq] at hfound
      -- both lookups are of one entry, since the values stand under the names of the entries
      exact ih (name, b) ((Entries.lookup_eq_some_iff_mem hnames).1 hb) hfound
  | call => cases h

/-- A map with distinct names has the value that holds the values of its nodes under their names. -/
theorem toValue?_map_of_lookup {entries : List (String × Node)} {values : List (String × Value)}
    (hnames : (entries.map Prod.fst).Nodup) (hvalues : Entries.Ascending values)
    (h : ∀ name, (entries.lookup name).map toValue? = (values.lookup name).map some) :
    (map entries).toValue? = some (.map values) := by
  have hentry : ∀ e ∈ entries, ∃ v : String × Value, v.1 = e.1 ∧ e.2.toValue? = some v.2 := by
    intro e he
    have hfound := h e.1
    rw [(Entries.lookup_eq_some_iff_mem hnames).2 he, Option.map_some] at hfound
    obtain ⟨value, -, hvalue⟩ := Option.map_eq_some_iff.1 hfound.symm
    exact ⟨(e.1, value), rfl, hvalue.symm⟩
  -- every entry has a value, and sorting the row of them gives the entries that are looked up
  obtain ⟨row, hrow⟩ := exists_forall₂ hentry
  have hdistinct : (row.map Prod.fst).Nodup := by rwa [map_fst_eq_of_forall₂ hrow]
  have hlookup (name : String) : (Entries.sort row).lookup name = values.lookup name := by
    rw [Entries.lookup_sort hdistinct]
    exact Option.map_injective (fun _ _ => Option.some.inj)
      ((lookup_of_forall₂_toValue? hrow name).symm.trans (h name))
  rw [toValue?, toValueEntries?_eq_some_iff.2 hrow, Option.map_some,
    Entries.eq_of_lookup_eq (Entries.ascending_sort row) hvalues hlookup]

/-- A node that is the node of a value up to the order of entries has that value. -/
theorem toValue?_of_reordered (hv : v.Ordered) (h : (ofValue v).Reordered n) :
    n.toValue? = some v := by
  induction hv generalizing n with
  | null | bool | number | string | date => cases h; rfl
  | list _ ih =>
    rw [ofValue, ofValues_eq] at h
    cases h with
    | list hrow =>
      have hvalues := forall₂_imp_of_mem (List.forall₂_map_left_iff.1 hrow) fun item hitem _ =>
        ih item hitem
      rw [toValue?, toValues?_eq_some_iff.2 hvalues.flip, Option.map_some]
  | @map values hascending _ ih =>
    rw [ofValue] at h
    cases h with
    | @map _ entries hnames hnodes =>
      rw [map_fst_ofValueEntries] at hnames
      have hdistinct := Entries.nodup_of_ascending hascending
      refine toValue?_map_of_lookup (hnames.nodup hdistinct) hascending fun name => ?_
      cases hvalue : values.lookup name with
      | none =>
        -- a name that is missing on the one side is missing on the other
        have hmissing := mt hnames.mem_iff.2 (Entries.lookup_eq_none_iff_not_mem.1 hvalue)
        rw [Entries.lookup_eq_none_iff_not_mem.2 hmissing, Option.map_none, Option.map_none]
      | some value =>
        have hmem := (Entries.lookup_eq_some_iff_mem hdistinct).1 hvalue
        obtain ⟨e, he, rfl⟩ := List.mem_map.1 (hnames.mem_iff.1 (List.mem_map_of_mem hmem))
        have hnode := (Entries.lookup_eq_some_iff_mem (hnames.nodup hdistinct)).2 he
        rw [hnode, Option.map_some, Option.map_some, ih _ hmem (hnodes e.1 _ _ ?_ hnode)]
        rw [lookup_ofValueEntries, hvalue, Option.map_some]

/-- The value of a node is the one with its entries in order whose node is the same up to that
order. -/
theorem toValue?_eq_some_iff (hn : n.Sound) :
    n.toValue? = some v ↔ v.Ordered ∧ (ofValue v).Reordered n :=
  ⟨fun h => ⟨ordered_of_toValue? h, reordered_of_toValue? hn h⟩,
    fun h => toValue?_of_reordered h.1 h.2⟩

/-- The node of a value has that value. -/
theorem toValue?_ofValue_iff : (ofValue v).toValue? = some v ↔ v.Ordered :=
  ⟨ordered_of_toValue?, fun hv => toValue?_of_reordered hv (.refl _)⟩

/-! ## Calls as parts -/

/-- A node has no value exactly if a call node stands in it. -/
theorem toValue?_eq_none_iff : n.toValue? = none ↔ n.containsCall = true := by
  rw [← Option.not_isSome_iff_eq_none, isSome_toValue?, Bool.not_eq_true', Bool.not_eq_false]

/-- A call stands in a node exactly if a call is part of it. -/
theorem containsCall_iff :
    n.containsCall = true ↔ ∃ (f : Intrinsic) (argument : Node), (call f argument).Part n := by
  constructor
  · intro h
    -- the call that is found below is part of the whole by one more step
    induction n using Node.induct with
    | null | bool | number | string | date => cases h
    | list items ih =>
      rw [containsCall, anyContainsCall_eq] at h
      obtain ⟨item, hitem, hcall⟩ := List.any_eq_true.1 h
      obtain ⟨f, argument, hpart⟩ := ih item hitem hcall
      exact ⟨f, argument, .item hitem hpart⟩
    | map entries ih =>
      rw [containsCall, anyEntryContainsCall_eq] at h
      obtain ⟨e, he, hcall⟩ := List.any_eq_true.1 h
      obtain ⟨f, argument, hpart⟩ := ih e he hcall
      exact ⟨f, argument, .entry he hpart⟩
    | call f argument _ => exact ⟨f, argument, .self⟩
  · rintro ⟨f, argument, hpart⟩
    by_contra hnone
    cases containsCall_of_part (Bool.eq_false_iff.2 hnone) hpart

end Node

/-! ## Calls in JSON -/

namespace Json

/-- A JSON value is part of another: it is the same, or part of an item or of a member. -/
inductive Part (j : Json) : Json → Prop where
  | self : Part j j
  | item {items : List Json} {k : Json} : k ∈ items → Part j k → Part j (.arr items)
  | member {members : List (String × Json)} {m : String × Json} : m ∈ members → Part j m.2 →
      Part j (.obj members)

variable {json j k : Json}

/-- A call in a part is a call in the whole. -/
theorem Part.containsCall (h : j.Part k) (hj : j.containsCall = true) : k.containsCall = true := by
  induction h with
  | self => exact hj
  | item hitem _ ih =>
    rw [Json.containsCall, anyContainsCall_eq]
    exact List.any_eq_true.2 ⟨_, hitem, ih⟩
  | member hmember _ ih =>
    rw [Json.containsCall, anyMemberContainsCall_eq, Bool.or_eq_true]
    exact .inr (List.any_eq_true.2 ⟨_, hmember, ih⟩)

mutual

/-- A call that stands in a JSON value is part of it. -/
theorem exists_part_of_containsCall : ∀ {json : Json}, json.containsCall = true →
    ∃ (f : Intrinsic) (argument : Json), (obj [(f.name, argument)]).Part json
  | .arr items, h => by
    obtain ⟨item, hitem, f, argument, hpart⟩ := exists_part_of_anyContainsCall h
    exact ⟨f, argument, .item hitem hpart⟩
  | .obj members, h => by
    rcases Bool.or_eq_true_iff.1 h with hcall | hmembers
    · obtain ⟨f, argument, rfl⟩ := isCall_obj_iff.1 hcall
      exact ⟨f, argument, .self⟩
    · obtain ⟨m, hm, f, argument, hpart⟩ := exists_part_of_anyMemberContainsCall hmembers
      exact ⟨f, argument, .member hm hpart⟩

/-- A call that stands in the items is part of one of them. -/
theorem exists_part_of_anyContainsCall : ∀ {items : List Json}, anyContainsCall items = true →
    ∃ item ∈ items, ∃ (f : Intrinsic) (argument : Json), (obj [(f.name, argument)]).Part item
  | item :: rest, h => by
    rcases Bool.or_eq_true_iff.1 h with hitem | hrest
    · exact ⟨item, List.mem_cons_self, exists_part_of_containsCall hitem⟩
    · obtain ⟨other, hother, hpart⟩ := exists_part_of_anyContainsCall hrest
      exact ⟨other, List.mem_cons_of_mem item hother, hpart⟩

/-- A call that stands in the members is part of one of them. -/
theorem exists_part_of_anyMemberContainsCall : ∀ {members : List (String × Json)},
    anyMemberContainsCall members = true →
      ∃ m ∈ members, ∃ (f : Intrinsic) (argument : Json), (obj [(f.name, argument)]).Part m.2
  | m :: rest, h => by
    rcases Bool.or_eq_true_iff.1 h with hvalue | hrest
    · exact ⟨m, List.mem_cons_self, exists_part_of_containsCall hvalue⟩
    · obtain ⟨other, hother, hpart⟩ := exists_part_of_anyMemberContainsCall hrest
      exact ⟨other, List.mem_cons_of_mem m hother, hpart⟩

end

/-- A call stands in a JSON value exactly if an object whose only member is named for a function is
part of it. -/
theorem containsCall_iff : json.containsCall = true ↔
    ∃ (f : Intrinsic) (argument : Json), (obj [(f.name, argument)]).Part json := by
  refine ⟨exists_part_of_containsCall, fun ⟨f, argument, hpart⟩ => hpart.containsCall ?_⟩
  have hcall : isCall (obj [(f.name, argument)]) = true := isCall_obj_iff.2 ⟨f, argument, rfl⟩
  rw [containsCall, hcall, Bool.true_or]

end Json

/-! ## The correspondence -/

namespace Node

/-- The node of a value holds no call and has that value, if its entries are in order. A node has no
value exactly if it holds a call, that is if a call is part of it; otherwise it has the one value
whose entries are in order and whose node is the same up to the order of entries, and that node
equals it. The node of a JSON value has the value of the JSON value if no part of that is an object
whose only member is named for a function, and it has none if there is such a part. -/
theorem toValue?_correspondence :
    (∀ v : Value, (ofValue v).containsCall = false ∧
      ((ofValue v).toValue? = some v ↔ v.Ordered)) ∧
    (∀ n : Node, (n.toValue? = none ↔ n.containsCall = true) ∧
      (n.containsCall = true ↔ ∃ (f : Intrinsic) (argument : Node), (call f argument).Part n) ∧
      (n.Sound → ∀ v, (n.toValue? = some v ↔ v.Ordered ∧ (ofValue v).Reordered n) ∧
        (n.toValue? = some v → (ofValue v).equals n = true))) ∧
    ∀ json : Json,
      ((∀ (f : Intrinsic) (argument : Json), ¬(Json.obj [(f.name, argument)]).Part json) →
        (ofJson json).toValue? = some (Value.ofJson json)) ∧
      ((∃ (f : Intrinsic) (argument : Json), (Json.obj [(f.name, argument)]).Part json) →
        (ofJson json).toValue? = none) := by
  refine ⟨fun v => ⟨containsCall_ofValue v, toValue?_ofValue_iff⟩,
    fun n => ⟨toValue?_eq_none_iff, containsCall_iff, fun hn v => ⟨toValue?_eq_some_iff hn, ?_⟩⟩,
    fun json => ⟨fun hnone => ?_, fun hcall => ?_⟩⟩
  · intro h
    exact (reordered_of_toValue? hn h).equals hn
  · refine toValue?_ofJson_of_containsCall (Bool.eq_false_iff.2 fun hcall => ?_)
    obtain ⟨f, argument, hpart⟩ := Json.containsCall_iff.1 hcall
    exact hnone f argument hpart
  · rw [toValue?_eq_none_iff, containsCall_ofJson]
    exact Json.containsCall_iff.2 hcall

/-- A drawer whose entries are not in order. One of the things in it looks like a call. -/
def drawer : Node :=
  .map [("Label", .string "north"), ("Contents", .list [
    .map [("Ref", .date ⟨0, 0, by decide, by decide⟩)],
    .map [("Weight", .number (.int 3)), ("Colour", .null)]])]

/-- The value of the drawer. -/
def drawerValue : Value :=
  .map [("Contents", .list [
    .map [("Ref", .date ⟨0, 0, by decide, by decide⟩)],
    .map [("Colour", .null), ("Weight", .number (.int 3))]]), ("Label", .string "north")]

/-- A list of parts; they are counted if `counted` holds, and otherwise stand for a call. -/
def partsList (counted : Bool) : Json :=
  .obj [("Parts", .arr [.obj (("Ref", .str "Bolt") ::
    if counted then [("Count", .num (.int 2))] else [])])]

/-- The drawer is the node of its value but for the order of entries. Parts that are counted are
data; without the count there is a call in the list. -/
theorem toValue?_correspondence_drawer :
    drawerValue.Ordered ∧ (ofValue drawerValue).toValue? = some drawerValue ∧
      drawer.Sound ∧ drawer.toValue? = some drawerValue ∧ ofValue drawerValue ≠ drawer ∧
      (ofValue drawerValue).Reordered drawer ∧ (ofValue drawerValue).equals drawer = true ∧
      (∀ (f : Intrinsic) (argument : Json),
        ¬(Json.obj [(f.name, argument)]).Part (partsList true)) ∧
      (ofJson (partsList true)).toValue? = some (Value.ofJson (partsList true)) ∧
      (∃ (f : Intrinsic) (argument : Json),
        (Json.obj [(f.name, argument)]).Part (partsList false)) ∧
      (ofJson (partsList false)).toValue? = none := by
  obtain ⟨hvalues, hnodes, hjson⟩ := toValue?_correspondence
  have hvalue : drawer.toValue? = some drawerValue := rfl
  have hnumber : (number (.int 3)).Sound := .number nofun
  have hsound : drawer.Sound := by simp [drawer, Sound.null, Sound.date, hnumber]
  obtain ⟨hexact, hequals⟩ := (hnodes drawer).2.2 hsound drawerValue
  obtain ⟨hordered, hreordered⟩ := hexact.1 hvalue
  have hcounted : ∀ (f : Intrinsic) (argument : Json),
      ¬(Json.obj [(f.name, argument)]).Part (partsList true) := by
    intro f argument hpart
    cases Json.containsCall_iff.2 ⟨f, argument, hpart⟩
  have hcall : ∃ (f : Intrinsic) (argument : Json),
      (Json.obj [(f.name, argument)]).Part (partsList false) := Json.containsCall_iff.1 rfl
  refine ⟨hordered, (hvalues drawerValue).2.2 hordered, hsound, hvalue, ?_, hreordered,
    hequals hvalue, hcounted, (hjson _).1 hcounted, hcall, (hjson _).2 hcall⟩
  simp [drawer, drawerValue, ofValue, ofValueEntries]

end Node

end StackAudit
