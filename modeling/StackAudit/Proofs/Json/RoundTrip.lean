import StackAudit.Proofs.Json.CallFree
import StackAudit.Proofs.Resolution.Origin

/-!
# Nodes in JSON and back

Nothing is lost from JSON to a node and back: a node is written as the JSON value that it comes
from. The other way round a node is read back unless something in it is written like something
else, and there are two such things: a date, which is written like its text, and a map whose only
entry is named for a function, which is written like a call. `Node.json_roundTrip` says both.

## Shape of the proof

`Node.ReadsBack` is the property of a node to be read back. The parts of a node that is read back
are read back too (`Node.ReadsBack.of_part`), so neither of the two things can be a part of it; and
a node without such parts is read back by induction, since a map that is not named like a call is
read as a map.
-/

namespace StackAudit.Node

/-! ## From JSON -/

/-- Items are written one by one. -/
theorem itemsToJson_eq (items : List Node) : itemsToJson items = items.map toJson := by
  induction items with
  | nil => rfl
  | cons item rest ih => rw [itemsToJson, ih, List.map_cons]

/-- Entries are written one by one, under their names. -/
theorem entriesToJson_eq (entries : List (String × Node)) :
    entriesToJson entries = entries.map fun e => (e.1, e.2.toJson) := by
  induction entries with
  | nil => rfl
  | cons e rest ih => rw [entriesToJson, ih, List.map_cons]

/-- Entries are written as the members of an object, whether they stand for a call or not. -/
theorem toJson_ofEntries (entries : List (String × Node)) :
    (ofEntries entries).toJson = .obj (entriesToJson entries) := by
  match entries with
  | [] => rfl
  | [(name, argument)] =>
    rw [ofEntries]
    split
    · next f hname => rw [toJson, Intrinsic.name_of_ofName? hname]; rfl
    · rfl
  | _ :: _ :: _ => rfl

mutual

/-- The node of a JSON value is written as that value. -/
theorem toJson_ofJson : ∀ json : Json, (ofJson json).toJson = json
  | .null => rfl
  | .bool _ => rfl
  | .num _ => rfl
  | .str _ => rfl
  | .arr items => by rw [ofJson, toJson, itemsToJson_ofJsonItems items]
  | .obj members => by rw [ofJson, toJson_ofEntries, entriesToJson_ofJsonMembers members]

/-- The nodes of items are written as those items. -/
theorem itemsToJson_ofJsonItems : ∀ items : List Json, itemsToJson (ofJsonItems items) = items
  | [] => rfl
  | item :: rest => by
    rw [ofJsonItems, itemsToJson, toJson_ofJson item, itemsToJson_ofJsonItems rest]

/-- The nodes of members are written as those members. -/
theorem entriesToJson_ofJsonMembers :
    ∀ members : List (String × Json), entriesToJson (ofJsonMembers members) = members
  | [] => rfl
  | (_, value) :: rest => by
    rw [ofJsonMembers, entriesToJson, toJson_ofJson value, entriesToJson_ofJsonMembers rest]

end

/-! ## From nodes -/

/-- A node is read from the JSON value that it is written as. -/
def ReadsBack (n : Node) : Prop := ofJson n.toJson = n

/-- What comes from JSON is read back. -/
theorem readsBack_ofJson (json : Json) : (ofJson json).ReadsBack := by
  rw [ReadsBack, toJson_ofJson]

/-- A list is read back if its items are. -/
theorem readsBack_list_iff {items : List Node} :
    (list items).ReadsBack ↔ ∀ item ∈ items, item.ReadsBack := by
  rw [ReadsBack, toJson, ofJson, itemsToJson_eq, ofJsonItems_eq, List.map_map, list.injEq]
  constructor
  · intro h item hitem
    exact List.map_inj_left.1 (h.trans (List.map_id items).symm) item hitem
  · intro h
    exact (List.map_congr_left h).trans (List.map_id items)

/-- Entries make a map only as the entries of that map. -/
theorem ofEntries_eq_map_iff {entries others : List (String × Node)} :
    ofEntries entries = map others ↔ entries = others ∧ callOf? entries = none := by
  match entries with
  | [] => simp [ofEntries, callOf?]
  | [(name, argument)] =>
    rw [ofEntries, callOf?]
    cases Intrinsic.ofName? name <;> simp
  | _ :: _ :: _ => simp [ofEntries, callOf?]

/-- A map is read back if it is no call and all its nodes are read back. -/
theorem readsBack_map_iff {entries : List (String × Node)} :
    (map entries).ReadsBack ↔ callOf? entries = none ∧ ∀ e ∈ entries, e.2.ReadsBack := by
  -- what is read is made from the entries as they come back, so it is a call if these make one
  have hwritten : (map entries).ReadsBack ↔
      ofEntries (entries.map fun e => (e.1, ofJson e.2.toJson)) = map entries := by
    rw [ReadsBack, toJson, ofJson, entriesToJson_eq, ofJsonMembers_eq, List.map_map]
    rfl
  have hentries : entries.map (fun e => (e.1, ofJson e.2.toJson)) = entries ↔
      ∀ e ∈ entries, e.2.ReadsBack := by
    rw [← List.map_id entries, List.map_map, List.map_inj_left, List.map_id]
    exact forall₂_congr fun e _ => ⟨congrArg Prod.snd, fun h => Prod.ext rfl h⟩
  rw [hwritten, ofEntries_eq_map_iff]
  constructor
  · rintro ⟨hsame, hcall⟩
    exact ⟨hsame ▸ hcall, hentries.1 hsame⟩
  · rintro ⟨hcall, hnodes⟩
    have hsame := hentries.2 hnodes
    exact ⟨hsame, hsame.symm ▸ hcall⟩

/-- A call is read back if its argument is. -/
theorem readsBack_call_iff {f : Intrinsic} {argument : Node} :
    (call f argument).ReadsBack ↔ argument.ReadsBack := by
  have hread : ofJson (call f argument).toJson = call f (ofJson argument.toJson) := by
    rw [toJson, ofJson, ofJsonMembers, ofJsonMembers, ofEntries, Intrinsic.ofName?_name f]
  rw [ReadsBack, hread, call.injEq, and_iff_right rfl, ReadsBack]

/-- A date is read back as its text. -/
theorem not_readsBack_date (t : Instant) : ¬(date t).ReadsBack := by
  intro h
  cases h

/-- The parts of what is read back are read back. -/
theorem ReadsBack.of_part {m n : Node} (hn : n.ReadsBack) (h : m.Part n) : m.ReadsBack := by
  induction h with
  | self => exact hn
  | item hitem _ ih => exact ih (readsBack_list_iff.1 hn _ hitem)
  | entry he _ ih => exact ih ((readsBack_map_iff.1 hn).2 _ he)
  | argument f _ ih => exact ih (readsBack_call_iff.1 hn)

/-- A node without dates and without maps that look like calls is read back. -/
theorem readsBack_of_parts (n : Node) (hdate : ∀ t, ¬(date t).Part n)
    (hcall : ∀ (f : Intrinsic) (argument : Node), ¬(map [(f.name, argument)]).Part n) :
    n.ReadsBack := by
  induction n using Node.induct with
  | null | bool | number | string => rfl
  | date t => exact absurd .self (hdate t)
  | list items ih =>
    exact readsBack_list_iff.2 fun item hitem =>
      ih item hitem (fun t h => hdate t (.item hitem h)) fun f a h => hcall f a (.item hitem h)
  | map entries ih =>
    -- a map that stood for a call would itself be the part that is ruled out
    refine readsBack_map_iff.2 ⟨?_, fun e he =>
      ih e he (fun t h => hdate t (.entry he h)) fun f a h => hcall f a (.entry he h)⟩
    refine Option.eq_none_iff_forall_ne_some.2 fun ⟨f, argument⟩ h => ?_
    obtain rfl := callOf?_eq_some_iff.1 h
    exact hcall f argument .self
  | call f argument ih =>
    exact readsBack_call_iff.2
      (ih (fun t h => hdate t (.argument f h)) fun g a h => hcall g a (.argument f h))

/-- A JSON value is what its node is written as, with the members of its objects in their order;
and a node is read from what it is written as, with the entries of its maps in their order, exactly
if no part of it is a date or a map whose only entry is named for a function. -/
theorem json_roundTrip :
    (∀ json : Json, (ofJson json).toJson = json) ∧
      ∀ n : Node, ofJson n.toJson = n ↔
        (∀ t : Instant, ¬(date t).Part n) ∧
          ∀ (f : Intrinsic) (argument : Node), ¬(map [(f.name, argument)]).Part n := by
  refine ⟨toJson_ofJson, fun n => ⟨fun h => ⟨fun t hpart => ?_, fun f argument hpart => ?_⟩,
    fun ⟨hdate, hcall⟩ => readsBack_of_parts n hdate hcall⟩⟩
  · exact not_readsBack_date t (ReadsBack.of_part h hpart)
  · have hnone := (readsBack_map_iff.1 (ReadsBack.of_part h hpart)).1
    rw [callOf?_eq_some_iff.2 rfl] at hnone
    cases hnone

/-- A map that looks like a call is read back as the call. -/
example : ofJson (map [("Ref", .string "Env")]).toJson = call .ref (.string "Env") := rfl

end StackAudit.Node
