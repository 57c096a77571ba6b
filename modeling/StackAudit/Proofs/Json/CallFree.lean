import StackAudit.Proofs.Resolution.CallForms

/-!
# Calls in JSON

An object stands for a call if its only member is named for a function (`Json.isCall`), and any
other object becomes the map of its members. A node has a call exactly if such an object is
somewhere in the JSON value that it comes from (`Node.containsCall_ofJson`); without one the node
and the JSON value have the same value (`Node.toValue?_ofJson`).
-/

namespace StackAudit

namespace Json

/-- An object whose only member is named for a function. -/
def isCall : Json → Bool
  | .obj [(name, _)] => (Intrinsic.ofName? name).isSome
  | _ => false

mutual

/-- An object that stands for a call is somewhere in the value. -/
def containsCall : Json → Bool
  | .arr items => anyContainsCall items
  | .obj members => isCall (.obj members) || anyMemberContainsCall members
  | _ => false

/-- An object that stands for a call is somewhere in the items of an array. -/
def anyContainsCall : List Json → Bool
  | [] => false
  | item :: rest => item.containsCall || anyContainsCall rest

/-- An object that stands for a call is somewhere in the members of an object. -/
def anyMemberContainsCall : List (String × Json) → Bool
  | [] => false
  | (_, value) :: rest => value.containsCall || anyMemberContainsCall rest

end

/-- The items are asked one by one. -/
theorem anyContainsCall_eq (items : List Json) :
    anyContainsCall items = items.any containsCall := by
  induction items with
  | nil => rfl
  | cons item rest ih => rw [anyContainsCall, ih, List.any_cons]

/-- The members are asked one by one. -/
theorem anyMemberContainsCall_eq (members : List (String × Json)) :
    anyMemberContainsCall members = members.any (·.2.containsCall) := by
  induction members with
  | nil => rfl
  | cons m rest ih => rw [anyMemberContainsCall, ih, List.any_cons]

/-- The value of a JSON value without calls. -/
def toValue? (json : Json) : Option Value :=
  if json.containsCall then none else some (Value.ofJson json)

/-- A call has a single member. -/
theorem isCall_obj_iff {members : List (String × Json)} :
    isCall (.obj members) = true ↔ ∃ (f : Intrinsic) (argument : Json),
      members = [(f.name, argument)] := by
  match members with
  | [] => simp [isCall]
  | [(name, value)] =>
    rw [isCall, Option.isSome_iff_exists]
    constructor
    · rintro ⟨f, hf⟩
      exact ⟨f, value, by rw [Intrinsic.name_of_ofName? hf]⟩
    · rintro ⟨f, argument, heq⟩
      cases heq
      exact ⟨f, Intrinsic.ofName?_name f⟩
  | _ :: _ :: _ => simp [isCall]

end Json

namespace Node

/-- An object that stands for a call becomes a call. -/
theorem exists_ofJson_eq_call {members : List (String × Json)}
    (h : Json.isCall (.obj members) = true) :
    ∃ (f : Intrinsic) (argument : Node), ofJson (.obj members) = call f argument := by
  obtain ⟨f, argument, rfl⟩ := Json.isCall_obj_iff.1 h
  refine ⟨f, ofJson argument, ?_⟩
  rw [ofJson, ofJsonMembers, ofJsonMembers, ofEntries, Intrinsic.ofName?_name f]

/-- Any other object becomes the map of its members, in their order. -/
theorem ofJson_obj_of_not_isCall {members : List (String × Json)}
    (h : Json.isCall (.obj members) = false) :
    ofJson (.obj members) = map (members.map fun m => (m.1, ofJson m.2)) := by
  rw [ofJson, ofJsonMembers_eq]
  -- with another number of members there is nothing to look up
  match members, h with
  | [], _ => rfl
  | [(name, value)], h =>
    have hname : Intrinsic.ofName? name = none := by
      rwa [Json.isCall, Option.isSome_eq_false_iff, Option.isNone_iff_eq_none] at h
    rw [List.map_cons, List.map_nil, ofEntries, hname]
  | _ :: _ :: _, _ => rfl

mutual

/-- A node has a call if the JSON value that it comes from has an object that stands for one. -/
theorem containsCall_ofJson : ∀ json : Json, (ofJson json).containsCall = json.containsCall
  | .null => rfl
  | .bool _ => rfl
  | .num _ => rfl
  | .str _ => rfl
  | .arr items => by
    rw [ofJson, containsCall, Json.containsCall, anyContainsCall_ofJsonItems items]
  | .obj members => by
    -- a call counts whatever its argument is, so the two kinds of object are told apart
    cases h : Json.isCall (.obj members) with
    | true =>
      obtain ⟨f, argument, hcall⟩ := exists_ofJson_eq_call h
      rw [hcall, containsCall, Json.containsCall, h, Bool.true_or]
    | false =>
      rw [ofJson_obj_of_not_isCall h, ← ofJsonMembers_eq, containsCall, Json.containsCall, h,
        Bool.false_or, anyEntryContainsCall_ofJsonMembers members]

/-- The nodes of items have a call if the items have one. -/
theorem anyContainsCall_ofJsonItems : ∀ items : List Json,
    anyContainsCall (ofJsonItems items) = Json.anyContainsCall items
  | [] => rfl
  | item :: rest => by
    rw [ofJsonItems, anyContainsCall, Json.anyContainsCall, containsCall_ofJson item,
      anyContainsCall_ofJsonItems rest]

/-- The nodes of members have a call if the members have one. -/
theorem anyEntryContainsCall_ofJsonMembers : ∀ members : List (String × Json),
    anyEntryContainsCall (ofJsonMembers members) = Json.anyMemberContainsCall members
  | [] => rfl
  | (_, value) :: rest => by
    rw [ofJsonMembers, anyEntryContainsCall, Json.anyMemberContainsCall, containsCall_ofJson value,
      anyEntryContainsCall_ofJsonMembers rest]

end

mutual

/-- Without calls, the node of a JSON value has the value of the JSON value. -/
theorem toValue?_ofJson_of_containsCall : ∀ {json : Json}, json.containsCall = false →
    (ofJson json).toValue? = some (Value.ofJson json)
  | .null, _ => rfl
  | .bool _, _ => rfl
  | .num _, _ => rfl
  | .str _, _ => rfl
  | .arr items, h => by
    rw [ofJson, toValue?, toValues?_ofJsonItems h, Value.ofJson, Option.map_some]
  | .obj members, h => by
    obtain ⟨hobject, hmembers⟩ := Bool.or_eq_false_iff.1 h
    rw [ofJson_obj_of_not_isCall hobject, ← ofJsonMembers_eq, toValue?,
      toValueEntries?_ofJsonMembers hmembers, Value.ofJson, Option.map_some]

/-- Without calls, the nodes of items have the values of the items. -/
theorem toValues?_ofJsonItems : ∀ {items : List Json}, Json.anyContainsCall items = false →
    toValues? (ofJsonItems items) = some (Value.ofJsonItems items)
  | [], _ => rfl
  | item :: rest, h => by
    obtain ⟨hitem, hrest⟩ := Bool.or_eq_false_iff.1 h
    rw [ofJsonItems, toValues?, toValue?_ofJson_of_containsCall hitem, toValues?_ofJsonItems hrest,
      Value.ofJsonItems]
    rfl

/-- Without calls, the nodes of members have the values of the members. -/
theorem toValueEntries?_ofJsonMembers : ∀ {members : List (String × Json)},
    Json.anyMemberContainsCall members = false →
      toValueEntries? (ofJsonMembers members) = some (Value.ofJsonMembers members)
  | [], _ => rfl
  | (_, value) :: rest, h => by
    obtain ⟨hvalue, hrest⟩ := Bool.or_eq_false_iff.1 h
    rw [ofJsonMembers, toValueEntries?, toValue?_ofJson_of_containsCall hvalue,
      toValueEntries?_ofJsonMembers hrest, Value.ofJsonMembers]
    rfl

end

/-- The node of a JSON value is a value if the JSON value is one. -/
theorem toValue?_ofJson (json : Json) : (ofJson json).toValue? = json.toValue? := by
  cases h : json.containsCall with
  | false => rw [Json.toValue?, toValue?_ofJson_of_containsCall h, h, if_neg Bool.false_ne_true]
  | true =>
    have hnone : (ofJson json).toValue?.isSome = false := by
      rw [isSome_toValue?, containsCall_ofJson, h, Bool.not_true]
    rw [Json.toValue?, h, if_pos rfl, ← Option.isNone_iff_eq_none, ← Option.isSome_eq_false_iff,
      hnone]

/-- The node of a member is found under the name of the member. -/
theorem lookup_ofJsonMembers (name : String) : ∀ members : List (String × Json),
    (ofJsonMembers members).lookup name = (members.lookup name).map ofJson
  | [] => rfl
  | m :: rest => by
    rw [ofJsonMembers, Entries.lookup_cons_ite, Entries.lookup_cons_ite,
      lookup_ofJsonMembers name rest]
    by_cases hname : name = m.1
    · rw [if_pos hname, if_pos hname, Option.map_some]
    · rw [if_neg hname, if_neg hname]

end Node

end StackAudit
