import StackAudit.Json

/-!
# Distinct members

What is read from a JSON text has no object with two members of the same name, at any depth: a
repeated member is merged into its first place (`Json.distinct_ofText?`).
-/

namespace StackAudit.Json

/-- The members of every object within a value have names of their own. -/
inductive Distinct : Json → Prop where
  | null : Distinct .null
  | bool (b : Bool) : Distinct (.bool b)
  | num (n : Numeral) : Distinct (.num n)
  | str (s : String) : Distinct (.str s)
  | arr {items : List Json} : (∀ item ∈ items, item.Distinct) → Distinct (.arr items)
  | obj {members : List (String × Json)} : (members.map Prod.fst).Nodup →
      (∀ m ∈ members, m.2.Distinct) → Distinct (.obj members)

attribute [simp] Distinct.null Distinct.bool Distinct.num Distinct.str

/-- An array has distinct members if its items have. -/
@[simp] theorem distinct_arr {items : List Json} :
    (arr items).Distinct ↔ ∀ item ∈ items, item.Distinct :=
  ⟨fun | .arr h => h, .arr⟩

/-- An object has distinct members if its own names are distinct and its values have distinct
members. -/
@[simp] theorem distinct_obj {members : List (String × Json)} :
    (obj members).Distinct ↔ (members.map Prod.fst).Nodup ∧ ∀ m ∈ members, m.2.Distinct :=
  ⟨fun | .obj hnames h => ⟨hnames, h⟩, fun ⟨hnames, h⟩ => .obj hnames h⟩

mutual

/-- The value of a text as written has distinct members. -/
theorem distinct_ofWritten? : ∀ {written : Written} {depth : Nat} {json : Json},
    ofWritten? depth written = some json → json.Distinct
  | .null, _, _, h => by cases h; exact .null
  | .bool b, _, _, h => by cases h; exact .bool b
  | .number literal, _, _, h => by
    obtain ⟨n, -, rfl⟩ := Option.map_eq_some_iff.1 h
    exact .num n
  | .string units, _, _, h => by
    obtain ⟨s, -, rfl⟩ := Option.map_eq_some_iff.1 h
    exact .str s
  | .array items, depth, _, h => by
    rw [ofWritten?] at h
    split at h
    · obtain ⟨values, hvalues, rfl⟩ := Option.map_eq_some_iff.1 h
      exact .arr (distinct_ofWrittenItems? hvalues)
    · cases h
  | .object members, depth, _, h => by
    rw [ofWritten?] at h
    split at h
    · obtain ⟨values, hvalues, rfl⟩ := Option.map_eq_some_iff.1 h
      -- merging makes the names distinct, and brings in no values but those that are merged
      refine .obj (Entries.nodup_merge values) fun m hm => ?_
      exact distinct_ofWrittenMembers? hvalues m (Entries.mem_of_mem_merge hm)
    · cases h

/-- The values of items as written have distinct members. -/
theorem distinct_ofWrittenItems? : ∀ {items : List Written} {depth : Nat} {values : List Json},
    ofWrittenItems? depth items = some values → ∀ value ∈ values, value.Distinct
  | [], _, _, h => by cases h; simp
  | item :: rest, _, _, h => by
    obtain ⟨value, hvalue, h⟩ := Option.bind_eq_some_iff.1 h
    obtain ⟨values, hvalues, h⟩ := Option.bind_eq_some_iff.1 h
    cases h
    intro v hv
    rcases List.mem_cons.1 hv with rfl | hv
    · exact distinct_ofWritten? hvalue
    · exact distinct_ofWrittenItems? hvalues v hv

/-- The values of members as written have distinct members, before any of them are merged. -/
theorem distinct_ofWrittenMembers? :
    ∀ {members : List (List TextUnit × Written)} {depth : Nat} {values : List (String × Json)},
      ofWrittenMembers? depth members = some values → ∀ m ∈ values, m.2.Distinct
  | [], _, _, h => by cases h; simp
  | (name, written) :: rest, _, _, h => by
    obtain ⟨_, -, h⟩ := Option.bind_eq_some_iff.1 h
    obtain ⟨value, hvalue, h⟩ := Option.bind_eq_some_iff.1 h
    obtain ⟨values, hvalues, h⟩ := Option.bind_eq_some_iff.1 h
    cases h
    intro m hm
    rcases List.mem_cons.1 hm with rfl | hm
    · exact distinct_ofWritten? hvalue
    · exact distinct_ofWrittenMembers? hvalues m hm

end

/-- What is read from a text has distinct members. -/
theorem distinct_ofText? {text : String} {json : Json} (h : ofText? text = some json) :
    json.Distinct := by
  obtain ⟨written, -, hwritten⟩ := Option.bind_eq_some_iff.1 h
  exact distinct_ofWritten? hwritten

end StackAudit.Json
