import StackAudit.Entries

/-!
# Tables

A `Table` holds a value for each of finitely many names. Its entries stand in strictly ascending
order of names, so that two tables with the same values for the same names are equal.
-/

namespace StackAudit

/-- Values by name, in ascending order of names. -/
structure Table (α : Type _) where
  entries : List (String × α)
  ascending : Entries.Ascending entries

namespace Table

variable {α : Type _}

/-- The table without entries. -/
def empty : Table α := ⟨[], List.Pairwise.nil⟩

instance : Inhabited (Table α) := ⟨empty⟩

/-- The value of a name. -/
def get? (t : Table α) (name : String) : Option α := t.entries.lookup name

/-- A name has a value. -/
def contains (t : Table α) (name : String) : Bool := (t.get? name).isSome

/-- The number of names. -/
def size (t : Table α) : Nat := t.entries.length

/-- Gives a name a value, in place of the one it had. -/
def insert (t : Table α) (name : String) (value : α) : Table α :=
  ⟨Entries.insert name value t.entries, Entries.ascending_insert t.ascending⟩

/-- Takes a name away. -/
def erase (t : Table α) (name : String) : Table α :=
  ⟨t.entries.filter (·.1 ≠ name), t.ascending.filter _⟩

@[simp]
theorem get?_empty (name : String) : (empty : Table α).get? name = none := rfl

@[simp]
theorem get?_insert (t : Table α) (name n : String) (value : α) :
    (t.insert name value).get? n = if n = name then some value else t.get? n :=
  Entries.lookup_insert

@[simp]
theorem get?_erase (t : Table α) (name n : String) :
    (t.erase name).get? n = if n = name then none else t.get? n :=
  Entries.lookup_filter_ne

/-- The table of a list of entries; of two entries of one name the later counts. -/
def ofList (entries : List (String × α)) : Table α :=
  ⟨Entries.sort entries, Entries.ascending_sort entries⟩

/-- The entries of both tables; of two entries of one name that of the second table counts. -/
def union (t other : Table α) : Table α :=
  other.entries.foldl (fun merged e => merged.insert e.1 e.2) t

/-- A table is determined by the values of the names. -/
theorem ext_get? {t u : Table α} (h : ∀ n, t.get? n = u.get? n) : t = u := by
  obtain ⟨entries, hentries⟩ := t
  obtain ⟨others, hothers⟩ := u
  obtain rfl : entries = others := Entries.eq_of_lookup_eq hentries hothers h
  rfl

/-- The values of the second table hide those of the first. -/
@[simp]
theorem get?_union (t other : Table α) (n : String) :
    (t.union other).get? n = (other.get? n).or (t.get? n) := by
  have hentries (entries : List (String × α)) : ∀ merged : Table α,
      (entries.foldl (fun merged e => merged.insert e.1 e.2) merged).entries =
        entries.foldl (fun sorted e => Entries.insert e.1 e.2 sorted) merged.entries := by
    induction entries with
    | nil => exact fun _ => rfl
    | cons e rest ih => exact fun merged => ih (merged.insert e.1 e.2)
  rw [get?, union, hentries, Entries.lookup_foldl_insert,
    Entries.lookup_reverse (Entries.nodup_of_ascending other.ascending)]
  rfl

end Table

end StackAudit
