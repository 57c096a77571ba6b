/-!
# Named entries

Lists of entries with a name each. Two disciplines are used: in order of first appearance, where a
name that comes again keeps its place and takes the new value, and in ascending order of names.
-/

namespace StackAudit

variable {α : Type _}

namespace Entries

/-- Gives a name a value: in the place of the name if it is present, at the end otherwise. -/
def put (name : String) (value : α) : List (String × α) → List (String × α)
  | [] => [(name, value)]
  | (n, v) :: rest => if n = name then (name, value) :: rest else (n, v) :: put name value rest

/-- Keeps each name once, in the place of its first entry and with the value of its last. -/
def merge (entries : List (String × α)) : List (String × α) :=
  entries.foldl (fun merged e => put e.1 e.2 merged) []

/-- The first entry of a name counts. -/
theorem lookup_cons_ite (e : String × α) (rest : List (String × α)) (n : String) :
    (e :: rest).lookup n = if n = e.1 then some e.2 else rest.lookup n := by
  rw [List.lookup_cons]
  by_cases h : n = e.1
  · rw [if_pos h, beq_iff_eq.2 h]
  · rw [if_neg h, beq_eq_false_iff_ne.2 h]

/-- With distinct names, the value of a name is that of its entry. -/
theorem lookup_eq_some_iff_mem {entries : List (String × α)} (h : (entries.map Prod.fst).Nodup)
    {n : String} {v : α} : entries.lookup n = some v ↔ (n, v) ∈ entries := by
  induction entries with
  | nil => simp
  | cons e rest ih =>
    obtain ⟨hhead, hrest⟩ := List.nodup_cons.1 h
    rw [lookup_cons_ite, List.mem_cons]
    by_cases hn : n = e.1
    · subst hn
      have hnot : (e.1, v) ∉ rest := fun hmem => hhead (List.mem_map.2 ⟨_, hmem, rfl⟩)
      simp [hnot, Prod.ext_iff, eq_comm]
    · have hne : (n, v) ≠ e := fun heq => hn (congrArg Prod.fst heq)
      simp [hn, hne, ih hrest]

/-- Lists of distinct names with the same entries give the same values. -/
theorem lookup_eq_of_perm {a b : List (String × α)} (h : a.Perm b)
    (ha : (a.map Prod.fst).Nodup) (n : String) : a.lookup n = b.lookup n := by
  have hb : (b.map Prod.fst).Nodup := (h.map Prod.fst).nodup ha
  ext v
  rw [lookup_eq_some_iff_mem ha, lookup_eq_some_iff_mem hb, h.mem_iff]

/-- A name without a value is the name of no entry. -/
theorem lookup_eq_none_iff_not_mem {entries : List (String × α)} {n : String} :
    entries.lookup n = none ↔ n ∉ entries.map Prod.fst := by
  induction entries with
  | nil => simp
  | cons e rest ih =>
    rw [lookup_cons_ite]
    by_cases hn : n = e.1 <;> simp_all

theorem mem_map_fst_put {name n : String} {value : α} {entries : List (String × α)} :
    n ∈ (put name value entries).map Prod.fst ↔ n = name ∨ n ∈ entries.map Prod.fst := by
  induction entries with
  | nil => simp [put]
  | cons e rest ih =>
    by_cases h : e.1 = name
    · simp [put, h]
    · simp [put, h, ih, or_left_comm]

/-- Putting a name keeps the names distinct. -/
theorem nodup_put {name : String} {value : α} {entries : List (String × α)}
    (h : (entries.map Prod.fst).Nodup) : ((put name value entries).map Prod.fst).Nodup := by
  induction entries with
  | nil => simp [put]
  | cons e rest ih =>
    obtain ⟨hhead, hrest⟩ := List.nodup_cons.1 h
    by_cases he : e.1 = name
    · simpa [put, he] using ⟨by simpa [he] using hhead, hrest⟩
    · rw [put, if_neg he, List.map_cons, List.nodup_cons]
      refine ⟨fun hmem => ?_, ih hrest⟩
      exact (mem_map_fst_put.1 hmem).elim he hhead

theorem mem_put {name : String} {value : α} {e : String × α} {entries : List (String × α)}
    (h : e ∈ put name value entries) : e = (name, value) ∨ e ∈ entries := by
  induction entries with
  | nil => simpa [put] using h
  | cons f rest ih =>
    rw [put] at h
    split at h
    · rcases List.mem_cons.1 h with h | h
      · exact .inl h
      · exact .inr (List.mem_cons_of_mem _ h)
    · rcases List.mem_cons.1 h with h | h
      · exact .inr (h ▸ List.mem_cons_self)
      · exact (ih h).imp id (List.mem_cons_of_mem _)

/-- Steps that each add one entry at most add no others. -/
theorem mem_of_mem_foldl {e : String × α}
    {step : List (String × α) → String × α → List (String × α)}
    (hstep : ∀ f entries, e ∈ step entries f → e = f ∨ e ∈ entries)
    {rest entries : List (String × α)} (h : e ∈ rest.foldl step entries) :
    e ∈ entries ∨ e ∈ rest := by
  induction rest generalizing entries with
  | nil => exact .inl h
  | cons f rest ih =>
    rcases ih h with h | h
    · exact (hstep f entries h).elim (fun h => .inr (h ▸ List.mem_cons_self)) .inl
    · exact .inr (List.mem_cons_of_mem _ h)

/-- Merging adds no entries. -/
theorem mem_of_mem_merge {e : String × α} {entries : List (String × α)} (h : e ∈ merge entries) :
    e ∈ entries := by
  have hstep (f : String × α) (merged : List (String × α)) (h : e ∈ put f.1 f.2 merged) :
      e = f ∨ e ∈ merged := mem_put h
  simpa using mem_of_mem_foldl hstep h

/-- Merging leaves each name once. -/
theorem nodup_merge (entries : List (String × α)) : ((merge entries).map Prod.fst).Nodup := by
  have go (rest : List (String × α)) : ∀ merged : List (String × α), (merged.map Prod.fst).Nodup →
      ((rest.foldl (fun merged e => put e.1 e.2 merged) merged).map Prod.fst).Nodup := by
    induction rest with
    | nil => exact fun _ h => h
    | cons e rest ih => exact fun merged h => ih _ (nodup_put h)
  exact go entries [] (by simp)

/-- The names are in strictly ascending order. -/
def Ascending (entries : List (String × α)) : Prop :=
  entries.Pairwise fun a b => a.1 < b.1

/-- Gives a name a value in a list of ascending names. -/
def insert (name : String) (value : α) : List (String × α) → List (String × α)
  | [] => [(name, value)]
  | (n, v) :: rest =>
    if name < n then (name, value) :: (n, v) :: rest
    else if n = name then (name, value) :: rest
    else (n, v) :: insert name value rest

/-- The entries in ascending order of names, each name with the value of its last entry. -/
def sort (entries : List (String × α)) : List (String × α) :=
  entries.foldl (fun sorted e => insert e.1 e.2 sorted) []

/-- Inserting a name changes its value and no other. -/
theorem lookup_insert {name n : String} {value : α} {entries : List (String × α)} :
    (insert name value entries).lookup n = if n = name then some value else entries.lookup n := by
  induction entries with
  | nil => simp only [insert, lookup_cons_ite]
  | cons e rest ih => grind [insert, lookup_cons_ite]

/-- Leaving a name out takes its value away and no other. -/
theorem lookup_filter_ne {name n : String} {entries : List (String × α)} :
    (entries.filter (·.1 ≠ name)).lookup n = if n = name then none else entries.lookup n := by
  induction entries with
  | nil => simp
  | cons e rest ih => grind [lookup_cons_ite]

theorem mem_insert {name : String} {value : α} {e : String × α} {entries : List (String × α)}
    (h : e ∈ insert name value entries) : e = (name, value) ∨ e ∈ entries := by
  induction entries with
  | nil => simpa [insert] using h
  | cons f rest ih =>
    rw [insert] at h
    split at h
    · simpa using h
    · split at h
      · rcases List.mem_cons.1 h with h | h
        · exact .inl h
        · exact .inr (List.mem_cons_of_mem _ h)
      · rcases List.mem_cons.1 h with h | h
        · exact .inr (h ▸ List.mem_cons_self)
        · exact (ih h).imp id (List.mem_cons_of_mem _)

theorem ascending_insert {name : String} {value : α} {entries : List (String × α)}
    (h : Ascending entries) : Ascending (insert name value entries) := by
  induction entries with
  | nil => simp [insert, Ascending]
  | cons f rest ih =>
    obtain ⟨hhead, hrest⟩ := List.pairwise_cons.1 h
    rw [insert]
    split
    · next hlt =>
      refine List.pairwise_cons.2 ⟨fun e he => ?_, h⟩
      rcases List.mem_cons.1 he with rfl | he
      · exact hlt
      · exact String.lt_trans hlt (hhead e he)
    · next hnlt =>
      split
      · next heq =>
        subst heq
        exact List.pairwise_cons.2 ⟨hhead, hrest⟩
      · next hne =>
        refine List.pairwise_cons.2 ⟨fun e he => ?_, ih hrest⟩
        rcases mem_insert he with rfl | he
        · exact Std.not_le.1 fun hle => hne (String.le_antisymm (Std.not_lt.1 hnlt) hle)
        · exact hhead e he

/-- Sorting adds no entries. -/
theorem mem_of_mem_sort {e : String × α} {entries : List (String × α)} (h : e ∈ sort entries) :
    e ∈ entries := by
  have hstep (f : String × α) (sorted : List (String × α)) (h : e ∈ insert f.1 f.2 sorted) :
      e = f ∨ e ∈ sorted := mem_insert h
  simpa using mem_of_mem_foldl hstep h

theorem ascending_sort (entries : List (String × α)) : Ascending (sort entries) := by
  have go (rest : List (String × α)) : ∀ sorted : List (String × α), Ascending sorted →
      Ascending (rest.foldl (fun sorted e => insert e.1 e.2 sorted) sorted) := by
    induction rest with
    | nil => exact fun _ h => h
    | cons e rest ih => exact fun sorted h => ih _ (ascending_insert h)
  exact go entries [] List.Pairwise.nil

/-- Ascending names are distinct. -/
theorem nodup_of_ascending {entries : List (String × α)} (h : Ascending entries) :
    (entries.map Prod.fst).Nodup := by
  refine List.pairwise_map.2 (h.imp fun {a b} hlt heq => ?_)
  exact String.lt_irrefl b.1 (heq ▸ hlt)

/-- Ascending entries are determined by the values of the names. -/
theorem eq_of_lookup_eq {a b : List (String × α)} (ha : Ascending a) (hb : Ascending b)
    (h : ∀ n, a.lookup n = b.lookup n) : a = b := by
  have hna := nodup_of_ascending ha
  have hnb := nodup_of_ascending hb
  have hmem (e : String × α) : e ∈ a ↔ e ∈ b := by
    rw [← lookup_eq_some_iff_mem hna, ← lookup_eq_some_iff_mem hnb, h]
  have hdistinct {c : List (String × α)} (hc : Ascending c) : c.Nodup := by
    refine List.nodup_iff_pairwise_ne.2 (hc.imp fun {x y} hlt heq => ?_)
    exact String.lt_irrefl y.1 (heq ▸ hlt)
  have hperm : a.Perm b := (List.perm_ext_iff_of_nodup (hdistinct ha) (hdistinct hb)).2 hmem
  refine hperm.eq_of_pairwise (fun x y _ _ hxy hyx => ?_) ha hb
  exact absurd (String.lt_trans hxy hyx) (String.lt_irrefl x.1)

/-- Of the entries that are inserted one after the other the last one of a name counts. -/
theorem lookup_foldl_insert {n : String} (entries sorted : List (String × α)) :
    (entries.foldl (fun sorted e => insert e.1 e.2 sorted) sorted).lookup n =
      (entries.reverse.lookup n).or (sorted.lookup n) := by
  induction entries generalizing sorted with
  | nil => simp
  | cons e rest ih =>
    rw [List.foldl_cons, ih, List.reverse_cons, List.lookup_append, lookup_insert, lookup_cons_ite]
    by_cases hn : n = e.1 <;> simp [hn]

/-- The last entry of a name is its only one if names are distinct. -/
theorem lookup_reverse {entries : List (String × α)} (h : (entries.map Prod.fst).Nodup)
    (n : String) : entries.reverse.lookup n = entries.lookup n :=
  (lookup_eq_of_perm (List.reverse_perm entries).symm h n).symm

/-- Sorting keeps the values of distinct names. -/
theorem lookup_sort {entries : List (String × α)} (h : (entries.map Prod.fst).Nodup)
    (n : String) : (sort entries).lookup n = entries.lookup n := by
  rw [sort, lookup_foldl_insert, lookup_reverse h, List.lookup_nil, Option.or_none]

/-- Sorting entries with distinct names only brings them in another order. -/
theorem perm_sort {entries : List (String × α)} (h : (entries.map Prod.fst).Nodup) :
    (sort entries).Perm entries := by
  have hsorted : ((sort entries).map Prod.fst).Nodup := nodup_of_ascending (ascending_sort entries)
  have hdistinct {c : List (String × α)} (hc : (c.map Prod.fst).Nodup) : c.Nodup :=
    List.Pairwise.of_map Prod.fst (fun _ _ hne heq => hne (congrArg Prod.fst heq)) hc
  refine (List.perm_ext_iff_of_nodup (hdistinct hsorted) (hdistinct h)).2 fun e => ?_
  rw [← lookup_eq_some_iff_mem hsorted, ← lookup_eq_some_iff_mem h, lookup_sort h]

/-- The order in which entries with distinct names stand does not show once they are sorted. -/
theorem sort_eq_of_perm {a b : List (String × α)} (h : a.Perm b)
    (ha : (a.map Prod.fst).Nodup) : sort a = sort b := by
  have hb : (b.map Prod.fst).Nodup := (h.map Prod.fst).nodup ha
  refine eq_of_lookup_eq (ascending_sort a) (ascending_sort b) fun n => ?_
  rw [lookup_sort ha, lookup_sort hb, lookup_eq_of_perm h ha]

/-- Entries with distinct names can be sorted before some are left out and the rest changed. -/
theorem sort_map_filter {β : Type _} {entries : List (String × α)}
    (h : (entries.map Prod.fst).Nodup) (keep : String × α → Bool) (f : α → β) :
    sort ((entries.filter keep).map fun e => (e.1, f e.2)) =
      ((sort entries).filter keep).map fun e => (e.1, f e.2) := by
  have hperm : ((entries.filter keep).map fun e => (e.1, f e.2)).Perm
      (((sort entries).filter keep).map fun e => (e.1, f e.2)) :=
    ((perm_sort h).symm.filter keep).map _
  have hascending : Ascending (((sort entries).filter keep).map fun e => (e.1, f e.2)) :=
    List.pairwise_map.2 ((ascending_sort entries).filter keep)
  have hnames := nodup_of_ascending hascending
  rw [sort_eq_of_perm hperm ((hperm.map Prod.fst).symm.nodup hnames)]
  exact eq_of_lookup_eq (ascending_sort _) hascending fun n => lookup_sort hnames n

end Entries

end StackAudit
