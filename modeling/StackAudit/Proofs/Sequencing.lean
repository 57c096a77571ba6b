import Mathlib.Data.List.Forall2
import StackAudit.Resolution

/-!
# Rows of steps that may fail

A row of steps yields all results or the error of the first step that fails. `mapM_eq_ok_iff` and
`errorOf?_mapM` say so for `List.mapM`, as does `mapM_eq_some_iff` where a step may have no result
and gives no reason; `collect_eq_ok_iff` and `collectEntries_eq_ok_iff` say when the items of a list
and the entries of a map all have values.
-/

namespace StackAudit

section Except

variable {ε α β γ : Type}

/-- Two steps succeed if the second one succeeds with what the first one yields. -/
theorem bind_eq_ok_iff {x : Except ε α} {f : α → Except ε β} {b : β} :
    x >>= f = .ok b ↔ ∃ a, x = .ok a ∧ f a = .ok b := by
  cases x <;> simp [bind, Except.bind]

/-- A step whose result is mapped succeeds if the step does. -/
theorem map_eq_ok_iff {x : Except ε α} {f : α → β} {b : β} :
    x.map f = .ok b ↔ ∃ a, x = .ok a ∧ f a = b := by
  cases x <;> simp [Except.map]

/-- A row of steps succeeds if every step does. -/
theorem mapM_eq_ok_iff {f : α → Except ε β} {xs : List α} {ys : List β} :
    xs.mapM f = .ok ys ↔ List.Forall₂ (fun x y => f x = .ok y) xs ys := by
  induction xs generalizing ys with
  | nil => cases ys <;> simp [pure, Except.pure]
  | cons x xs ih =>
    rw [List.mapM_cons, bind_eq_ok_iff, List.forall₂_cons_left_iff]
    constructor
    · rintro ⟨y, hy, h⟩
      obtain ⟨rest, hrest, h⟩ := bind_eq_ok_iff.1 h
      exact ⟨y, rest, hy, ih.1 hrest, (Except.ok.inj h).symm⟩
    · rintro ⟨y, rest, hy, hrest, rfl⟩
      exact ⟨y, hy, bind_eq_ok_iff.2 ⟨rest, ih.2 hrest, rfl⟩⟩

/-- Two rows of steps, one after the other, succeed if the two steps of each place do. -/
theorem mapM_bind_mapM_eq_ok_iff {f : α → Except ε β} {g : β → Except ε γ} {xs : List α}
    {zs : List γ} :
    xs.mapM f >>= List.mapM g = .ok zs ↔ List.Forall₂ (fun x z => f x >>= g = .ok z) xs zs := by
  rw [bind_eq_ok_iff]
  constructor
  · rintro ⟨ys, hys, hzs⟩
    -- place by place along the row between; `zs` loses its head with it, so it is general
    rw [mapM_eq_ok_iff] at hys hzs
    induction hys generalizing zs with
    | nil => cases hzs; exact .nil
    | cons hy _ ih =>
      cases hzs with
      | cons hz hzs => exact .cons (bind_eq_ok_iff.2 ⟨_, hy, hz⟩) (ih hzs)
  · intro h
    induction h with
    | nil => exact ⟨[], rfl, rfl⟩
    | cons hz _ ih =>
      obtain ⟨y, hy, hz⟩ := bind_eq_ok_iff.1 hz
      obtain ⟨ys, hys, hzs⟩ := ih
      rw [mapM_eq_ok_iff] at hys hzs
      exact ⟨y :: ys, mapM_eq_ok_iff.2 (.cons hy hys), mapM_eq_ok_iff.2 (.cons hz hzs)⟩

/-- The error of a step that fails. -/
def errorOf? : Except ε α → Option ε
  | .ok _ => none
  | .error e => some e

/-- The error is there if the step fails with it. -/
theorem errorOf?_eq_some_iff {x : Except ε α} {e : ε} : errorOf? x = some e ↔ x = .error e := by
  cases x <;> simp [errorOf?]

/-- There is no error if the step succeeds. -/
theorem errorOf?_eq_none_iff {x : Except ε α} : errorOf? x = none ↔ ∃ a, x = .ok a := by
  cases x <;> simp [errorOf?]

/-- Mapping the result leaves the error as it is. -/
theorem errorOf?_map (x : Except ε α) (f : α → β) : errorOf? (x.map f) = errorOf? x := by
  cases x <;> rfl

/-- The error of a row of steps is that of the first step that fails. -/
theorem errorOf?_mapM {f : α → Except ε β} {err : α → Option ε} {xs : List α}
    (h : ∀ x ∈ xs, errorOf? (f x) = err x) : errorOf? (xs.mapM f) = xs.findSome? err := by
  induction xs with
  | nil => rfl
  | cons x xs ih =>
    rw [List.mapM_cons, List.findSome?_cons, ← h x List.mem_cons_self,
      ← ih fun y hy => h y (List.mem_cons_of_mem x hy)]
    -- a step that fails ends the row; past one that succeeds the error is that of the rest
    cases f x with
    | error e => rfl
    | ok y => cases xs.mapM f <;> rfl

/-- What has no value fails. -/
theorem exists_eq_error_iff {x : Except ε α} : (∃ e, x = .error e) ↔ ¬∃ a, x = .ok a := by
  cases x <;> simp

/-- A row of steps has results if every step has one. -/
theorem exists_mapM_eq_ok_iff {f : α → Except ε β} {xs : List α} :
    (∃ ys, xs.mapM f = .ok ys) ↔ ∀ x ∈ xs, ∃ y, f x = .ok y := by
  rw [← errorOf?_eq_none_iff, errorOf?_mapM fun _ _ => rfl, List.findSome?_eq_none_iff]
  exact forall₂_congr fun _ _ => errorOf?_eq_none_iff

end Except

/-- A step under a condition has a value if the condition holds and the step has one. -/
theorem guard_bind_eq_some_iff {α : Type} {p : Prop} [Decidable p] {f : Unit → Option α} {a : α} :
    (guard p >>= f) = some a ↔ p ∧ f () = some a := by
  by_cases hp : p <;> simp [guard, hp]

/-- A row of steps that may have no value has one if every step does. -/
theorem mapM_eq_some_iff {α β : Type} {f : α → Option β} {xs : List α} {ys : List β} :
    xs.mapM f = some ys ↔ List.Forall₂ (fun x y => f x = some y) xs ys := by
  induction xs generalizing ys with
  | nil => cases ys <;> simp
  | cons x xs ih =>
    rw [List.mapM_cons, List.forall₂_cons_left_iff]
    simp only [Option.bind_eq_bind, Option.bind_eq_some_iff, ih]
    constructor
    · rintro ⟨y, hy, rest, hrest, h⟩
      exact ⟨y, rest, hy, hrest, (Option.some.inj h).symm⟩
    · rintro ⟨y, rest, hy, hrest, rfl⟩
      exact ⟨y, hy, rest, hrest, rfl⟩

/-- A row of steps that each have a value has the row of values. -/
theorem mapM_eq_some_map {α β : Type} {f : α → Option β} {g : α → β} {xs : List α}
    (h : ∀ x ∈ xs, f x = some (g x)) : xs.mapM f = some (xs.map g) := by
  rw [mapM_eq_some_iff, List.forall₂_map_right_iff, List.forall₂_same]
  exact h

section Rows

variable {α β γ : Type} {R : α → β → Prop} {as : List α} {bs : List β}

/-- What stands in the second of two related rows is related to something in the first one. -/
theorem exists_of_mem_right (h : List.Forall₂ R as bs) {b : β} (hb : b ∈ bs) :
    ∃ a ∈ as, R a b := by
  induction h with
  | nil => cases hb
  | @cons x y _ _ hxy _ ih =>
    rcases List.mem_cons.1 hb with rfl | hb
    · exact ⟨x, List.mem_cons_self, hxy⟩
    · obtain ⟨a, ha, hr⟩ := ih hb
      exact ⟨a, List.mem_cons_of_mem x ha, hr⟩

/-- What is related to something at each place is related to a row of such. -/
theorem exists_forall₂ (h : ∀ a ∈ as, ∃ b, R a b) : ∃ bs, List.Forall₂ R as bs := by
  induction as with
  | nil => exact ⟨[], .nil⟩
  | cons a rest ih =>
    obtain ⟨b, hb⟩ := h a List.mem_cons_self
    obtain ⟨bs, hbs⟩ := ih fun x hx => h x (List.mem_cons_of_mem a hx)
    exact ⟨b :: bs, .cons hb hbs⟩

/-- What the places of two related rows have in common they all have in common. -/
theorem forall_mem_iff_of_forall₂ {P : α → Prop} {Q : β → Prop} (h : List.Forall₂ R as bs)
    (hpq : ∀ a b, R a b → (P a ↔ Q b)) : (∀ a ∈ as, P a) ↔ ∀ b ∈ bs, Q b := by
  induction h with
  | nil => simp
  | cons hab _ ih => rw [List.forall_mem_cons, List.forall_mem_cons, hpq _ _ hab, ih]

/-- Of two related rows both or none have a place of a kind. -/
theorem exists_mem_iff_of_forall₂ {P : α → Prop} {Q : β → Prop} (h : List.Forall₂ R as bs)
    (hpq : ∀ a b, R a b → (P a ↔ Q b)) : (∃ a ∈ as, P a) ↔ ∃ b ∈ bs, Q b := by
  induction h with
  | nil => simp
  | cons hab _ ih => rw [List.exists_mem_cons_iff, List.exists_mem_cons_iff, hpq _ _ hab, ih]

/-- A test holds throughout both of two related rows, or throughout neither. -/
theorem all_eq_of_forall₂ {p : α → Bool} {q : β → Bool} (h : List.Forall₂ R as bs)
    (hpq : ∀ a b, R a b → p a = q b) : as.all p = bs.all q := by
  rw [Bool.eq_iff_iff, List.all_eq_true, List.all_eq_true]
  exact forall_mem_iff_of_forall₂ h fun a b hab => by rw [hpq a b hab]

/-- A test holds somewhere in both of two related rows, or in neither. -/
theorem any_eq_of_forall₂ {p : α → Bool} {q : β → Bool} (h : List.Forall₂ R as bs)
    (hpq : ∀ a b, R a b → p a = q b) : as.any p = bs.any q := by
  rw [Bool.eq_iff_iff, List.any_eq_true, List.any_eq_true]
  exact exists_mem_iff_of_forall₂ h fun a b hab => by rw [hpq a b hab]

/-- What relates place by place in two steps relates two rows in two steps. -/
theorem forall₂_trans {P : α → β → Prop} {Q : β → γ → Prop} {R : α → γ → Prop} {cs : List γ}
    (h : List.Forall₂ P as bs) (h' : List.Forall₂ Q bs cs)
    (hpq : ∀ a ∈ as, ∀ b c, P a b → Q b c → R a c) : List.Forall₂ R as cs := by
  induction h generalizing cs with
  | nil =>
    cases h'
    exact .nil
  | @cons a b as bs hab _ ih =>
    cases h' with
    | cons hbc h' =>
      exact .cons (hpq a List.mem_cons_self b _ hab hbc)
        (ih h' fun x hx => hpq x (List.mem_cons_of_mem a hx))

/-- What follows at each place of two related rows relates the rows. -/
theorem forall₂_imp_of_mem {P : α → β → Prop} (h : List.Forall₂ R as bs)
    (hp : ∀ a ∈ as, ∀ b, R a b → P a b) : List.Forall₂ P as bs :=
  ((List.forall₂_and_left as bs).2 ⟨hp, h⟩).imp fun _ b hab => hab.1 b hab.2

/-- Two rows that are related place by place stand in the same relations to a third one if their
places do. -/
theorem forall₂_congr_left {P : α → γ → Prop} {Q : β → γ → Prop} (h : List.Forall₂ R as bs)
    (hpq : ∀ a ∈ as, ∀ b, R a b → ∀ c, P a c ↔ Q b c) {cs : List γ} :
    List.Forall₂ P as cs ↔ List.Forall₂ Q bs cs := by
  induction h generalizing cs with
  | nil => rw [List.forall₂_nil_left_iff, List.forall₂_nil_left_iff]
  | @cons a b as bs hab _ ih =>
    -- the rest of the third row is not known yet, so the hypothesis is used for every row
    have hrest (cs : List γ) := @ih (fun x hx => hpq x (List.mem_cons_of_mem a hx)) cs
    have hhead := hpq a List.mem_cons_self b hab
    simp only [List.forall₂_cons_left_iff, hrest, hhead]

end Rows

/-- All values are there if every outcome is a value. -/
theorem collect_eq_ok_iff {outcomes : List Outcome} {values : List Value} :
    collect outcomes = .ok values ↔ outcomes = values.map .ok := by
  induction outcomes generalizing values with
  | nil => cases values <;> simp [collect]
  | cons outcome rest ih =>
    rw [collect, bind_eq_ok_iff]
    constructor
    · rintro ⟨value, rfl, h⟩
      obtain ⟨values, hvalues, h⟩ := bind_eq_ok_iff.1 h
      rw [← Except.ok.inj h, ih.1 hvalues, List.map_cons]
    · intro h
      obtain ⟨value, values, rfl, rfl, rfl⟩ := List.map_eq_cons_iff.1 h.symm
      exact ⟨value, rfl, bind_eq_ok_iff.2 ⟨values, ih.2 rfl, rfl⟩⟩

/-- All values are there if each outcome is some value. -/
theorem exists_collect_eq_ok {outcomes : List Outcome}
    (h : ∀ outcome ∈ outcomes, ∃ value, outcome = .ok value) :
    ∃ values, collect outcomes = .ok values := by
  induction outcomes with
  | nil => exact ⟨[], rfl⟩
  | cons outcome rest ih =>
    obtain ⟨value, rfl⟩ := h outcome List.mem_cons_self
    obtain ⟨values, hvalues⟩ := ih fun o ho => h o (List.mem_cons_of_mem _ ho)
    exact ⟨value :: values, by rw [collect, hvalues]; rfl⟩

/-- The values of entries stand under the names of the entries. -/
theorem collectEntries_eq_ok_iff {entries : List (String × Argument)}
    {values : List (String × Value)} :
    collectEntries entries = .ok values ↔
      List.Forall₂ (fun e v => v.1 = e.1 ∧ e.2.whole = .ok v.2) entries values := by
  induction entries generalizing values with
  | nil => cases values <;> simp [collectEntries]
  | cons e rest ih =>
    rw [collectEntries, bind_eq_ok_iff, List.forall₂_cons_left_iff]
    constructor
    · rintro ⟨value, hvalue, h⟩
      obtain ⟨others, hothers, h⟩ := bind_eq_ok_iff.1 h
      exact ⟨(e.1, value), others, ⟨rfl, hvalue⟩, ih.1 hothers, (Except.ok.inj h).symm⟩
    · rintro ⟨⟨name, value⟩, others, ⟨rfl, hvalue⟩, hothers, rfl⟩
      exact ⟨value, hvalue, bind_eq_ok_iff.2 ⟨others, ih.2 hothers, rfl⟩⟩

/-- All entries have values if each of them has one. -/
theorem exists_collectEntries_eq_ok {entries : List (String × Argument)}
    (h : ∀ e ∈ entries, ∃ value, e.2.whole = .ok value) :
    ∃ values, collectEntries entries = .ok values := by
  induction entries with
  | nil => exact ⟨[], rfl⟩
  | cons e rest ih =>
    obtain ⟨value, hvalue⟩ := h e List.mem_cons_self
    obtain ⟨values, hvalues⟩ := ih fun e he => h e (List.mem_cons_of_mem _ he)
    exact ⟨(e.1, value) :: values, by rw [collectEntries, hvalue, hvalues]; rfl⟩

end StackAudit
