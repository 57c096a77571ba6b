import StackAudit.Pattern.Search

/-!
# What search patterns match

`SearchPattern.Spans` is the meaning of a search pattern: the part of a text between two places that
it matches. `SearchPattern.ends` finds all places where such a part can end
(`SearchPattern.mem_ends_iff`), so a pattern is found in a text exactly if it matches some part of
it (`SearchPattern.foundIn_iff`).

## Shape of the proof

`ends` takes sets of places to sets of places, and each case of it is a fact on one kind of pattern.
Only repetition takes an argument: `reach` may stop early, as soon as a round adds no place, and an
unbounded repetition stops after as many rounds as the text has characters. That is enough because a
round that takes no character can be left out (`exists_rounds_le`), and every other round takes one.
-/

namespace StackAudit.SearchPattern

/-! ## Steps in a row -/

/-- So many steps lead from one place to another. -/
inductive Rounds (R : Nat → Nat → Prop) : Nat → Nat → Nat → Prop where
  | zero (i : Nat) : Rounds R 0 i i
  | succ {n i j k : Nat} : Rounds R n i j → R j k → Rounds R (n + 1) i k

section Rounds

variable {R : Nat → Nat → Prop}

/-- No step leads away. -/
theorem rounds_zero_iff {i k : Nat} : Rounds R 0 i k ↔ i = k := by
  constructor
  · intro h
    cases h
    rfl
  · rintro rfl
    exact .zero i

/-- A row of steps is a shorter row and a last step. -/
theorem rounds_succ_iff {n i k : Nat} : Rounds R (n + 1) i k ↔ ∃ j, Rounds R n i j ∧ R j k := by
  constructor
  · intro h
    cases h with
    | succ h hstep => exact ⟨_, h, hstep⟩
  · rintro ⟨j, h, hstep⟩
    exact .succ h hstep

/-- The first step of a row is as good as the last one. -/
theorem rounds_succ_iff_left {n i k : Nat} :
    Rounds R (n + 1) i k ↔ ∃ j, R i j ∧ Rounds R n j k := by
  induction n generalizing k with
  | zero => simp [rounds_succ_iff, rounds_zero_iff]
  | succ n ih =>
    rw [rounds_succ_iff]
    simp only [ih]
    constructor
    · rintro ⟨l, ⟨j, hfirst, h⟩, hlast⟩
      exact ⟨j, hfirst, .succ h hlast⟩
    · rintro ⟨j, hfirst, h⟩
      obtain ⟨l, h, hlast⟩ := rounds_succ_iff.1 h
      exact ⟨l, ⟨j, hfirst, h⟩, hlast⟩

/-- Two rows of steps are one row. -/
theorem rounds_add_iff {m n i k : Nat} :
    Rounds R (m + n) i k ↔ ∃ j, Rounds R m i j ∧ Rounds R n j k := by
  induction n generalizing k with
  | zero => simp [rounds_zero_iff]
  | succ n ih =>
    rw [← Nat.add_assoc, rounds_succ_iff]
    simp only [ih, rounds_succ_iff]
    constructor
    · rintro ⟨l, ⟨j, hm, hn⟩, hlast⟩
      exact ⟨j, hm, l, hn, hlast⟩
    · rintro ⟨j, hm, l, hn, hlast⟩
      exact ⟨l, ⟨j, hm, hn⟩, hlast⟩

/-- What a step keeps, a row of steps keeps. -/
theorem Rounds.keeps {P : Nat → Prop} (hstep : ∀ i j, P i → R i j → P j) {n i k : Nat}
    (h : Rounds R n i k) (hi : P i) : P k := by
  induction h with
  | zero => exact hi
  | succ _ hlast ih => exact hstep _ _ (ih hi) hlast

/-- Rounds that lead nowhere can be left out, and the others number no more than the places that
they pass. -/
theorem exists_rounds_le (hle : ∀ i j, R i j → i ≤ j) {n i k : Nat} (h : Rounds R n i k) :
    i ≤ k ∧ ∃ m, m ≤ n ∧ m ≤ k - i ∧ Rounds R m i k := by
  induction h with
  | zero i => exact ⟨Nat.le_refl i, 0, Nat.le_refl 0, Nat.zero_le _, .zero i⟩
  | @succ n i j k _ hlast ih =>
    obtain ⟨hij, m, hmn, hm, hrounds⟩ := ih
    have hjk := hle j k hlast
    refine ⟨Nat.le_trans hij hjk, ?_⟩
    -- a last round that takes nothing is left out, and any other one moves on by a place at least
    rcases Nat.eq_or_lt_of_le hjk with rfl | hlt
    · exact ⟨m, by omega, hm, hrounds⟩
    · exact ⟨m + 1, by omega, by omega, .succ hrounds hlast⟩

end Rounds

/-! ## The meaning of patterns -/

/-- A pattern matches the part of a text between two places. A repetition matches as many parts in a
row as it allows; a bound below its least number counts as that number. -/
def Spans (options : SearchOptions) (text : List Char) : SearchPattern → Nat → Nat → Prop
  | .empty => fun i j => i = j
  | .textStart => fun i j => i = 0 ∧ i = j
  | .textEnd => fun i j => i = text.length ∧ i = j
  | .one set => fun i j => (∃ c, text[i]? = some c ∧ set.contains options c = true) ∧ j = i + 1
  | .sequence first second => fun i k => ∃ j, first.Spans options text i j ∧
      second.Spans options text j k
  | .either first second => fun i j => first.Spans options text i j ∨ second.Spans options text i j
  | .repeated pattern least most => fun i j => ∃ n, least ≤ n ∧ (∀ m ∈ most, n ≤ max least m) ∧
      Rounds (pattern.Spans options text) n i j

variable {options : SearchOptions} {text : List Char}

/-- A part does not end before it begins, nor after the end of the text unless it begins there. -/
theorem Spans.le {p : SearchPattern} {i j : Nat} (h : p.Spans options text i j) :
    i ≤ j ∧ (i < j → j ≤ text.length) := by
  induction p generalizing i j with
  | empty => obtain rfl := h; omega
  | textStart => obtain ⟨-, rfl⟩ := h; omega
  | textEnd => obtain ⟨-, rfl⟩ := h; omega
  | one set =>
    obtain ⟨⟨c, hc, -⟩, rfl⟩ := h
    obtain ⟨hi, -⟩ := List.getElem?_eq_some_iff.1 hc
    omega
  | sequence first second ihfirst ihsecond =>
    obtain ⟨k, hfirst, hsecond⟩ := h
    have := ihfirst hfirst
    have := ihsecond hsecond
    omega
  | either first second ihfirst ihsecond =>
    rcases h with h | h
    · exact ihfirst h
    · exact ihsecond h
  | repeated p least most ih =>
    obtain ⟨n, -, -, h⟩ := h
    -- the bounds are what every round keeps; a round may begin at the end of the text
    have hkeep (k l : Nat) (hk : i ≤ k ∧ (i < k → k ≤ text.length))
        (hstep : p.Spans options text k l) : i ≤ l ∧ (i < l → l ≤ text.length) := by
      have := ih hstep
      omega
    exact h.keeps hkeep ⟨Nat.le_refl i, fun h => absurd h (Nat.lt_irrefl i)⟩

/-! ## Sets of places -/

/-- Merging adds no places and loses none. -/
@[simp]
theorem mem_merge_iff {places more : List Nat} {k : Nat} :
    k ∈ merge places more ↔ k ∈ places ∨ k ∈ more := by
  fun_induction merge places more with
  | case1 more => simp
  | case2 places => simp
  | case3 i places j more _ ih => simp only [List.mem_cons, ih, or_assoc]
  | case4 i places j more _ _ ih => simp only [List.mem_cons, ih, or_left_comm, or_assoc]
  | case5 i places j more hij hji ih =>
    obtain rfl : i = j := by omega
    simp only [List.mem_cons, ih]
    grind

section Steps

variable {R : Nat → Nat → Prop} {step : List Nat → List Nat}

/-- A step repeated on a set of places leads to the ends of rows of steps. -/
theorem mem_repeat_iff (hstep : ∀ places k, k ∈ step places ↔ ∃ i ∈ places, R i k) {n : Nat}
    {places : List Nat} {k : Nat} :
    k ∈ Nat.repeat step n places ↔ ∃ i ∈ places, Rounds R n i k := by
  induction n generalizing k with
  | zero => simp [Nat.repeat, rounds_zero_iff]
  | succ n ih =>
    rw [Nat.repeat, hstep]
    simp only [ih, rounds_succ_iff]
    constructor
    · rintro ⟨j, ⟨i, hi, h⟩, hlast⟩
      exact ⟨i, hi, j, h, hlast⟩
    · rintro ⟨i, hi, j, h, hlast⟩
      exact ⟨j, ⟨i, hi, h⟩, hlast⟩

/-- What is reached are the ends of rows of no more than so many steps. -/
theorem mem_reach_iff (hstep : ∀ places k, k ∈ step places ↔ ∃ i ∈ places, R i k) {n : Nat}
    {places : List Nat} {k : Nat} :
    k ∈ reach step n places ↔ ∃ i ∈ places, ∃ m ≤ n, Rounds R m i k := by
  induction n generalizing places with
  | zero => simp [reach, rounds_zero_iff]
  | succ n ih =>
    rw [reach]
    split
    · next hsame =>
      -- no step leads out of the set of places, so no row of steps does
      have hclosed (i j : Nat) (hi : i ∈ places) (hij : R i j) : j ∈ places := by
        rw [← hsame, mem_merge_iff, hstep]
        exact .inr ⟨i, hi, hij⟩
      constructor
      · intro hk
        exact ⟨k, hk, 0, Nat.zero_le _, .zero k⟩
      · rintro ⟨i, hi, m, -, h⟩
        exact h.keeps hclosed hi
    · rw [ih]
      constructor
      · rintro ⟨j, hj, m, hm, h⟩
        rcases mem_merge_iff.1 hj with hj | hj
        · exact ⟨j, hj, m, by omega, h⟩
        · obtain ⟨i, hi, hij⟩ := (hstep places j).1 hj
          exact ⟨i, hi, m + 1, by omega, rounds_succ_iff_left.2 ⟨j, hij, h⟩⟩
      · rintro ⟨i, hi, m, hm, h⟩
        -- the first step of a row, if there is one, is the round that has been merged in
        cases m with
        | zero => exact ⟨i, mem_merge_iff.2 (.inl hi), 0, Nat.zero_le _, h⟩
        | succ m =>
          obtain ⟨j, hij, h⟩ := rounds_succ_iff_left.1 h
          exact ⟨j, mem_merge_iff.2 (.inr ((hstep places j).2 ⟨i, hi, hij⟩)), m, by omega, h⟩

end Steps

/-! ## Finding patterns -/

/-- As many rounds as there are characters are enough for an unbounded repetition. -/
theorem exists_rounds_iff {p : SearchPattern} {least : Nat} {most : Option Nat} {i k : Nat} :
    (∃ j, Rounds (p.Spans options text) least i j ∧
      ∃ m ≤ most.getD (least + text.length) - least, Rounds (p.Spans options text) m j k) ↔
      (SearchPattern.repeated p least most).Spans options text i k := by
  constructor
  · rintro ⟨j, hleast, m, hm, h⟩
    refine ⟨least + m, Nat.le_add_right least m, fun bound hbound => ?_,
      rounds_add_iff.2 ⟨j, hleast, h⟩⟩
    obtain rfl := Option.mem_def.1 hbound
    rw [Option.getD_some] at hm
    omega
  · rintro ⟨n, hn, hmost, h⟩
    obtain ⟨m, rfl⟩ := Nat.exists_eq_add_of_le hn
    obtain ⟨j, hleast, h⟩ := rounds_add_iff.1 h
    cases most with
    | some bound =>
      have := hmost bound rfl
      exact ⟨j, hleast, m, by rw [Option.getD_some]; omega, h⟩
    | none =>
      -- the rounds that count are no more than the places between the two ends
      obtain ⟨hjk, m', -, hm', h'⟩ := exists_rounds_le (fun a b hab => (Spans.le hab).1) h
      have hlength : j < k → k ≤ text.length := by
        have hspans : (SearchPattern.repeated p 0 none).Spans options text j k :=
          ⟨m, Nat.zero_le m, by simp, h⟩
        exact hspans.le.2
      exact ⟨j, hleast, m', by rw [Option.getD_none]; omega, h'⟩

/-- The places that are found are the ends of the parts that a pattern matches. -/
theorem mem_ends_iff (p : SearchPattern) (starts : List Nat) (k : Nat) :
    k ∈ p.ends options text.toArray starts ↔ ∃ i ∈ starts, p.Spans options text i k := by
  induction p generalizing starts k with
  | empty => simp [ends, Spans]
  | textStart => simp only [ends, Spans, List.mem_filter]; grind
  | textEnd => simp only [ends, Spans, List.mem_filter]; grind
  | one set =>
    rw [ends, List.mem_filterMap]
    simp only [Spans, List.getElem?_toArray, Option.bind_eq_some_iff]
    grind
  | sequence first second ihfirst ihsecond =>
    rw [ends, ihsecond]
    simp only [ihfirst, Spans]
    grind
  | either first second ihfirst ihsecond =>
    rw [ends, mem_merge_iff, ihfirst, ihsecond]
    simp only [Spans]
    grind
  | repeated p least most ih =>
    simp only [ends, mem_reach_iff ih, mem_repeat_iff ih, ← exists_rounds_iff, List.size_toArray]
    grind

/-- A pattern is found in a text if it matches a part of the text. -/
theorem foundIn_iff {p : SearchPattern} {text : String} :
    p.foundIn options text = true ↔
      ∃ i ≤ text.toList.length, ∃ j, p.Spans options text.toList i j := by
  rw [foundIn, Bool.not_eq_true', List.isEmpty_eq_false_iff_exists_mem]
  simp only [mem_ends_iff, List.mem_range, List.size_toArray, Nat.lt_succ_iff]
  grind

end StackAudit.SearchPattern
