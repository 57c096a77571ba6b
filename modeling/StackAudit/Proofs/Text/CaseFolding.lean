import StackAudit.Text.CaseFolding

/-!
# What folds to a character

No character before the capital letters folds to another one, and no other one folds to it
(`Text.foldChar_eq_self_or`). So digits, the wildcards and most punctuation are the same as nothing
but themselves (`Text.foldChar_eq_foldChar_iff`).
-/

namespace StackAudit.Text

/-- The characters of a run fold to characters, none of them before the small letters. -/
def FoldingRun.IsSound (run : FoldingRun) : Prop :=
  'a'.toNat ≤ run.target ∧
    (run.target + (run.last - run.first) < 0xD800 ∨
      0xE000 ≤ run.target ∧ run.target + (run.last - run.first) < 0x110000)

instance (run : FoldingRun) : Decidable run.IsSound :=
  inferInstanceAs (Decidable (_ ∧ _))

/-- All runs of the table are sound. -/
theorem isSound_of_mem_foldingRuns : ∀ run ∈ foldingRuns.toList, run.IsSound := by
  decide +kernel

/-- The run that is found is one of the runs, and ends no earlier than at the character. -/
theorem findFoldingRun_eq_some {runs : Array FoldingRun} {n low high fuel : Nat} {run : FoldingRun}
    (h : findFoldingRun runs n low high fuel = some run) : run ∈ runs ∧ n ≤ run.last := by
  fun_induction findFoldingRun runs n low high fuel with
  | case1 | case2 | case6 | case7 => cases h
  | case3 _ _ _ _ _ _ _ _ ih => exact ih h
  | case4 _ _ _ _ _ _ _ _ _ ih => exact ih h
  | case5 low high fuel hlt middle found hfound hfirst hlast hstep =>
    obtain rfl := Option.some.inj h
    exact ⟨Array.mem_of_getElem? hfound, Nat.le_of_not_lt hlast⟩

/-- The character of a valid number has that number. -/
theorem toNat_ofNat_of_isValidChar {n : Nat} (h : n.isValidChar) : (Char.ofNat n).toNat = n := by
  rw [Char.ofNat, dif_pos h]
  rfl

/-- A character of a run folds to one that is not before the small letters. -/
theorem FoldingRun.IsSound.le_toNat {run : FoldingRun} (h : run.IsSound) {n : Nat}
    (hn : n ≤ run.last) : 'a'.toNat ≤ (Char.ofNat (run.target + (n - run.first))).toNat := by
  obtain ⟨htarget, hvalid⟩ := h
  have hoffset : n - run.first ≤ run.last - run.first := Nat.sub_le_sub_right hn run.first
  -- the run stays on one side of the surrogates, which are no characters
  have hchar : (run.target + (n - run.first)).isValidChar := by
    rcases hvalid with hvalid | ⟨hlow, hhigh⟩
    · exact .inl (by omega)
    · exact .inr ⟨by omega, by omega⟩
  rw [toNat_ofNat_of_isValidChar hchar]
  exact Nat.le_add_right_of_le htarget

/-- Of the first 128 characters only the capital letters change in lower case. -/
theorem toLower_eq_self_or : ∀ n < 128, (Char.ofNat n).toLower = Char.ofNat n ∨
    'A'.toNat ≤ n ∧ 'a'.toNat ≤ (Char.ofNat n).toLower.toNat := by
  decide

/-- A character folds to itself, or it is not before the capital letters and folds to one that is
not before the small letters. -/
theorem foldChar_eq_self_or (c : Char) :
    foldChar c = c ∨ 'A'.toNat ≤ c.toNat ∧ 'a'.toNat ≤ (foldChar c).toNat := by
  unfold foldChar
  split
  · next hascii => simpa only [Char.ofNat_toNat] using toLower_eq_self_or c.toNat hascii
  · next hascii =>
    have hcapital : 'A'.toNat ≤ c.toNat := Nat.le_trans (by decide) (Nat.le_of_not_lt hascii)
    split
    · next run hrun =>
      obtain ⟨hmem, hlast⟩ := findFoldingRun_eq_some hrun
      have hsound := isSound_of_mem_foldingRuns run (Array.mem_def.1 hmem)
      exact .inr ⟨hcapital, hsound.le_toNat hlast⟩
    · exact .inl rfl

/-- Before the capital letters there are no two characters with the same folding. -/
theorem foldChar_eq_foldChar_iff {c d : Char} (hd : d.toNat < 'A'.toNat) :
    foldChar c = foldChar d ↔ c = d := by
  have hself : foldChar d = d :=
    (foldChar_eq_self_or d).resolve_right fun h => Nat.not_le_of_lt hd h.1
  constructor
  · intro h
    rw [hself] at h
    -- if `c` changed it would fold to a letter, which `d` is not
    rcases foldChar_eq_self_or c with hc | ⟨-, hletter⟩
    · rw [← hc, h]
    · rw [h] at hletter
      exact absurd hd (Nat.not_lt.2 (Nat.le_trans (by decide) hletter))
  · exact congrArg foldChar

end StackAudit.Text
