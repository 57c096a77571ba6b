import StackAudit.Proofs.Pattern.Matching
import StackAudit.Proofs.Text.CaseFolding

/-!
# Inclusion of wildcard patterns

A pattern that matches the text of another one matches all texts that the other one matches
(`Wildcard.Matches.trans`). A question mark in the broader pattern must be excluded: it matches a
`*` in the text of the other one, but not all that this stands for.

## Shape of the proof

The broader pattern cuts the text of the other pattern into pieces, and with them the texts that
the other pattern matches (`Wildcard.matches_append_iff`). A run takes whatever a piece matches. Any
other character takes a single character that is the same in either case; this is no wildcard, since
nothing else folds to a wildcard, so it again matches only characters that are the same.
-/

namespace StackAudit.Wildcard

/-- The empty pattern matches the empty text. -/
theorem matches_nil_iff {text : List Char} : Matches [] text ↔ text = [] := by
  constructor
  · rintro ⟨cut, hcut, rfl⟩
    cases hcut
    rfl
  · rintro rfl
    exact ⟨[], .nil, rfl⟩

/-- A pattern matches a piece for its first character, and then what the rest of it matches. -/
theorem matches_cons_iff {c : Char} {pattern text : List Char} : Matches (c :: pattern) text ↔
    ∃ piece rest, StandsFor c piece ∧ Matches pattern rest ∧ piece ++ rest = text := by
  constructor
  · rintro ⟨cut, hcut, rfl⟩
    obtain ⟨piece, others, hpiece, hothers, rfl⟩ := List.forall₂_cons_left_iff.1 hcut
    exact ⟨piece, others.flatten, hpiece, ⟨others, hothers, rfl⟩, rfl⟩
  · rintro ⟨piece, -, hpiece, ⟨others, hothers, rfl⟩, rfl⟩
    exact ⟨piece :: others, .cons hpiece hothers, rfl⟩

/-- Patterns one after the other match texts one after the other. -/
theorem matches_append_iff {first second text : List Char} : Matches (first ++ second) text ↔
    ∃ front rest, Matches first front ∧ Matches second rest ∧ front ++ rest = text := by
  induction first generalizing text with
  | nil => simp [matches_nil_iff]
  | cons c first ih =>
    rw [List.cons_append, matches_cons_iff]
    constructor
    · rintro ⟨piece, _, hpiece, hmatches, rfl⟩
      obtain ⟨front, rest, hfirst, hsecond, rfl⟩ := ih.1 hmatches
      exact ⟨piece ++ front, rest, matches_cons_iff.2 ⟨piece, front, hpiece, hfirst, rfl⟩, hsecond,
        List.append_assoc piece front rest⟩
    · rintro ⟨_, rest, hfirst, hsecond, rfl⟩
      obtain ⟨piece, front, hpiece, hfront, rfl⟩ := matches_cons_iff.1 hfirst
      exact ⟨piece, front ++ rest, hpiece, ih.2 ⟨front, rest, hfront, hsecond, rfl⟩,
        (List.append_assoc piece front rest).symm⟩

/-- Every character, also a wildcard, stands for itself. -/
theorem standsFor_self (c : Char) : StandsFor c [c] := by
  unfold StandsFor
  split
  · trivial
  · split
    · exact ⟨c, rfl⟩
    · exact ⟨c, rfl, rfl⟩

/-- Every pattern matches its own text. -/
theorem matches_self (pattern : List Char) : Matches pattern pattern := by
  induction pattern with
  | nil => exact matches_nil_iff.2 rfl
  | cons c pattern ih => exact matches_cons_iff.2 ⟨[c], pattern, standsFor_self c, ih, rfl⟩

/-- A character that is the same as a wildcard in either case is this wildcard. -/
theorem StandsFor.congr {c d : Char} (h : Text.foldChar d = Text.foldChar c) {piece : List Char} :
    StandsFor d piece ↔ StandsFor c piece := by
  -- wildcards stand before the capital letters, where folding changes nothing
  have hwildcard (w : Char) (hw : w.toNat < 'A'.toNat) : d = w ↔ c = w := by
    rw [← Text.foldChar_eq_foldChar_iff hw, h, Text.foldChar_eq_foldChar_iff hw]
  simp only [StandsFor, hwildcard '*' (by decide), hwildcard '?' (by decide), h]

/-- A piece that a character other than a question mark stands for is a pattern for such pieces
only. -/
theorem StandsFor.trans {c : Char} (hc : c ≠ '?') {pattern text : List Char}
    (hpattern : StandsFor c pattern) (htext : Matches pattern text) : StandsFor c text := by
  by_cases hstar : c = '*'
  · rw [StandsFor, if_pos hstar]
    trivial
  · rw [StandsFor, if_neg hstar, if_neg hc] at hpattern
    obtain ⟨d, rfl, hfold⟩ := hpattern
    obtain ⟨piece, rest, hpiece, hrest, rfl⟩ := matches_cons_iff.1 htext
    rw [matches_nil_iff.1 hrest, List.append_nil]
    exact (StandsFor.congr hfold).1 hpiece

/-- A pattern without question marks that matches the text of another pattern matches the texts
that this one matches. -/
theorem Matches.trans {broad pattern text : List Char} (hbroad : '?' ∉ broad)
    (hpattern : Matches broad pattern) (htext : Matches pattern text) : Matches broad text := by
  induction broad generalizing pattern text with
  | nil =>
    obtain rfl := matches_nil_iff.1 hpattern
    exact htext
  | cons c broad ih =>
    obtain ⟨hc, hbroad⟩ := not_or.1 (mt List.mem_cons.2 hbroad)
    obtain ⟨piece, others, hpiece, hothers, rfl⟩ := matches_cons_iff.1 hpattern
    -- the text is cut where the broader pattern cuts the other one
    obtain ⟨front, rest, hfront, hrest, rfl⟩ := matches_append_iff.1 htext
    exact matches_cons_iff.2
      ⟨front, rest, hpiece.trans (Ne.symm hc) hfront, ih hbroad hothers hrest, rfl⟩

/-- A question mark matches the text `*`, but not the texts that the pattern `*` matches. -/
example : Matches "?".toList "*".toList ∧ Matches "*".toList "ab".toList ∧
    ¬Matches "?".toList "ab".toList := by decide

end StackAudit.Wildcard
