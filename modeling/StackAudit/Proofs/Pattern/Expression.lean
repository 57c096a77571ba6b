import StackAudit.Pattern.Expression
import StackAudit.Proofs.Pattern.Matching
import StackAudit.Proofs.Pattern.Search
import StackAudit.Proofs.Text.Replacing

/-!
# The regular expressions of wildcard patterns

The regular expression that a wildcard pattern is written as matches the texts that the pattern
matches (`Wildcard.foundIn_searchPattern_iff`).

## Shape of the proof

* **Writing.** The text of the expression is made by two replacements in an escaped text. Each of
  them hits the escapes of its own character and nothing else (`Text.replaceFrom_flatMap`), so every
  character of the pattern is written for itself (`searchText_eq`).
* **Reading.** What a character is written as is read as one part of an expression (`partOf`),
  whatever has been read before (`foldlM_step?_writtenChar`). So the expression is the row of these
  parts between two anchors (`ofText_searchText`).
* **Matching.** The part of a character matches the pieces of text that the character stands for
  (`spans_partOf_iff`), and a row of parts the texts that can be cut into such pieces.
-/

namespace StackAudit

/-! ## Writing -/

namespace Wildcard

open SearchPattern (escapeChar isSpecial)

/-- What a character of a pattern is written as. -/
def writtenChar (c : Char) : List Char :=
  if c = '*' then ['.', '*'] else if c = '?' then ['.'] else escapeChar c

/-- An escaped character is a segment for every special character. -/
theorem segment_escapeChar {c : Char} (hc : isSpecial c = true) (d : Char) :
    Text.Segment c (escapeChar d) := by
  unfold escapeChar
  split
  · exact .escaped d
  · next hd =>
    refine .plain (fun hmem => hd ?_) (fun heq => hd ?_)
    · rw [← List.mem_singleton.1 hmem]
      decide
    · rw [Option.some.inj heq]
      exact hc

/-- Every character of a pattern is written for itself. -/
theorem searchText_eq (s : String) :
    searchText s = String.ofList ('^' :: s.toList.flatMap writtenChar ++ ['$']) := by
  -- what the first replacement leaves of a character is a segment again, now for the second one
  have hruns (d : Char) : Text.Segment '?'
      (if escapeChar d = ['\\', '*'] then ['.', '*'] else escapeChar d) := by
    split
    · exact .plain (by decide) (by decide)
    · exact segment_escapeChar (by decide) d
  have hwritten (d : Char) :
      (if (if escapeChar d = ['\\', '*'] then ['.', '*'] else escapeChar d) = ['\\', '?'] then ['.']
        else if escapeChar d = ['\\', '*'] then ['.', '*'] else escapeChar d) = writtenChar d := by
    unfold writtenChar
    by_cases hstar : d = '*'
    · subst hstar
      decide
    · by_cases hmark : d = '?'
      · subst hmark
        decide
      · rw [if_neg hstar, if_neg hmark]
        unfold escapeChar
        split <;> simp [hstar, hmark]
  have hstar : isSpecial '*' = true := by decide
  simp only [searchText, SearchPattern.escape, Text.replace,
    Text.replaceFrom_flatMap (segment_escapeChar hstar) (by decide : '*' ≠ '\\'),
    Text.replaceFrom_flatMap hruns (by decide : '?' ≠ '\\'), hwritten]

/-- A backslash is written for itself too, also before a wildcard. -/
example : searchText "s3:Get*\\?" = "^s3:Get.*\\\\.$" := by decide

/-! ## Reading -/

open SearchPattern (step? start? Reading Unfinished)

/-- The part of a regular expression that stands for a character of a pattern. -/
def partOf (c : Char) : SearchPattern :=
  if c = '*' then .repeated (.one .dot) 0 none
  else if c = '?' then .one .dot
  else .one (.only c)

/-- Parts that have been read outside of groups, the last one first. -/
abbrev outermost (parts : List SearchPattern) (unfinished : Unfinished) : Reading :=
  ⟨⟨none, parts⟩, [], unfinished⟩

/-- Nothing is unfinished, except that a repetition may have been read last. -/
def Settled (unfinished : Unfinished) : Prop :=
  unfinished = .nothing ∨ unfinished = .repetition

/-- In a settled state a character begins a part of its own, unless it is a question mark. -/
theorem step?_of_settled {state : Reading} (h : Settled state.unfinished) {c : Char}
    (hc : c ≠ '?') : step? state c = start? state c := by
  unfold step?
  rcases h with h | h <;> rw [h]
  exact if_neg hc

/-- A special character after a backslash stands for itself. -/
theorem ofEscape?_of_isSpecial {c : Char} (h : isSpecial c = true) :
    SearchPattern.ofEscape? c = some (.only c) := by
  have hmem := List.contains_iff_mem.1 h
  -- the special characters are listed, and each of them is read after a backslash
  simp only [List.mem_cons, List.not_mem_nil, or_false] at hmem
  rcases hmem with rfl | rfl | rfl | rfl | rfl | rfl | rfl | rfl | rfl | rfl | rfl | rfl | rfl |
    rfl | rfl | rfl | rfl | rfl <;> rfl

/-- A character that is not special stands for itself. -/
theorem start?_of_not_isSpecial {state : Reading} {c : Char} (h : isSpecial c = false) :
    start? state c = some (state.push (.one (.only c))) := by
  unfold start?
  split <;> first | rfl | exact absurd h (by decide)

/-- What a character is written as is read as the part of the character. -/
theorem foldlM_step?_writtenChar (c : Char) {parts : List SearchPattern} {unfinished : Unfinished}
    (h : Settled unfinished) : ∃ unfinished', Settled unfinished' ∧
      (writtenChar c).foldlM step? (outermost parts unfinished) =
        some (outermost (partOf c :: parts) unfinished') := by
  unfold writtenChar partOf
  by_cases hstar : c = '*'
  · refine ⟨.repetition, .inr rfl, ?_⟩
    rw [if_pos hstar, if_pos hstar, List.foldlM_cons, step?_of_settled h (by decide)]
    rfl
  rw [if_neg hstar, if_neg hstar]
  by_cases hmark : c = '?'
  · refine ⟨.nothing, .inl rfl, ?_⟩
    rw [if_pos hmark, if_pos hmark, List.foldlM_cons, step?_of_settled h (by decide)]
    rfl
  -- any other character is written as itself or as its escape, and is read as itself
  rw [if_neg hmark, if_neg hmark, escapeChar]
  refine ⟨.nothing, .inl rfl, ?_⟩
  cases hspecial : isSpecial c with
  | true =>
    rw [if_pos rfl, List.foldlM_cons, step?_of_settled h (by decide)]
    show step? (outermost parts .escape) c >>= _ = _
    rw [step?, ofEscape?_of_isSpecial hspecial]
    rfl
  | false =>
    rw [if_neg Bool.false_ne_true, List.foldlM_cons, step?_of_settled h hmark,
      start?_of_not_isSpecial hspecial]
    rfl

/-- What a row of characters is written as is read as the row of their parts. -/
theorem foldlM_step?_flatMap (s : List Char) {parts : List SearchPattern} {unfinished : Unfinished}
    (h : Settled unfinished) : ∃ unfinished', Settled unfinished' ∧
      (s.flatMap writtenChar).foldlM step? (outermost parts unfinished) =
        some (outermost ((s.map partOf).reverse ++ parts) unfinished') := by
  induction s generalizing parts unfinished with
  | nil => exact ⟨unfinished, h, rfl⟩
  | cons c s ih =>
    obtain ⟨between, hbetween, hhead⟩ := @foldlM_step?_writtenChar c parts unfinished h
    obtain ⟨last, hlast, hrest⟩ := @ih (partOf c :: parts) between hbetween
    refine ⟨last, hlast, ?_⟩
    rw [List.flatMap_cons, List.foldlM_append, hhead]
    show (s.flatMap writtenChar).foldlM step? _ = _
    rw [hrest, List.map_cons, List.reverse_cons, List.append_assoc, List.singleton_append]

/-- The text of an expression is read as a row of parts between two anchors. -/
theorem foldlM_step?_anchored (s : List Char) :
    ('^' :: s.flatMap writtenChar ++ ['$']).foldlM step? (outermost [] .nothing) =
      some (outermost (.textEnd :: ((s.map partOf).reverse ++ [.textStart])) .nothing) := by
  obtain ⟨last, hlast, hread⟩ := @foldlM_step?_flatMap s [.textStart] .nothing (.inl rfl)
  have hstart : step? (outermost [] .nothing) '^' = some (outermost [.textStart] .nothing) := rfl
  -- whatever is read last, the anchor behind it is one more part
  have hend : step? (outermost ((s.map partOf).reverse ++ [.textStart]) last) '$' =
      some (outermost (.textEnd :: ((s.map partOf).reverse ++ [.textStart])) .nothing) := by
    rw [step?_of_settled hlast (by decide)]
    rfl
  rw [List.foldlM_append, List.foldlM_cons, hstart]
  show (s.flatMap writtenChar).foldlM step? _ >>= _ = _
  rw [hread]
  show ['$'].foldlM step? _ = _
  rw [List.foldlM_cons, hend]
  rfl

/-- The parts of a pattern in a row, and then a last part. -/
def rowOf (s : List Char) (last : SearchPattern) : SearchPattern :=
  (s.map partOf).foldr .sequence last

/-- The expression of a pattern is the row of the parts of its characters between two anchors. -/
theorem ofText_searchText (s : String) : SearchPattern.ofText (searchText s) =
    .ok (.sequence .textStart (rowOf s.toList (.sequence .textEnd .empty))) := by
  rw [searchText_eq, SearchPattern.ofText, String.toList_ofList, foldlM_step?_anchored]
  show Except.ok (SearchPattern.ofParts _) = _
  rw [SearchPattern.ofParts, List.foldl_cons, List.foldl_append, List.foldl_reverse]
  rfl

/-! ## Matching -/

section Matching

variable {text : List Char} {i j k : Nat}

/-- A piece ends as many places after its beginning as it has characters. -/
theorem eq_add_length_of_drop_eq (hi : i ≤ text.length) (hj : j ≤ text.length) {piece : List Char}
    (h : text.drop i = piece ++ text.drop j) : j = i + piece.length := by
  have hlength := congrArg List.length h
  rw [List.length_append, List.length_drop, List.length_drop] at hlength
  omega

/-- The pieces of one character begin where the character is, and end after it. -/
theorem drop_eq_cons_iff (hi : i ≤ text.length) {d : Char} :
    j ≤ text.length ∧ text.drop i = [d] ++ text.drop j ↔ text[i]? = some d ∧ j = i + 1 := by
  constructor
  · rintro ⟨hj, heq⟩
    refine ⟨?_, eq_add_length_of_drop_eq hi hj heq⟩
    rw [← List.head?_drop, heq]
    rfl
  · rintro ⟨hd, rfl⟩
    obtain ⟨hlt, rfl⟩ := List.getElem?_eq_some_iff.1 hd
    exact ⟨hlt, List.drop_eq_getElem_cons hlt⟩

/-- Between two places in order there is some piece. -/
theorem exists_piece_iff (hi : i ≤ text.length) :
    (j ≤ text.length ∧ ∃ piece, text.drop i = piece ++ text.drop j) ↔ i ≤ j ∧ j ≤ text.length := by
  constructor
  · rintro ⟨hj, piece, heq⟩
    exact ⟨Nat.le.intro (eq_add_length_of_drop_eq hi hj heq).symm, hj⟩
  · rintro ⟨hij, hj⟩
    refine ⟨hj, (text.drop i).take (j - i), ?_⟩
    conv_lhs => rw [← List.take_append_drop (j - i) (text.drop i)]
    rw [List.drop_drop, Nat.add_sub_cancel' hij]

/-- What is left after a piece is the end of the text from some place on. -/
theorem exists_place {piece rest : List Char} (h : text.drop i = piece ++ rest) :
    ∃ l ≤ text.length, text.drop l = rest := by
  have hend : rest <:+ text := ⟨text.take i ++ piece, by
    rw [List.append_assoc, ← h, List.take_append_drop]⟩
  exact ⟨text.length - rest.length, Nat.sub_le _ _, (List.suffix_iff_eq_drop.1 hend).symm⟩

/-- A set of characters matches the pieces of one character of the set. -/
theorem spans_one_iff (hi : i ≤ text.length) {set : CharClass} :
    (SearchPattern.one set).Spans searchOptions text i j ↔ j ≤ text.length ∧
      ∃ piece, (∃ d, piece = [d] ∧ set.contains searchOptions d = true) ∧
        text.drop i = piece ++ text.drop j := by
  constructor
  · rintro ⟨⟨d, hd, hset⟩, hj⟩
    obtain ⟨hlength, heq⟩ := (drop_eq_cons_iff hi).2 ⟨hd, hj⟩
    exact ⟨hlength, [d], ⟨d, rfl, hset⟩, heq⟩
  · rintro ⟨hlength, -, ⟨d, rfl, hset⟩, heq⟩
    obtain ⟨hd, hj⟩ := (drop_eq_cons_iff hi).1 ⟨hlength, heq⟩
    exact ⟨⟨d, hd, hset⟩, hj⟩

/-- Every row of characters is as many rounds of any character. -/
theorem rounds_dot (hij : i ≤ j) (hj : j ≤ text.length) :
    SearchPattern.Rounds ((SearchPattern.one .dot).Spans searchOptions text) (j - i) i j := by
  induction hij with
  | refl =>
    rw [Nat.sub_self]
    exact .zero i
  | @step j hij ih =>
    rw [Nat.succ_sub hij]
    exact .succ (ih (Nat.le_of_succ_le hj)) ⟨⟨text[j], List.getElem?_eq_getElem hj, rfl⟩, rfl⟩

/-- Any number of characters, line ends included, is any piece. -/
theorem spans_dots_iff (hi : i ≤ text.length) :
    (SearchPattern.repeated (.one .dot) 0 none).Spans searchOptions text i j ↔
      i ≤ j ∧ j ≤ text.length := by
  constructor
  · intro h
    have := h.le
    omega
  · rintro ⟨hij, hj⟩
    exact ⟨j - i, Nat.zero_le _, by simp, rounds_dot hij hj⟩

/-- The part of a character matches the pieces that the character stands for. -/
theorem spans_partOf_iff (hi : i ≤ text.length) {c : Char} :
    (partOf c).Spans searchOptions text i j ↔ j ≤ text.length ∧
      ∃ piece, StandsFor c piece ∧ text.drop i = piece ++ text.drop j := by
  unfold partOf StandsFor
  by_cases hstar : c = '*'
  · simp only [if_pos hstar, true_and]
    rw [spans_dots_iff hi, exists_piece_iff hi]
  · by_cases hmark : c = '?'
    · simp only [if_neg hstar, if_pos hmark, spans_one_iff hi]
      simp [CharClass.contains, searchOptions]
    · simp only [if_neg hstar, if_neg hmark, spans_one_iff hi]
      simp [CharClass.contains, searchOptions]

/-- A row of parts matches what can be cut into pieces of its characters, and then the last part. -/
theorem spans_rowOf_iff (hi : i ≤ text.length) {s : List Char} {last : SearchPattern} :
    (rowOf s last).Spans searchOptions text i k ↔ ∃ j ≤ text.length,
      (∃ cut, List.Forall₂ StandsFor s cut ∧ text.drop i = cut.flatten ++ text.drop j) ∧
        last.Spans searchOptions text j k := by
  induction s generalizing i with
  | nil =>
    constructor
    · intro h
      exact ⟨i, hi, ⟨[], .nil, rfl⟩, h⟩
    · rintro ⟨j, hj, ⟨-, ⟨⟩, heq⟩, h⟩
      -- without characters the cut is empty, so the last part begins at once
      obtain rfl : j = i := eq_add_length_of_drop_eq hi hj heq
      exact h
  | cons c s ih =>
    constructor
    · rintro ⟨l, hpart, hrow⟩
      obtain ⟨hl, piece, hpiece, heq⟩ := (spans_partOf_iff hi).1 hpart
      obtain ⟨j, hj, ⟨cut, hcut, heq'⟩, hlast⟩ := (ih hl).1 hrow
      refine ⟨j, hj, ⟨piece :: cut, .cons hpiece hcut, ?_⟩, hlast⟩
      rw [heq, heq', List.flatten_cons, List.append_assoc]
    · rintro ⟨j, hj, ⟨pieces, hpieces, heq⟩, hlast⟩
      obtain ⟨piece, cut, hpiece, hcut, rfl⟩ := List.forall₂_cons_left_iff.1 hpieces
      rw [List.flatten_cons, List.append_assoc] at heq
      -- the induction is over places, so what is left must be the text from some place on
      obtain ⟨l, hl, hplace⟩ := exists_place heq
      refine ⟨l, (spans_partOf_iff hi).2 ⟨hl, piece, hpiece, ?_⟩,
        (ih hl).2 ⟨j, hj, ⟨cut, hcut, hplace⟩, hlast⟩⟩
      rw [heq, hplace]

/-- The row of the parts of a pattern between two anchors is found in the texts that the pattern
matches. -/
theorem foundIn_rowOf_iff {s : List Char} {text : String} :
    (SearchPattern.sequence .textStart (rowOf s (.sequence .textEnd .empty))).foundIn searchOptions
      text = true ↔ Matches s text.toList := by
  rw [SearchPattern.foundIn_iff]
  constructor
  · -- the anchors fix both ends: a search that may start anywhere starts at 0
    rintro ⟨i, -, k, l, ⟨rfl, rfl⟩, hrow⟩
    obtain ⟨j, -, ⟨cut, hcut, heq⟩, l, ⟨rfl, -⟩, -⟩ := (spans_rowOf_iff (Nat.zero_le _)).1 hrow
    rw [List.drop_length, List.append_nil] at heq
    exact ⟨cut, hcut, heq.symm⟩
  · rintro ⟨cut, hcut, heq⟩
    refine ⟨0, Nat.zero_le _, text.toList.length, 0, ⟨rfl, rfl⟩, ?_⟩
    refine (spans_rowOf_iff (Nat.zero_le _)).2 ⟨text.toList.length, Nat.le_refl _,
      ⟨cut, hcut, ?_⟩, text.toList.length, ⟨rfl, rfl⟩, rfl⟩
    rw [List.drop_length, List.append_nil, heq, List.drop_zero]

end Matching

/-! ## The regular expression -/

/-- Wildcard characters are those whose pieces are not letters. -/
theorem ofText_eq (s : String) : ofText s =
    if limit < s.toList.countP (fun c => c = '*' || c = '?') then .error tooLarge
    else .ok ⟨s.toList.map Piece.ofChar⟩ := by
  have hpiece (c : Char) :
      (Piece.ofChar c = .run || Piece.ofChar c = .one : Bool) = (c = '*' || c = '?' : Bool) := by
    unfold Piece.ofChar
    by_cases hstar : c = '*'
    · simp [hstar]
    · by_cases hmark : c = '?' <;> simp [hstar, hmark]
  simp only [ofText, List.countP_map, Function.comp_def, hpiece]

/-- A pattern has a regular expression exactly if it is usable: the text that is written is always
one. -/
theorem exists_searchPattern_iff (s : String) : (∃ p, searchPattern s = .ok p) ↔ Usable s := by
  unfold Usable
  rw [ofText_eq, searchPattern, ofText_searchText]
  split <;> simp

/-- The regular expression of a usable pattern is the row of its parts between two anchors. -/
theorem eq_of_searchPattern {s : String} {p : SearchPattern} (h : searchPattern s = .ok p) :
    p = .sequence .textStart (rowOf s.toList (.sequence .textEnd .empty)) := by
  unfold searchPattern at h
  split at h
  · cases h
  · rw [ofText_searchText] at h
    exact (Except.ok.inj h).symm

/-- The regular expression of a pattern is found in a text if the text can be cut into consecutive
pieces, one for each character of the pattern in order: any run of characters for `*`, one character
for `?`, and for every other character, those with a meaning in regular expressions included, one
that is the same in either case. The pattern itself accepts the same texts. -/
theorem foundIn_searchPattern_iff {s : String} {p : SearchPattern} (h : searchPattern s = .ok p)
    (text : String) :
    (p.foundIn searchOptions text = true ↔ Matches s.toList text.toList) ∧
      ∃ w, ofText s = .ok w ∧ w.accepts text = p.foundIn searchOptions text := by
  have hfound : p.foundIn searchOptions text = true ↔ Matches s.toList text.toList := by
    rw [eq_of_searchPattern h, foundIn_rowOf_iff]
  obtain ⟨w, hw⟩ := (exists_searchPattern_iff s).1 ⟨p, h⟩
  refine ⟨hfound, w, hw, ?_⟩
  rw [Bool.eq_iff_iff, accepts_iff_matches hw, hfound]

/-- A backslash in front of a wildcard is a character like others, and a run may go over lines. -/
theorem foundIn_searchPattern_share :
    ∃ p, searchPattern "\\\\[s]\\*.?K" = .ok p ∧
      p.foundIn searchOptions "\\\\[S]\\a\nb.\n\u212A" = true := by
  obtain ⟨p, hp⟩ := (exists_searchPattern_iff "\\\\[s]\\*.?K").2 ⟨_, rfl⟩
  exact ⟨p, hp, (foundIn_searchPattern_iff hp _).1.2 (by decide +kernel)⟩

end Wildcard

end StackAudit
