import Mathlib.Data.List.Forall2
import StackAudit.Pattern.Wildcard

/-!
# What wildcard patterns match

`Wildcard.Matches` is the rule of wildcard patterns: the text can be cut into consecutive pieces,
one for each character of the pattern in order, so that each piece is one that its character stands
for. `Wildcard.accepts` decides this rule (`Wildcard.accepts_iff_matches`).

## Shape of the proof

Following all cuts at once, `accepts` keeps the rests that the pieces so far can leave. A step on a
single piece is described by `Wildcard.Piece.mem_advance_iff`. For a run it looks at the longest
rest only, so the description needs that the other rests are ends of it; this is the invariant
`Nested`, which every step keeps (`nested_advance`). The induction is on the pieces that are still
to come.
-/

namespace StackAudit.Wildcard

/-! ## The rule -/

/-- A piece of a text is one that a character of a pattern stands for: `*` for any run of
characters, `?` for one character, any other for one character that is the same in either case. -/
def StandsFor (c : Char) (piece : List Char) : Prop :=
  if c = '*' then True
  else if c = '?' then ∃ d, piece = [d]
  else ∃ d, piece = [d] ∧ Text.foldChar d = Text.foldChar c

/-- A text can be cut into consecutive pieces, one for each character of the pattern in order. -/
def Matches (pattern text : List Char) : Prop :=
  ∃ cut, List.Forall₂ StandsFor pattern cut ∧ cut.flatten = text

namespace Piece

/-- A piece of a pattern can take a piece of a text. -/
def Takes : Piece → List Char → Prop
  | run, _ => True
  | one, taken => ∃ d, taken = [d]
  | letter folded, taken => ∃ d, taken = [d] ∧ Text.foldChar d = folded

/-- The piece of a character takes what the character stands for. -/
theorem takes_ofChar_iff (c : Char) (taken : List Char) :
    (ofChar c).Takes taken ↔ StandsFor c taken := by
  unfold ofChar StandsFor
  by_cases hstar : c = '*'
  · simp [hstar, Takes]
  · by_cases hmark : c = '?'
    · simp [hmark, Takes]
    · simp [hstar, hmark, Takes]

end Piece

/-! ## One piece -/

/-- Of several rests of a text each one is an end of those before it. -/
def Nested (rests : List (List Char)) : Prop :=
  rests.Pairwise fun longer shorter => shorter <:+ longer

/-- The rests after a run are the ends of the text. -/
theorem mem_suffixes_iff {text rest : List Char} : rest ∈ suffixes text ↔ rest <:+ text := by
  induction text with
  | nil => simp [suffixes]
  | cons c text ih => simp [suffixes, ih, List.suffix_cons_iff]

/-- The ends of a text are nested. -/
theorem nested_suffixes (text : List Char) : Nested (suffixes text) := by
  induction text with
  | nil => simp [suffixes, Nested]
  | cons c text ih =>
    refine List.pairwise_cons.2 ⟨fun rest hrest => ?_, ih⟩
    exact (mem_suffixes_iff.1 hrest).trans (List.suffix_cons c text)

/-- Taking one character off the front leaves an end of what taking it off a longer rest leaves. -/
theorem nested_filterMap_of_cons {take? : List Char → Option (List Char)}
    (htake : ∀ rest left, take? rest = some left → ∃ d, rest = d :: left) {rests : List (List Char)}
    (h : Nested rests) : Nested (rests.filterMap take?) := by
  refine List.pairwise_filterMap.2 (h.imp fun {longer shorter} hend left hleft left' hleft' => ?_)
  obtain ⟨d, rfl⟩ := htake longer left hleft
  obtain ⟨d', rfl⟩ := htake shorter left' hleft'
  rcases List.suffix_cons_iff.1 hend with heq | hend
  · obtain ⟨-, rfl⟩ := List.cons.inj heq
    exact List.suffix_rfl
  · exact (List.suffix_cons d' left').trans hend

namespace Piece

variable {p : Piece} {rests : List (List Char)}

/-- A step keeps the rests nested. -/
theorem nested_advance (h : Nested rests) : Nested (p.advance rests) := by
  cases p with
  | run =>
    cases rests with
    | nil => exact List.Pairwise.nil
    | cons longest others => exact nested_suffixes longest
  | one =>
    refine nested_filterMap_of_cons (fun rest left hleft => ?_) h
    cases rest with
    | nil => cases hleft
    | cons d rest =>
      cases hleft
      exact ⟨d, rfl⟩
  | letter folded =>
    refine nested_filterMap_of_cons (fun rest left hleft => ?_) h
    cases rest with
    | nil => cases hleft
    | cons d rest =>
      obtain ⟨-, heq⟩ := Option.ite_none_right_eq_some.1 hleft
      exact ⟨d, Option.some.inj heq ▸ rfl⟩

/-- A step leaves what is left when the piece takes something off the front of a rest. -/
theorem mem_advance_iff (h : Nested rests) {left : List Char} :
    left ∈ p.advance rests ↔ ∃ taken, p.Takes taken ∧ taken ++ left ∈ rests := by
  cases p with
  | run =>
    cases rests with
    | nil => simp [advance]
    | cons longest others =>
      rw [advance, mem_suffixes_iff]
      constructor
      · rintro ⟨taken, htaken⟩
        exact ⟨taken, trivial, htaken ▸ List.mem_cons_self⟩
      · rintro ⟨taken, -, hmem⟩
        -- an end of a shorter rest is an end of the longest one, since rests are nested
        have hleft : left <:+ taken ++ left := List.suffix_append taken left
        rcases List.mem_cons.1 hmem with heq | hmem
        · exact heq ▸ hleft
        · exact hleft.trans ((List.pairwise_cons.1 h).1 _ hmem)
  | one =>
    rw [advance, List.mem_filterMap]
    constructor
    · rintro ⟨rest, hrest, hleft⟩
      cases rest with
      | nil => cases hleft
      | cons d rest =>
        cases hleft
        exact ⟨[d], ⟨d, rfl⟩, hrest⟩
    · rintro ⟨taken, ⟨d, rfl⟩, hmem⟩
      exact ⟨d :: left, hmem, rfl⟩
  | letter folded =>
    rw [advance, List.mem_filterMap]
    constructor
    · rintro ⟨rest, hrest, hleft⟩
      cases rest with
      | nil => cases hleft
      | cons d rest =>
        obtain ⟨hfold, heq⟩ := Option.ite_none_right_eq_some.1 hleft
        obtain rfl := Option.some.inj heq
        exact ⟨[d], ⟨d, rfl, hfold⟩, hrest⟩
    · rintro ⟨taken, ⟨d, rfl, hfold⟩, hmem⟩
      exact ⟨d :: left, hmem, if_pos hfold⟩

end Piece

/-! ## All pieces -/

/-- Nothing may be left of some rest once all pieces have taken theirs: the rest can be cut. -/
theorem any_isEmpty_foldl_advance_iff {pieces : List Piece} {rests : List (List Char)}
    (h : Nested rests) :
    (pieces.foldl (fun rests piece => piece.advance rests) rests).any List.isEmpty = true ↔
      ∃ cut, List.Forall₂ Piece.Takes pieces cut ∧ cut.flatten ∈ rests := by
  induction pieces generalizing rests with
  | nil =>
    rw [List.foldl_nil, List.any_eq_true]
    constructor
    · rintro ⟨rest, hrest, hempty⟩
      obtain rfl := List.isEmpty_iff.1 hempty
      exact ⟨[], .nil, hrest⟩
    · rintro ⟨cut, hcut, hmem⟩
      cases hcut
      exact ⟨[], hmem, rfl⟩
  | cons p pieces ih =>
    -- the rests after the first piece are nested again, which is what the induction needs
    rw [List.foldl_cons, ih (Piece.nested_advance h)]
    constructor
    · rintro ⟨cut, hcut, hmem⟩
      obtain ⟨taken, htaken, hmem⟩ := (Piece.mem_advance_iff h).1 hmem
      exact ⟨taken :: cut, .cons htaken hcut, hmem⟩
    · rintro ⟨cut, hcut, hmem⟩
      obtain ⟨taken, others, htaken, hothers, rfl⟩ := List.forall₂_cons_left_iff.1 hcut
      exact ⟨others, hothers, (Piece.mem_advance_iff h).2 ⟨taken, htaken, hmem⟩⟩

/-- The pieces of a pattern accept the texts that match it. -/
theorem accepts_pieces_iff_matches (pattern : List Char) (text : String) :
    Wildcard.accepts ⟨pattern.map Piece.ofChar⟩ text = true ↔ Matches pattern text.toList := by
  have hnested : Nested [text.toList] := List.pairwise_singleton _ _
  rw [accepts, any_isEmpty_foldl_advance_iff hnested]
  simp only [Matches, List.forall₂_map_left_iff, Piece.takes_ofChar_iff, List.mem_singleton]

instance (pattern text : List Char) : Decidable (Matches pattern text) :=
  decidable_of_iff (Wildcard.accepts ⟨pattern.map Piece.ofChar⟩ (String.ofList text) = true)
    (by rw [accepts_pieces_iff_matches, String.toList_ofList])

/-- A text can be used as a pattern. -/
def Usable (s : String) : Prop := ∃ w, ofText s = .ok w

instance (s : String) : Decidable (Usable s) :=
  decidable_of_iff ((ofText s).toOption.isSome = true) (by
    unfold Usable
    cases ofText s <;> simp [Except.toOption])

/-- A usable text makes the pattern with the pieces of its characters. -/
theorem eq_of_ofText {s : String} {w : Wildcard} (h : ofText s = .ok w) :
    w = ⟨s.toList.map Piece.ofChar⟩ := by
  unfold ofText at h
  simp only at h
  split at h
  · cases h
  · exact (Except.ok.inj h).symm

/-- A pattern accepts the texts that match it. -/
theorem accepts_iff_matches {s : String} {w : Wildcard} (h : ofText s = .ok w) (text : String) :
    w.accepts text = true ↔ Matches s.toList text.toList := by
  rw [eq_of_ofText h, accepts_pieces_iff_matches]

example : Matches "S3:get*".toList "s3:GetObject".toList := by decide

example : ¬Matches "ec2:?RunInstances".toList "ec2:RunInstances".toList := by decide

end StackAudit.Wildcard
