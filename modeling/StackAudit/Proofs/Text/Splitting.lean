import Mathlib.Data.List.Basic
import StackAudit.Text.Splitting

/-!
# Splitting and joining texts

A text is what its parts make up with the delimiter between them (`Text.intercalate_split`), for
every delimiter. Conversely the parts are what was joined, if none of them has a character of the
delimiter (`Text.split_intercalate`): then no occurrence of the delimiter begins within a part, and
so the leftmost ones are those that joining has put in.
-/

namespace StackAudit.Text

variable {d : Char} {ds part rest : List Char}

/-- There is always a first part. -/
theorem splitAt_ne_nil (d : Char) (ds text : List Char) : splitAt d ds text ≠ [] := by
  cases text with
  | nil => rw [splitAt]; exact List.cons_ne_nil _ _
  | cons c rest =>
    rw [splitAt]
    split
    · exact List.cons_ne_nil _ _
    · cases splitAt d ds rest <;> exact List.cons_ne_nil _ _

/-- A character in front of the first part comes in front of the text. -/
theorem intercalate_consFirst (c : Char) (delimiter : List Char) {parts : List (List Char)}
    (h : parts ≠ []) :
    delimiter.intercalate (consFirst c parts) = c :: delimiter.intercalate parts := by
  match parts with
  | [] => exact absurd rfl h
  | [part] => rw [consFirst, List.intercalate_singleton, List.intercalate_singleton]
  | part :: next :: rest =>
    rw [consFirst, List.intercalate_cons_cons, List.intercalate_cons_cons]
    rfl

/-- The parts make up the text, with the delimiter between them. -/
theorem intercalate_splitAt (d : Char) (ds text : List Char) :
    (d :: ds).intercalate (splitAt d ds text) = text := by
  -- along the recursion of `splitAt`: nothing is left, the delimiter begins, or it does not
  fun_induction splitAt d ds text with
  | case1 => exact List.intercalate_singleton
  | case2 c rest hdelimiter ih =>
    obtain ⟨after, hafter⟩ := List.isPrefixOf_iff_prefix.1 hdelimiter
    have hrest : ds ++ after = rest := (List.cons.inj hafter).2
    rw [List.intercalate_cons_of_ne_nil (splitAt_ne_nil _ _ _), ih, ← hafter, ← hrest,
      List.drop_left, List.nil_append]
  | case3 c rest _ ih => rw [intercalate_consFirst c _ (splitAt_ne_nil _ _ _), ih]

/-- The text after the delimiter is split on its own. -/
theorem splitAt_delimiter_append (d : Char) (ds rest : List Char) :
    splitAt d ds (d :: ds ++ rest) = [] :: splitAt d ds rest := by
  have hdelimiter : (d :: ds).isPrefixOf (d :: (ds ++ rest)) = true :=
    List.isPrefixOf_iff_prefix.2 ⟨rest, rfl⟩
  rw [List.cons_append, splitAt, if_pos hdelimiter, List.drop_left]

/-- A character with which the delimiter does not begin belongs to the first part. -/
theorem splitAt_cons_of_ne {c : Char} (h : d ≠ c) (rest : List Char) :
    splitAt d ds (c :: rest) = consFirst c (splitAt d ds rest) := by
  have hdelimiter : ¬(d :: ds).isPrefixOf (c :: rest) = true := fun hprefix =>
    h (List.cons_prefix_cons.1 (List.isPrefixOf_iff_prefix.1 hprefix)).1
  rw [splitAt, if_neg hdelimiter]

/-- The first part ends where the delimiter first begins. -/
theorem splitAt_append (h : d ∉ part) :
    splitAt d ds (part ++ (d :: ds ++ rest)) = part :: splitAt d ds rest := by
  induction part with
  | nil => exact splitAt_delimiter_append d ds rest
  | cons c part ih =>
    obtain ⟨hc, hpart⟩ := not_or.1 (mt List.mem_cons.2 h)
    rw [List.cons_append, splitAt_cons_of_ne hc, ih hpart, consFirst]

/-- Where the delimiter does not begin there is one part only. -/
theorem splitAt_of_not_mem (h : d ∉ part) : splitAt d ds part = [part] := by
  induction part with
  | nil => rw [splitAt]
  | cons c part ih =>
    obtain ⟨hc, hpart⟩ := not_or.1 (mt List.mem_cons.2 h)
    rw [splitAt_cons_of_ne hc, ih hpart, consFirst]

/-- Parts in which the delimiter does not begin are found again. -/
theorem splitAt_intercalate {parts : List (List Char)} (hparts : parts ≠ [])
    (h : ∀ part ∈ parts, d ∉ part) : splitAt d ds ((d :: ds).intercalate parts) = parts := by
  induction parts with
  | nil => exact absurd rfl hparts
  | cons part rest ih =>
    obtain ⟨hpart, hrest⟩ := List.forall_mem_cons.1 h
    cases rest with
    | nil => rw [List.intercalate_singleton, splitAt_of_not_mem hpart]
    | cons next rest =>
      rw [List.intercalate_cons_cons, List.append_assoc, splitAt_append hpart,
        ih (List.cons_ne_nil _ _) hrest]

/-! ## Texts -/

/-- Every text is joined from the parts that it is split into, also by an empty delimiter. -/
theorem intercalate_split (delimiter text : String) :
    delimiter.intercalate (split delimiter text) = text := by
  rw [← String.toList_inj, String.toList_intercalate, split]
  -- an empty delimiter does not split at all
  cases delimiter.toList with
  | nil => rw [List.map_singleton, List.intercalate_singleton]
  | cons d ds =>
    have hlists : ((splitAt d ds text.toList).map String.ofList).map String.toList =
        splitAt d ds text.toList := by
      simp only [List.map_map, Function.comp_def, String.toList_ofList, List.map_id']
    rw [hlists, intercalate_splitAt]

/-- Parts that have no character in common with the delimiter are found again after joining. -/
theorem split_intercalate {delimiter : String} {parts : List String} (hdelimiter : delimiter ≠ "")
    (hparts : parts ≠ []) (h : ∀ part ∈ parts, part.toList.Disjoint delimiter.toList) :
    split delimiter (delimiter.intercalate parts) = parts := by
  cases hd : delimiter.toList with
  | nil => exact absurd (String.toList_eq_nil_iff.1 hd) hdelimiter
  | cons d ds =>
    -- it is enough that the first character of the delimiter is in no part
    have hlists : ∀ part ∈ parts.map String.toList, d ∉ part := by
      refine List.forall_mem_map.2 fun part hpart hmem => h part hpart hmem ?_
      rw [hd]
      exact List.mem_cons_self
    have htexts : (parts.map String.toList).map String.ofList = parts := by
      simp only [List.map_map, Function.comp_def, String.ofList_toList, List.map_id']
    rw [split, hd, String.toList_intercalate, hd]
    show (splitAt d ds ((d :: ds).intercalate (parts.map String.toList))).map String.ofList = parts
    rw [splitAt_intercalate (mt List.map_eq_nil_iff.1 hparts) hlists, htexts]

end StackAudit.Text
