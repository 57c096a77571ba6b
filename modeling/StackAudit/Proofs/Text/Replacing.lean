import StackAudit.Text.Replacing

/-!
# Replacing escapes

In a text with escaped characters `replaceFrom` hits the escapes of its own character and nothing
else (`Text.replaceFrom_flatMap`).

Such a text is a row of segments: characters that need no escape, and backslashes with the
characters that they escape. An escaped backslash may stand in front of anything, so what keeps it
from being taken for the escape of what follows is that no segment begins with a character that is
escaped.
-/

namespace StackAudit.Text

/-- What a character may be written as in a text in which escapes of `c` are replaced: an escaped
character, or characters without a backslash of which the first is not `c`. -/
inductive Segment (c : Char) : List Char → Prop where
  | escaped (d : Char) : Segment c ['\\', d]
  | plain {segment : List Char} : '\\' ∉ segment → segment.head? ≠ some c → Segment c segment

variable {c : Char} {new rest : List Char}

/-- An escape of the character is replaced. -/
theorem replaceFrom_escape :
    replaceFrom '\\' [c] new 0 ('\\' :: c :: rest) = new ++ replaceFrom '\\' [c] new 0 rest := by
  simp [replaceFrom]

/-- Characters other than backslashes stay. -/
theorem replaceFrom_plain {segment : List Char} (h : '\\' ∉ segment) :
    replaceFrom '\\' [c] new 0 (segment ++ rest) =
      segment ++ replaceFrom '\\' [c] new 0 rest := by
  induction segment with
  | nil => rfl
  | cons d segment ih =>
    obtain ⟨hd, hsegment⟩ := not_or.1 (mt List.mem_cons.2 h)
    simp [replaceFrom, hd, ih hsegment]

/-- A backslash before another character stays. -/
theorem replaceFrom_backslash (h : rest.head? ≠ some c) :
    replaceFrom '\\' [c] new 0 ('\\' :: rest) = '\\' :: replaceFrom '\\' [c] new 0 rest := by
  cases rest with
  | nil => simp [replaceFrom]
  | cons d rest =>
    have hd : c ≠ d := fun heq => h (by rw [heq, List.head?_cons])
    simp [replaceFrom, hd]

/-- A segment does not begin with the character. -/
theorem Segment.head?_ne {segment : List Char} (h : Segment c segment) (hc : c ≠ '\\') :
    segment.head? ≠ some c := by
  cases h with
  | escaped d => simpa using hc.symm
  | plain _ hhead => exact hhead

/-- A segment is replaced if it is an escape of the character, and stays if it is not. -/
theorem Segment.replaceFrom_append {segment : List Char} (h : Segment c segment)
    (hrest : rest.head? ≠ some c) :
    replaceFrom '\\' [c] new 0 (segment ++ rest) =
      (if segment = ['\\', c] then new else segment) ++ replaceFrom '\\' [c] new 0 rest := by
  cases h with
  | escaped d =>
    by_cases hd : d = c
    · rw [hd, if_pos rfl]
      exact replaceFrom_escape
    · have hhead : (d :: rest).head? ≠ some c := fun heq => hd (Option.some.inj heq)
      rw [if_neg (fun heq => hd (by simpa using heq)), List.cons_append, List.cons_append,
        List.nil_append, replaceFrom_backslash hhead]
      -- an escaped backslash is no escape of the character after it
      by_cases hslash : d = '\\'
      · rw [hslash, replaceFrom_backslash hrest]
        rfl
      · have hplain : '\\' ∉ [d] := by simpa using Ne.symm hslash
        exact congrArg ('\\' :: ·) (replaceFrom_plain hplain)
  | plain hslash _ =>
    rw [if_neg (fun heq => hslash (by rw [heq]; exact List.mem_cons_self)),
      replaceFrom_plain hslash]

/-- A row of segments does not begin with the character. -/
theorem head?_flatMap_ne {segment : Char → List Char} (h : ∀ d, Segment c (segment d))
    (hc : c ≠ '\\') (text : List Char) : (text.flatMap segment).head? ≠ some c := by
  induction text with
  | nil => simp
  | cons d text ih =>
    have hhead := (h d).head?_ne hc
    rw [List.flatMap_cons, List.head?_append]
    -- a segment may be empty, and then the head is that of the rest
    revert hhead
    cases (segment d).head? with
    | none => exact fun _ => ih
    | some e => exact id

/-- In a row of segments the escapes of the character are replaced, and everything else stays. -/
theorem replaceFrom_flatMap {segment : Char → List Char} (h : ∀ d, Segment c (segment d))
    (hc : c ≠ '\\') (text : List Char) :
    replaceFrom '\\' [c] new 0 (text.flatMap segment) =
      text.flatMap fun d => if segment d = ['\\', c] then new else segment d := by
  induction text with
  | nil => rfl
  | cons d text ih =>
    rw [List.flatMap_cons, List.flatMap_cons, (h d).replaceFrom_append (head?_flatMap_ne h hc text),
      ih]

end StackAudit.Text
