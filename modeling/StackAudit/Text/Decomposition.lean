import Std.Data.HashMap
import StackAudit.Text.CaseFolding
import StackAudit.Text.DecompositionTable
import StackAudit.Text.Integer

/-!
# Compatibility decomposition

`decompose` takes a text apart into letters and marks: every character is replaced by its
compatibility decomposition, and marks that follow each other are put in the order of their
combining classes. Two texts that look alike to a reader who does not care for case have the same
`caselessForm`.
-/

namespace StackAudit.Text

/-- A range of characters as it is written in the tables. -/
def rangeOfEntry (entry : String) : Nat × Nat :=
  match (entry.splitOn "-").filterMap fun part => hexValue? part.toList with
  | [first, last] => (first, last)
  | [only] => (only, only)
  | _ => (1, 0)

/-- The characters of a range. -/
def charactersOf (range : Nat × Nat) : List Nat :=
  (List.range (range.2 + 1 - range.1)).map (range.1 + ·)

/-- The words of each entry of a table. -/
def tableEntries (table : List String) : List (List String) :=
  (table.flatMap (·.splitOn ";")).map (·.splitOn " ")

/-- The full compatibility decompositions by character. -/
def decompositions : Std.HashMap Nat (List Char) :=
  (tableEntries decompositionEntries).foldl
    (fun map words =>
      match words with
      | [] => map
      | range :: targets =>
        let range := rangeOfEntry range
        let targets := targets.filterMap fun word => hexValue? word.toList
        (charactersOf range).foldl
          (fun map n => map.insert n (targets.map fun t => Char.ofNat (t + (n - range.1)))) map)
    {}

/-- The combining classes by character. -/
def combiningClasses : Std.HashMap Nat Nat :=
  (tableEntries combiningEntries).foldl
    (fun map words =>
      match words with
      | [range, number] =>
        (charactersOf (rangeOfEntry range)).foldl
          (fun map n => map.insert n ((hexValue? number.toList).getD 0)) map
      | _ => map)
    {}

/-- The combining class of a character; letters have class zero. -/
def combiningClass (c : Char) : Nat :=
  if c.toNat < 0x300 then 0 else combiningClasses.getD c.toNat 0

/-- A Hangul syllable as its two or three letters. -/
def decomposeHangul (syllable : Nat) : List Char :=
  let leading := 0x1100 + syllable / 588
  let vowel := 0x1161 + syllable % 588 / 28
  let trailing := syllable % 28
  (leading :: vowel :: if trailing = 0 then [] else [0x11A7 + trailing]).map Char.ofNat

/-- The full compatibility decomposition of a character. -/
def decomposeChar (c : Char) : List Char :=
  if c.toNat < 0xA0 then [c]
  else if 0xAC00 ≤ c.toNat ∧ c.toNat < 0xD7A4 then decomposeHangul (c.toNat - 0xAC00)
  else decompositions.getD c.toNat [c]

/-- Puts a character in front of a text whose marks are in order: past the marks with a smaller
class, if it is a mark itself. -/
def insertMark (c : Char) : List Char → List Char
  | [] => [c]
  | d :: rest =>
    if 0 < combiningClass d ∧ combiningClass d < combiningClass c then d :: insertMark c rest
    else c :: d :: rest

/-- Orders the marks between any two letters by their classes; marks of one class keep their order.
-/
def orderMarks (text : List Char) : List Char := text.foldr insertMark []

/-- The compatibility decomposition of a text. -/
def decompose (text : List Char) : List Char := orderMarks (text.flatMap decomposeChar)

/-- The form of a text in which neither case nor compatibility variants make a difference. -/
def caselessForm (text : String) : List Char :=
  decompose (foldCase (decompose text.toList))

end StackAudit.Text
