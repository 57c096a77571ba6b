import StackAudit.Parameter
import StackAudit.Proofs.Sequencing
import StackAudit.Proofs.Text.Splitting

/-!
# Parameters of list types

A reference to a parameter of a list type yields the same list of texts whether the list is given as
such or as a text with commas between the items and blanks around them, as a value or as the default
(`Parameter.refValue_lists`). What such a reference yields is a list of texts already, so giving it
as the value changes nothing.

## Shape of the proof

Joining padded items and splitting at the commas gives the padded items back, since neither the
items nor the blanks around them have commas (`Text.split_intercalate`). Trimming a padded item
leaves the item (`Text.trim_eq_of_padded`).
-/

namespace StackAudit

namespace Text

/-- No blank stands at either end of a text. -/
def IsTrimmed (s : String) : Prop :=
  (∀ c ∈ s.toList.head?, isBlank c = false) ∧ ∀ c ∈ s.toList.getLast?, isBlank c = false

/-- The second text is the first one with blanks, if any, around it. -/
def Padded (s padded : String) : Prop :=
  ∃ before after : String, (∀ c ∈ before.toList, isBlank c = true) ∧
    (∀ c ∈ after.toList, isBlank c = true) ∧ padded = before ++ s ++ after

/-- Blanks in front are dropped. -/
theorem dropBlanks_append {before : List Char} (h : ∀ c ∈ before, isBlank c = true)
    (rest : List Char) : dropBlanks (before ++ rest) = dropBlanks rest :=
  List.dropWhile_append_of_pos h

/-- Nothing is dropped where no blank stands in front. -/
theorem dropBlanks_eq_self {cs : List Char} (h : ∀ c ∈ cs.head?, isBlank c = false) :
    dropBlanks cs = cs := by
  cases cs with
  | nil => rfl
  | cons c rest => rw [dropBlanks, List.dropWhile_cons, h c rfl, if_neg Bool.false_ne_true]

/-- Of a padded row of characters the blanks at both ends are taken off, and no others. -/
theorem trimBlanks_append {before cs after : List Char} (hbefore : ∀ c ∈ before, isBlank c = true)
    (hafter : ∀ c ∈ after, isBlank c = true)
    (hhead : ∀ c ∈ cs.head?, isBlank c = false) (hlast : ∀ c ∈ cs.getLast?, isBlank c = false) :
    trimBlanks (before ++ cs ++ after) = cs := by
  have hafter' : ∀ c ∈ after.reverse, isBlank c = true := fun c hc =>
    hafter c (List.mem_reverse.1 hc)
  rw [trimBlanks, List.append_assoc, dropBlanks_append hbefore]
  -- without characters between them the blanks behind go with those in front
  cases cs with
  | nil =>
    have hempty : dropBlanks after = [] := by
      rw [← List.append_nil after, dropBlanks_append hafter]
      rfl
    rw [List.nil_append, hempty]
    rfl
  | cons c rest =>
    have hfront : dropBlanks (c :: rest ++ after) = c :: rest ++ after := dropBlanks_eq_self hhead
    rw [hfront, List.reverse_append, dropBlanks_append hafter', dropBlanks_eq_self,
      List.reverse_reverse]
    rwa [List.head?_reverse]

/-- Trimming takes off what padding has put on. -/
theorem trim_eq_of_padded {s padded : String} (hs : IsTrimmed s) (h : Padded s padded) :
    trim padded = s := by
  obtain ⟨before, after, hbefore, hafter, rfl⟩ := h
  rw [trim, String.toList_append, String.toList_append,
    trimBlanks_append hbefore hafter hs.1 hs.2, String.ofList_toList]

/-- Padding puts no comma into a text. -/
theorem comma_not_mem_of_padded {s padded : String} (hs : ',' ∉ s.toList) (h : Padded s padded) :
    ',' ∉ padded.toList := by
  obtain ⟨before, after, hbefore, hafter, rfl⟩ := h
  have hcomma : isBlank ',' ≠ true := by decide
  rw [String.toList_append, String.toList_append, List.mem_append, List.mem_append]
  rintro ((hmem | hmem) | hmem)
  · exact hcomma (hbefore _ hmem)
  · exact hs hmem
  · exact hcomma (hafter _ hmem)

/-- The items of a list are read from its text. -/
theorem map_trim_split_intercalate {items padded : List String} (hitems : items ≠ [])
    (hplain : ∀ s ∈ items, ',' ∉ s.toList ∧ IsTrimmed s) (h : List.Forall₂ Padded items padded) :
    (split "," (",".intercalate padded)).map trim = items := by
  have hrow := (List.forall₂_and_left _ _).2 ⟨hplain, h⟩
  have hpadded : padded ≠ [] := by
    rintro rfl
    exact hitems (List.forall₂_nil_right_iff.1 h)
  -- the only delimiters in the text are those that joining has put there
  have hdisjoint : ∀ part ∈ padded, part.toList.Disjoint ",".toList := by
    intro part hpart
    obtain ⟨s, -, ⟨hcomma, -⟩, hpart⟩ := exists_of_mem_right hrow hpart
    exact List.disjoint_singleton.2 (comma_not_mem_of_padded hcomma hpart)
  rw [split_intercalate (by decide) hpadded hdisjoint, ← List.forall₂_eq_eq_eq,
    List.forall₂_map_left_iff]
  exact hrow.flip.imp fun _ _ hitem => trim_eq_of_padded hitem.1.2 hitem.2

end Text

/-- A value that gives a list of texts: the list itself, or a text with commas between the items and
blanks around them. -/
inductive Value.Gives (items : List String) : Value → Prop where
  | list : Gives items (.list (items.map .string))
  | text {padded : List String} : List.Forall₂ Text.Padded items padded →
      Gives items (.string (",".intercalate padded))

namespace Parameter

variable {p : Parameter} {items : List String} {given : Value}

/-- The texts of a list of strings are those strings. -/
theorem listTexts_strings (items : List String) :
    listTexts (.list (items.map .string)) = items := by
  rw [listTexts, List.map_map]
  exact List.map_id items

/-- Both forms of a list have the same texts. -/
theorem listTexts_eq_of_gives (hitems : items ≠ [])
    (hplain : ∀ s ∈ items, ',' ∉ s.toList ∧ Text.IsTrimmed s) (h : given.Gives items) :
    listTexts given = items := by
  cases h with
  | list => exact listTexts_strings items
  | text hpadded => exact Text.map_trim_split_intercalate hitems hplain hpadded

/-- A reference to a public parameter of a list type yields the texts of what is given. -/
theorem refValue_of_isList (hlist : p.isList = true) (hpublic : p.noEcho = false)
    {provided : Option Value} (h : provided.or p.default? = some given) :
    p.refValue provided = some (.list ((listTexts given).map .string)) := by
  rw [refValue, hpublic, h, hlist]
  rfl

/-- A list of texts means the same in both forms, as a value and as the default. Whatever is given,
what a reference yields stays the same when it is given instead. -/
theorem refValue_lists (hlist : p.isList = true) (hpublic : p.noEcho = false) :
    (∀ items : List String, items ≠ [] → (∀ s ∈ items, ',' ∉ s.toList ∧ Text.IsTrimmed s) →
      ∀ given : Value, given.Gives items →
        p.refValue (some given) = some (.list (items.map .string)) ∧
        refValue { p with default? := some given } none = some (.list (items.map .string))) ∧
    ∀ (provided : Option Value) (given : Value), provided.or p.default? = some given →
      ∃ v, p.refValue provided = some v ∧ p.refValue (some v) = some v := by
  refine ⟨fun items hitems hplain given hgiven => ⟨?_, ?_⟩, fun provided given h => ?_⟩
  · rw [refValue_of_isList hlist hpublic rfl, listTexts_eq_of_gives hitems hplain hgiven]
  · rw [refValue_of_isList (p := { p with default? := some given }) hlist hpublic rfl,
      listTexts_eq_of_gives hitems hplain hgiven]
  · refine ⟨_, refValue_of_isList hlist hpublic h, ?_⟩
    rw [refValue_of_isList hlist hpublic rfl, listTexts_strings]

/-- A parameter for a list of subnets. -/
def subnets : Parameter := ⟨"Subnets", "List<AWS::EC2::Subnet::Id>", none, false, []⟩

/-- A list with an empty item, and a text of it with a tab, a no-break space and an ideographic
space between its commas; and a list of other things that is given as it is. -/
theorem refValue_lists_subnets :
    subnets.isList = true ∧ subnets.noEcho = false ∧
      subnets.refValue (some (.string "\ta b\u00a0,, c\u3000")) =
        some (.list [.string "a b", .string "", .string "c"]) ∧
      refValue { subnets with default? := some (.list [.string "a b", .string "", .string "c"]) }
        none = some (.list [.string "a b", .string "", .string "c"]) ∧
      ∃ v, subnets.refValue (some (.list [.null, .list [.string "x,y", .bool true]])) = some v ∧
        subnets.refValue (some v) = some v := by
  have hlist : subnets.isList = true := by decide +kernel
  obtain ⟨hforms, hagain⟩ := refValue_lists hlist rfl
  have hplain : ∀ s ∈ ["a b", "", "c"], ',' ∉ s.toList ∧ Text.IsTrimmed s := by
    simp [Text.IsTrimmed, Text.isBlank]
  have hpadded : List.Forall₂ Text.Padded ["a b", "", "c"] ["\ta b\u00a0", "", " c\u3000"] :=
    .cons ⟨"\t", "\u00a0", by simp [Text.isBlank], by simp [Text.isBlank], rfl⟩
      (.cons ⟨"", "", by simp, by simp, rfl⟩
        (.cons ⟨" ", "\u3000", by simp [Text.isBlank], by simp [Text.isBlank], rfl⟩ .nil))
  have hne : ["a b", "", "c"] ≠ [] := List.cons_ne_nil _ _
  exact ⟨hlist, rfl, (hforms _ hne hplain _ (.text hpadded)).1, (hforms _ hne hplain _ .list).2,
    hagain _ _ rfl⟩

end Parameter

end StackAudit
