import StackAudit.Proofs.Resolution.Data
import StackAudit.Proofs.Text.Splitting

/-!
# Joining and splitting in templates

`Fn::Join` puts together what `Fn::Split` has cut, for every delimiter and every source, and
`Fn::Split` finds the literal texts again that `Fn::Join` has put together
(`Node.resolve_join_and_split`).

Shape of the proof:

* `Intrinsic.joinOutcome_splitOutcome` and `Intrinsic.splitOutcome_joinOutcome` say this of
  outcomes. They take the two inverse laws of texts to values.
* Both nodes resolve the delimiter to the same value, and a call gets the outcomes of its arguments
  however it is written (`Node.IsCallOf.resolve_pair_eq`). So nothing is dropped from what
  `Fn::Split` yields, even if a part is the mark of an absent value; a literal list loses such
  items (`Node.resolve_list_strings` is about one that has none).
-/

namespace StackAudit

/-- Strings are their own texts. -/
theorem map_text_map_string (texts : List String) : (texts.map .string).map Value.text = texts := by
  rw [List.map_map]
  exact List.map_id texts

namespace Intrinsic

/-- Joining the parts of a source gives its text. -/
theorem joinOutcome_splitOutcome (delimiter source : Value) :
    joinOutcome (.ok delimiter) (splitOutcome (.ok delimiter) (.ok source)) =
      .ok (.string source.text) := by
  have hparts : delimiter.text.intercalate
      (((Text.split delimiter.text source.text).map .string).map Value.text) = source.text := by
    rw [map_text_map_string, Text.intercalate_split]
  exact congrArg (Except.ok ∘ Value.string) hparts

/-- Splitting what was joined gives the texts, unless one has a character of the delimiter. -/
theorem splitOutcome_joinOutcome {delimiter : Value} {texts : List String}
    (hdelimiter : delimiter.text ≠ "") (htexts : texts ≠ [])
    (h : ∀ text ∈ texts, text.toList.Disjoint delimiter.text.toList) :
    splitOutcome (.ok delimiter) (joinOutcome (.ok delimiter) (.ok (.list (texts.map .string)))) =
      .ok (.list (texts.map .string)) := by
  have hparts : Text.split delimiter.text
      (delimiter.text.intercalate ((texts.map .string).map Value.text)) = texts := by
    rw [map_text_map_string, Text.split_intercalate hdelimiter htexts h]
  exact congrArg (fun parts => Except.ok (Value.list (parts.map .string))) hparts

end Intrinsic

namespace Node

variable {scope : Scope} {d s split join : Node} {delimiter source : Value} {texts : List String}

/-- A list of literal texts resolves to itself if none of them is the mark of an absent value. -/
theorem resolve_list_strings (scope : Scope) (h : Value.noValueText ∉ texts) :
    (list (texts.map .string)).resolve scope = .ok (.list (texts.map .string)) := by
  have hvalues : List.Forall₂ (fun (item : Node) v => item.resolve scope = .ok v)
      (texts.map .string) (texts.map .string) :=
    List.forall₂_map_left_iff.2 (List.forall₂_map_right_iff.2 (List.forall₂_same.2 fun _ _ => rfl))
  -- a list loses the items that are absent, and here none is
  have hkept : (texts.map Value.string).filter (!·.isNoValue) = texts.map .string := by
    refine List.filter_eq_self.2 (List.forall_mem_map.2 fun text htext => ?_)
    have hne : text ≠ Value.noValueText := ne_of_mem_of_not_mem htext h
    rw [Value.isNoValue, beq_eq_false_iff_ne.2 hne, Bool.not_false]
  exact resolve_list_eq_ok_iff.2 ⟨_, hvalues, by rw [hkept]⟩

/-- `Fn::Join` puts together what `Fn::Split` has cut. -/
theorem resolve_join_split (hd : d.resolve scope = .ok delimiter)
    (hs : s.resolve scope = .ok source) (hsplit : split.IsCallOf .split (.list [d, s]))
    (hjoin : join.IsCallOf .join (.list [d, split])) :
    join.resolve scope = .ok (.string source.text) := by
  have hcut : split.resolve scope = Intrinsic.splitOutcome (.ok delimiter) (.ok source) := by
    rw [hsplit.resolve_pair_eq, hd, hs, Intrinsic.apply]
  have hput : join.resolve scope = Intrinsic.joinOutcome (.ok delimiter) (split.resolve scope) := by
    rw [hjoin.resolve_pair_eq, hd, Intrinsic.apply]
  rw [hput, hcut, Intrinsic.joinOutcome_splitOutcome]

/-- `Fn::Split` finds the texts again that `Fn::Join` has put together. -/
theorem resolve_split_join (hd : d.resolve scope = .ok delimiter) (hdelimiter : delimiter.text ≠ "")
    (htexts : texts ≠ []) (hpresent : Value.noValueText ∉ texts)
    (hdisjoint : ∀ text ∈ texts, text.toList.Disjoint delimiter.text.toList)
    (hjoin : join.IsCallOf .join (.list [d, .list (texts.map .string)]))
    (hsplit : split.IsCallOf .split (.list [d, join])) :
    split.resolve scope = .ok (.list (texts.map .string)) := by
  have hitems := resolve_list_strings scope hpresent
  have hput : join.resolve scope =
      Intrinsic.joinOutcome (.ok delimiter) (.ok (.list (texts.map .string))) := by
    rw [hjoin.resolve_pair_eq, hd, hitems, Intrinsic.apply]
  have hcut : split.resolve scope =
      Intrinsic.splitOutcome (.ok delimiter) (join.resolve scope) := by
    rw [hsplit.resolve_pair_eq, hd, Intrinsic.apply]
  rw [hcut, hput, Intrinsic.splitOutcome_joinOutcome hdelimiter htexts hdisjoint]

/-- `Fn::Join` and `Fn::Split` with one delimiter are inverse. The first half holds of every
delimiter and source; in the second half, no literal text is the mark of an absent value or has a
character of the delimiter. -/
theorem resolve_join_and_split {scope : Scope} {d : Node} {delimiter : Value}
    (hd : d.resolve scope = .ok delimiter) :
    (∀ (s split join : Node) (source : Value), s.resolve scope = .ok source →
      split.IsCallOf .split (.list [d, s]) → join.IsCallOf .join (.list [d, split]) →
      join.resolve scope = .ok (.string source.text)) ∧
    ∀ (texts : List String) (join split : Node), delimiter.text ≠ "" → texts ≠ [] →
      Value.noValueText ∉ texts → (∀ text ∈ texts, text.toList.Disjoint delimiter.text.toList) →
      join.IsCallOf .join (.list [d, .list (texts.map .string)]) →
      split.IsCallOf .split (.list [d, join]) →
      split.resolve scope = .ok (.list (texts.map .string)) := by
  constructor
  · intro s split join source hs hsplit hjoin
    exact resolve_join_split hd hs hsplit hjoin
  · intro texts join split hdelimiter htexts hpresent hdisjoint hjoin hsplit
    exact resolve_split_join hd hdelimiter htexts hpresent hdisjoint hjoin hsplit

/-- A delimiter that overlaps itself, from a parameter, with a source that is a list and with
literal texts among which one is empty. -/
theorem resolve_join_and_split_overlapping :
    let scope := Scope.empty.withParam "Mark" (.string "aa")
    let d := Node.map [("Ref", .string "Mark")]
    let s := Node.list [.string "aaaab", .bool true]
    let items := Node.list [.string "b", .string "", .string "b c"]
    (Node.call .join (.list [d, .call .split (.list [d, s])])).resolve scope =
        .ok (.string "aaaab,true") ∧
      (Node.call .split (.list [d, .map [("Fn::Join", .list [d, items])]])).resolve scope =
        .ok (.list [.string "b", .string "", .string "b c"]) := by
  intro scope d s items
  have hd : d.resolve scope = .ok (.string "aa") := rfl
  obtain ⟨hjoin, hsplit⟩ := resolve_join_and_split hd
  have hdisjoint : ∀ text ∈ ["b", "", "b c"], ∀ c ∈ text.toList, c ∉ "aa".toList := by simp
  exact ⟨hjoin s _ _ _ rfl (.call _ _) (.call _ _),
    hsplit ["b", "", "b c"] _ _ (by decide) (by decide) (by decide) hdisjoint (.map .join _)
      (.call _ _)⟩

end Node

end StackAudit
