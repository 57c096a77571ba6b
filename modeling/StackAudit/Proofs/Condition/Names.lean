import Mathlib.Data.List.Infix
import StackAudit.Condition.Operator

/-!
# Names of operators

An operator is read off its name by taking away the quantifier in front and `IfExists` behind; what
is left must be the name of a comparison. Both are taken away if they are there at all, which would
be wrong if the name of a comparison could begin or end like that. None does
(`Comparison.exists_name_eq_cons`, `Comparison.not_ifExists_suffix_name`), so a name is read as an
operator exactly if it is the name of the operator but for colons (`Operator.ofName_eq_ok_iff`).
-/

namespace StackAudit

/-! ## Names of comparisons -/

namespace Comparison

/-- The comparison of a name has that name. -/
theorem name_of_ofName? {s : String} {c : Comparison} (h : ofName? s = some c) : c.name = s := by
  simpa [ofName?] using List.find?_some h

/-- Every comparison is found by its name. -/
theorem ofName?_name (c : Comparison) : ofName? c.name = some c := by
  have hall : ∀ c ∈ all, ofName? c.name = some c := by decide
  exact hall c (mem_all c)

/-- No comparison has a name that begins like a quantifier. -/
theorem exists_name_eq_cons (c : Comparison) :
    ∃ first rest, c.name.toList = first :: rest ∧ first ≠ 'F' := by
  -- there are finitely many comparisons, and `decide` looks at each name
  have hall : ∀ c ∈ all, c.name.toList ≠ [] ∧ c.name.toList.head? ≠ some 'F' := by decide
  obtain ⟨hne, hhead⟩ := hall c (mem_all c)
  obtain ⟨first, rest, hname⟩ := List.exists_cons_of_ne_nil hne
  rw [hname] at hhead
  exact ⟨first, rest, hname, fun h => hhead (congrArg some h)⟩

/-- No comparison has a name that ends in `IfExists`. -/
theorem not_ifExists_suffix_name (c : Comparison) : ¬"IfExists".toList <:+ c.name.toList := by
  have hall : ∀ c ∈ all, ¬"IfExists".toList <:+ c.name.toList := by decide
  exact hall c (mem_all c)

/-- No comparison has a name with a colon. -/
theorem colon_not_mem_name (c : Comparison) : ':' ∉ c.name.toList := by
  have hall : ∀ c ∈ all, ':' ∉ c.name.toList := by decide
  exact hall c (mem_all c)

end Comparison

/-! ## Parts of names -/

namespace Operator

variable {start ending text rest : List Char}

/-- What stands after a start is what gives the text behind it. -/
theorem afterStart?_eq_some_iff : afterStart? start text = some rest ↔ text = start ++ rest := by
  unfold afterStart?
  constructor
  · intro h
    split at h
    · next hstart =>
      cases h
      exact (List.prefix_iff_eq_append.1 (List.isPrefixOf_iff_prefix.1 hstart)).symm
    · cases h
  · rintro rfl
    rw [if_pos (List.isPrefixOf_iff_prefix.2 (List.prefix_append start rest)), List.drop_left]

/-- Nothing stands after what is no start. -/
theorem afterStart?_eq_none_iff : afterStart? start text = none ↔ ¬start <+: text := by
  unfold afterStart?
  rw [← List.isPrefixOf_iff_prefix]
  split <;> simp_all

/-- What stands before an ending is what gives the text in front of it. -/
theorem beforeEnd?_eq_some_iff : beforeEnd? ending text = some rest ↔ text = rest ++ ending := by
  rw [beforeEnd?, Option.map_eq_some_iff]
  constructor
  · -- an ending is a start of the reversed text
    rintro ⟨reversed, h, rfl⟩
    simpa using congrArg List.reverse (afterStart?_eq_some_iff.1 h)
  · rintro rfl
    exact ⟨rest.reverse, afterStart?_eq_some_iff.2 (by simp), by simp⟩

/-- Nothing stands before what is no ending. -/
theorem beforeEnd?_eq_none_iff : beforeEnd? ending text = none ↔ ¬ending <:+ text := by
  rw [beforeEnd?, Option.map_eq_none_iff, afterStart?_eq_none_iff, List.reverse_prefix]

/-- What a quantifier puts in front of the name of a comparison, but for the colon. -/
def quantifierText : Quantifier → String
  | .plain => ""
  | .forAllValues => "ForAllValues"
  | .forAnyValue => "ForAnyValue"

/-- What `IfExists` puts behind the name of a comparison. -/
def ifExistsText (ifExists : Bool) : String := if ifExists then "IfExists" else ""

/-- Taking the quantifier away loses nothing. -/
theorem eq_append_of_splitQuantifier {quantifier : Quantifier}
    (h : splitQuantifier text = (quantifier, rest)) :
    text = (quantifierText quantifier).toList ++ rest := by
  unfold splitQuantifier at h
  split at h
  · next hall =>
    cases h
    exact afterStart?_eq_some_iff.1 hall
  · split at h
    · next hany =>
      cases h
      exact afterStart?_eq_some_iff.1 hany
    · cases h
      rfl

/-- Before what does not begin like a quantifier, the quantifier is taken away and no more. -/
theorem splitQuantifier_append (quantifier : Quantifier) {first : Char} (hfirst : first ≠ 'F') :
    splitQuantifier ((quantifierText quantifier).toList ++ first :: rest) =
      (quantifier, first :: rest) := by
  cases quantifier with
  | plain =>
    have hall : afterStart? "ForAllValues".toList (first :: rest) = none :=
      afterStart?_eq_none_iff.2 (by simp [hfirst.symm])
    have hany : afterStart? "ForAnyValue".toList (first :: rest) = none :=
      afterStart?_eq_none_iff.2 (by simp [hfirst.symm])
    simp only [quantifierText, String.toList_empty, List.nil_append, splitQuantifier, hall, hany]
  | forAllValues => simp only [quantifierText, splitQuantifier, afterStart?_eq_some_iff.2 rfl]
  | forAnyValue =>
    -- both quantifiers begin with the same three letters, but neither is a start of the other
    have hall : afterStart? "ForAllValues".toList ("ForAnyValue".toList ++ first :: rest) = none :=
      afterStart?_eq_none_iff.2 (by simp)
    simp only [quantifierText, splitQuantifier, hall, afterStart?_eq_some_iff.2 rfl]

/-- Taking `IfExists` away loses nothing. -/
theorem eq_append_of_splitIfExists {ifExists : Bool} (h : splitIfExists text = (ifExists, rest)) :
    text = rest ++ (ifExistsText ifExists).toList := by
  unfold splitIfExists at h
  split at h
  · next hend =>
    cases h
    exact beforeEnd?_eq_some_iff.1 hend
  · cases h
    exact (List.append_nil text).symm

/-- Behind what does not end like it, `IfExists` is taken away once. -/
theorem splitIfExists_append (ifExists : Bool) (h : ¬"IfExists".toList <:+ text) :
    splitIfExists (text ++ (ifExistsText ifExists).toList) = (ifExists, text) := by
  cases ifExists with
  | true => simp only [ifExistsText, if_true, splitIfExists, beforeEnd?_eq_some_iff.2 rfl]
  | false =>
    simp only [ifExistsText, Bool.false_eq_true, if_false, String.toList_empty, List.append_nil,
      splitIfExists, beforeEnd?_eq_none_iff.2 h]

/-! ## Names but for colons -/

/-- The characters of a name without its colons. -/
def withoutColons (name : String) : List Char := name.toList.filter (· ≠ ':')

/-- Colons are left out on both sides of a join. -/
theorem withoutColons_append (s t : String) :
    withoutColons (s ++ t) = withoutColons s ++ withoutColons t := by
  simp [withoutColons]

/-- Without its colon the name of an operator is that of its parts in a row. -/
theorem withoutColons_name (o : Operator) :
    withoutColons o.name = (quantifierText o.quantifier).toList ++
      (o.comparison.name.toList ++ (ifExistsText o.ifExists).toList) := by
  -- the only colon is behind the quantifier
  have hcomparison : withoutColons o.comparison.name = o.comparison.name.toList := by
    refine List.filter_eq_self.2 fun c hc => decide_eq_true ?_
    rintro rfl
    exact o.comparison.colon_not_mem_name hc
  rw [name, withoutColons_append, withoutColons_append, hcomparison, List.append_assoc]
  cases o.quantifier <;> cases o.ifExists <;> simp [withoutColons, quantifierText, ifExistsText]

/-- What is read as an operator is its name: putting the parts together again gives the text. -/
theorem withoutColons_of_ofName {s : String} {o : Operator} (h : ofName s = .ok o) :
    withoutColons s = withoutColons o.name := by
  rw [withoutColons_name]
  unfold ofName at h
  split at h
  next quantifier rest hquantifier =>
    split at h
    next ifExists text hifExists =>
      split at h
      · next comparison hcomparison =>
        cases h
        rw [Comparison.name_of_ofName? hcomparison, String.toList_ofList,
          ← eq_append_of_splitIfExists hifExists, ← eq_append_of_splitQuantifier hquantifier]
        rfl
      · cases h

/-- The name of an operator is read as the operator: the parts are taken away where they were put,
since the name of the comparison between them does not begin or end like them. -/
theorem ofName_of_withoutColons {s : String} {o : Operator}
    (h : withoutColons s = withoutColons o.name) : ofName s = .ok o := by
  rw [withoutColons_name] at h
  obtain ⟨first, rest, hname, hfirst⟩ := o.comparison.exists_name_eq_cons
  have hquantifier : splitQuantifier (withoutColons s) =
      (o.quantifier, o.comparison.name.toList ++ (ifExistsText o.ifExists).toList) := by
    rw [h, hname, List.cons_append, splitQuantifier_append _ hfirst]
  have hifExists : splitIfExists (o.comparison.name.toList ++ (ifExistsText o.ifExists).toList) =
      (o.ifExists, o.comparison.name.toList) :=
    splitIfExists_append o.ifExists o.comparison.not_ifExists_suffix_name
  -- what is left between quantifier and `IfExists` is the name of the comparison as it was
  rw [withoutColons] at hquantifier
  unfold ofName
  simp only [hquantifier, hifExists, String.ofList_toList, Comparison.ofName?_name]

/-- A name is read as an operator exactly if it is the name of the operator but for colons. -/
theorem ofName_eq_ok_iff {s : String} {o : Operator} :
    ofName s = .ok o ↔ withoutColons s = withoutColons o.name :=
  ⟨withoutColons_of_ofName, ofName_of_withoutColons⟩

/-- A name that is not that of an operator is reported as it is written. -/
theorem eq_unknown_of_ofName {s : String} {e : Error} (h : ofName s = .error e) :
    e = .unknownConditionOperator s := by
  unfold ofName at h
  split at h
  split at h
  split at h
  · cases h
  · exact (Except.error.inj h).symm

/-- A name is read as an operator exactly if it is the name of the operator but for colons, and any
other name is reported as it is written. So every operator is read back from its name, no two
operators have the same name but for colons, and a colon makes no difference wherever it stands. -/
theorem ofName_exact (s : String) :
    (∀ o, ofName s = .ok o ↔ withoutColons s = withoutColons o.name) ∧
      (ofName s = .error (.unknownConditionOperator s) ↔
        ∀ o : Operator, withoutColons s ≠ withoutColons o.name) ∧
      (∀ o : Operator, ofName o.name = .ok o) ∧
      (∀ o p : Operator, withoutColons o.name = withoutColons p.name ↔ o = p) ∧
      ∀ before after o,
        ofName (before ++ ":" ++ after) = .ok o ↔ ofName (before ++ after) = .ok o := by
  have hname (o : Operator) : ofName o.name = .ok o := ofName_eq_ok_iff.2 rfl
  refine ⟨fun o => ofName_eq_ok_iff, ?_, hname, fun o p => ?_, fun before after o => ?_⟩
  · -- the error is the only other outcome
    simp only [ne_eq, ← ofName_eq_ok_iff]
    cases h : ofName s with
    | ok o => simp
    | error e => simp [eq_unknown_of_ofName h]
  · rw [← ofName_eq_ok_iff, hname, Except.ok.injEq]
  · have hcolon : withoutColons (before ++ ":" ++ after) = withoutColons (before ++ after) := by
      simp [withoutColons]
    rw [ofName_eq_ok_iff, ofName_eq_ok_iff, hcolon]

/-- There is at most one quantifier. -/
example : ofName "ForAllValues:ForAnyValue:Bool" =
    .error (.unknownConditionOperator "ForAllValues:ForAnyValue:Bool") := rfl

end Operator

end StackAudit
