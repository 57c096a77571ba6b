import StackAudit.Proofs.Condition.Quantifiers

/-!
# Negated comparisons

Most comparisons have a negated one beside them (`Comparison.Opposite`). Of two values that can be
compared exactly one of the two matches; if one of the values cannot be read as what is compared,
neither does. So for all values a negated operator is the negation of the other one for any value,
and the other way round (`Comparison.Opposite.verdict_duality`).
-/

namespace StackAudit

/-- The relation "not equal" holds of the orders that "equal" does not hold of. -/
theorem Relation.holds_notEqual_iff (order : Ordering) :
    Relation.notEqual.holds order = true ↔ ¬Relation.equal.holds order = true := by
  cases order <;> decide

namespace Comparison

/-- The second comparison is the negation of the first. -/
inductive Opposite : Comparison → Comparison → Prop where
  | text (kind : TextKind) : Opposite (text kind false) (text kind true)
  | ignoreCase : Opposite (ignoreCase false) (ignoreCase true)
  | like (kind : TextKind) : Opposite (like kind false) (like kind true)
  | numeric : Opposite (numeric .equal) (numeric .notEqual)
  | date : Opposite (date .equal) (date .notEqual)
  | address : Opposite (address false) (address true)

/-- Both values can be read as what is compared, and can be compared. Texts always can. -/
def CanCompare (actual operand : Value) : Comparison → Prop
  | numeric _ => ∃ a e order, actual.asBinary64? = some a ∧ operand.asBinary64? = some e ∧
    a.compare? e = some order
  | date _ => ∃ a e, actual.asInstant? = some a ∧ operand.asInstant? = some e
  | address _ => ∃ a e, Matcher.addressBlock? actual = some a ∧
    Matcher.addressBlock? operand = some e
  | _ => True

variable {c x y : Comparison} {actual operand : Value}

/-- Only what can be compared matches. -/
theorem canCompare_of_matches (h : c.Matches actual operand) : c.CanCompare actual operand := by
  cases c with
  | numeric relation =>
    obtain ⟨a, e, order, ha, he, horder, -⟩ := h
    exact ⟨a, e, order, ha, he, horder⟩
  | date relation =>
    obtain ⟨a, e, ha, he, -⟩ := h
    exact ⟨a, e, ha, he⟩
  | address negated =>
    obtain ⟨a, e, ha, he, -⟩ := h
    exact ⟨a, e, ha, he⟩
  | _ => trivial

namespace Opposite

/-- Opposite comparisons can compare the same values. -/
theorem canCompare_iff (h : x.Opposite y) :
    y.CanCompare actual operand ↔ x.CanCompare actual operand := by
  cases h <;> exact Iff.rfl

/-- No test for null is among the opposite comparisons. -/
theorem ne_null (h : x.Opposite y) : x ≠ .null ∧ y ≠ .null := by
  cases h <;> simp

/-- Opposite comparisons both compare patterns or neither does. -/
theorem isLike_eq (h : x.Opposite y) : y.isLike = x.isLike := by
  cases h <;> rfl

/-- Of what can be compared the negated comparison matches what the other one does not. -/
theorem matches_iff_not (h : x.Opposite y) (hcan : x.CanCompare actual operand)
    (hpattern : x.isLike = true → ∃ pattern, Wildcard.ofText operand.text = .ok pattern) :
    y.Matches actual operand ↔ ¬x.Matches actual operand := by
  cases h with
  | text kind => simp [Matches, Signed]
  | ignoreCase => simp [Matches, Signed]
  | like kind =>
    obtain ⟨pattern, hpattern⟩ := hpattern rfl
    simp [Matches, Signed, hpattern]
  | numeric =>
    obtain ⟨a, e, order, ha, he, horder⟩ := hcan
    simp [Matches, ha, he, horder, Relation.holds_notEqual_iff]
  | date =>
    obtain ⟨a, e, ha, he⟩ := hcan
    simp [Matches, ha, he, Relation.holds_notEqual_iff]
  | address =>
    obtain ⟨a, e, ha, he⟩ := hcan
    simp [Matches, Signed, ha, he]

end Opposite

end Comparison

/-! ## Quantifiers -/

namespace Operator

variable {c d : Comparison} {key : String} {node : Node} {operand : Value}

/-- An operand that is no list is a pattern if patterns are compared. -/
theorem binds_of_asList?_eq_none {o : Operator} (hlist : operand.asList? = none)
    (h : o.comparison.isLike = true → ∃ pattern, Wildcard.ofText operand.text = .ok pattern) :
    o.Binds operand := by
  intro hlike e he
  rw [Value.elements_eq_singleton hlist, List.mem_singleton] at he
  rw [he]
  exact h hlike

/-- If one comparison matches exactly the elements that the other one does not match, then all
elements match the one unless some element matches the other. -/
theorem admits_forAllValues_iff (hc : c ≠ .null) (hd : d ≠ .null) (hlist : operand.asList? = none)
    {actual? : Option Value}
    (hnot : ∀ actual, actual? = some actual → ∀ element ∈ actual.elements,
      (d.Matches element operand ↔ ¬c.Matches element operand)) :
    Admits ⟨.forAllValues, d, false⟩ operand actual? ↔
      ¬Admits ⟨.forAnyValue, c, false⟩ operand actual? := by
  simp only [Admits, hc, hd, if_false, Value.elements_eq_singleton hlist, List.mem_singleton,
    exists_eq_left]
  -- a missing key is admitted for all values and not for any value
  cases actual? with
  | none => simp
  | some actual =>
    simp only [if_true, true_or, reduceCtorEq, if_false, not_exists, not_and]
    exact forall₂_congr (hnot actual rfl)

/-- Under the same condition the verdicts are opposite too. -/
theorem exists_verdict_eq_not (hc : c ≠ .null) (hd : d ≠ .null)
    (hvalue : node.toValue? = some operand) (hlist : operand.asList? = none)
    (hcpattern : c.isLike = true → ∃ pattern, Wildcard.ofText operand.text = .ok pattern)
    (hdpattern : d.isLike = true → ∃ pattern, Wildcard.ofText operand.text = .ok pattern)
    {request : RequestContext}
    (hnot : ∀ actual, request.get? key = some actual → ∀ element ∈ actual.elements,
      (d.Matches element operand ↔ ¬c.Matches element operand)) :
    ∃ b, verdict ⟨.forAllValues, d, false⟩ key node request = .ok b ∧
      verdict ⟨.forAnyValue, c, false⟩ key node request = .ok !b := by
  obtain ⟨all, hall⟩ : ∃ b, verdict ⟨.forAllValues, d, false⟩ key node request = .ok b :=
    exists_verdict_eq_ok hvalue (binds_of_asList?_eq_none hlist hdpattern) key request
  obtain ⟨any, hany⟩ : ∃ b, verdict ⟨.forAnyValue, c, false⟩ key node request = .ok b :=
    exists_verdict_eq_ok hvalue (binds_of_asList?_eq_none hlist hcpattern) key request
  -- both verdicts are there, so what they admit decides them
  have hiff : all = true ↔ ¬any = true := by
    rw [← admits_iff_of_verdict hvalue hall, ← admits_iff_of_verdict hvalue hany]
    exact admits_forAllValues_iff hc hd hlist hnot
  have heq : any = !all := by cases all <;> cases any <;> simp_all
  exact ⟨all, hall, heq ▸ hany⟩

end Operator

/-- On a request whose values can all be compared with the operand a negated operator for all values
is the negation of the other one for any value, and the other way round. What cannot be compared
with the operand matches neither. -/
theorem Comparison.Opposite.verdict_duality {x y : Comparison} (h : x.Opposite y) (key : String)
    {node : Node} {operand : Value} (hvalue : node.toValue? = some operand)
    (hlist : operand.asList? = none)
    (hpattern : x.isLike = true → ∃ pattern, Wildcard.ofText operand.text = .ok pattern) :
    (∀ request : RequestContext,
      (∀ actual, request.get? key = some actual → ∀ element ∈ actual.elements,
        x.CanCompare element operand) →
      (∃ b, Operator.verdict ⟨.forAllValues, y, false⟩ key node request = .ok b ∧
        Operator.verdict ⟨.forAnyValue, x, false⟩ key node request = .ok !b) ∧
      ∃ b, Operator.verdict ⟨.forAllValues, x, false⟩ key node request = .ok b ∧
        Operator.verdict ⟨.forAnyValue, y, false⟩ key node request = .ok !b) ∧
    ∀ actual, ¬x.CanCompare actual operand →
      x.verdict operand actual = .ok false ∧ y.verdict operand actual = .ok false := by
  obtain ⟨hx, hy⟩ := h.ne_null
  have hpattern' : y.isLike = true → ∃ pattern, Wildcard.ofText operand.text = .ok pattern := by
    rwa [h.isLike_eq]
  constructor
  · intro request hcan
    have hnot : ∀ actual, request.get? key = some actual → ∀ element ∈ actual.elements,
        (y.Matches element operand ↔ ¬x.Matches element operand) :=
      fun actual hactual element helement =>
        h.matches_iff_not (hcan actual hactual element helement) hpattern
    refine ⟨Operator.exists_verdict_eq_not hx hy hvalue hlist hpattern hpattern' hnot,
      Operator.exists_verdict_eq_not hy hx hvalue hlist hpattern' hpattern ?_⟩
    intro actual hactual element helement
    -- the other way round the negation is taken twice
    rw [hnot actual hactual element helement, not_not]
  · intro actual hcannot
    have hnotx : ¬x.Matches actual operand := fun hmatch =>
      hcannot (canCompare_of_matches hmatch)
    have hnoty : ¬y.Matches actual operand := fun hmatch =>
      hcannot (h.canCompare_iff.1 (canCompare_of_matches hmatch))
    exact ⟨(verdict_eq_ok_iff hpattern).2 (iff_of_false Bool.false_ne_true hnotx),
      (verdict_eq_ok_iff hpattern').2 (iff_of_false Bool.false_ne_true hnoty)⟩

/-- A request from two addresses. -/
def twoAddresses : RequestContext :=
  .ofList [("aws:SourceIp", .list [.string "10.1.2.3", .string "192.168.0.1"])]

/-- Both addresses can be compared with a block, so not all of them are outside of it exactly if one
of them is inside. A text that is no address is neither. -/
theorem Comparison.Opposite.verdict_duality_twoAddresses :
    (∃ b, Operator.verdict ⟨.forAllValues, .address true, false⟩ "aws:SourceIp"
        (.string "10.0.0.0/8") twoAddresses = .ok b ∧
      Operator.verdict ⟨.forAnyValue, .address false, false⟩ "aws:SourceIp"
        (.string "10.0.0.0/8") twoAddresses = .ok !b) ∧
    Comparison.verdict (.address false) (.string "10.0.0.0/8") (.string "home") = .ok false ∧
      Comparison.verdict (.address true) (.string "10.0.0.0/8") (.string "home") =
        .ok false := by
  have hvalue : (Node.string "10.0.0.0/8").toValue? = some (.string "10.0.0.0/8") := rfl
  obtain ⟨hdual, hneither⟩ :=
    Comparison.Opposite.address.verdict_duality "aws:SourceIp" hvalue rfl (fun h => nomatch h)
  refine ⟨(hdual twoAddresses ?_).1, hneither (.string "home") ?_⟩
  · intro actual hactual element helement
    obtain rfl := Option.some.inj hactual
    rcases List.mem_cons.1 helement with rfl | helement
    · exact ⟨_, _, rfl, rfl⟩
    · obtain rfl := List.mem_singleton.1 helement
      exact ⟨_, _, rfl, rfl⟩
  · rintro ⟨a, e, ha, he⟩
    cases ha

end StackAudit
