import StackAudit.Proofs.Condition.Interpretation

/-!
# Quantifiers of conditions

A comparison with one operand has a verdict on every single value (`Comparison.verdict`), and a
condition of one operator, one key and one operand has one on every request (`Operator.verdict`),
unless it cannot be compiled. The quantifier of the operator counts only where the key has several
values, or none at all: on a single value all three quantifiers agree, on several values "for all"
is stronger than "for any", and a list of operands makes a plain operator one for any value
(`Operator.verdict_quantifiers`).
-/

namespace StackAudit

/-- The only element of a value that is no list is the value itself. -/
theorem Value.elements_eq_singleton {v : Value} (h : v.asList? = none) : v.elements = [v] := by
  cases v with
  | list items => cases h
  | _ => rfl

/-! ## Comparisons of single values -/

namespace Comparison

/-- What a comparison with an operand says of a single value. -/
def verdict (c : Comparison) (operand actual : Value) : Except Error Bool :=
  (Matcher.bind operand c).map (Matcher.accepts actual)

/-- A comparison says of a value that it matches if it does, unless the operand should be a pattern
and is none. -/
theorem verdict_eq_ok_iff {c : Comparison} {operand actual : Value}
    (h : c.isLike = true → ∃ pattern, Wildcard.ofText operand.text = .ok pattern) {b : Bool} :
    c.verdict operand actual = .ok b ↔ (b = true ↔ c.Matches actual operand) := by
  obtain ⟨m, hm⟩ := Matcher.exists_bind_eq_ok h
  rw [verdict, hm, ← Matcher.accepts_iff hm]
  show Except.ok (m.accepts actual) = .ok b ↔ _
  rw [Except.ok.injEq, Bool.eq_iff_iff]
  exact iff_comm

end Comparison

/-! ## Conditions on one key -/

/-- A condition of one operator, however it is written, with one key and one operand is compiled to
the test of this key. -/
theorem StatementCondition.compile_single (name : String) (o : Operator) (key : String)
    {node : Node} {operand : Value} (h : node.toValue? = some operand) :
    compile ⟨[⟨name, o, [(key, node)]⟩]⟩ = (KeyTest.compile o key operand).map fun test =>
      ⟨⟨[⟨name, o, [(key, node)]⟩]⟩, [test]⟩ := by
  have htest : (⟨name, o, [(key, node)]⟩ : ConditionBlock).testOf (key, node) =
      KeyTest.compile o key operand := by rw [ConditionBlock.testOf, h]
  rw [compile_eq, List.mapM_cons, List.mapM_nil, ConditionBlock.compile_eq, List.mapM_cons,
    List.mapM_nil, htest]
  cases KeyTest.compile o key operand <;> rfl

/-- What a condition with one test says is what the test says. -/
theorem CompiledCondition.evaluate_single (c : StatementCondition) (test : KeyTest)
    (request : RequestContext) : evaluate ⟨c, [test]⟩ request = test.holds request := by
  rw [evaluate, List.all_cons, List.all_nil, Bool.and_true]

namespace Operator

/-- The condition of one operator, one key and one operand. -/
def conditionOn (o : Operator) (key : String) (operand : Node) : StatementCondition where
  blocks := [⟨o.name, o, [(key, operand)]⟩]

/-- What the condition of one operator, one key and one operand says of a request once it is
compiled. -/
def verdict (o : Operator) (key : String) (operand : Node) (request : RequestContext) :
    Except Error Bool :=
  (o.conditionOn key operand).compile.map fun compiled => compiled.evaluate request

variable {o p : Operator} {key : String} {node : Node} {operand : Value}
  {request : RequestContext}

/-- The verdict is that of the only test. -/
theorem verdict_eq (h : node.toValue? = some operand) : o.verdict key node request =
    (KeyTest.compile o key operand).map fun test => test.holds request := by
  rw [verdict, conditionOn, StatementCondition.compile_single _ o key h]
  cases KeyTest.compile o key operand with
  | error e => rfl
  | ok test => exact congrArg Except.ok (CompiledCondition.evaluate_single _ test request)

/-- A test for null only looks at whether the key has a value other than null. -/
theorem verdict_of_null (h : node.toValue? = some operand) (hnull : o.comparison = .null) :
    o.verdict key node request =
      .ok ((request.get? key).all Value.isNull == operand.asBool?.getD false) := by
  rw [verdict_eq h, KeyTest.compile, if_pos hnull]
  rfl

/-- Any other test first binds the elements of the operand. -/
theorem verdict_of_ne_null (h : node.toValue? = some operand) (hnull : o.comparison ≠ .null) :
    o.verdict key node request =
      (operand.elements.mapM fun e => Matcher.bind e o.comparison).map fun matchers =>
        (KeyTest.comparison key o operand.asList?.isSome matchers).holds request := by
  rw [verdict_eq h, KeyTest.compile_of_ne_null hnull]
  cases operand.elements.mapM fun e => Matcher.bind e o.comparison <;> rfl

/-- There is a verdict if the elements of the operand are patterns where patterns are compared. -/
theorem exists_verdict_eq_ok (h : node.toValue? = some operand) (hbinds : o.Binds operand)
    (key : String) (request : RequestContext) : ∃ b, o.verdict key node request = .ok b := by
  obtain ⟨test, htest⟩ : ∃ test, KeyTest.compile o key operand = .ok test :=
    KeyTest.exists_compile_eq_ok hbinds
  exact ⟨test.holds request, by rw [verdict_eq h, htest]; rfl⟩

/-- The verdict is what the operator admits. -/
theorem admits_iff_of_verdict (h : node.toValue? = some operand) {b : Bool}
    (hb : o.verdict key node request = .ok b) :
    o.Admits operand (request.get? key) ↔ b = true := by
  rw [verdict_eq h] at hb
  obtain ⟨test, htest, rfl⟩ := map_eq_ok_iff.1 hb
  exact (KeyTest.holds_iff htest request).symm

/-- An operator without quantifier on a single operand compares the value of the key as it is. -/
theorem verdict_plain {c : Comparison} {actual : Value} (hnull : c ≠ .null)
    (hvalue : node.toValue? = some operand) (hlist : operand.asList? = none)
    (hactual : request.get? key = some actual) (ifExists : Bool) :
    verdict ⟨.plain, c, ifExists⟩ key node request = c.verdict operand actual := by
  rw [verdict_of_ne_null hvalue hnull, Value.elements_eq_singleton hlist, List.mapM_cons,
    List.mapM_nil, Comparison.verdict]
  cases Matcher.bind operand c with
  | error e => rfl
  | ok m =>
    show Except.ok ((KeyTest.comparison key _ operand.asList?.isSome [m]).holds request) = _
    rw [KeyTest.holds, hactual, hlist]
    show Except.ok ([m].any (Matcher.accepts actual)) = _
    rw [List.any_cons, List.any_nil, Bool.or_false]
    rfl

/-- Operators of one comparison have the same verdict if their tests agree. -/
theorem verdict_congr (h : node.toValue? = some operand) (hop : o.comparison = p.comparison)
    (hholds : ∀ matchers,
      (KeyTest.comparison key o operand.asList?.isSome matchers).holds request =
        (KeyTest.comparison key p operand.asList?.isSome matchers).holds request) :
    o.verdict key node request = p.verdict key node request := by
  by_cases hnull : o.comparison = .null
  · rw [verdict_of_null h hnull, verdict_of_null h (hop ▸ hnull)]
  · rw [verdict_of_ne_null h hnull, verdict_of_ne_null h (hop ▸ hnull), hop]
    simp only [hholds]

end Operator

/-! ## Tests of a key that is there -/

namespace KeyTest

variable {key : String} {o : Operator} {several : Bool} {matchers : List Matcher}
  {request : RequestContext} {actual : Value}

/-- A value that is no list is tested as it is. -/
theorem holds_of_asList?_eq_none (h : request.get? key = some actual)
    (hactual : actual.asList? = none) :
    (comparison key o several matchers).holds request =
      matchers.any (Matcher.accepts actual) := by
  rw [holds, h]
  cases hq : o.quantifier <;> simp [Value.elements_eq_singleton hactual]

/-- Of a single element it does not count whether all or some must match. -/
theorem holds_singleton {element : Value} (h : request.get? key = some (.list [element]))
    (hquantifier : o.quantifier ≠ .plain) :
    (comparison key o several matchers).holds request =
      matchers.any (Matcher.accepts element) := by
  rw [holds, h]
  cases hq : o.quantifier with
  | plain => exact absurd hq hquantifier
  | forAllValues => simp [Value.elements]
  | forAnyValue => simp [Value.elements]

end KeyTest

namespace Operator

/-- If the key has some value, then one that passes for all values passes for any value. -/
theorem verdict_forAnyValue_of_forAllValues {c : Comparison} {ifExists : Bool} {key : String}
    {node : Node} {operand : Value} {request : RequestContext} (h : node.toValue? = some operand)
    {first : Value} {rest : List Value} (hactual : request.get? key = some (.list (first :: rest)))
    (hall : verdict ⟨.forAllValues, c, ifExists⟩ key node request = .ok true) :
    verdict ⟨.forAnyValue, c, ifExists⟩ key node request = .ok true := by
  -- quantifiers do not count for null, and the first element will do for the rest
  by_cases hnull : c = .null
  · rwa [verdict_of_null h hnull] at hall ⊢
  · rw [verdict_of_ne_null h hnull] at hall ⊢
    obtain ⟨matchers, hmatchers, hholds⟩ := map_eq_ok_iff.1 hall
    refine map_eq_ok_iff.2 ⟨matchers, hmatchers, ?_⟩
    simp only [KeyTest.holds, hactual, Value.elements, List.all_eq_true] at hholds ⊢
    exact List.any_eq_true.2 ⟨first, List.mem_cons_self, hholds first List.mem_cons_self⟩

/-- Where quantifiers agree, whatever the comparison, the operand and `IfExists` are: all three on a
value that is no list, and the two on a list of one element. On a list that is not empty, what holds
for all values holds for any value, and with a list of operands a plain operator is one for any
value. There are verdicts unless a pattern of the operand is none. -/
theorem verdict_quantifiers (c : Comparison) (ifExists : Bool) (key : String) {node : Node}
    {operand : Value} (h : node.toValue? = some operand) (request : RequestContext) :
    (∀ actual, request.get? key = some actual → actual.asList? = none →
      verdict ⟨.plain, c, ifExists⟩ key node request =
          verdict ⟨.forAllValues, c, ifExists⟩ key node request ∧
        verdict ⟨.forAllValues, c, ifExists⟩ key node request =
          verdict ⟨.forAnyValue, c, ifExists⟩ key node request) ∧
    (∀ element, request.get? key = some (.list [element]) →
      verdict ⟨.forAllValues, c, ifExists⟩ key node request =
        verdict ⟨.forAnyValue, c, ifExists⟩ key node request) ∧
    (∀ first rest, request.get? key = some (.list (first :: rest)) →
      verdict ⟨.forAllValues, c, ifExists⟩ key node request = .ok true →
        verdict ⟨.forAnyValue, c, ifExists⟩ key node request = .ok true) ∧
    (operand.asList?.isSome = true →
      verdict ⟨.plain, c, ifExists⟩ key node request =
        verdict ⟨.forAnyValue, c, ifExists⟩ key node request) ∧
    (∀ quantifier, Binds ⟨quantifier, c, ifExists⟩ operand →
      ∃ b, verdict ⟨quantifier, c, ifExists⟩ key node request = .ok b) := by
  refine ⟨fun actual hactual hlist => ?_, fun element helement => ?_,
    fun first rest hactual => verdict_forAnyValue_of_forAllValues h hactual, fun hseveral => ?_,
    fun quantifier hbinds => exists_verdict_eq_ok h hbinds key request⟩
  · -- on a value that is no list the test does not depend on the quantifier at all
    have hsame (q r : Quantifier) : verdict ⟨q, c, ifExists⟩ key node request =
        verdict ⟨r, c, ifExists⟩ key node request := by
      refine verdict_congr h rfl fun matchers => ?_
      rw [KeyTest.holds_of_asList?_eq_none hactual hlist,
        KeyTest.holds_of_asList?_eq_none hactual hlist]
    exact ⟨hsame _ _, hsame _ _⟩
  · refine verdict_congr h rfl fun matchers => ?_
    rw [KeyTest.holds_singleton helement (by simp), KeyTest.holds_singleton helement (by simp)]
  · refine verdict_congr h rfl fun matchers => ?_
    rw [hseveral, KeyTest.holds, KeyTest.holds]
    cases request.get? key <;> simp

/-- A request of a team with two tags. -/
def tagRequest : RequestContext :=
  .ofList [("team", .string "infra"), ("tags", .list [.string "blue", .string "green"])]

/-- With a list of tags a plain operator is one for any tag, and the team is a single value. Of the
two tags one matches, so the quantifiers differ there. -/
theorem verdict_quantifiers_tags :
    verdict ⟨.plain, .text .string false, false⟩ "tags" (.list [.string "blue"]) tagRequest =
        verdict ⟨.forAnyValue, .text .string false, false⟩ "tags" (.list [.string "blue"])
          tagRequest ∧
      verdict ⟨.forAllValues, .text .string false, false⟩ "team" (.list [.string "blue"])
          tagRequest =
        verdict ⟨.forAnyValue, .text .string false, false⟩ "team" (.list [.string "blue"])
          tagRequest ∧
      verdict ⟨.forAnyValue, .text .string false, false⟩ "tags" (.list [.string "blue"])
        tagRequest = .ok true ∧
      verdict ⟨.forAllValues, .text .string false, false⟩ "tags" (.list [.string "blue"])
        tagRequest = .ok false := by
  have hvalue : (Node.list [.string "blue"]).toValue? = some (.list [.string "blue"]) := rfl
  obtain ⟨-, -, -, hplain, -⟩ :=
    verdict_quantifiers (.text .string false) false "tags" hvalue tagRequest
  obtain ⟨hteam, -⟩ := verdict_quantifiers (.text .string false) false "team" hvalue tagRequest
  exact ⟨hplain rfl, (hteam (.string "infra") rfl rfl).2, rfl, rfl⟩

end Operator

end StackAudit
