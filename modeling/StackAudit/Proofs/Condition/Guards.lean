import StackAudit.Proofs.Condition.Names
import StackAudit.Proofs.Condition.Quantifiers

/-!
# Conditions on keys that may be missing

`IfExists` behind the name of an operator is to excuse a missing key: a request without the key
fulfils the condition, and any other request fulfils it if it fulfils the one without `IfExists`
(`CompiledCondition.Excuses`). All operators keep to this but for those that test for null, where
`IfExists` makes no difference. So among these a missing key is only excused if it is what the
condition asks for (`StatementCondition.compileNode_ifExists`).
-/

namespace StackAudit

namespace Operator

/-- The operator with `IfExists`. -/
def guarded (o : Operator) : Operator := { o with ifExists := true }

/-- `IfExists` behind the name of an operator that is without it is read as that. -/
theorem ofName_append_ifExists {name : String} {o : Operator} (hname : ofName name = .ok o)
    (hplain : o.ifExists = false) : ofName (name ++ "IfExists") = .ok o.guarded := by
  rw [ofName_eq_ok_iff, withoutColons_name] at hname ⊢
  rw [withoutColons_append, hname, hplain]
  simp [guarded, withoutColons, ifExistsText]

end Operator

namespace KeyTest

variable {o : Operator} {key : String} {operand : Value} {several : Bool}
  {matchers : List Matcher}

/-- A test for null is the same with `IfExists`. -/
theorem compile_guarded_of_null (h : o.comparison = .null) :
    compile o.guarded key operand = compile o key operand := by
  rw [compile, if_pos (show o.guarded.comparison = .null from h), compile, if_pos h]

/-- Any other test passes with `IfExists` if the key is missing, and otherwise if it passes without.
-/
theorem holds_guarded (request : RequestContext) :
    (comparison key o.guarded several matchers).holds request =
      ((request.get? key).isNone || (comparison key o several matchers).holds request) := by
  rw [holds, holds]
  cases request.get? key <;> simp [Operator.guarded]

/-- A test for null excuses a missing key just if it expects the key to be missing. -/
theorem holds_absence_excuses_iff {expected : Bool} :
    (∀ request : RequestContext, (absence key expected).holds request =
      ((request.get? key).isNone || (absence key expected).holds request)) ↔ expected = true := by
  constructor
  · intro h
    -- the empty request lacks every key
    have hmissing : (true == expected) = true := h .empty
    simpa using hmissing
  · rintro rfl request
    rw [holds]
    cases request.get? key <;> simp

end KeyTest

/-- A condition holds of every request without the key, and says of any other request what the
second condition says. -/
def CompiledCondition.Excuses (guarded compiled : CompiledCondition) (key : String) : Prop :=
  ∀ request : RequestContext,
    guarded.evaluate request = ((request.get? key).isNone || compiled.evaluate request)

namespace StatementCondition

/-- The condition of one operator, as it is written, with one key and its operand. -/
def nodeOf (name key : String) (operand : Node) : Node := .map [(name, .map [(key, operand)])]

/-- Reads a condition and compiles it. -/
def compileNode (node : Node) : Except Error CompiledCondition := ofNode node >>= compile

variable {name key : String} {o : Operator} {node : Node} {operand : Value}

/-- A condition of one key has one test. -/
theorem compileNode_nodeOf (hname : Operator.ofName name = .ok o)
    (hvalue : node.toValue? = some operand) : compileNode (nodeOf name key node) =
      (KeyTest.compile o key operand).map fun test => ⟨⟨[⟨name, o, [(key, node)]⟩]⟩, [test]⟩ := by
  have hread : ofNode (nodeOf name key node) = .ok ⟨[⟨name, o, [(key, node)]⟩]⟩ := by
    have hblock : blockOf name (.map [(key, node)]) = .ok ⟨name, o, [(key, node)]⟩ := by
      rw [blockOf, hname]
      rfl
    simp only [nodeOf, ofNode, List.mapM_cons, List.mapM_nil, hblock]
    rfl
  rw [compileNode, hread]
  exact compile_single name o key hvalue

/-- If a condition can be compiled, then so can the one with `IfExists`. Unless it tests for null,
this one excuses a missing key. If it does, `IfExists` makes no difference, and a missing key is
only excused if the operand asks for it. -/
theorem compileNode_ifExists (hname : Operator.ofName name = .ok o) (hplain : o.ifExists = false)
    (hvalue : node.toValue? = some operand) {compiled : CompiledCondition}
    (hcompiled : compileNode (nodeOf name key node) = .ok compiled) :
    ∃ guarded, compileNode (nodeOf (name ++ "IfExists") key node) = .ok guarded ∧
      (o.comparison = .null → ∀ request, guarded.evaluate request = compiled.evaluate request) ∧
      (guarded.Excuses compiled key ↔ (o.comparison = .null → operand.asBool? = some true)) := by
  have hguarded := Operator.ofName_append_ifExists hname hplain
  rw [compileNode_nodeOf hname hvalue] at hcompiled
  obtain ⟨test, htest, rfl⟩ := map_eq_ok_iff.1 hcompiled
  rw [compileNode_nodeOf hguarded hvalue]
  simp only [CompiledCondition.Excuses]
  -- a test for null is compiled to the absence of the key, which leaves no place for `IfExists`
  by_cases hnull : o.comparison = .null
  · rw [KeyTest.compile_guarded_of_null hnull, htest]
    refine ⟨_, rfl, fun _ request => ?_, ?_⟩
    · rw [CompiledCondition.evaluate_single, CompiledCondition.evaluate_single]
    · rw [KeyTest.compile, if_pos hnull] at htest
      obtain rfl := Except.ok.inj htest
      simp only [CompiledCondition.evaluate_single, KeyTest.holds_absence_excuses_iff,
        Matcher.getD_false_eq_true_iff, hnull, true_imp_iff]
  · rw [KeyTest.compile_of_ne_null hnull] at htest
    obtain ⟨matchers, hmatchers, rfl⟩ := map_eq_ok_iff.1 htest
    -- `IfExists` does not change how the operand is bound, so the matchers are the same
    have hguard : KeyTest.compile o.guarded key operand =
        .ok (.comparison key o.guarded operand.asList?.isSome matchers) := by
      rw [KeyTest.compile_of_ne_null (show o.guarded.comparison ≠ .null from hnull)]
      exact map_eq_ok_iff.2 ⟨matchers, hmatchers, rfl⟩
    rw [hguard]
    refine ⟨_, rfl, fun h => absurd h hnull,
      iff_of_true (fun request => ?_) fun h => absurd h hnull⟩
    rw [CompiledCondition.evaluate_single, CompiledCondition.evaluate_single]
    exact KeyTest.holds_guarded request

/-- The names of a user must match, or there must be none. -/
theorem compileNode_ifExists_user :
    ∃ compiled guarded,
      compileNode (nodeOf "ForAnyValue:StringLike:" "aws:username" (.list [.string "ann*"])) =
        .ok compiled ∧
      compileNode (nodeOf ("ForAnyValue:StringLike:" ++ "IfExists") "aws:username"
        (.list [.string "ann*"])) = .ok guarded ∧
      guarded.Excuses compiled "aws:username" := by
  have hname : Operator.ofName "ForAnyValue:StringLike:" =
      .ok ⟨.forAnyValue, .like .string false, false⟩ := Operator.ofName_eq_ok_iff.2 (by decide)
  have hvalue : (Node.list [.string "ann*"]).toValue? = some (.list [.string "ann*"]) := rfl
  obtain ⟨compiled, hcompiled⟩ : ∃ compiled, compileNode
      (nodeOf "ForAnyValue:StringLike:" "aws:username" (.list [.string "ann*"])) = .ok compiled :=
    ⟨_, (compileNode_nodeOf hname hvalue).trans rfl⟩
  obtain ⟨guarded, hguarded, -, hexcuses⟩ := compileNode_ifExists hname rfl hvalue hcompiled
  exact ⟨compiled, guarded, hcompiled, hguarded, hexcuses.2 fun h => nomatch h⟩

/-- `NullIfExists` does not excuse a missing key that is expected to be there. -/
theorem not_forall_compileNode_excuses :
    ¬∀ (name : String) (o : Operator), Operator.ofName name = .ok o → o.ifExists = false →
      ∀ key node compiled, compileNode (nodeOf name key node) = .ok compiled →
        ∃ guarded, compileNode (nodeOf (name ++ "IfExists") key node) = .ok guarded ∧
          guarded.Excuses compiled key := by
  intro hall
  have hname : Operator.ofName "Null" = .ok (.plain .null) := Operator.ofName_eq_ok_iff.2 rfl
  have hguarded := Operator.ofName_append_ifExists hname rfl
  have hvalue : (Node.bool false).toValue? = some (.bool false) := rfl
  obtain ⟨guarded, hread, hexcuses⟩ := hall "Null" _ hname rfl "aws:TokenIssueTime" (.bool false) _
    ((compileNode_nodeOf hname hvalue).trans rfl)
  obtain rfl := Except.ok.inj (hread.symm.trans ((compileNode_nodeOf hguarded hvalue).trans rfl))
  -- on the empty request the guarded condition should hold
  have hmissing : false = true := hexcuses .empty
  cases hmissing

end StatementCondition

end StackAudit
