import StackAudit.Condition.Compiled
import StackAudit.Proofs.Calls
import StackAudit.Proofs.Sequencing

/-!
# What conditions say

A condition can be read directly: `Comparison.Matches` says when a value of a request matches an
operand, `Operator.Admits` when the value under a key passes, if there is one, and
`StatementCondition.Holds` when a request fulfils the condition. Compiling a condition fails only
because of function calls, and names the first of them; otherwise the compiled condition decides
what the condition says, in whatever order its blocks and keys stand
(`StatementCondition.compile_correct`).

## Shape of the proof

There is one lemma for each level, from what is bound at the time of compilation to what is said:
for a matcher (`Matcher.accepts_iff`), a test (`KeyTest.holds_iff`), a block and a condition. Errors
come up the same way: that of a row is the first one of its steps (`errorOf?_mapM`), so that of a
condition is found by searching for the first call.
-/

namespace StackAudit

/-! ## Comparisons -/

/-- The proposition, or its negation. -/
def Signed (negated : Bool) (p : Prop) : Prop := if negated then ¬p else p

/-- A verdict that is turned round if need be decides the proposition or its negation. -/
theorem bne_eq_true_iff_signed {b negated : Bool} {p : Prop} (h : b = true ↔ p) :
    (b != negated) = true ↔ Signed negated p := by
  rw [Signed, ← h]
  cases b <;> cases negated <;> decide

namespace Comparison

/-- A value of a request matches an operand. What cannot be read as what is compared matches
nothing. -/
def Matches (actual operand : Value) : Comparison → Prop
  | bool => ∃ b, actual.asBool? = some b ∧ operand.asBool? = some b
  | null => actual.isNull = true ↔ operand.asBool? = some true
  | text _ negated => Signed negated (actual.text = operand.text)
  | ignoreCase negated =>
    Signed negated (Text.caselessForm actual.text = Text.caselessForm operand.text)
  | like _ negated => ∃ pattern, Wildcard.ofText operand.text = .ok pattern ∧
    Signed negated (pattern.accepts actual.text = true)
  | numeric relation => ∃ a e order, actual.asBinary64? = some a ∧ operand.asBinary64? = some e ∧
    a.compare? e = some order ∧ relation.holds order = true
  | date relation => ∃ a e, actual.asInstant? = some a ∧ operand.asInstant? = some e ∧
    relation.holds (a.compare e) = true
  | address negated => ∃ a e, Matcher.addressBlock? actual = some a ∧
    Matcher.addressBlock? operand = some e ∧ Signed negated (e.holds a = true)
  | binary => actual.text = operand.text

/-- Operands of the comparison are patterns. -/
def isLike : Comparison → Bool
  | like _ _ => true
  | _ => false

end Comparison

namespace Matcher

/-- A truth value that counts as false where it is missing is true only if it is there. -/
theorem getD_false_eq_true_iff {b : Option Bool} : b.getD false = true ↔ b = some true := by
  cases b <;> simp

/-- A matcher accepts what matches the operand that it was given. -/
theorem accepts_iff {c : Comparison} {actual operand : Value} {m : Matcher}
    (h : bind operand c = .ok m) : m.accepts actual = true ↔ c.Matches actual operand := by
  cases c with
  | bool =>
    cases h
    rw [accepts, Comparison.Matches, Bool.and_eq_true, beq_iff_eq]
    cases operand.asBool? <;> simp
  | null =>
    cases h
    rw [accepts, Comparison.Matches, ← getD_false_eq_true_iff, beq_iff_eq, Bool.eq_iff_iff]
  | text kind negated =>
    cases h
    exact bne_eq_true_iff_signed beq_iff_eq
  | ignoreCase negated =>
    cases h
    exact bne_eq_true_iff_signed beq_iff_eq
  | like kind negated =>
    -- the pattern was read when the operand was bound, so it is the one of the text
    obtain ⟨pattern, hpattern, rfl⟩ := map_eq_ok_iff.1 h
    rw [accepts, Comparison.Matches, bne_eq_true_iff_signed Iff.rfl]
    constructor
    · intro hmatch
      exact ⟨pattern, hpattern, hmatch⟩
    · rintro ⟨other, hother, hmatch⟩
      cases hpattern.symm.trans hother
      exact hmatch
  | numeric relation =>
    cases h
    unfold accepts Comparison.Matches
    -- either of the two may not be a number, and even two numbers may have no order
    cases actual.asBinary64? <;> cases operand.asBinary64? <;> simp [Option.any_eq_true]
  | date relation =>
    cases h
    unfold accepts Comparison.Matches
    cases actual.asInstant? <;> cases operand.asInstant? <;> simp
  | address negated =>
    cases h
    unfold accepts Comparison.Matches
    cases addressBlock? actual <;> cases addressBlock? operand <;>
      simp [← bne_eq_true_iff_signed Iff.rfl]
  | binary =>
    cases h
    exact bne_eq_true_iff_signed beq_iff_eq

end Matcher

/-! ## Keys -/

/-- The value under a key, or its absence, passes an operator with an operand. -/
def Operator.Admits (o : Operator) (operand : Value) (actual? : Option Value) : Prop :=
  if o.comparison = .null then
    (∀ actual, actual? = some actual → actual.isNull = true) ↔ operand.asBool? = some true
  else
    match actual? with
    | none => o.ifExists = true ∨ o.quantifier = .forAllValues
    | some actual =>
      if o.quantifier = .forAllValues then
        ∀ c ∈ actual.elements, ∃ e ∈ operand.elements, o.comparison.Matches c e
      else if o.quantifier = .forAnyValue ∨ operand.asList?.isSome = true then
        ∃ c ∈ actual.elements, ∃ e ∈ operand.elements, o.comparison.Matches c e
      else o.comparison.Matches actual operand

/-- The elements of an operand are patterns if they are compared as such. -/
def Operator.Binds (o : Operator) (operand : Value) : Prop :=
  o.comparison.isLike = true →
    ∀ e ∈ operand.elements, ∃ pattern, Wildcard.ofText e.text = .ok pattern

/-- Only what is no pattern cannot be bound. -/
theorem Matcher.exists_bind_eq_ok {c : Comparison} {operand : Value}
    (h : c.isLike = true → ∃ pattern, Wildcard.ofText operand.text = .ok pattern) :
    ∃ m, bind operand c = .ok m := by
  cases c with
  | like kind negated =>
    obtain ⟨pattern, hpattern⟩ := h rfl
    exact ⟨like pattern negated, map_eq_ok_iff.2 ⟨pattern, hpattern, rfl⟩⟩
  | _ => exact ⟨_, rfl⟩

namespace KeyTest

variable {o : Operator} {key : String} {operand : Value}

/-- A test for anything but null binds the elements of its operand. -/
theorem compile_of_ne_null (h : o.comparison ≠ .null) :
    compile o key operand = (operand.elements.mapM fun e => Matcher.bind e o.comparison).map
      fun matchers => comparison key o operand.asList?.isSome matchers := by
  rw [compile, if_neg h]
  rfl

/-- An operand whose elements are patterns if need be can be compiled. -/
theorem exists_compile_eq_ok (h : o.Binds operand) : ∃ test, compile o key operand = .ok test := by
  by_cases hnull : o.comparison = .null
  · exact ⟨_, by rw [compile, if_pos hnull]⟩
  · have hbind : ∀ e ∈ operand.elements, errorOf? (Matcher.bind e o.comparison) = none :=
      fun e he => errorOf?_eq_none_iff.2 (Matcher.exists_bind_eq_ok fun hlike => h hlike e he)
    rw [compile_of_ne_null hnull, ← errorOf?_eq_none_iff, errorOf?_map, errorOf?_mapM hbind,
      List.findSome?_eq_none_iff]
    intro _ _
    rfl

/-- Some matcher of an operand accepts what matches some of its elements. -/
theorem any_accepts_iff {c : Comparison} {elements : List Value} {matchers : List Matcher}
    (h : elements.mapM (fun e => Matcher.bind e c) = .ok matchers) (actual : Value) :
    matchers.any (Matcher.accepts actual) = true ↔ ∃ e ∈ elements, c.Matches actual e := by
  rw [List.any_eq_true]
  refine (exists_mem_iff_of_forall₂ (mapM_eq_ok_iff.1 h) fun e m hbind => ?_).symm
  exact (Matcher.accepts_iff hbind).symm

/-- A test that has been compiled decides what its operator admits. -/
theorem holds_iff {test : KeyTest} (h : compile o key operand = .ok test)
    (request : RequestContext) :
    test.holds request = true ↔ o.Admits operand (request.get? key) := by
  unfold Operator.Admits
  by_cases hnull : o.comparison = .null
  · -- neither the quantifier nor `IfExists` counts
    rw [compile, if_pos hnull] at h
    cases h
    rw [holds, if_pos hnull, beq_iff_eq, Bool.eq_iff_iff, Option.all_eq_true,
      Matcher.getD_false_eq_true_iff]
  · rw [compile_of_ne_null hnull] at h
    obtain ⟨matchers, hmatchers, rfl⟩ := map_eq_ok_iff.1 h
    have hany := any_accepts_iff hmatchers
    rw [if_neg hnull, holds]
    generalize request.get? key = actual?
    cases actual? with
    | none => simp
    | some actual =>
      -- of an operand that is no list the only element is the operand itself
      have hsingle (h : operand.asList?.isSome = false) :
          (∃ e ∈ operand.elements, o.comparison.Matches actual e) ↔
            o.comparison.Matches actual operand := by
        cases operand with
        | list items => cases h
        | _ => simp [Value.elements]
      -- only without a quantifier does it count whether the operand is a list
      cases hquantifier : o.quantifier with
      | forAllValues =>
        simp only [if_pos, List.all_eq_true, hany]
      | forAnyValue => simp [List.any_eq_true, hany]
      | plain =>
        cases hseveral : operand.asList?.isSome with
        | true => simp [List.any_eq_true, hany]
        | false => simp [hany, hsingle hseveral]

end KeyTest

/-! ## Conditions -/

namespace StatementCondition

/-- A request fulfils a condition: under every key of every block stands what the operator of the
block admits. -/
def Holds (c : StatementCondition) (request : RequestContext) : Prop :=
  ∀ b ∈ c.blocks, ∀ e ∈ b.entries, ∃ operand, e.2.toValue? = some operand ∧
    b.operator.Admits operand (request.get? e.1)

/-- All operands without function calls are patterns if they are compared as such. -/
def Binds (c : StatementCondition) : Prop :=
  ∀ b ∈ c.blocks, ∀ e ∈ b.entries, ∀ operand, e.2.toValue? = some operand → b.operator.Binds operand

/-- A function call stands in some operand. -/
def HasCall (c : StatementCondition) : Prop :=
  ∃ b ∈ c.blocks, ∃ e ∈ b.entries, e.2.containsCall = true

/-- The block, as its operator is written, and the key of the first operand with a function call, in
the order of blocks and keys. -/
def firstCall? (c : StatementCondition) : Option (String × String) :=
  c.blocks.findSome? fun b => (b.entries.find? (·.2.containsCall)).map fun e => (b.name, e.1)

/-- Two conditions have the same blocks with the same entries, perhaps in different orders. -/
def Reordered (c d : StatementCondition) : Prop :=
  ∃ blocks, List.Forall₂ (fun a b => a.name = b.name ∧ a.operator = b.operator ∧
    a.entries.Perm b.entries) c.blocks blocks ∧ blocks.Perm d.blocks

/-- What is said of every entry does not depend on the order. -/
theorem Reordered.forall_iff {c d : StatementCondition} (h : c.Reordered d)
    {p : Operator → String × Node → Prop} :
    (∀ b ∈ c.blocks, ∀ e ∈ b.entries, p b.operator e) ↔
      ∀ b ∈ d.blocks, ∀ e ∈ b.entries, p b.operator e := by
  obtain ⟨blocks, hblocks, hperm⟩ := h
  have hrow : (∀ b ∈ c.blocks, ∀ e ∈ b.entries, p b.operator e) ↔
      ∀ b ∈ blocks, ∀ e ∈ b.entries, p b.operator e := by
    refine forall_mem_iff_of_forall₂ hblocks fun a b hab => ?_
    obtain ⟨-, hoperator, hentries⟩ := hab
    rw [hoperator]
    exact forall_congr' fun e => by rw [hentries.mem_iff]
  rw [hrow]
  exact forall_congr' fun b => by rw [hperm.mem_iff]

/-- The order has no say in whether operands are patterns. -/
theorem Reordered.binds_iff {c d : StatementCondition} (h : c.Reordered d) : c.Binds ↔ d.Binds :=
  h.forall_iff (p := fun o e => ∀ operand, e.2.toValue? = some operand → o.Binds operand)

/-- The order has no say in what a condition asks for. -/
theorem Reordered.holds_iff {c d : StatementCondition} (h : c.Reordered d)
    (request : RequestContext) : c.Holds request ↔ d.Holds request :=
  h.forall_iff (p := fun o e => ∃ operand, e.2.toValue? = some operand ∧
    o.Admits operand (request.get? e.1))

/-- There is no function call if no operand contains one. -/
theorem not_hasCall_iff {c : StatementCondition} :
    ¬c.HasCall ↔ ∀ b ∈ c.blocks, ∀ e ∈ b.entries, e.2.containsCall = false := by
  simp [HasCall]

/-- The order has no say in whether there is a function call. -/
theorem Reordered.hasCall_iff {c d : StatementCondition} (h : c.Reordered d) :
    c.HasCall ↔ d.HasCall := by
  rw [← not_iff_not, not_hasCall_iff, not_hasCall_iff]
  exact h.forall_iff (p := fun _ e => e.2.containsCall = false)

/-- There is a first function call if there is any. -/
theorem firstCall?_eq_none_iff {c : StatementCondition} : c.firstCall? = none ↔ ¬c.HasCall := by
  simp [firstCall?, HasCall]

end StatementCondition

/-! ## Compilation -/

namespace ConditionBlock

/-- The test of an entry of a block. -/
def testOf (b : ConditionBlock) (e : String × Node) : Except Error KeyTest :=
  match e.2.toValue? with
  | some operand => KeyTest.compile b.operator e.1 operand
  | none => .error (.malformedConditionOperand b.name e.1)

/-- A block is compiled entry by entry. -/
theorem compile_eq (b : ConditionBlock) : b.compile = b.entries.mapM b.testOf := rfl

/-- Of the operands that are bound if they can be, those with a function call have no test. -/
theorem errorOf?_testOf {b : ConditionBlock} {e : String × Node}
    (h : ∀ operand, e.2.toValue? = some operand → b.operator.Binds operand) :
    errorOf? (b.testOf e) =
      if e.2.containsCall then some (.malformedConditionOperand b.name e.1) else none := by
  have hsome := Node.isSome_toValue? e.2
  unfold testOf
  cases hvalue : e.2.toValue? with
  | none =>
    rw [hvalue] at hsome
    rw [if_pos (by simpa using hsome.symm)]
    rfl
  | some operand =>
    rw [hvalue] at hsome
    rw [if_neg (by simpa using hsome.symm)]
    exact errorOf?_eq_none_iff.2 (KeyTest.exists_compile_eq_ok (h operand hvalue))

/-- The test of an entry decides what the operator of the block admits. -/
theorem holds_testOf_iff {b : ConditionBlock} {e : String × Node} {test : KeyTest}
    (h : b.testOf e = .ok test) (request : RequestContext) :
    test.holds request = true ↔ ∃ operand, e.2.toValue? = some operand ∧
      b.operator.Admits operand (request.get? e.1) := by
  unfold testOf at h
  cases hvalue : e.2.toValue? with
  | none =>
    rw [hvalue] at h
    cases h
  | some operand =>
    rw [hvalue] at h
    rw [KeyTest.holds_iff h]
    simp

/-- A block fails to compile at its first operand with a function call. -/
theorem errorOf?_compile {b : ConditionBlock}
    (h : ∀ e ∈ b.entries, ∀ operand, e.2.toValue? = some operand → b.operator.Binds operand) :
    errorOf? b.compile = (b.entries.find? (·.2.containsCall)).map fun e =>
      .malformedConditionOperand b.name e.1 := by
  rw [compile_eq, List.find?_eq_findSome?_guard, List.map_findSome?]
  refine errorOf?_mapM fun e he => ?_
  -- the first entry with an error is the first one with a function call
  rw [errorOf?_testOf (h e he)]
  cases hcall : e.2.containsCall <;> simp [Option.guard, hcall]

end ConditionBlock

namespace StatementCondition

/-- A condition is compiled block by block, to the tests of all blocks in a row. -/
theorem compile_eq (c : StatementCondition) : c.compile =
    (c.blocks.mapM ConditionBlock.compile).map fun tests => ⟨c, tests.flatten⟩ := rfl

/-- A condition fails to compile at its first operand with a function call. -/
theorem errorOf?_compile {c : StatementCondition} (h : c.Binds) :
    errorOf? c.compile = c.firstCall?.map fun place =>
      .malformedConditionOperand place.1 place.2 := by
  rw [compile_eq, errorOf?_map, firstCall?, List.map_findSome?]
  refine errorOf?_mapM fun b hb => ?_
  rw [ConditionBlock.errorOf?_compile (h b hb)]
  simp [Function.comp_def]

/-- Nothing but a function call keeps a condition from being compiled. -/
theorem exists_compile_eq_ok_iff {c : StatementCondition} (h : c.Binds) :
    (∃ compiled, c.compile = .ok compiled) ↔ ¬c.HasCall := by
  rw [← errorOf?_eq_none_iff, errorOf?_compile h, Option.map_eq_none_iff, firstCall?_eq_none_iff]

/-- A compiled condition decides whether a request fulfils the condition. -/
theorem evaluate_iff {c : StatementCondition} {compiled : CompiledCondition}
    (h : c.compile = .ok compiled) (request : RequestContext) :
    compiled.evaluate request = true ↔ c.Holds request := by
  rw [compile_eq] at h
  obtain ⟨rows, hrows, rfl⟩ := map_eq_ok_iff.1 h
  rw [CompiledCondition.evaluate, List.all_flatten, List.all_eq_true, Holds]
  refine (forall_mem_iff_of_forall₂ (mapM_eq_ok_iff.1 hrows) fun b tests htests => ?_).symm
  rw [List.all_eq_true]
  refine forall_mem_iff_of_forall₂ (mapM_eq_ok_iff.1 htests) fun e test htest => ?_
  exact (ConditionBlock.holds_testOf_iff htest request).symm

/-- Compiling a condition fails if there is a function call in some operand, and names the first
one. Otherwise the compiled condition decides whether a request fulfils the condition, and in
another order the condition is compiled to the same effect. -/
theorem compile_correct {c : StatementCondition} (h : c.Binds) :
    ((∃ e, c.compile = .error e) ↔ c.HasCall) ∧
      (∀ e, c.compile = .error e ↔ ∃ name key, c.firstCall? = some (name, key) ∧
        e = .malformedConditionOperand name key) ∧
      (¬c.HasCall → ∃ compiled, c.compile = .ok compiled ∧ compiled.condition = c ∧
        (∀ request, compiled.evaluate request = true ↔ c.Holds request) ∧
        ∀ d, c.Reordered d → ∃ other, d.compile = .ok other ∧
          ∀ request, other.evaluate request = compiled.evaluate request) := by
  -- the error determines the first call, and the first call the error
  have herror (e : Error) : c.compile = .error e ↔ ∃ name key, c.firstCall? = some (name, key) ∧
      e = .malformedConditionOperand name key := by
    rw [← errorOf?_eq_some_iff, errorOf?_compile h, Option.map_eq_some_iff]
    constructor
    · rintro ⟨⟨name, key⟩, hfirst, rfl⟩
      exact ⟨name, key, hfirst, rfl⟩
    · rintro ⟨name, key, hfirst, rfl⟩
      exact ⟨(name, key), hfirst, rfl⟩
  refine ⟨?_, herror, fun hnone => ?_⟩
  · rw [← not_iff_not, ← exists_compile_eq_ok_iff h]
    cases c.compile <;> simp
  · obtain ⟨compiled, hcompiled⟩ := (exists_compile_eq_ok_iff h).2 hnone
    refine ⟨compiled, hcompiled, ?_, evaluate_iff hcompiled, fun d hd => ?_⟩
    · obtain ⟨tests, -, rfl⟩ := map_eq_ok_iff.1 (compile_eq c ▸ hcompiled)
      rfl
    · -- both conditions are compiled to what they say, and they say the same
      have hnone' : ¬d.HasCall := hd.hasCall_iff.not.1 hnone
      obtain ⟨other, hother⟩ := (exists_compile_eq_ok_iff (hd.binds_iff.1 h)).2 hnone'
      refine ⟨other, hother, fun request => ?_⟩
      rw [Bool.eq_iff_iff, evaluate_iff hother, evaluate_iff hcompiled, hd.holds_iff]

/-- All prefixes of a request are within home directories, and the user is not a guest. -/
def homeCondition : StatementCondition where
  blocks := [
    ⟨"ForAllValues:StringLike", ⟨.forAllValues, .like .string false, false⟩,
      [("s3:prefix", .list [.string "home/*"])]⟩,
    ⟨"StringNotEqualsIfExists", ⟨.plain, .text .string true, true⟩,
      [("aws:username", .string "guest")]⟩]

/-- The condition holds no call, so it is compiled to what it says. -/
theorem compile_correct_homeCondition : ∃ compiled, homeCondition.compile = .ok compiled ∧
    ∀ request, compiled.evaluate request = true ↔ homeCondition.Holds request := by
  have hbinds : homeCondition.Binds := by
    intro b hb e he operand hoperand hlike x hx
    rcases List.mem_cons.1 hb with rfl | hb
    · obtain rfl := List.mem_singleton.1 he
      cases hoperand
      obtain rfl := List.mem_singleton.1 hx
      exact ⟨_, rfl⟩
    · obtain rfl := List.mem_singleton.1 hb
      cases hlike
  have hcall : ¬homeCondition.HasCall := by
    simp [HasCall, homeCondition, Node.containsCall, Node.anyContainsCall]
  obtain ⟨compiled, hcompiled, -, hevaluate, -⟩ := (compile_correct hbinds).2.2 hcall
  exact ⟨compiled, hcompiled, hevaluate⟩

end StatementCondition

end StackAudit
