import StackAudit.Condition.State
import StackAudit.Proofs.Sequencing

/-!
# Runs of a condition that is compiled on demand

A condition that is compiled on demand answers like one that is compiled afresh for every use: in a
run of any length each answer depends on the condition and on the operation alone, not on what came
before (`ConditionState.run_answers`). The state only remembers whether the condition has been
compiled. It has been from the first use on if compiling it succeeds, and never if it fails.

## Shape of the proof

In every state of a run there is either the condition itself or what compiling it yields; this is
the invariant `ConditionState.Caches`. `step_of_caches` says what one operation answers in such a
state and that the state afterwards is one again, and `run_of_caches` says the same of a run, by
induction on its operations.
-/

namespace StackAudit

/-- A compiled condition is that of the condition which was compiled. -/
theorem StatementCondition.condition_of_compile {c : StatementCondition} {done : CompiledCondition}
    (h : c.compile = .ok done) : done.condition = c := by
  obtain ⟨tests, -, h⟩ := bind_eq_ok_iff.1 h
  exact (Except.ok.inj h) ▸ rfl

namespace ConditionState

/-- What can be done with a condition that is compiled on demand. -/
inductive Operation where
  /-- Ask for the compiled condition. -/
  | compile
  /-- Ask whether a request fulfils the condition. -/
  | evaluate (request : RequestContext)
  /-- Go on with a copy of the state. -/
  | copy

/-- The operation needs the compiled condition. -/
def Operation.uses : Operation → Bool
  | copy => false
  | _ => true

/-- What an operation answers. -/
inductive Answer where
  | compiled (result : Except Error CompiledCondition)
  | verdict (result : Except Error Bool)
  | copied

/-- The answer is an error. -/
def Answer.isError : Answer → Bool
  | compiled (.error _) => true
  | verdict (.error _) => true
  | _ => false

/-- The answer to an operation, and the state after it. A copy of a state is the same state. -/
def step (state : ConditionState) : Operation → Answer × ConditionState
  | .compile => (.compiled state.compile.1, state.compile.2)
  | .evaluate request => (.verdict (state.evaluate request).1, (state.evaluate request).2)
  | .copy => (.copied, state)

/-- The answers to the operations of a run, and the state after the last one. -/
def run (state : ConditionState) : List Operation → List Answer × ConditionState
  | [] => ([], state)
  | operation :: rest =>
    let after := (state.step operation).2.run rest
    ((state.step operation).1 :: after.1, after.2)

/-- What an operation answers if the condition is compiled for it alone. -/
def eagerAnswer (c : StatementCondition) : Operation → Answer
  | .compile => .compiled c.compile
  | .evaluate request => .verdict (c.compile.map (·.evaluate request))
  | .copy => .copied

/-! ## One operation -/

/-- The state has the condition itself or what compiling it yields. -/
inductive Caches (c : StatementCondition) : ConditionState → Prop where
  | uncompiled : Caches c (.uncompiled c)
  | compiled {done : CompiledCondition} : c.compile = .ok done → Caches c (.compiled done)

variable {c : StatementCondition} {state : ConditionState}

/-- What can be compiled is kept. -/
theorem compile_uncompiled_of_ok {done : CompiledCondition} (h : c.compile = .ok done) :
    (uncompiled c).compile = (.ok done, compiled done) := by
  rw [compile, h]

/-- What cannot be compiled stays as it is, so that it is tried again. -/
theorem compile_uncompiled_of_error {e : Error} (h : c.compile = .error e) :
    (uncompiled c).compile = (.error e, uncompiled c) := by
  rw [compile, h]

/-- Asking for the compiled condition gives what compiling the condition gives, and keeps it. -/
theorem compile_of_caches (h : Caches c state) :
    state.compile.1 = c.compile ∧ Caches c state.compile.2 ∧
      (state.compile.2.isCompiled = true ↔ ∃ done, c.compile = .ok done) := by
  cases h with
  | uncompiled =>
    cases hcompile : c.compile with
    | ok done =>
      rw [compile_uncompiled_of_ok hcompile]
      exact ⟨rfl, .compiled hcompile, iff_of_true rfl ⟨done, rfl⟩⟩
    | error e =>
      rw [compile_uncompiled_of_error hcompile]
      exact ⟨rfl, .uncompiled, by simp [isCompiled]⟩
  | compiled hcompile => exact ⟨hcompile.symm, .compiled hcompile, iff_of_true rfl ⟨_, hcompile⟩⟩

/-- In a state of the invariant an operation answers as if the condition were compiled for it alone,
and leaves such a state. The condition has been compiled then if it had been before, or if the
operation needs it and compiling it succeeds. -/
theorem step_of_caches (h : Caches c state) (operation : Operation) :
    (state.step operation).1 = eagerAnswer c operation ∧ Caches c (state.step operation).2 ∧
      ((state.step operation).2.isCompiled = true ↔ state.isCompiled = true ∨
        operation.uses = true ∧ ∃ done, c.compile = .ok done) := by
  obtain ⟨hresult, hcaches, hcompiled⟩ := compile_of_caches h
  -- what has been compiled could be compiled
  have hbefore (hdone : state.isCompiled = true) : ∃ done, c.compile = .ok done := by
    cases h with
    | uncompiled => cases hdone
    | compiled hcompile => exact ⟨_, hcompile⟩
  have hafter : state.compile.2.isCompiled = true ↔ state.isCompiled = true ∨
      true = true ∧ ∃ done, c.compile = .ok done := by
    rw [hcompiled, and_iff_right rfl, or_iff_right_of_imp hbefore]
  cases operation with
  | compile => exact ⟨congrArg Answer.compiled hresult, hcaches, hafter⟩
  | evaluate request =>
    have hverdict : (state.evaluate request).1 = c.compile.map (·.evaluate request) := by
      rw [← hresult]
      rfl
    exact ⟨congrArg Answer.verdict hverdict, hcaches, hafter⟩
  | copy => exact ⟨rfl, h, by simp [step, Operation.uses]⟩

/-! ## Runs -/

/-- What is true of one operation is true of a run. -/
theorem run_of_caches (h : Caches c state) (operations : List Operation) :
    (state.run operations).1 = operations.map (eagerAnswer c) ∧
      Caches c (state.run operations).2 ∧
      ((state.run operations).2.isCompiled = true ↔ state.isCompiled = true ∨
        (∃ operation ∈ operations, operation.uses = true) ∧ ∃ done, c.compile = .ok done) := by
  induction operations generalizing state with
  | nil => exact ⟨rfl, h, by simp [run]⟩
  | cons operation rest ih =>
    obtain ⟨hanswer, hcaches, hcompiled⟩ := step_of_caches h operation
    obtain ⟨hanswers, hlast, hfinal⟩ := ih hcaches
    refine ⟨?_, hlast, ?_⟩
    · rw [run, List.map_cons, hanswer, hanswers]
    · -- the condition has been compiled before, by this operation or by one of the rest
      rw [run, hfinal, hcompiled, List.exists_mem_cons_iff, or_and_right, or_assoc]

/-- A run in two parts goes on where the first part ends. -/
theorem run_append (state : ConditionState) (operations more : List Operation) :
    (state.run (operations ++ more)).2 = ((state.run operations).2.run more).2 := by
  induction operations generalizing state with
  | nil => rfl
  | cons operation rest ih => exact ih (state.step operation).2

/-- Nothing is done to a state with a compiled condition. -/
theorem run_compiled (done : CompiledCondition) (operations : List Operation) :
    ((compiled done).run operations).2 = compiled done := by
  induction operations with
  | nil => rfl
  | cons operation rest ih =>
    have hstep : ((compiled done).step operation).2 = compiled done := by cases operation <;> rfl
    rw [run, hstep, ih]

/-- Only the error of compiling is ever answered. -/
theorem exists_compile_eq_error {operation : Operation}
    (h : (eagerAnswer c operation).isError = true) : ∃ e, c.compile = .error e := by
  cases hcompile : c.compile with
  | error e => exact ⟨e, rfl⟩
  | ok done => cases operation <;> simp [eagerAnswer, hcompile, Answer.isError, Except.map] at h

/-- A run on a condition that is compiled on demand answers as if the condition were compiled for
each operation alone. So a request is decided as the compiled condition decides it, or with the
error of compiling, and every compiled condition that is handed out is that of the condition. After
the run the condition has been compiled if this is possible and some operation needed it; it stays
compiled whatever comes next, and after an error the state is still the condition itself. -/
theorem run_answers (c : StatementCondition) (operations : List Operation) :
    ((uncompiled c).run operations).1 = operations.map (eagerAnswer c) ∧
      (∀ (i : Nat) (request : RequestContext), operations[i]? = some (.evaluate request) →
        ∃ result, ((uncompiled c).run operations).1[i]? = some (.verdict result) ∧
          (∀ b, result = .ok b ↔ ∃ done, c.compile = .ok done ∧ done.evaluate request = b) ∧
          ∀ e, result = .error e ↔ c.compile = .error e) ∧
      (∀ i : Nat, operations[i]? = some .compile →
        ∃ result, ((uncompiled c).run operations).1[i]? = some (.compiled result) ∧
          (∀ done, result = .ok done → done.condition = c) ∧
          ∀ e, result = .error e ↔ c.compile = .error e) ∧
      (((uncompiled c).run operations).2.isCompiled = true ↔
        (∃ done, c.compile = .ok done) ∧ ∃ operation ∈ operations, operation.uses = true) ∧
      (((uncompiled c).run operations).2.isCompiled = true → ∀ more : List Operation,
        ((uncompiled c).run (operations ++ more)).2 = ((uncompiled c).run operations).2) ∧
      ((∃ answer ∈ ((uncompiled c).run operations).1, answer.isError = true) →
        ((uncompiled c).run operations).2 = uncompiled c) := by
  obtain ⟨hanswers, hcaches, hcompiled⟩ := run_of_caches (Caches.uncompiled (c := c)) operations
  have hanswer {i : Nat} {operation : Operation} (hi : operations[i]? = some operation) :
      ((uncompiled c).run operations).1[i]? = some (eagerAnswer c operation) := by
    rw [hanswers, List.getElem?_map, hi]
    rfl
  refine ⟨hanswers, fun i request hi => ?_, fun i hi => ?_, ?_, fun hdone more => ?_, ?_⟩
  · refine ⟨_, hanswer hi, fun b => map_eq_ok_iff, fun e => ?_⟩
    rw [← errorOf?_eq_some_iff, errorOf?_map, errorOf?_eq_some_iff]
  · exact ⟨_, hanswer hi, fun done => StatementCondition.condition_of_compile, fun e => Iff.rfl⟩
  · rw [hcompiled, and_comm]
    simp [isCompiled]
  · rw [run_append]
    -- only a compiled condition is left after the first part, and nothing is done to that
    cases hstate : ((uncompiled c).run operations).2 with
    | uncompiled condition =>
      rw [hstate] at hdone
      cases hdone
    | compiled done => exact run_compiled done more
  · rintro ⟨answer, hmem, herror⟩
    rw [hanswers] at hmem
    obtain ⟨operation, -, rfl⟩ := List.mem_map.1 hmem
    obtain ⟨e, hcompile⟩ := exists_compile_eq_error herror
    -- the invariant leaves two states, and the compiled one would have no error
    generalize ((uncompiled c).run operations).2 = state at hcaches
    cases hcaches with
    | uncompiled => rfl
    | compiled hdone => cases hdone.symm.trans hcompile

end ConditionState

end StackAudit
