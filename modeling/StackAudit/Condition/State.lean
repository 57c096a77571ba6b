import StackAudit.Condition.Compiled

/-!
# Conditions compiled on demand

A condition may be kept uncompiled until it is used for the first time. A compilation that fails
leaves it as it is.
-/

namespace StackAudit

/-- A condition that has been compiled or not. -/
inductive ConditionState where
  | uncompiled (condition : StatementCondition)
  | compiled (condition : CompiledCondition)

namespace ConditionState

/-- The condition has been compiled. -/
def isCompiled : ConditionState → Bool
  | uncompiled _ => false
  | compiled _ => true

/-- The compiled condition, and the state in which it is from then on. -/
def compile : ConditionState → Except Error CompiledCondition × ConditionState
  | uncompiled condition =>
    match condition.compile with
    | .ok done => (.ok done, compiled done)
    | .error e => (.error e, uncompiled condition)
  | compiled condition => (.ok condition, compiled condition)

/-- Whether a request fulfils the condition, and the state after that. -/
def evaluate (state : ConditionState) (request : RequestContext) :
    Except Error Bool × ConditionState :=
  let (result, state) := state.compile
  (result.map (·.evaluate request), state)

end ConditionState

end StackAudit
