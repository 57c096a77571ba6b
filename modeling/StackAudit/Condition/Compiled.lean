import StackAudit.Condition.Matcher
import StackAudit.Condition.RequestContext
import StackAudit.Node

/-!
# Conditions of statements

A condition maps operators to context keys, and these to the values to compare with. To compile a
condition is to bind every operand once; a compiled condition holds of a request if every key passes
its test.
-/

namespace StackAudit

/-- An operator with its context keys and operands. -/
structure ConditionBlock where
  /-- The operator as it is written. -/
  name : String
  operator : Operator
  entries : List (String × Node)

/-- The condition of a statement. -/
structure StatementCondition where
  blocks : List ConditionBlock

/-- The test of one context key. -/
inductive KeyTest where
  /-- Whether the key is missing or null. -/
  | absence (key : String) (expected : Bool)
  /-- The values of the key under the matchers of an operator; `several` says whether the operand
  was a list. -/
  | comparison (key : String) (operator : Operator) (several : Bool) (matchers : List Matcher)

/-- A condition with its tests. -/
structure CompiledCondition where
  condition : StatementCondition
  tests : List KeyTest

namespace StatementCondition

/-- One operator of a condition. -/
def blockOf (name : String) (node : Node) : Except Error ConditionBlock := do
  let operator ← Operator.ofName name
  match node with
  | .map entries => return { name, operator, entries }
  | _ =>
    .error (.invalidFormat ("Condition operator '" ++ name ++ "' must map context keys to values"))

/-- The condition that a node describes. -/
def ofNode : Node → Except Error StatementCondition
  | .map body => do
    return { blocks := ← body.mapM fun (name, node) => blockOf name node }
  | _ => .error (.invalidFormat "Condition must be a mapping of operators")

/-- No key is tested. -/
def isEmpty (c : StatementCondition) : Bool := c.blocks.all (·.entries.isEmpty)

end StatementCondition

namespace KeyTest

/-- The test of a key under an operator with an operand. -/
def compile (operator : Operator) (key : String) (operand : Value) : Except Error KeyTest :=
  if operator.comparison = .null then .ok (absence key (operand.asBool?.getD false))
  else do
    let matchers ← operand.elements.mapM fun value => Matcher.bind value operator.comparison
    return comparison key operator operand.asList?.isSome matchers

/-- A request passes the test. Without the key, a test with `IfExists` or for all values passes.
With it, all values, some value or the value as a whole must match one of the operands; a list of
operands asks for some value. -/
def holds (request : RequestContext) : KeyTest → Bool
  | absence key expected => ((request.get? key).all Value.isNull) == expected
  | comparison key operator several matchers =>
    let matched (value : Value) : Bool := matchers.any (Matcher.accepts value)
    match request.get? key with
    | none => operator.ifExists || operator.quantifier = .forAllValues
    | some actual =>
      match operator.quantifier with
      | .forAllValues => actual.elements.all matched
      | .forAnyValue => actual.elements.any matched
      | .plain => if several then actual.elements.any matched else matched actual

end KeyTest

/-- The tests of a block, in the order of its keys. An operand with a function call is an error. -/
def ConditionBlock.compile (b : ConditionBlock) : Except Error (List KeyTest) :=
  b.entries.mapM fun (key, node) =>
    match node.toValue? with
    | some operand => KeyTest.compile b.operator key operand
    | none => .error (.malformedConditionOperand b.name key)

/-- Compiles a condition. The first error in the order of blocks and keys counts. -/
def StatementCondition.compile (c : StatementCondition) : Except Error CompiledCondition := do
  return { condition := c, tests := (← c.blocks.mapM ConditionBlock.compile).flatten }

/-- A request fulfils a compiled condition. -/
def CompiledCondition.evaluate (c : CompiledCondition) (request : RequestContext) : Bool :=
  c.tests.all (KeyTest.holds request)

end StackAudit
