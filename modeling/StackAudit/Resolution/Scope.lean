import StackAudit.Table
import StackAudit.Value

/-!
# Scopes

A scope holds what the function calls of a template can refer to: the values of parameters, the
entries of mappings, and the conditions that have been decided so far.
-/

namespace StackAudit

/-- Values by the name of a mapping and two keys. -/
abbrev Mappings := Table (Table (Table Value))

/-- The value of a mapping under two keys. -/
def Mappings.find? (mappings : Mappings) (name top second : String) : Option Value := do
  (← (← mappings.get? name).get? top).get? second

/-- What function calls can refer to. -/
structure Scope where
  params : Table Value
  mappings : Mappings
  conditions : Table Bool

namespace Scope

/-- The scope in which nothing is known. -/
def empty : Scope := ⟨.empty, .empty, .empty⟩

/-- Adds the value of a parameter. -/
def withParam (scope : Scope) (name : String) (value : Value) : Scope :=
  { scope with params := scope.params.insert name value }

/-- Adds the value of a mapping under two keys. -/
def withMapping (scope : Scope) (name top second : String) (value : Value) : Scope :=
  let tops := (scope.mappings.get? name).getD .empty
  let seconds := (tops.get? top).getD .empty
  let tops := tops.insert top (seconds.insert second value)
  { scope with mappings := scope.mappings.insert name tops }

/-- Adds a decided condition. -/
def withCondition (scope : Scope) (name : String) (value : Bool) : Scope :=
  { scope with conditions := scope.conditions.insert name value }

/-- A condition that has not been decided is false. -/
def condition (scope : Scope) (name : String) : Bool := (scope.conditions.get? name).getD false

/-- The value of a parameter, or a text that names the missing one. -/
def reference (scope : Scope) (name : String) : Value :=
  (scope.params.get? name).getD (.string ("UNDEFINED_PARAM_" ++ name))

/-- The value of a mapping under two keys, or a text that names the missing one. -/
def mapping (scope : Scope) (name top second : String) : Value :=
  (scope.mappings.find? name top second).getD
    (.string ("UNDEFINED_MAPPING_" ++ name ++ "_" ++ top ++ "_" ++ second))

end Scope

end StackAudit
