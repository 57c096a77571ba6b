/-!
# Intrinsic functions

The functions that a template may call. A map with one entry that is named for a function is a call
of it; every other map is data.
-/

namespace StackAudit

/-- An intrinsic function. -/
inductive Intrinsic where
  | ref
  | join
  | sub
  | findInMap
  | select
  | split
  | ifElse
  | and
  | or
  | not
  | equals
  | base64
  | getAtt
  | getAZs
  | importValue
  | condition
  deriving DecidableEq

namespace Intrinsic

/-- The name under which a function is called. -/
def name : Intrinsic → String
  | ref => "Ref"
  | join => "Fn::Join"
  | sub => "Fn::Sub"
  | findInMap => "Fn::FindInMap"
  | select => "Fn::Select"
  | split => "Fn::Split"
  | ifElse => "Fn::If"
  | and => "Fn::And"
  | or => "Fn::Or"
  | not => "Fn::Not"
  | equals => "Fn::Equals"
  | base64 => "Fn::Base64"
  | getAtt => "Fn::GetAtt"
  | getAZs => "Fn::GetAZs"
  | importValue => "Fn::ImportValue"
  | condition => "Condition"

/-- All functions. -/
def all : List Intrinsic :=
  [ref, join, sub, findInMap, select, split, ifElse, and, or, not, equals, base64, getAtt, getAZs,
    importValue, condition]

/-- The function of a name. -/
def ofName? (s : String) : Option Intrinsic := all.find? fun f => f.name = s

/-- The function of a name has that name. -/
theorem name_of_ofName? {s : String} {f : Intrinsic} (h : ofName? s = some f) : f.name = s := by
  simpa using List.find?_some h

/-- Every function is found by its name. -/
theorem ofName?_name (f : Intrinsic) : ofName? f.name = some f := by cases f <;> decide

end Intrinsic

end StackAudit
