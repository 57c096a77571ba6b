import StackAudit.Node
import StackAudit.Resolution.Call

/-!
# Resolution

`Node.resolve` takes a node to its value in a scope. It is one fold over the node: `Node.evaluate`
takes each part to what it is as an argument of a function, from which the outcome of the whole is
read off. A map with a single entry that is named for a function is resolved like a call of it.

References to what is not in the scope have texts of their own, so resolution fails only where an
argument has the wrong shape.
-/

namespace StackAudit

/-- The values of the entries of a map, or the first error. -/
def collectEntries : List (String × Argument) → Except Error (List (String × Value))
  | [] => .ok []
  | (name, argument) :: rest => do
    let value ← argument.whole
    let entries ← collectEntries rest
    return (name, value) :: entries

/-- The outcome of a map that is data: absent entries are left out. -/
def dataOutcome (entries : List (String × Argument)) : Outcome :=
  (collectEntries entries).map fun entries =>
    .map (Entries.sort (entries.filter (!·.2.isNoValue)))

/-- The outcome of a map: that of the call which a single entry named for a function stands for, or
else data. -/
def mapOutcome (scope : Scope) : List (String × Argument) → Outcome
  | [(name, argument)] =>
    match Intrinsic.ofName? name with
    | some function => function.apply scope argument
    | none => dataOutcome [(name, argument)]
  | entries => dataOutcome entries

namespace Node

mutual

/-- A node as an argument. -/
def evaluate (scope : Scope) : Node → Argument
  | null => .single (.ok .null)
  | bool b => .single (.ok (.bool b))
  | number n => .single (.ok (.number n))
  | string s => .single (.ok (.string s))
  | date t => .single (.ok (.date t))
  | list items => .items (evaluateItems scope items)
  | map entries => .single (mapOutcome scope (evaluateEntries scope entries))
  | call function argument => .single (function.apply scope (argument.evaluate scope))

/-- The outcomes of the items of a list. -/
def evaluateItems (scope : Scope) : List Node → List Outcome
  | [] => []
  | item :: rest => (item.evaluate scope).whole :: evaluateItems scope rest

/-- The entries of a map as arguments. -/
def evaluateEntries (scope : Scope) : List (String × Node) → List (String × Argument)
  | [] => []
  | (name, node) :: rest => (name, node.evaluate scope) :: evaluateEntries scope rest

end

/-- The value of a node in a scope. -/
def resolve (scope : Scope) (n : Node) : Outcome := (n.evaluate scope).whole

theorem evaluateItems_eq (scope : Scope) (items : List Node) :
    evaluateItems scope items = items.map (resolve scope) := by
  induction items with
  | nil => rfl
  | cons item rest ih => simp [evaluateItems, ih, resolve]

theorem evaluateEntries_eq (scope : Scope) (entries : List (String × Node)) :
    evaluateEntries scope entries = entries.map fun e => (e.1, e.2.evaluate scope) := by
  induction entries with
  | nil => rfl
  | cons e rest ih => simp [evaluateEntries, ih]

end Node

end StackAudit
