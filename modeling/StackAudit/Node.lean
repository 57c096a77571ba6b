import StackAudit.Intrinsic
import StackAudit.Value

/-!
# Nodes

A node is a part of a template: data that may hold function calls. The entries of its maps are in
the order in which the template declares them.
-/

namespace StackAudit

/-- A part of a template. -/
inductive Node where
  | null
  | bool (b : Bool)
  | number (n : Numeral)
  | string (s : String)
  | date (t : Instant)
  | list (items : List Node)
  | map (entries : List (String × Node))
  | call (function : Intrinsic) (argument : Node)

instance : Inhabited Node := ⟨.null⟩

namespace Node

/-- A function call itself. -/
def isCall : Node → Bool
  | call _ _ => true
  | _ => false

/-- The characters of a string. -/
def asString? : Node → Option String
  | string s => some s
  | _ => none

/-- The items of a list. -/
def asList? : Node → Option (List Node)
  | list items => some items
  | _ => none

/-- The entries of a map. -/
def asMap? : Node → Option (List (String × Node))
  | map entries => some entries
  | _ => none

/-- The entry of a map under a name. -/
def get? (n : Node) (name : String) : Option Node := n.asMap?.bind (·.lookup name)

/-- The items of a list, or the node alone. -/
def elements : Node → List Node
  | list items => items
  | node => [node]

mutual

/-- A function call stands somewhere in the node. -/
def containsCall : Node → Bool
  | list items => anyContainsCall items
  | map entries => anyEntryContainsCall entries
  | call _ _ => true
  | _ => false

/-- A function call stands somewhere in a list of nodes. -/
def anyContainsCall : List Node → Bool
  | [] => false
  | item :: rest => item.containsCall || anyContainsCall rest

/-- A function call stands somewhere in the entries of a map. -/
def anyEntryContainsCall : List (String × Node) → Bool
  | [] => false
  | (_, node) :: rest => node.containsCall || anyEntryContainsCall rest

end

theorem anyContainsCall_eq (items : List Node) :
    anyContainsCall items = items.any containsCall := by
  induction items with
  | nil => rfl
  | cons item rest ih => simp [anyContainsCall, ih]

theorem anyEntryContainsCall_eq (entries : List (String × Node)) :
    anyEntryContainsCall entries = entries.any (·.2.containsCall) := by
  induction entries with
  | nil => rfl
  | cons e rest ih => simp [anyEntryContainsCall, ih]

/-! ## JSON -/

/-- The node of the entries of a map: the call that a single entry named for a function stands for,
or else a map. -/
def ofEntries : List (String × Node) → Node
  | [(name, argument)] =>
    match Intrinsic.ofName? name with
    | some function => call function argument
    | none => map [(name, argument)]
  | entries => map entries

mutual

/-- The node of a JSON value. -/
def ofJson : Json → Node
  | .null => null
  | .bool b => bool b
  | .num n => number n
  | .str s => string s
  | .arr items => list (ofJsonItems items)
  | .obj members => ofEntries (ofJsonMembers members)

/-- The nodes of the items of an array. -/
def ofJsonItems : List Json → List Node
  | [] => []
  | item :: rest => ofJson item :: ofJsonItems rest

/-- The nodes of the members of an object. -/
def ofJsonMembers : List (String × Json) → List (String × Node)
  | [] => []
  | (name, value) :: rest => (name, ofJson value) :: ofJsonMembers rest

end

mutual

/-- A node in JSON. A call becomes an object with the name of the function as its only member. -/
def toJson : Node → Json
  | null => .null
  | bool b => .bool b
  | number n => .num n
  | string s => .str s
  | date t => .str t.text
  | list items => .arr (itemsToJson items)
  | map entries => .obj (entriesToJson entries)
  | call function argument => .obj [(function.name, argument.toJson)]

/-- The items of a list in JSON. -/
def itemsToJson : List Node → List Json
  | [] => []
  | item :: rest => item.toJson :: itemsToJson rest

/-- The entries of a map in JSON. -/
def entriesToJson : List (String × Node) → List (String × Json)
  | [] => []
  | (name, node) :: rest => (name, node.toJson) :: entriesToJson rest

end

/-! ## Values -/

mutual

/-- A value as a node. Its maps stay maps, whatever the names of their entries. -/
def ofValue : Value → Node
  | .null => null
  | .bool b => bool b
  | .number n => number n
  | .string s => string s
  | .date t => date t
  | .list items => list (ofValues items)
  | .map entries => map (ofValueEntries entries)

/-- The items of a list as nodes. -/
def ofValues : List Value → List Node
  | [] => []
  | item :: rest => ofValue item :: ofValues rest

/-- The entries of a map as nodes. -/
def ofValueEntries : List (String × Value) → List (String × Node)
  | [] => []
  | (name, value) :: rest => (name, ofValue value) :: ofValueEntries rest

end

mutual

/-- The value of a node without calls. -/
def toValue? : Node → Option Value
  | null => some .null
  | bool b => some (.bool b)
  | number n => some (.number n)
  | string s => some (.string s)
  | date t => some (.date t)
  | list items => (toValues? items).map .list
  | map entries => (toValueEntries? entries).map fun entries => .map (Entries.sort entries)
  | call _ _ => none

/-- The values of nodes without calls. -/
def toValues? : List Node → Option (List Value)
  | [] => some []
  | item :: rest => do
    let item ← item.toValue?
    let rest ← toValues? rest
    return item :: rest

/-- The values of entries without calls. -/
def toValueEntries? : List (String × Node) → Option (List (String × Value))
  | [] => some []
  | (name, node) :: rest => do
    let value ← node.toValue?
    let rest ← toValueEntries? rest
    return (name, value) :: rest

end

mutual

/-- The value of a node is ordered. -/
theorem ordered_of_toValue? : ∀ {n : Node} {v : Value}, n.toValue? = some v → v.Ordered
  | null, _, h => by cases h; exact .null
  | bool b, _, h => by cases h; exact .bool b
  | number n, _, h => by cases h; exact .number n
  | string s, _, h => by cases h; exact .string s
  | date t, _, h => by cases h; exact .date t
  | list items, _, h => by
    obtain ⟨values, hvalues, rfl⟩ := Option.map_eq_some_iff.1 h
    exact .list (ordered_of_toValues? hvalues)
  | map entries, _, h => by
    obtain ⟨values, hvalues, rfl⟩ := Option.map_eq_some_iff.1 h
    exact Value.ordered_map_sort (ordered_of_toValueEntries? hvalues)
  | call _ _, _, h => nomatch h

theorem ordered_of_toValues? : ∀ {items : List Node} {values : List Value},
    toValues? items = some values → ∀ v ∈ values, v.Ordered
  | [], _, h => by cases h; simp
  | item :: rest, _, h => by
    obtain ⟨value, hvalue, h⟩ := Option.bind_eq_some_iff.1 h
    obtain ⟨values, hvalues, h⟩ := Option.bind_eq_some_iff.1 h
    cases h
    intro v hv
    rcases List.mem_cons.1 hv with rfl | hv
    · exact ordered_of_toValue? hvalue
    · exact ordered_of_toValues? hvalues v hv

theorem ordered_of_toValueEntries? :
    ∀ {entries : List (String × Node)} {values : List (String × Value)},
      toValueEntries? entries = some values → ∀ e ∈ values, e.2.Ordered
  | [], _, h => by cases h; simp
  | (name, node) :: rest, _, h => by
    obtain ⟨value, hvalue, h⟩ := Option.bind_eq_some_iff.1 h
    obtain ⟨values, hvalues, h⟩ := Option.bind_eq_some_iff.1 h
    cases h
    intro e he
    rcases List.mem_cons.1 he with rfl | he
    · exact ordered_of_toValue? hvalue
    · exact ordered_of_toValueEntries? hvalues e he

end

/-! ## Equality -/

mutual

/-- Equality of nodes. The order of the entries of a map makes no difference. -/
def equals : Node → Node → Bool
  | null, null => true
  | bool a, bool b => a == b
  | number a, number b => a.equals b
  | string a, string b => a == b
  | date a, date b => a = b
  | list a, list b => equalItems a b
  | map a, map b => a.length == b.length && entriesAmong a b
  | call f a, call g b => f = g && a.equals b
  | _, _ => false

/-- Equality of lists, item by item. -/
def equalItems : List Node → List Node → Bool
  | [], [] => true
  | a :: as, b :: bs => a.equals b && equalItems as bs
  | _, _ => false

/-- Every entry has an equal one of the same name among the others. -/
def entriesAmong : List (String × Node) → List (String × Node) → Bool
  | [], _ => true
  | (name, a) :: rest, others =>
    (match others.lookup name with
      | some b => a.equals b
      | none => false)
    && entriesAmong rest others

end

/-! ## Induction -/

/-- Induction on a node with one hypothesis for all items of a list and one for all entries of a
map. -/
@[elab_as_elim]
theorem induct {motive : Node → Prop} (null : motive .null) (bool : ∀ b, motive (.bool b))
    (number : ∀ n, motive (.number n)) (string : ∀ s, motive (.string s))
    (date : ∀ t, motive (.date t))
    (list : ∀ items, (∀ item ∈ items, motive item) → motive (.list items))
    (map : ∀ entries, (∀ e ∈ entries, motive e.2) → motive (.map entries))
    (call : ∀ function argument, motive argument → motive (.call function argument)) (n : Node) :
    motive n := by
  apply Node.rec (motive_1 := motive) (motive_2 := fun items => ∀ item ∈ items, motive item)
    (motive_3 := fun entries => ∀ e ∈ entries, motive e.2) (motive_4 := fun e => motive e.2)
    null bool number string date list map call
  · simp
  · exact fun item rest h hrest i hi => (List.mem_cons.1 hi).elim (fun e => e ▸ h) (hrest i)
  · simp
  · exact fun e rest h hrest i hi => (List.mem_cons.1 hi).elim (fun eq => eq ▸ h) (hrest i)
  · exact fun _ _ h => h

end Node

end StackAudit
