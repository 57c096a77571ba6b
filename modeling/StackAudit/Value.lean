import StackAudit.Binary64.Decimal
import StackAudit.Instant.Reader
import StackAudit.Instant.Text
import StackAudit.Json

/-!
# Values

A value is data without function calls. The entries of its maps are in ascending order of names
(`Value.Ordered`), whichever way the value came about. Numbers, booleans and dates can be written as
strings too, so a value has several readings: as a boolean, a number, an integer or an instant, and
as the text that stands for it wherever a text is needed.
-/

namespace StackAudit

/-- Data without function calls. -/
inductive Value where
  | null
  | bool (b : Bool)
  | number (n : Numeral)
  | string (s : String)
  | date (t : Instant)
  | list (items : List Value)
  | map (entries : List (String × Value))

instance : Inhabited Value := ⟨.null⟩

namespace Value

/-- The text that marks a list element or map entry as absent. -/
def noValueText : String := "AWS::NoValue"

/-- The absent value. -/
def noValue : Value := .string noValueText

/-- Nothing. -/
def isNull : Value → Bool
  | null => true
  | _ => false

/-- The mark of an absent value. -/
def isNoValue : Value → Bool
  | string s => s == noValueText
  | _ => false

/-- The characters of a string. -/
def asString? : Value → Option String
  | string s => some s
  | _ => none

/-- The items of a list. -/
def asList? : Value → Option (List Value)
  | list items => some items
  | _ => none

/-- The entries of a map. -/
def asMap? : Value → Option (List (String × Value))
  | map entries => some entries
  | _ => none

/-- The items of a list, or the value alone. -/
def elements : Value → List Value
  | list items => items
  | value => [value]

/-! ## JSON -/

mutual

/-- The value of a JSON value. -/
def ofJson : Json → Value
  | .null => null
  | .bool b => bool b
  | .num n => number n
  | .str s => string s
  | .arr items => list (ofJsonItems items)
  | .obj members => map (Entries.sort (ofJsonMembers members))

/-- The values of the items of an array. -/
def ofJsonItems : List Json → List Value
  | [] => []
  | item :: rest => ofJson item :: ofJsonItems rest

/-- The values of the members of an object, in their order. -/
def ofJsonMembers : List (String × Json) → List (String × Value)
  | [] => []
  | (name, value) :: rest => (name, ofJson value) :: ofJsonMembers rest

end

mutual

/-- A value in JSON. A date becomes its text. -/
def toJson : Value → Json
  | null => .null
  | bool b => .bool b
  | number n => .num n
  | string s => .str s
  | date t => .str t.text
  | list items => .arr (itemsToJson items)
  | map entries => .obj (entriesToJson entries)

/-- The items of a list in JSON. -/
def itemsToJson : List Value → List Json
  | [] => []
  | item :: rest => item.toJson :: itemsToJson rest

/-- The entries of a map in JSON. -/
def entriesToJson : List (String × Value) → List (String × Json)
  | [] => []
  | (name, value) :: rest => (name, value.toJson) :: entriesToJson rest

end

/-! ## Texts -/

mutual

/-- The text of a value: nothing for null, the items of a list between commas, a map in JSON. -/
def text : Value → String
  | null => ""
  | bool true => "true"
  | bool false => "false"
  | number n => n.text
  | string s => s
  | date t => t.text
  | list items => ",".intercalate (itemTexts items)
  | map entries => (Json.obj (entriesToJson entries)).render

/-- The texts of the items of a list. -/
def itemTexts : List Value → List String
  | [] => []
  | item :: rest => item.text :: itemTexts rest

end

mutual

/-- The same value with the text of every scalar in its place. -/
def canonical : Value → Value
  | list items => list (canonicalItems items)
  | map entries => map (canonicalEntries entries)
  | value => string value.text

/-- The canonical forms of the items of a list. -/
def canonicalItems : List Value → List Value
  | [] => []
  | item :: rest => item.canonical :: canonicalItems rest

/-- The canonical forms of the entries of a map. -/
def canonicalEntries : List (String × Value) → List (String × Value)
  | [] => []
  | (name, value) :: rest => (name, value.canonical) :: canonicalEntries rest

end

/-! ## Readings -/

/-- A boolean, or one of the words `true` and `false` in any case. -/
def asBool? : Value → Option Bool
  | bool b => some b
  | string s =>
    match s.toLower with
    | "true" => some true
    | "false" => some false
    | _ => none
  | _ => none

/-- The nearest binary64 number to a number, or to the number that a string spells. -/
def asBinary64? : Value → Option Binary64
  | number n => some n.toBinary64
  | string s => Binary64.ofText? (Text.trimBlanks s.toList)
  | _ => none

/-- An integer of sixty-four bits, or the string that spells one. -/
def asInt64? : Value → Option Int
  | number n => n.toInt64?
  | string s => Text.int64? (Text.trimBlanks s.toList)
  | _ => none

/-- A date, an integer as a count of seconds, or a string that spells an instant. -/
def asInstant? : Value → Option Instant
  | date t => some t
  | number n => n.toInt64?.bind (Instant.ofParts? · 0)
  | string s => Instant.ofText? s
  | _ => none

/-- What counts as true for the boolean functions: everything but null, `false`, zero, the empty
string, the word `false` in any case, the empty list and the empty map. -/
def truthy : Value → Bool
  | null => false
  | bool b => b
  | number n => !n.toBinary64.isZero
  | string s => s ≠ "" && s.toLower ≠ "false"
  | date _ => true
  | list items => !items.isEmpty
  | map entries => !entries.isEmpty

/-! ## Equality -/

mutual

/-- Equality of values. Only numbers have an equality of their own. -/
def equals : Value → Value → Bool
  | null, null => true
  | bool a, bool b => a == b
  | number a, number b => a.equals b
  | string a, string b => a == b
  | date a, date b => a = b
  | list a, list b => equalItems a b
  | map a, map b => equalEntries a b
  | _, _ => false

/-- Equality of lists, item by item. -/
def equalItems : List Value → List Value → Bool
  | [], [] => true
  | a :: as, b :: bs => a.equals b && equalItems as bs
  | _, _ => false

/-- Equality of entries in ascending order. -/
def equalEntries : List (String × Value) → List (String × Value) → Bool
  | [], [] => true
  | (m, a) :: as, (n, b) :: bs => m == n && a.equals b && equalEntries as bs
  | _, _ => false

end

/-! ## Induction -/

/-- Induction on a value with one hypothesis for all items of a list and one for all entries of a
map. -/
@[elab_as_elim]
theorem induct {motive : Value → Prop} (null : motive .null) (bool : ∀ b, motive (.bool b))
    (number : ∀ n, motive (.number n)) (string : ∀ s, motive (.string s))
    (date : ∀ t, motive (.date t))
    (list : ∀ items, (∀ item ∈ items, motive item) → motive (.list items))
    (map : ∀ entries, (∀ e ∈ entries, motive e.2) → motive (.map entries)) (v : Value) :
    motive v := by
  apply Value.rec (motive_1 := motive) (motive_2 := fun items => ∀ item ∈ items, motive item)
    (motive_3 := fun entries => ∀ e ∈ entries, motive e.2) (motive_4 := fun e => motive e.2)
    null bool number string date list map
  · simp
  · exact fun item rest h hrest i hi => (List.mem_cons.1 hi).elim (fun e => e ▸ h) (hrest i)
  · simp
  · exact fun e rest h hrest i hi => (List.mem_cons.1 hi).elim (fun eq => eq ▸ h) (hrest i)
  · exact fun _ _ h => h

/-! ## Order of entries -/

/-- The entries of all maps within a value are in ascending order of names. -/
inductive Ordered : Value → Prop where
  | null : Ordered .null
  | bool (b : Bool) : Ordered (.bool b)
  | number (n : Numeral) : Ordered (.number n)
  | string (s : String) : Ordered (.string s)
  | date (t : Instant) : Ordered (.date t)
  | list {items : List Value} : (∀ item ∈ items, item.Ordered) → Ordered (.list items)
  | map {entries : List (String × Value)} : Entries.Ascending entries →
      (∀ e ∈ entries, e.2.Ordered) → Ordered (.map entries)

/-- Sorting the entries of a map brings them in order. -/
theorem ordered_map_sort {entries : List (String × Value)} (h : ∀ e ∈ entries, e.2.Ordered) :
    (map (Entries.sort entries)).Ordered :=
  .map (Entries.ascending_sort entries) fun e he => h e (Entries.mem_of_mem_sort he)

mutual

/-- The value of a JSON value is ordered. -/
theorem ordered_ofJson : ∀ json : Json, (ofJson json).Ordered
  | .null => .null
  | .bool b => .bool b
  | .num n => .number n
  | .str s => .string s
  | .arr items => .list (ordered_ofJsonItems items)
  | .obj members => ordered_map_sort (ordered_ofJsonMembers members)

theorem ordered_ofJsonItems : ∀ items : List Json, ∀ v ∈ ofJsonItems items, v.Ordered
  | [], _, h => nomatch h
  | item :: rest, v, h => by
    rcases List.mem_cons.1 h with rfl | h
    · exact ordered_ofJson item
    · exact ordered_ofJsonItems rest v h

theorem ordered_ofJsonMembers :
    ∀ members : List (String × Json), ∀ e ∈ ofJsonMembers members, e.2.Ordered
  | [], _, h => nomatch h
  | (_, value) :: rest, e, h => by
    rcases List.mem_cons.1 h with rfl | h
    · exact ordered_ofJson value
    · exact ordered_ofJsonMembers rest e h

end

end Value

end StackAudit
