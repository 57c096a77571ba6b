import StackAudit.Json

/-!
# Records and variants in JSON texts

A record with fixed fields is written as an object or as an array of the fields in order. A variant
is written as its name, or as an object whose only member has that name. Members that a record does
not know are passed over, whatever they hold, so these readers work on texts as written.
-/

namespace StackAudit.Json.Written

/-- A quoted text. -/
def text? : Written → Option String
  | .string units => decodeText? units
  | _ => none

/-- `true` or `false`. -/
def truth? : Written → Option Bool
  | .bool b => some b
  | _ => none

/-- An array of quoted texts. -/
def texts? : Written → Option (List String)
  | .array items => items.mapM text?
  | _ => none

/-- The members of an object with their names decoded. -/
def members? : Written → Option (List (String × Written))
  | .object members => members.mapM fun (name, value) => (decodeText? name).map (·, value)
  | _ => none

/-- The only value of a name among members; two values are too many. -/
def field? (members : List (String × Written)) (name : String) : Option (Option Written) :=
  match members.filter (·.1 = name) with
  | [] => some none
  | [(_, value)] => some (some value)
  | _ => none

/-- The fields of a record, in the order of their names; a field may be absent. An object must not
repeat a field, and an array must not be longer than the record. -/
def fields? (names : List String) : Written → Option (List (Option Written))
  | .array items =>
    if items.length ≤ names.length then
      some (items.map some ++ List.replicate (names.length - items.length) none)
    else none
  | written => do
    let members ← written.members?
    names.mapM (field? members)

/-- A variant: its name, and its content if it is written as an object. -/
def variant? (written : Written) : Option (String × Option Written) :=
  match written with
  | .object [(name, content)] => (decodeText? name).map (·, some content)
  | written => written.text?.map (·, none)

/-- The name of a variant without content: nothing or `null` may stand for it. -/
def unitVariant? (written : Written) : Option String :=
  match written.variant? with
  | some (name, none) | some (name, some .null) => some name
  | _ => none

end StackAudit.Json.Written
