import StackAudit.Entries
import StackAudit.Json.Written

/-!
# JSON values

A `Json` value keeps the members of its objects in order. `Json.ofText?` reads one from a text:
quoted texts must be well formed, numbers must be finite, at most 127 arrays and objects may be open
at once, and a repeated member keeps its first place and takes its last value. `Json.render` writes
a value without blanks.
-/

namespace StackAudit

/-- A JSON value. -/
inductive Json where
  | null
  | bool (value : Bool)
  | num (value : Numeral)
  | str (value : String)
  | arr (items : List Json)
  | obj (members : List (String × Json))

instance : Inhabited Json := ⟨.null⟩

namespace Json

/-! ## Reading -/

/-- The most arrays and objects that may be open at once. -/
def depthLimit : Nat := 127

/-- A quoted text as a string. -/
def decodeText? (units : List TextUnit) : Option String := (decodeUnits? units).map String.ofList

mutual

/-- The value of a text as written, inside of `depth` open arrays and objects. -/
def ofWritten? (depth : Nat) : Written → Option Json
  | .null => some .null
  | .bool b => some (.bool b)
  | .number literal => literal.toNumeral?.map .num
  | .string units => (decodeText? units).map .str
  | .array items =>
    if depth < depthLimit then (ofWrittenItems? (depth + 1) items).map .arr else none
  | .object members =>
    if depth < depthLimit then
      (ofWrittenMembers? (depth + 1) members).map fun members => .obj (Entries.merge members)
    else none

/-- The values of the items of an array. -/
def ofWrittenItems? (depth : Nat) : List Written → Option (List Json)
  | [] => some []
  | item :: rest => do
    let item ← ofWritten? depth item
    let rest ← ofWrittenItems? depth rest
    return item :: rest

/-- The names and values of the members of an object, repeated ones included. -/
def ofWrittenMembers? (depth : Nat) : List (List TextUnit × Written) →
    Option (List (String × Json))
  | [] => some []
  | (name, value) :: rest => do
    let name ← decodeText? name
    let value ← ofWritten? depth value
    let rest ← ofWrittenMembers? depth rest
    return (name, value) :: rest

end

/-- Reads a JSON text. -/
def ofText? (text : String) : Option Json := Written.ofText? text >>= ofWritten? 0

/-! ## Writing -/

/-- A character of a quoted text: quotes, backslashes and control characters are escaped. -/
def renderChar (c : Char) : String :=
  match c with
  | '"' => "\\\""
  | '\\' => "\\\\"
  | '\x08' => "\\b"
  | '\x0c' => "\\f"
  | '\n' => "\\n"
  | '\r' => "\\r"
  | '\t' => "\\t"
  | c => if c.toNat < 0x20 then "\\u" ++ Text.hexText 4 c.toNat else c.toString

/-- A string between quotes. -/
def renderString (s : String) : String :=
  s.toList.foldl (fun text c => text ++ renderChar c) "\"" ++ "\""

mutual

/-- The text of a value, without blanks. -/
def render : Json → String
  | .null => "null"
  | .bool true => "true"
  | .bool false => "false"
  | .num n => n.text
  | .str s => renderString s
  | .arr items => "[" ++ ",".intercalate (renderItems items) ++ "]"
  | .obj members => "\x7b" ++ ",".intercalate (renderMembers members) ++ "\x7d"

/-- The texts of the items of an array. -/
def renderItems : List Json → List String
  | [] => []
  | item :: rest => item.render :: renderItems rest

/-- The texts of the members of an object. -/
def renderMembers : List (String × Json) → List String
  | [] => []
  | (name, value) :: rest => (renderString name ++ ":" ++ value.render) :: renderMembers rest

end

end Json

end StackAudit
