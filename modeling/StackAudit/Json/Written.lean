import StackAudit.Json.Token

/-!
# JSON texts as written

`Json.Written` is the shape of a JSON text before its numbers, quoted texts and repeated members are
given a meaning. `Written.ofText?` reads it by a machine that takes one token at a time and keeps
the arrays and objects that are still open on a stack, so nesting has no limit here.
-/

namespace StackAudit.Json

/-- A JSON text, with its literals as they are written. -/
inductive Written where
  | null
  | bool (value : Bool)
  | number (literal : NumberLiteral)
  | string (units : List TextUnit)
  | array (items : List Written)
  | object (members : List (List TextUnit × Written))

namespace Written

/-- An open array with the items before the one being read, or an open object with the members
before the one being read and the name of that one. Items and members stand in reverse order. -/
inductive Frame where
  | array (items : List Written)
  | object (members : List (List TextUnit × Written)) (name : List TextUnit)

/-- What may come next. -/
inductive Expecting where
  | value (frames : List Frame)
  | itemOrEnd (frames : List Frame)
  | nameOrEnd (frames : List Frame)
  | name (members : List (List TextUnit × Written)) (frames : List Frame)
  | colon (members : List (List TextUnit × Written)) (name : List TextUnit) (frames : List Frame)
  | commaOrEndOfArray (items : List Written) (frames : List Frame)
  | commaOrEndOfObject (members : List (List TextUnit × Written)) (frames : List Frame)
  | nothing (value : Written)

/-- A complete value goes into the innermost open array or object. -/
def complete (value : Written) : List Frame → Expecting
  | [] => .nothing value
  | .array items :: frames => .commaOrEndOfArray (value :: items) frames
  | .object members name :: frames => .commaOrEndOfObject ((name, value) :: members) frames

/-- The first token of a value. -/
def begin? (frames : List Frame) : Token → Option Expecting
  | .null => some (complete .null frames)
  | .bool b => some (complete (.bool b) frames)
  | .number literal => some (complete (.number literal) frames)
  | .string units => some (complete (.string units) frames)
  | .openArray => some (.itemOrEnd frames)
  | .openObject => some (.nameOrEnd frames)
  | _ => none

/-- Takes one token. -/
def step? : Expecting → Token → Option Expecting
  | .value frames, token => begin? frames token
  | .itemOrEnd frames, .closeArray => some (complete (.array []) frames)
  | .itemOrEnd frames, token => begin? (.array [] :: frames) token
  | .nameOrEnd frames, .closeObject => some (complete (.object []) frames)
  | .nameOrEnd frames, .string name => some (.colon [] name frames)
  | .name members frames, .string name => some (.colon members name frames)
  | .colon members name frames, .colon => some (.value (.object members name :: frames))
  | .commaOrEndOfArray items frames, .comma => some (.value (.array items :: frames))
  | .commaOrEndOfArray items frames, .closeArray =>
    some (complete (.array items.reverse) frames)
  | .commaOrEndOfObject members frames, .comma => some (.name members frames)
  | .commaOrEndOfObject members frames, .closeObject =>
    some (complete (.object members.reverse) frames)
  | _, _ => none

/-- The value that a row of tokens makes, unless it makes none or more than one. -/
def ofTokens? (tokens : List Token) : Option Written :=
  match tokens.foldlM step? (.value []) with
  | some (.nothing value) => some value
  | _ => none

/-- Reads a JSON text. -/
def ofText? (text : String) : Option Written := Token.scan? text >>= ofTokens?

end Written

end StackAudit.Json
