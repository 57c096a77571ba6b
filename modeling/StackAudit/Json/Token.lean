import StackAudit.Json.Number

/-!
# Tokens of JSON texts

A JSON text is cut into tokens by an automaton that reads one character at a time. Texts between
quotes are kept as the units they are written in, because a unit of sixteen bits written as an
escape need not be a character of its own.
-/

namespace StackAudit.Json

/-- One unit of a quoted text: a character, or an escaped number of sixteen bits. -/
inductive TextUnit where
  | char (c : Char)
  | escaped (n : Nat)

/-- The characters that units stand for. An escaped leading surrogate needs an escaped trailing one
right after it, and a trailing one cannot stand alone. -/
def decodeUnits? : List TextUnit → Option (List Char)
  | [] => some []
  | .char c :: rest => (decodeUnits? rest).map (c :: ·)
  | .escaped n :: rest =>
    if n < 0xD800 ∨ 0xE000 ≤ n then (decodeUnits? rest).map (Char.ofNat n :: ·)
    else match rest with
      | .escaped m :: rest =>
        if n < 0xDC00 ∧ 0xDC00 ≤ m ∧ m < 0xE000 then
          (decodeUnits? rest).map
            (Char.ofNat (0x10000 + (n - 0xD800) * 0x400 + (m - 0xDC00)) :: ·)
        else none
      | _ => none

/-- A token of a JSON text. -/
inductive Token where
  | openArray
  | closeArray
  | openObject
  | closeObject
  | comma
  | colon
  | null
  | bool (value : Bool)
  | number (literal : NumberLiteral)
  | string (units : List TextUnit)

namespace Token

/-- What the characters read so far leave unfinished; collected characters and units stand in
reverse order. -/
inductive Unfinished where
  | nothing
  | word (letters : List Char)
  | number (characters : List Char)
  | string (units : List TextUnit)
  | escape (units : List TextUnit)
  | hex (units : List TextUnit) (digitsLeft value : Nat)

/-- The state of the automaton: the finished tokens, last one first, and what is unfinished. -/
structure Reading where
  tokens : List Token
  unfinished : Unfinished

/-- The words of JSON. -/
def ofWord? : String → Option Token
  | "null" => some .null
  | "true" => some (.bool true)
  | "false" => some (.bool false)
  | _ => none

/-- The tokens of one character. -/
def ofMark? : Char → Option Token
  | '[' => some .openArray
  | ']' => some .closeArray
  | '{' => some .openObject
  | '}' => some .closeObject
  | ',' => some .comma
  | ':' => some .colon
  | _ => none

/-- The four characters that may stand between tokens. -/
def isGap (c : Char) : Bool := c = ' ' || c = '\t' || c = '\n' || c = '\r'

/-- The characters that numbers are made of. -/
def isNumeric (c : Char) : Bool := c.isDigit || c = '-' || c = '+' || c = '.' || c = 'e' || c = 'E'

/-- The character that a letter after a backslash stands for. -/
def ofEscape? : Char → Option Char
  | '"' => some '"'
  | '\\' => some '\\'
  | '/' => some '/'
  | 'b' => some '\x08'
  | 'f' => some '\x0c'
  | 'n' => some '\n'
  | 'r' => some '\r'
  | 't' => some '\t'
  | _ => none

/-- Ends an unfinished word or number. -/
def finish? (state : Reading) : Option (List Token) :=
  match state.unfinished with
  | .nothing => some state.tokens
  | .word letters => (ofWord? (String.ofList letters.reverse)).map (· :: state.tokens)
  | .number characters =>
    (NumberLiteral.ofChars? characters.reverse).map (.number · :: state.tokens)
  | _ => none

/-- Reads a character outside of words, numbers and quoted texts. -/
def start? (tokens : List Token) (c : Char) : Option Reading :=
  if isGap c then some ⟨tokens, .nothing⟩
  else if c = '"' then some ⟨tokens, .string []⟩
  else if c.isDigit || c = '-' then some ⟨tokens, .number [c]⟩
  else if c.isAlpha then some ⟨tokens, .word [c]⟩
  else (ofMark? c).map fun token => ⟨token :: tokens, .nothing⟩

/-- Reads one character. -/
def step? (state : Reading) (c : Char) : Option Reading :=
  match state.unfinished with
  | .nothing => start? state.tokens c
  | .word letters =>
    if c.isAlpha then some { state with unfinished := .word (c :: letters) }
    else (finish? state).bind (start? · c)
  | .number characters =>
    if isNumeric c then some { state with unfinished := .number (c :: characters) }
    else (finish? state).bind (start? · c)
  | .string units =>
    if c = '"' then some ⟨.string units.reverse :: state.tokens, .nothing⟩
    else if c = '\\' then some { state with unfinished := .escape units }
    else if c.toNat < 0x20 then none
    else some { state with unfinished := .string (.char c :: units) }
  | .escape units =>
    if c = 'u' then some { state with unfinished := .hex units 4 0 }
    else (ofEscape? c).map fun e => { state with unfinished := .string (.char e :: units) }
  | .hex units digitsLeft value =>
    (Text.hexDigit? c).map fun digit =>
      let value := 16 * value + digit
      { state with
        unfinished :=
          if digitsLeft ≤ 1 then .string (.escaped value :: units)
          else .hex units (digitsLeft - 1) value }

/-- The tokens of a text, unless some part of it is no token. -/
def scan? (text : String) : Option (List Token) := do
  let state ← text.toList.foldlM step? ⟨[], .nothing⟩
  let tokens ← finish? state
  return tokens.reverse

end Token

end StackAudit.Json
