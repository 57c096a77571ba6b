import StackAudit.Error
import StackAudit.Text.CaseFolding
import StackAudit.Text.DigitTable
import StackAudit.Text.Integer

/-!
# Search patterns

A search pattern is a regular expression: literal characters, `.`, classes in brackets, `\d`, groups
with alternatives, repetition and the anchors `^` and `$`. It is found in a text if some part of the
text matches it. `SearchOptions` say whether case matters and whether `.` stands for the end of a
line too.

`SearchPattern.ends` follows all ways to match at once. A place in the text is given by the number
of characters before it, and `ends` takes the places where a match may begin to those where it may
end.
-/

namespace StackAudit

/-- How a search pattern is matched. -/
structure SearchOptions where
  /-- A character stands for all characters with the same simple case folding. -/
  ignoreCase : Bool := false
  /-- `.` stands for the end of a line too. -/
  dotMatchesLineEnd : Bool := false

/-- A set of characters. -/
inductive CharClass where
  | only (c : Char)
  | range (first last : Char)
  /-- The decimal digits of all scripts. -/
  | digit
  /-- Everything, or everything but the end of a line. -/
  | dot
  /-- The characters in one of the classes, or in none of them. -/
  | oneOf (negated : Bool) (classes : List CharClass)

namespace CharClass

/-- A character folds to the same as one in a range of characters. -/
def foldsIntoRange (c first last : Char) : Bool :=
  (List.range' first.toNat (last.toNat + 1 - first.toNat)).any fun n =>
    n.isValidChar && Text.foldChar (Char.ofNat n) = Text.foldChar c

mutual

/-- A character is in the set. -/
def contains (options : SearchOptions) (c : Char) : CharClass → Bool
  | only d => if options.ignoreCase then Text.foldChar c = Text.foldChar d else c = d
  | range first last =>
    if options.ignoreCase then foldsIntoRange c first last else first ≤ c && c ≤ last
  | digit => Text.isDecimalDigit c
  | dot => options.dotMatchesLineEnd || c ≠ '\n'
  | oneOf negated classes => containsAny options c classes != negated

/-- A character is in one of the sets. -/
def containsAny (options : SearchOptions) (c : Char) : List CharClass → Bool
  | [] => false
  | first :: rest => first.contains options c || containsAny options c rest

end

end CharClass

/-- A regular expression. -/
inductive SearchPattern where
  | empty
  | textStart
  | textEnd
  | one (set : CharClass)
  | sequence (first second : SearchPattern)
  | either (first second : SearchPattern)
  /-- At least so many times, and at most so many times if there is a bound. -/
  | repeated (pattern : SearchPattern) (least : Nat) (most : Option Nat)

namespace SearchPattern

/-! ## Matching -/

/-- The places of two ascending lists, each once. -/
def merge : List Nat → List Nat → List Nat
  | [], more => more
  | places, [] => places
  | i :: places, j :: more =>
    if i < j then i :: merge places (j :: more)
    else if j < i then j :: merge (i :: places) more
    else i :: merge places more
termination_by places more => places.length + more.length

/-- Adds the places where a step leads, in so many rounds or until there are no more of them. -/
def reach (step : List Nat → List Nat) : Nat → List Nat → List Nat
  | 0, reached => reached
  | rounds + 1, reached =>
    let more := merge reached (step reached)
    if more = reached then reached else reach step rounds more

/-- The places of a text where a match can end that begins at one of the given places. An unbounded
repetition is complete after as many rounds as there are characters. -/
def ends (options : SearchOptions) (text : Array Char) : SearchPattern → List Nat → List Nat
  | .empty, starts => starts
  | .textStart, starts => starts.filter (· = 0)
  | .textEnd, starts => starts.filter (· = text.size)
  | .one set, starts => starts.filterMap fun i =>
    (text[i]?).bind fun c => if set.contains options c then some (i + 1) else none
  | .sequence first second, starts => second.ends options text (first.ends options text starts)
  | .either first second, starts =>
    merge (first.ends options text starts) (second.ends options text starts)
  | .repeated pattern least most, starts =>
    let rounds := (most.getD (least + text.size)) - least
    reach (pattern.ends options text) rounds (Nat.repeat (pattern.ends options text) least starts)

/-- The pattern is found in a text. -/
def foundIn (p : SearchPattern) (options : SearchOptions) (text : String) : Bool :=
  let text := text.toList.toArray
  !(p.ends options text (List.range (text.size + 1))).isEmpty

/-! ## Reading -/

/-- An open group: the alternatives before the current one, and the parts of the current one, last
part first. -/
structure Group where
  alternatives : Option SearchPattern
  parts : List SearchPattern

/-- The parts of an alternative in order. -/
def ofParts (parts : List SearchPattern) : SearchPattern :=
  parts.foldl (fun rest part => .sequence part rest) .empty

/-- The alternatives of a group with the current one as the last. -/
def Group.close (g : Group) : SearchPattern :=
  match g.alternatives with
  | none => ofParts g.parts
  | some before => .either before (ofParts g.parts)

/-- What the characters read so far leave unfinished; collected characters are in reverse order. -/
inductive Unfinished where
  | nothing
  /-- A repetition has just been read; a question mark after it makes no difference. -/
  | repetition
  | escape
  | brackets (escaped : Bool) (content : List Char)
  | count (content : List Char)

/-- The state of reading: the innermost open group, the groups around it, and what is unfinished. -/
structure Reading where
  group : Group
  around : List Group
  unfinished : Unfinished

/-- The set of a character after a backslash. -/
def ofEscape? (c : Char) : Option CharClass :=
  if c = 'd' then some .digit
  else if c = 'n' then some (.only '\n')
  else if c = 'r' then some (.only '\r')
  else if c = 't' then some (.only '\t')
  else if c.isAlphanum || c.toNat < 0x21 || 0x7E < c.toNat then none
  else some (.only c)

/-- The sets between brackets: escapes, ranges and single characters. -/
def classesOf? : List Char → Option (List CharClass)
  | [] => some []
  | '\\' :: c :: rest => do return (← ofEscape? c) :: (← classesOf? rest)
  | first :: '-' :: last :: rest =>
    if last < first then none else do return .range first last :: (← classesOf? rest)
  | c :: rest => do return .only c :: (← classesOf? rest)

/-- The set in brackets. -/
def ofBrackets? (content : List Char) : Option CharClass :=
  match content with
  | '^' :: rest => (classesOf? rest).map (.oneOf true)
  | rest => (classesOf? rest).map (.oneOf false)

/-- The bounds in braces: one number, a number and a comma, or two numbers. -/
def ofCount? (content : List Char) : Option (Nat × Option Nat) := do
  match content.splitOn ',' with
  | [n] => let n ← Text.natural? n; return (n, some n)
  | [least, []] => return (← Text.natural? least, none)
  | [least, most] =>
    let least ← Text.natural? least
    let most ← Text.natural? most
    guard (least ≤ most)
    return (least, some most)
  | _ => none

/-- Adds a part to the current alternative. -/
def Reading.push (state : Reading) (part : SearchPattern) : Reading :=
  { state with
    group := { state.group with parts := part :: state.group.parts }, unfinished := .nothing }

/-- Repeats the part read last; there must be one. -/
def Reading.repeatLast? (state : Reading) (least : Nat) (most : Option Nat) : Option Reading :=
  match state.group.parts with
  | [] => none
  | last :: before => some { state with
      group := { state.group with parts := .repeated last least most :: before }
      unfinished := .repetition }

/-- Reads a character outside of brackets, braces and escapes. -/
def start? (state : Reading) (c : Char) : Option Reading :=
  match c with
  | '(' => some ⟨⟨none, []⟩, state.group :: state.around, .nothing⟩
  | ')' =>
    match state.around with
    | [] => none
    | outer :: around => some (Reading.push ⟨outer, around, .nothing⟩ state.group.close)
  | '|' => some { state with group := ⟨some state.group.close, []⟩, unfinished := .nothing }
  | '*' => state.repeatLast? 0 none
  | '+' => state.repeatLast? 1 none
  | '?' => state.repeatLast? 0 (some 1)
  | '[' => some { state with unfinished := .brackets false [] }
  | '\x7b' => some { state with unfinished := .count [] }
  | '\\' => some { state with unfinished := .escape }
  | '.' => some (state.push (.one .dot))
  | '^' => some (state.push .textStart)
  | '$' => some (state.push .textEnd)
  | c => some (state.push (.one (.only c)))

/-- Reads one character. -/
def step? (state : Reading) (c : Char) : Option Reading :=
  match state.unfinished with
  | .nothing => start? state c
  | .repetition => if c = '?' then some { state with unfinished := .nothing } else start? state c
  | .escape => (ofEscape? c).map fun set => state.push (.one set)
  | .brackets true content => some { state with unfinished := .brackets false (c :: content) }
  | .brackets false content =>
    if c = '\\' then some { state with unfinished := .brackets true (c :: content) }
    else if c = ']' ∧ content ≠ [] ∧ content ≠ ['^'] then
      (ofBrackets? content.reverse).map fun set => state.push (.one set)
    else some { state with unfinished := .brackets false (c :: content) }
  | .count content =>
    if c = '\x7d' then (ofCount? content.reverse).bind fun (least, most) =>
      state.repeatLast? least most
    else some { state with unfinished := .count (c :: content) }

/-- The pattern that has been read, if all groups, brackets and braces are closed. -/
def finish? (state : Reading) : Option SearchPattern :=
  match state.around, state.unfinished with
  | [], .nothing | [], .repetition => some state.group.close
  | _, _ => none

/-- The pattern of a text. -/
def ofText (s : String) : Except Error SearchPattern :=
  match s.toList.foldlM step? ⟨⟨none, []⟩, [], .nothing⟩ >>= finish? with
  | some pattern => .ok pattern
  | none => .error (.invalidPattern "the text is not a regular expression")

end SearchPattern

end StackAudit
