import StackAudit.Error
import StackAudit.Text.CaseFolding

/-!
# Wildcard patterns

In a wildcard pattern `*` stands for any run of characters, also an empty one, `?` for exactly one
character, and every other character for itself in either case. A text matches if the whole of it
can be cut into consecutive pieces, one for each character of the pattern in order.

`Wildcard.accepts` decides this by following all cuts at once: it keeps the list of the rests of the
text that may be left after the pieces so far. Every rest is a suffix of the text, so there are
never more rests than characters.
-/

namespace StackAudit

namespace Wildcard

/-- One character of a pattern. -/
inductive Piece where
  /-- Any run of characters. -/
  | run
  /-- Any one character. -/
  | one
  /-- One character that folds to the given one. -/
  | letter (folded : Char)
  deriving DecidableEq

/-- The piece of a character of a pattern. -/
def Piece.ofChar (c : Char) : Piece :=
  if c = '*' then .run else if c = '?' then .one else .letter (Text.foldChar c)

/-- A text holds `*` or `?`. -/
def occursIn (s : String) : Bool := s.toList.any fun c => c = '*' || c = '?'

/-- The most wildcard characters that a usable pattern may hold. What is limited is the size of the
regular expression that a pattern is compiled to, to ten mebibytes, and that size is not computed
here: a `*` takes up about 1000 bytes of it and a `?` about 960, so between 10400 and 10900 wildcard
characters fill it. The count stands for the size, as an estimate. -/
def limit : Nat := 10800

/-- The error of a pattern with too many wildcard characters. -/
def tooLarge : Error := .invalidPattern "Compiled regex exceeds size limit of 10485760 bytes."

/-- All ends of a text, the longest first and the empty one last. -/
def suffixes : List Char → List (List Char)
  | [] => [[]]
  | c :: rest => (c :: rest) :: suffixes rest

/-- The rests that a piece can leave, given the rests that the pieces before it can leave, the
longest first. A run leaves all ends of the longest rest, since the other rests are ends of it. -/
def Piece.advance : Piece → List (List Char) → List (List Char)
  | .run, [] => []
  | .run, longest :: _ => suffixes longest
  | .one, rests => rests.filterMap List.tail?
  | .letter folded, rests => rests.filterMap fun
    | [] => none
    | c :: rest => if Text.foldChar c = folded then some rest else none

end Wildcard

/-- A wildcard pattern: the pieces of its characters. -/
structure Wildcard where
  pieces : List Wildcard.Piece

namespace Wildcard

/-- The pattern of a text. A text with too many wildcard characters is no pattern. -/
def ofText (s : String) : Except Error Wildcard :=
  let pieces := s.toList.map Piece.ofChar
  if limit < pieces.countP (fun p => p = .run || p = .one) then .error tooLarge
  else .ok ⟨pieces⟩

/-- A text as a whole matches the pattern. -/
def accepts (w : Wildcard) (text : String) : Bool :=
  (w.pieces.foldl (fun rests piece => piece.advance rests) [text.toList]).any List.isEmpty

end Wildcard

end StackAudit
