/-!
# Splitting texts

`split` cuts a text at every occurrence of a delimiter, from left to right and without overlaps. A
text is what its parts make up with the delimiter between them.
-/

namespace StackAudit.Text

/-- Puts a character in front of the first part. -/
def consFirst (c : Char) : List (List Char) → List (List Char)
  | [] => [[c]]
  | part :: rest => (c :: part) :: rest

/-- The parts of a text between the occurrences of the delimiter `d :: ds`. -/
def splitAt (d : Char) (ds : List Char) : List Char → List (List Char)
  | [] => [[]]
  | c :: rest =>
    if (d :: ds).isPrefixOf (c :: rest) then [] :: splitAt d ds (rest.drop ds.length)
    else consFirst c (splitAt d ds rest)
termination_by text => text.length
decreasing_by all_goals simp; try omega

/-- The parts of a text between the occurrences of a delimiter; an empty delimiter occurs nowhere.
-/
def split (delimiter text : String) : List String :=
  match delimiter.toList with
  | [] => [text]
  | d :: ds => (splitAt d ds text.toList).map String.ofList

end StackAudit.Text
