/-!
# Replacing in texts

`replace` puts a text in the place of every occurrence of another one, from left to right and
without overlaps.
-/

namespace StackAudit.Text

/-- Puts `new` in the place of every occurrence of `d :: ds`, once so many characters have been
passed over. -/
def replaceFrom (d : Char) (ds new : List Char) : Nat → List Char → List Char
  | _, [] => []
  | passing + 1, _ :: rest => replaceFrom d ds new passing rest
  | 0, c :: rest =>
    if (d :: ds).isPrefixOf (c :: rest) then new ++ replaceFrom d ds new ds.length rest
    else c :: replaceFrom d ds new 0 rest

/-- A text with `new` in the place of every occurrence of `old`; an empty text occurs nowhere. -/
def replace (old new text : List Char) : List Char :=
  match old with
  | [] => text
  | d :: ds => replaceFrom d ds new 0 text

end StackAudit.Text
