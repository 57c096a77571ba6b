import StackAudit.Pattern.Search
import StackAudit.Pattern.Wildcard
import StackAudit.Text.Replacing

/-!
# Wildcard patterns as regular expressions

A wildcard pattern can be written as a regular expression. All characters with a meaning of their
own in regular expressions are escaped, the escaped `*` and `?` are then replaced by `.*` and `.`,
and anchors make the whole text match. Case makes no difference, and `.` stands for every character.
-/

namespace StackAudit

/-- The characters that stand for themselves in a search pattern only after a backslash, and those
that may have one. -/
def SearchPattern.isSpecial (c : Char) : Bool :=
  ['\\', '.', '+', '*', '?', '(', ')', '|', '[', ']', '\x7b', '\x7d', '^', '$', '#', '&', '-',
    '~'].contains c

/-- A character with a backslash in front of it if it is special. -/
def SearchPattern.escapeChar (c : Char) : List Char := if isSpecial c then ['\\', c] else [c]

/-- The text of a search pattern for a text itself. -/
def SearchPattern.escape (text : List Char) : List Char := text.flatMap escapeChar

namespace Wildcard

/-- The text of the regular expression of a wildcard pattern. -/
def searchText (s : String) : String :=
  let escaped := SearchPattern.escape s.toList
  let body := Text.replace ['\\', '?'] ['.'] (Text.replace ['\\', '*'] ['.', '*'] escaped)
  String.ofList ('^' :: body ++ ['$'])

/-- The way the regular expressions of wildcard patterns are matched. -/
def searchOptions : SearchOptions := { ignoreCase := true, dotMatchesLineEnd := true }

/-- The regular expression of a wildcard pattern. A text with too many wildcard characters has none.
-/
def searchPattern (s : String) : Except Error SearchPattern :=
  if limit < s.toList.countP (fun c => c = '*' || c = '?') then .error tooLarge
  else SearchPattern.ofText (searchText s)

end Wildcard

end StackAudit
