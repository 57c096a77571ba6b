import StackAudit.Table
import StackAudit.Value

/-!
# Request contexts

What is known about a request: values by the names of context keys.
-/

namespace StackAudit

/-- The values of a request by key. -/
abbrev RequestContext := Table Value

namespace RequestContext

/-- The entries of a map; other values know nothing about a request. -/
def ofValue : Value → RequestContext
  | .map entries => .ofList entries
  | _ => .empty

/-- The context that a JSON value describes. -/
def ofJson (json : Json) : RequestContext := ofValue (.ofJson json)

/-- A context in JSON. -/
def toJson (r : RequestContext) : Json := .obj (Value.entriesToJson r.entries)

end RequestContext

end StackAudit
