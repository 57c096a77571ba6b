import StackAudit.Pattern.Wildcard
import StackAudit.Text.Ascending

/-!
# Catalogs of actions

A catalog holds the names of actions, such as `s3:GetObject`, each once and in ascending order.
Wildcard patterns are expanded to the actions of a catalog that they match, or to those that they do
not.
-/

namespace StackAudit

/-- A set of actions with a version. -/
structure Catalog where
  version : String
  actions : List String
  ascending : actions.Pairwise (· < ·)

namespace Catalog

/-- The catalog of some actions. -/
def ofList (version : String) (actions : List String) : Catalog where
  version
  actions := Text.ascending actions
  ascending := Text.pairwise_ascending actions

/-- The catalog of the privileges of services. -/
def ofServices (version : String) (services : List (String × List String)) : Catalog :=
  ofList version
    (services.flatMap fun (service, privileges) => privileges.map (service ++ ":" ++ ·))

/-- Reads a catalog from JSON: a version, and the privileges of each service by the name of the
service. Of two lists for one service the later counts. -/
def ofWritten? (written : Json.Written) : Option Catalog := do
  match ← written.fields? ["version", "actions"] with
  | [some version, some services] =>
    let version ← version.text?
    let services ← (← services.members?).mapM fun (service, privileges) =>
      privileges.texts?.map (service, ·)
    return ofServices version (Entries.merge services)
  | _ => none

/-- Reads a catalog from a JSON text. -/
def ofText (text : String) : Except Error Catalog :=
  match Json.Written.ofText? text >>= ofWritten? with
  | some c => .ok c
  | none => .error .notJson

/-- The number of actions. -/
def size (c : Catalog) : Nat := c.actions.length

/-- An action is in the catalog under exactly this name. -/
def contains (c : Catalog) (action : String) : Bool := c.actions.contains action

/-- The patterns of texts; a text that is no usable pattern is passed over. -/
def patternsOf (texts : List String) : List Wildcard :=
  texts.filterMap fun text => (Wildcard.ofText text).toOption

/-- The actions that some of the patterns match, or those that none matches. -/
def expandAll (c : Catalog) (patterns : List String) (negate : Bool) : List String :=
  let patterns := patternsOf patterns
  c.actions.filter fun action => patterns.any (·.accepts action) != negate

/-- The actions that a pattern matches, or those that it does not. -/
def expand (c : Catalog) (pattern : String) (negate : Bool) : List String :=
  c.expandAll [pattern] negate

end Catalog

end StackAudit
