import StackAudit.Parameter
import StackAudit.Parameter.Pseudo

/-!
# Effective parameters

The values that references see: the pseudo parameters, then the declared parameters, then the
overrides that name no declared parameter. An override of a declared parameter is only seen through
the parameter.
-/

namespace StackAudit

/-- What a template is resolved with, besides the template itself. -/
structure Settings where
  pseudo : PseudoParameters := {}
  /-- The values given by the caller, by the names of parameters. -/
  overrides : Table Value := .empty

namespace Settings

/-- Overrides one parameter. -/
def withOverride (s : Settings) (name : String) (value : Value) : Settings :=
  { s with overrides := s.overrides.insert name value }

/-- Overrides several parameters; later overrides replace earlier ones. -/
def withOverrides (s : Settings) (overrides : List (String × Value)) : Settings :=
  overrides.foldl (fun s (name, value) => s.withOverride name value) s

end Settings

/-- The values of the declared parameters go into a table, and the overrides that they use up leave
the other. -/
def addDeclared (tables : Table Value × Table Value) (p : Parameter) : Table Value × Table Value :=
  let (params, overrides) := tables
  let params := match p.refValue (overrides.get? p.name) with
    | some value => params.insert p.name value
    | none => params
  (params, overrides.erase p.name)

/-- The values that references see. -/
def effectiveParams (pseudo : PseudoParameters) (parameters : List Parameter)
    (overrides : Table Value) : Table Value :=
  let (params, left) := parameters.foldl addDeclared (pseudo.toParams, overrides)
  params.union left

end StackAudit
