import StackAudit.Parameter.Effective
import StackAudit.Template
import StackAudit.Template.Conditions

/-!
# Resolved templates

To resolve a template is to decide its conditions, to drop the resources and outputs whose condition
is false, and to resolve the others.
-/

namespace StackAudit

/-- A template without function calls. -/
structure ResolvedTemplate where
  parameters : List (String × Parameter)
  mappings : Mappings
  conditions : List (String × Bool)
  resources : List (String × Value)
  outputs : List (String × Value)

namespace Template

/-- What the conditions of a template see before any of them is decided. -/
def initialScope (t : Template) (settings : Settings) : Scope where
  params := effectiveParams settings.pseudo (t.parameters.map (·.2)) settings.overrides
  mappings := t.mappings
  conditions := .empty

/-- Resolves a template: the conditions, then the resources, then the outputs. -/
def resolve (t : Template) (settings : Settings) : Except Error ResolvedTemplate := do
  let (verdicts, scope) := decideConditions t.conditions (t.initialScope settings)
  let conditions ← verdicts
  let resources ← resolveKept scope t.resources
  let outputs ← resolveKept scope t.outputs
  return { t with conditions, resources, outputs }

end Template

/-- A resolved template in JSON. Outputs are left out if there are none. -/
def ResolvedTemplate.toJson (t : ResolvedTemplate) : Json :=
  let outputs :=
    if t.outputs.isEmpty then [] else [("Outputs", Json.obj (Value.entriesToJson t.outputs))]
  .obj (("Conditions", .obj (t.conditions.map fun (name, b) => (name, .bool b)))
    :: ("Resources", .obj (Value.entriesToJson t.resources)) :: outputs)

end StackAudit
