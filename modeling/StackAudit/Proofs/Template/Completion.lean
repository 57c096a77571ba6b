import StackAudit.Proofs.Resolution.WellShaped
import StackAudit.Proofs.Template.Survival

/-!
# Well-shaped templates resolve

If all nodes of a template are well shaped, and the roots of its conditions are boolean, then the
template resolves with any settings (`Template.exists_resolve_eq_ok_of_wellShaped`). Nothing else
can go wrong: parameters without a value, mappings that miss an entry, and conditions that are
declared later or not at all have stand-ins.
-/

namespace StackAudit

/-- All nodes of a template are well shaped, and the roots of its conditions are boolean. -/
structure Template.WellShaped (t : Template) : Prop where
  conditions : ∀ c ∈ t.conditions, c.2.WellShaped ∧ c.2.BooleanRooted
  resources : ∀ entry ∈ t.resources, entry.2.WellShaped
  outputs : ∀ entry ∈ t.outputs, entry.2.WellShaped

/-- Well-shaped conditions with boolean roots are decided, whatever was decided before them. -/
theorem exists_decideConditions_eq_ok {conditions : List (String × Node)}
    (h : ∀ c ∈ conditions, c.2.WellShaped ∧ c.2.BooleanRooted) (scope : Scope) :
    ∃ verdicts final, decideConditions conditions scope = (.ok verdicts, final) := by
  induction conditions generalizing scope with
  | nil => exact ⟨[], scope, rfl⟩
  | cons c rest ih =>
    obtain ⟨⟨hshape, hroot⟩, hrest⟩ := List.forall_mem_cons.1 h
    -- shape and root say nothing of the scope, so it does not matter what was decided before
    obtain ⟨v, hv⟩ := hshape.exists_resolve_eq_ok scope
    obtain ⟨b, rfl⟩ := hroot.eq_bool hv
    obtain ⟨verdicts, final, hrun⟩ := ih hrest (scope.withCondition c.1 b)
    exact ⟨(c.1, b) :: verdicts, final,
      decideConditions_cons_eq_ok_iff.2 ⟨b, verdicts, hv, rfl, hrun⟩⟩

namespace Template

/-- A well-shaped node resolves in every scope, and a well-shaped template with any settings. -/
theorem exists_resolve_eq_ok_of_wellShaped :
    (∀ n : Node, n.WellShaped → ∀ scope, ∃ v, n.resolve scope = .ok v) ∧
      ∀ t : Template, t.WellShaped → ∀ settings, ∃ r, t.resolve settings = .ok r := by
  refine ⟨fun n h => h.exists_resolve_eq_ok, fun t h settings => ?_⟩
  obtain ⟨verdicts, final, hrun⟩ :=
    exists_decideConditions_eq_ok h.conditions (t.initialScope settings)
  refine exists_resolve_eq_ok_iff.2 ⟨verdicts, congrArg Prod.fst hrun, fun entry hentry _ => ?_⟩
  -- survivors or not, all entries have values
  have hshape : entry.2.WellShaped :=
    (List.mem_append.1 hentry).elim (h.resources entry) (h.outputs entry)
  exact hshape.exists_resolve_eq_ok _

/-- A label from one of several names and the entry of a mapping. -/
def depotLabel : Node :=
  .call .sub (.list [.string "$\x7bName\x7d: $\x7bKind\x7d",
    .map [("Name", .call .select (.list [.string " 1 ",
        .call .split (.list [.string ",", .call .ref (.string "Names")])])),
      ("Kind", .map [("Fn::FindInMap", .list [.string "Kinds", .string "depot", .null])])]])

/-- A depot with a label; it depends on a condition that asks for a later one. -/
def depot : Template where
  parameters := []
  mappings := .empty
  conditions := [("IsOpen", .map [("Fn::Not", .list [.call .condition (.string "IsFull")])]),
    ("IsFull", .call .ifElse (.list [.string "IsOpen", .call .or (.list []), .bool true]))]
  resources := [("Depot", .map [("Condition", .string "IsOpen"), ("Label", depotLabel)])]
  outputs := [("Door", .call .base64 (.call .getAtt .null))]

/-- The depot and its label are well shaped and resolve, with nothing given at all. -/
theorem exists_resolve_eq_ok_of_wellShaped_depot :
    depotLabel.WellShaped ∧ depot.WellShaped ∧ (∃ v, depotLabel.resolve .empty = .ok v) ∧
      ∃ r, depot.resolve {} = .ok r := by
  have hlabel : depotLabel.WellShaped := by
    refine .boundTemplate (.string _) rfl (List.forall_mem_cons.2 ⟨?_, ?_⟩)
    · refine .select rfl (.pair (.inr (.inl rfl)) (.string _) ?_)
      exact .whole (.inl rfl) (.string _)
    · refine List.forall_mem_singleton.2 (.written (f := .findInMap) ?_)
      exact .triple (.inr rfl) (.string _) (.string _) .null
  have hdepot : depot.WellShaped := by
    refine ⟨List.forall_mem_cons.2 ⟨⟨.written (f := .not) (.not ?_), ?_⟩, ?_⟩, ?_, ?_⟩
    · exact .whole (.inr (.inr (.inr rfl))) (.string _)
    · exact .written (f := .not) (.question _ (.inr (.inr (.inr (.inl rfl)))))
    · refine List.forall_mem_singleton.2 ⟨.triple (.inl rfl) (.string _) ?_ (.bool _), ?_⟩
      · exact .operands (.inr rfl) (List.forall_mem_nil _)
      · exact .choice _ (.question _ (.inr (.inr (.inl rfl)))) (.bool _)
    · refine List.forall_mem_singleton.2 (.data rfl (List.forall_mem_cons.2 ⟨.string _, ?_⟩))
      exact List.forall_mem_singleton.2 hlabel
    · exact List.forall_mem_singleton.2
        (.whole (.inr (.inr (.inl rfl))) (.ignored _ (.inl rfl)))
  obtain ⟨hnodes, htemplates⟩ := exists_resolve_eq_ok_of_wellShaped
  exact ⟨hlabel, hdepot, hnodes _ hlabel _, htemplates _ hdepot _⟩

end Template

end StackAudit
