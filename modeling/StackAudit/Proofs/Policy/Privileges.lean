import StackAudit.Policy.Query
import StackAudit.Proofs.Catalog.Expansion

/-!
# Granted actions and privileged actions

A document can allow an action in two ways: by an action that is written in a statement
(`PolicyDocument.AllowsByAction`), or by a statement that allows everything but some exceptions
(`PolicyDocument.AllowsByException`). The expansion of a document counts both
(`mem_expandedAllowedActions_iff`). The analysis of privileged actions counts the first one only
(`mem_privilegedActionsIn_iff`), so the two agree on a reference list as long as every action of the
list that is allowed by exception is also allowed by an action (`privilegedActionsIn_granted`); a
statement that has nothing but exceptions is overlooked
(`not_forall_mem_privilegedActionsIn_iff_granted`).
-/

namespace StackAudit

open Catalog (Covers)

namespace Statement

/-- A missing field has no literals, so it covers nothing. -/
theorem not_covers_literalsOf_none (action : String) : ¬Covers (literalsOf none) action :=
  Catalog.not_covers_nil action

/-- A statement is about the actions of a catalog that its actions cover and, if it has exceptions,
about those that its exceptions do not cover. -/
theorem mem_expandedActions_iff {s : Statement} {c : Catalog} {action : String} :
    action ∈ s.expandedActions c ↔ action ∈ c.actions ∧
      (Covers s.actions action ∨ s.notAction.isSome = true ∧ ¬Covers s.notActions action) := by
  -- each of the two fields is expanded only if it is there; a missing one adds nothing
  have hactions : (action ∈ if s.action.isSome then c.expandAll s.actions false else []) ↔
      action ∈ c.actions ∧ Covers s.actions action := by
    unfold actions
    cases s.action with
    | none => simp [not_covers_literalsOf_none]
    | some node => exact Catalog.mem_expandAll_false_iff
  have hexceptions : (action ∈ if s.notAction.isSome then c.expandAll s.notActions true else []) ↔
      action ∈ c.actions ∧ s.notAction.isSome = true ∧ ¬Covers s.notActions action := by
    unfold notActions
    cases s.notAction with
    | none => simp
    | some node => simp [Catalog.mem_expandAll_true_iff]
  rw [expandedActions, Text.mem_ascending, List.mem_append, hactions, hexceptions, and_or_left]

end Statement

namespace PolicyDocument

/-- A literal action of a statement that allows something matches an action. -/
def AllowsByAction (d : PolicyDocument) (action : String) : Prop :=
  ∃ s ∈ d.statements, s.isAllow = true ∧ Covers s.actions action

/-- An action is none of the exceptions of a statement that allows everything but these. -/
def AllowsByException (d : PolicyDocument) (action : String) : Prop :=
  ∃ s ∈ d.statements, s.isAllow = true ∧ s.notAction.isSome = true ∧ ¬Covers s.notActions action

variable {d : PolicyDocument} {c : Catalog} {reference : List String}

/-- The statements that allow something, among all of them. -/
theorem mem_allowStatements_iff {s : Statement} :
    s ∈ d.allowStatements ↔ s ∈ d.statements ∧ s.isAllow = true :=
  List.mem_filter

/-- The expansion of a document has the actions of the catalog that are allowed in either way. -/
theorem mem_expandedAllowedActions_iff {action : String} :
    action ∈ d.expandedAllowedActions c ↔
      action ∈ c.actions ∧ (d.AllowsByAction action ∨ d.AllowsByException action) := by
  rw [expandedAllowedActions, Text.mem_ascending, List.mem_flatMap]
  constructor
  · rintro ⟨s, hs, haction⟩
    obtain ⟨hs, hallow⟩ := mem_allowStatements_iff.1 hs
    obtain ⟨hknown, hcovers | hexcept⟩ := Statement.mem_expandedActions_iff.1 haction
    · exact ⟨hknown, .inl ⟨s, hs, hallow, hcovers⟩⟩
    · exact ⟨hknown, .inr ⟨s, hs, hallow, hexcept⟩⟩
  · rintro ⟨hknown, ⟨s, hs, hallow, hcovers⟩ | ⟨s, hs, hallow, hexcept⟩⟩
    · exact ⟨s, mem_allowStatements_iff.2 ⟨hs, hallow⟩,
        Statement.mem_expandedActions_iff.2 ⟨hknown, .inl hcovers⟩⟩
    · exact ⟨s, mem_allowStatements_iff.2 ⟨hs, hallow⟩,
        Statement.mem_expandedActions_iff.2 ⟨hknown, .inr hexcept⟩⟩

/-- The literal allowed actions cover what is allowed by an action. -/
theorem covers_allowedActions_iff {action : String} :
    Covers d.allowedActions.eraseDups action ↔ d.AllowsByAction action := by
  unfold Covers AllowsByAction allowedActions
  constructor
  · rintro ⟨p, hp, hmatches⟩
    obtain ⟨s, hs, hp⟩ := List.mem_flatMap.1 (List.mem_eraseDups.1 hp)
    obtain ⟨hs, hallow⟩ := mem_allowStatements_iff.1 hs
    exact ⟨s, hs, hallow, p, hp, hmatches⟩
  · rintro ⟨s, hs, hallow, p, hp, hmatches⟩
    have hs := mem_allowStatements_iff.2 ⟨hs, hallow⟩
    exact ⟨p, List.mem_eraseDups.2 (List.mem_flatMap.2 ⟨s, hs, hp⟩), hmatches⟩

/-- The privileged actions of a document are the actions of the reference list that are allowed by
an action, or the others. -/
theorem mem_privilegedActionsIn_iff {difference : Bool} {action : String} :
    action ∈ d.privilegedActionsIn reference difference ↔
      action ∈ reference ∧ (d.AllowsByAction action ↔ difference = false) := by
  rw [privilegedActionsIn, Text.mem_ascending, List.mem_filter, ← covers_allowedActions_iff,
    ← Catalog.any_patternsOf_iff]
  cases (Catalog.patternsOf d.allowedActions.eraseDups).any (·.accepts action) <;>
    cases difference <;> simp

/-- The analysis has the actions of the reference list that are allowed by an action. -/
theorem mem_privilegedActionsIn_false_iff {action : String} :
    action ∈ d.privilegedActionsIn reference false ↔
      action ∈ reference ∧ d.AllowsByAction action := by
  simp [mem_privilegedActionsIn_iff]

/-- Negated, the analysis has the actions of the reference list that are not allowed by an action.
-/
theorem mem_privilegedActionsIn_true_iff {action : String} :
    action ∈ d.privilegedActionsIn reference true ↔
      action ∈ reference ∧ ¬d.AllowsByAction action := by
  simp [mem_privilegedActionsIn_iff]

/-- The analysis of privileged actions has the actions of a reference list that are in the expansion
of the document. -/
def PrivilegesGranted (d : PolicyDocument) (c : Catalog) (reference : List String) : Prop :=
  (∀ action, action ∈ d.privilegedActionsIn reference false ↔
    action ∈ reference ∧ action ∈ d.expandedAllowedActions c) ∧
  ∀ action, action ∈ d.privilegedActionsIn reference true ↔
    action ∈ reference ∧ action ∉ d.expandedAllowedActions c

/-- Of the actions of a reference list the analysis of privileged actions has those that are allowed
by an action, and negated all others. The expansion of the document has those that are allowed by
exception too, so the analysis agrees with it on a list just if these are all allowed by an action
as well. -/
theorem privilegedActionsIn_granted (h : ∀ action ∈ reference, action ∈ c.actions) :
    (∀ action, action ∈ d.privilegedActionsIn reference false ↔
        action ∈ reference ∧ d.AllowsByAction action) ∧
      (∀ action, action ∈ d.privilegedActionsIn reference true ↔
        action ∈ reference ∧ ¬d.AllowsByAction action) ∧
      (∀ action ∈ reference, action ∈ d.expandedAllowedActions c ↔
        action ∈ d.privilegedActionsIn reference false ∨ d.AllowsByException action) ∧
      (d.PrivilegesGranted c reference ↔
        ∀ action ∈ reference, d.AllowsByException action → d.AllowsByAction action) := by
  have hgranted (action : String) (haction : action ∈ reference) :
      action ∈ d.expandedAllowedActions c ↔
        d.AllowsByAction action ∨ d.AllowsByException action := by
    rw [mem_expandedAllowedActions_iff, and_iff_right (h action haction)]
  refine ⟨fun _ => mem_privilegedActionsIn_false_iff, fun _ => mem_privilegedActionsIn_true_iff,
    fun action haction => ?_, ?_⟩
  · rw [hgranted action haction, mem_privilegedActionsIn_false_iff, and_iff_right haction]
  · constructor
    · rintro ⟨hmatched, -⟩ action haction hexcept
      have hexpanded := (hgranted action haction).2 (.inr hexcept)
      have hprivileged := (hmatched action).2 ⟨haction, hexpanded⟩
      exact (mem_privilegedActionsIn_false_iff.1 hprivileged).2
    · intro hagree
      -- if exceptions allow nothing new, then to be expanded is to be allowed by an action
      have hsame (action : String) (haction : action ∈ reference) :
          action ∈ d.expandedAllowedActions c ↔ d.AllowsByAction action := by
        rw [hgranted action haction]
        exact or_iff_left_of_imp (hagree action haction)
      refine ⟨fun action => ?_, fun action => ?_⟩
      · rw [mem_privilegedActionsIn_false_iff]
        exact and_congr_right fun haction => (hsame action haction).symm
      · rw [mem_privilegedActionsIn_true_iff]
        exact and_congr_right fun haction => (hsame action haction).not.symm

/-- A policy that allows everything that is not about identities. -/
def keysPolicy : PolicyDocument where
  statements := [{ effect := .allow, notAction := some (.string "iam:*") }]

/-- A catalog of an action on identities and an action on keys. -/
def keysCatalog : Catalog := .ofList "" ["iam:PassRole", "kms:Decrypt"]

/-- An action that a policy allows by exception is in its expansion, but not among its privileged
actions. -/
theorem not_forall_mem_privilegedActionsIn_iff_granted :
    ¬∀ (d : PolicyDocument) (c : Catalog) (reference : List String),
      (∀ s ∈ d.statements, ∀ p ∈ s.actions ++ s.notActions, Wildcard.Usable p) →
      (∀ action ∈ reference, action ∈ c.actions) → d.PrivilegesGranted c reference := by
  intro hall
  have husable : ∀ s ∈ keysPolicy.statements, ∀ p ∈ s.actions ++ s.notActions,
      Wildcard.Usable p := by
    intro s hs p hp
    obtain rfl := List.mem_singleton.1 hs
    obtain rfl := List.mem_singleton.1 hp
    exact ⟨_, rfl⟩
  have hknown : ∀ action ∈ ["kms:Decrypt"], action ∈ keysCatalog.actions := by
    simp [keysCatalog]
  have hexcept : keysPolicy.AllowsByException "kms:Decrypt" := by
    refine ⟨_, List.mem_singleton_self _, rfl, rfl, ?_⟩
    rintro ⟨p, hp, -, hmatches⟩
    obtain rfl := List.mem_singleton.1 hp
    revert hmatches
    decide
  have hexpanded : "kms:Decrypt" ∈ keysPolicy.expandedAllowedActions keysCatalog :=
    mem_expandedAllowedActions_iff.2 ⟨hknown _ (List.mem_singleton_self _), .inr hexcept⟩
  obtain ⟨hmatched, -⟩ := hall keysPolicy keysCatalog ["kms:Decrypt"] husable hknown
  have hprivileged := (hmatched "kms:Decrypt").2 ⟨List.mem_singleton_self _, hexpanded⟩
  -- the only statement has no actions, so none of them can have matched
  obtain ⟨-, s, hs, -, p, hp, -⟩ := mem_privilegedActionsIn_false_iff.1 hprivileged
  obtain rfl := List.mem_singleton.1 hs
  cases hp

/-- With an action besides the exceptions, the policy grants what the analysis says. -/
theorem privilegedActionsIn_granted_keys :
    (∀ action ∈ ["kms:Decrypt"], action ∈ keysCatalog.actions) ∧
      PrivilegesGranted ⟨none, keysPolicy.statements ++
        [{ effect := .allow, action := some (.list [.string "KMS:De*"]) }]⟩
        keysCatalog ["kms:Decrypt"] := by
  have hknown : ∀ action ∈ ["kms:Decrypt"], action ∈ keysCatalog.actions := by
    simp [keysCatalog]
  refine ⟨hknown, (privilegedActionsIn_granted hknown).2.2.2.2 fun action haction _ => ?_⟩
  obtain rfl := List.mem_singleton.1 haction
  refine ⟨_, List.mem_append_right _ (List.mem_singleton_self _), rfl, "KMS:De*", ?_, ⟨_, rfl⟩, ?_⟩
  · exact List.mem_singleton_self _
  · decide

end PolicyDocument

end StackAudit
