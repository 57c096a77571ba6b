import StackAudit.Proofs.Policy.Privileges
import StackAudit.Proofs.Sequencing

/-!
# What documents grant

A statement is about an action if a literal of its actions matches it, or if it has exceptions and
none of their literals does (`Statement.Grants`). A literal counts at whatever depth of lists it
stands. The expansion of a document against a catalog has exactly the actions that some statement
grants which allows something (`PolicyDocument.expandedAllowedActions_exact`), and the analysis of
privileged actions parts a reference list into those that such a statement grants by its actions and
all others (`PolicyDocument.privilegedActionsIn_partition`).

## Shape of the proof

Both queries ask for nothing but which literals there are in the statements that allow something, so
what one document allows another one allows too if it has all of these
(`PolicyDocument.AllowsWithin`). If each of two documents allows no more than the other, as after
statements are reordered or repeated, statements that deny something are added or dropped, or
literals are grouped into other lists, then the answers are the same, since all answers ascend.
-/

namespace StackAudit

open Catalog (Covers)

/-! ## Literals -/

/-- A text is a literal of a node: it is the node, or a literal of an item if the node is a list. -/
inductive Node.HasLiteral (text : String) : Node → Prop where
  | self : HasLiteral text (.string text)
  | item {items : List Node} {item : Node} (hitem : item ∈ items) (h : HasLiteral text item) :
    HasLiteral text (.list items)

/-- The literals that are listed for a node are its literals. -/
theorem Node.mem_literals_iff {n : Node} {text : String} :
    text ∈ n.literals ↔ n.HasLiteral text := by
  constructor
  · intro h
    -- numbers are no literals here, unlike in a principal
    induction n using Node.induct with
    | null | bool | number | date | map | call => cases h
    | string s =>
      obtain rfl := List.mem_singleton.1 h
      exact .self
    | list items ih =>
      rw [literals, literalsOfItems_eq] at h
      obtain ⟨item, hitem, htext⟩ := List.mem_flatMap.1 h
      exact .item hitem (ih item hitem htext)
  · intro h
    induction h with
    | self => exact List.mem_singleton_self text
    | item hitem _ ih =>
      rw [literals, literalsOfItems_eq]
      exact List.mem_flatMap.2 ⟨_, hitem, ih⟩

namespace Statement

/-- A text is a literal of a field that may be missing. -/
def HasLiteral (field : Option Node) (text : String) : Prop :=
  ∃ node, field = some node ∧ node.HasLiteral text

/-- The literals that are listed for a field are its literals. -/
theorem mem_literalsOf_iff {field : Option Node} {text : String} :
    text ∈ literalsOf field ↔ HasLiteral field text := by
  cases field with
  | none => simp [literalsOf, HasLiteral]
  | some node => simp [literalsOf, HasLiteral, Node.mem_literals_iff]

/-- Some literal of a field matches an action. -/
def Matched (field : Option Node) (action : String) : Prop :=
  ∃ p, HasLiteral field p ∧ Wildcard.Matches p.toList action.toList

instance (field : Option Node) (action : String) : Decidable (Matched field action) :=
  decidable_of_iff (∃ p ∈ literalsOf field, Wildcard.Matches p.toList action.toList)
    (by simp only [Matched, mem_literalsOf_iff])

/-- A field whose literals can be used as patterns covers what one of them matches. -/
theorem covers_literalsOf_iff {field : Option Node} {action : String}
    (h : ∀ p, HasLiteral field p → Wildcard.Usable p) :
    Covers (literalsOf field) action ↔ Matched field action := by
  rw [Catalog.covers_iff_of_usable fun p hp => h p (mem_literalsOf_iff.1 hp)]
  simp only [Matched, mem_literalsOf_iff]

/-- A literal of the actions matches an action, or there are exceptions and none of their literals
does. -/
def Grants (s : Statement) (action : String) : Prop :=
  Matched s.action action ∨ s.notAction.isSome = true ∧ ¬Matched s.notAction action

instance (s : Statement) (action : String) : Decidable (s.Grants action) :=
  inferInstanceAs (Decidable (_ ∨ _ ∧ _))

/-- Two fields are both there or both missing, and have the same literals. -/
def SameLiterals (field other : Option Node) : Prop :=
  field.isSome = other.isSome ∧ ∀ text, HasLiteral field text ↔ HasLiteral other text

/-- Two statements have the same effect and the same literals in their actions and exceptions,
however these are grouped into lists. -/
structure Regroups (s t : Statement) : Prop where
  effect : s.effect = t.effect
  action : SameLiterals s.action t.action
  notAction : SameLiterals s.notAction t.notAction

/-- A field has the same literals as itself. -/
theorem SameLiterals.refl (field : Option Node) : SameLiterals field field :=
  ⟨rfl, fun _ => Iff.rfl⟩

/-- To have the same literals is mutual. -/
theorem SameLiterals.symm {field other : Option Node} (h : SameLiterals field other) :
    SameLiterals other field :=
  ⟨h.1.symm, fun text => (h.2 text).symm⟩

/-- Fields with the same literals cover the same actions. -/
theorem SameLiterals.covers_iff {field other : Option Node} (h : SameLiterals field other)
    (action : String) : Covers (literalsOf field) action ↔ Covers (literalsOf other) action :=
  Catalog.covers_congr (fun p => by rw [mem_literalsOf_iff, mem_literalsOf_iff, h.2 p]) action

/-- A statement is a regrouping of itself. -/
theorem Regroups.refl (s : Statement) : s.Regroups s := ⟨rfl, .refl _, .refl _⟩

/-- Regrouping can be undone. -/
theorem Regroups.symm {s t : Statement} (h : s.Regroups t) : t.Regroups s :=
  ⟨h.effect.symm, h.action.symm, h.notAction.symm⟩

/-- A statement that is regrouped still allows something, or still does not. -/
theorem Regroups.isAllow_eq {s t : Statement} (h : s.Regroups t) : s.isAllow = t.isAllow := by
  rw [isAllow, isAllow, h.effect]

end Statement

namespace PolicyDocument

variable {d e : PolicyDocument} {c : Catalog} {action : String}

/-! ## Documents that allow alike -/

/-- For every statement of one document that allows something there is one in the other that has the
same literals. -/
def AllowsWithin (d e : PolicyDocument) : Prop :=
  ∀ s ∈ d.statements, s.isAllow = true → ∃ t ∈ e.statements, s.Regroups t

/-- What is allowed by an action is allowed by an action again. -/
theorem AllowsWithin.allowsByAction (h : d.AllowsWithin e) (haction : d.AllowsByAction action) :
    e.AllowsByAction action := by
  obtain ⟨s, hs, hallow, hcovers⟩ := haction
  obtain ⟨t, ht, hst⟩ := h s hs hallow
  exact ⟨t, ht, hst.isAllow_eq ▸ hallow, (hst.action.covers_iff action).1 hcovers⟩

/-- What is allowed by exception is allowed by exception again. -/
theorem AllowsWithin.allowsByException (h : d.AllowsWithin e)
    (haction : d.AllowsByException action) : e.AllowsByException action := by
  obtain ⟨s, hs, hallow, hsome, hcovers⟩ := haction
  obtain ⟨t, ht, hst⟩ := h s hs hallow
  exact ⟨t, ht, hst.isAllow_eq ▸ hallow, hst.notAction.1 ▸ hsome,
    mt (hst.notAction.covers_iff action).2 hcovers⟩

/-- Statements that deny something do not count. -/
theorem allowsWithin_of_forall_mem
    (h : ∀ s : Statement, s.effect = .allow → s ∈ d.statements → s ∈ e.statements) :
    d.AllowsWithin e :=
  fun s hs hallow => ⟨s, h s (of_decide_eq_true hallow) hs, .refl s⟩

/-- To group the literals of each statement into other lists changes nothing. -/
theorem allowsWithin_of_regroups
    (h : List.Forall₂ Statement.Regroups e.statements d.statements) : d.AllowsWithin e := by
  intro t ht _
  obtain ⟨s, hs, hst⟩ := exists_of_mem_right h ht
  exact ⟨s, hs, hst.symm⟩

/-! ## Expansions -/

/-- The expansion of a document ascends. -/
theorem pairwise_expandedAllowedActions (d : PolicyDocument) (c : Catalog) :
    (d.expandedAllowedActions c).Pairwise (· < ·) := Text.pairwise_ascending _

/-- What allows more expands to more. -/
theorem AllowsWithin.expandedAllowedActions_subset (h : d.AllowsWithin e) (c : Catalog) :
    d.expandedAllowedActions c ⊆ e.expandedAllowedActions c := by
  intro action haction
  rw [mem_expandedAllowedActions_iff] at haction ⊢
  exact haction.imp_right (Or.imp h.allowsByAction h.allowsByException)

/-- Documents that allow no more than each other have the same expansion. -/
theorem expandedAllowedActions_congr (hd : d.AllowsWithin e) (he : e.AllowsWithin d) (c : Catalog) :
    e.expandedAllowedActions c = d.expandedAllowedActions c := by
  refine Text.eq_of_mem_iff (pairwise_expandedAllowedActions e c)
    (pairwise_expandedAllowedActions d c) fun action => ?_
  have hsubset := hd.expandedAllowedActions_subset c
  have hsuperset := he.expandedAllowedActions_subset c
  exact ⟨fun h => hsuperset h, fun h => hsubset h⟩

/-- What is said of the statements that allow something can be said in other words. -/
theorem exists_allowing_iff {P Q : Statement → Prop}
    (h : ∀ s ∈ d.statements, s.effect = .allow → (P s ↔ Q s)) :
    (∃ s ∈ d.statements, s.isAllow = true ∧ P s) ↔
      ∃ s ∈ d.statements, s.effect = .allow ∧ Q s := by
  refine exists_congr fun s => and_congr_right fun hs => ?_
  rw [Statement.isAllow, decide_eq_true_iff]
  exact and_congr_right fun hallow => h s hs hallow

/-- Statements allow by their actions what some literal of these matches. -/
theorem allowsByAction_iff
    (h : ∀ s ∈ d.statements, s.effect = .allow →
      ∀ p, Statement.HasLiteral s.action p → Wildcard.Usable p) :
    d.AllowsByAction action ↔
      ∃ s ∈ d.statements, s.effect = .allow ∧ Statement.Matched s.action action :=
  exists_allowing_iff fun s hs hallow => Statement.covers_literalsOf_iff (h s hs hallow)

/-- Statements allow by their exceptions what no literal of these matches. -/
theorem allowsByException_iff
    (h : ∀ s ∈ d.statements, s.effect = .allow →
      ∀ p, Statement.HasLiteral s.notAction p → Wildcard.Usable p) :
    d.AllowsByException action ↔ ∃ s ∈ d.statements, s.effect = .allow ∧
      s.notAction.isSome = true ∧ ¬Statement.Matched s.notAction action := by
  refine exists_allowing_iff fun s hs hallow => and_congr_right fun _ => not_congr ?_
  exact Statement.covers_literalsOf_iff (h s hs hallow)

/-- The expansion of a document ascends by bytes and has exactly the actions of the catalog that
some statement grants which allows something. It does not depend on the order and number of these
statements, nor on any statement that denies something, nor on the lists into which the literals are
grouped. -/
theorem expandedAllowedActions_exact
    (h : ∀ s ∈ d.statements, s.effect = .allow → ∀ p,
      Statement.HasLiteral s.action p ∨ Statement.HasLiteral s.notAction p → Wildcard.Usable p)
    (c : Catalog) :
    ((d.expandedAllowedActions c).Pairwise fun s t => Text.bytes s < Text.bytes t) ∧
      (∀ action, action ∈ d.expandedAllowedActions c ↔
        action ∈ c.actions ∧ ∃ s ∈ d.statements, s.effect = .allow ∧ s.Grants action) ∧
      (∀ e : PolicyDocument,
        (∀ s : Statement, s.effect = .allow → (s ∈ e.statements ↔ s ∈ d.statements)) →
        e.expandedAllowedActions c = d.expandedAllowedActions c) ∧
      ∀ e : PolicyDocument, List.Forall₂ Statement.Regroups d.statements e.statements →
        e.expandedAllowedActions c = d.expandedAllowedActions c := by
  refine ⟨Text.pairwise_bytes_lt (pairwise_expandedAllowedActions d c), fun action => ?_,
    fun e hsame => ?_, fun e hregroups => ?_⟩
  · -- the two ways of allowing are joined into one statement that grants
    rw [mem_expandedAllowedActions_iff,
      allowsByAction_iff fun s hs hallow p hp => h s hs hallow p (.inl hp),
      allowsByException_iff fun s hs hallow p hp => h s hs hallow p (.inr hp), ← exists_or]
    simp only [← and_or_left, Statement.Grants]
  · exact expandedAllowedActions_congr
      (allowsWithin_of_forall_mem fun s hallow => (hsame s hallow).2)
      (allowsWithin_of_forall_mem fun s hallow => (hsame s hallow).1) c
  · -- regrouping works in both directions, so each document allows within the other
    have hflip : List.Forall₂ Statement.Regroups e.statements d.statements :=
      hregroups.flip.imp fun _ _ hts => hts.symm
    exact expandedAllowedActions_congr (allowsWithin_of_regroups hflip)
      (allowsWithin_of_regroups hregroups) c

/-- A policy that allows to read objects and to use keys, and everything that is not about objects
or keys. What it denies is not taken away. -/
def keyringPolicy : PolicyDocument where
  statements := [
    { effect := .allow
      action := some (.list [.list [.string "s3:Get*"], .call .ref (.string "More"),
        .string "kms:decrypt"]) },
    { effect := .deny, action := some (.string "*") },
    { effect := .allow, notAction := some (.list [.string "s3:*", .list [.string "kms:*"]]) }]

/-- A catalog of actions on objects, keys and identities. -/
def keyringCatalog : Catalog :=
  .ofList "" ["s3:PutObject", "kms:Decrypt", "iam:PassRole", "s3:GetObject"]

/-- Although everything is denied as well, the expansion has the use of keys and what is not about
objects or keys. -/
theorem expandedAllowedActions_exact_keyring :
    (∀ s ∈ keyringPolicy.statements, s.effect = .allow → ∀ p,
      Statement.HasLiteral s.action p ∨ Statement.HasLiteral s.notAction p → Wildcard.Usable p) ∧
      "kms:Decrypt" ∈ keyringPolicy.expandedAllowedActions keyringCatalog ∧
      "iam:PassRole" ∈ keyringPolicy.expandedAllowedActions keyringCatalog ∧
      "s3:PutObject" ∉ keyringPolicy.expandedAllowedActions keyringCatalog := by
  have husable : ∀ s ∈ keyringPolicy.statements, s.effect = .allow → ∀ p,
      Statement.HasLiteral s.action p ∨ Statement.HasLiteral s.notAction p →
        Wildcard.Usable p := by
    intro s hs _ p hp
    have hall : ∀ s ∈ keyringPolicy.statements, ∀ p ∈ s.actions ++ s.notActions,
        Wildcard.Usable p := by decide
    refine hall s hs p (List.mem_append.2 ?_)
    rwa [Statement.actions, Statement.notActions, Statement.mem_literalsOf_iff,
      Statement.mem_literalsOf_iff]
  obtain ⟨-, hmem, -⟩ := expandedAllowedActions_exact husable keyringCatalog
  refine ⟨husable, ?_⟩
  rw [hmem, hmem, hmem]
  simp only [keyringCatalog, Catalog.mem_actions_ofList]
  decide

/-! ## Privileged actions -/

variable {reference : List String}

/-- The lists of the analysis ascend. -/
theorem pairwise_privilegedActionsIn (d : PolicyDocument) (reference : List String)
    (difference : Bool) : (d.privilegedActionsIn reference difference).Pairwise (· < ·) :=
  Text.pairwise_ascending _

/-- Every action of a reference list is in one of the two lists of the analysis, and in no more. -/
theorem mem_privilegedActionsIn_true_iff_not_mem :
    action ∈ d.privilegedActionsIn reference true ↔
      action ∈ reference ∧ action ∉ d.privilegedActionsIn reference false := by
  rw [mem_privilegedActionsIn_true_iff, mem_privilegedActionsIn_false_iff, not_and]
  exact and_congr_right fun haction => (imp_iff_right haction).symm

/-- What allows more has more privileged actions. -/
theorem AllowsWithin.privilegedActionsIn_subset (h : d.AllowsWithin e) (reference : List String) :
    d.privilegedActionsIn reference false ⊆ e.privilegedActionsIn reference false := by
  intro action haction
  rw [mem_privilegedActionsIn_false_iff] at haction ⊢
  exact haction.imp_right h.allowsByAction

/-- What allows more leaves fewer privileged actions. -/
theorem AllowsWithin.privilegedActionsIn_superset (h : d.AllowsWithin e) (reference : List String) :
    e.privilegedActionsIn reference true ⊆ d.privilegedActionsIn reference true := by
  intro action haction
  rw [mem_privilegedActionsIn_true_iff_not_mem] at haction ⊢
  exact haction.imp_right (mt fun hd => h.privilegedActionsIn_subset reference hd)

/-- Documents that allow no more than each other have the same privileged actions in every reference
list of the same actions. -/
theorem privilegedActionsIn_congr (hd : d.AllowsWithin e) (he : e.AllowsWithin d)
    {others : List String} (hreference : ∀ action, action ∈ others ↔ action ∈ reference)
    (difference : Bool) :
    e.privilegedActionsIn others difference = d.privilegedActionsIn reference difference := by
  refine Text.eq_of_mem_iff (pairwise_privilegedActionsIn e others difference)
    (pairwise_privilegedActionsIn d reference difference) fun action => ?_
  have hallows : e.AllowsByAction action ↔ d.AllowsByAction action :=
    ⟨he.allowsByAction, hd.allowsByAction⟩
  rw [mem_privilegedActionsIn_iff, mem_privilegedActionsIn_iff, hreference, hallows]

/-- What is left by what allows less, and no longer left by what allows more, has moved. -/
theorem AllowsWithin.mem_privilegedActionsIn_iff_moved (h : d.AllowsWithin e) :
    action ∈ e.privilegedActionsIn reference false ↔
      action ∈ d.privilegedActionsIn reference false ∨
        action ∈ d.privilegedActionsIn reference true ∧
          action ∉ e.privilegedActionsIn reference true := by
  rw [mem_privilegedActionsIn_true_iff_not_mem, mem_privilegedActionsIn_true_iff_not_mem]
  constructor
  · intro he
    by_cases hd : action ∈ d.privilegedActionsIn reference false
    · exact .inl hd
    · have hreference := (mem_privilegedActionsIn_false_iff.1 he).1
      exact .inr ⟨⟨hreference, hd⟩, fun hleft => hleft.2 he⟩
  · rintro (hd | ⟨⟨hreference, -⟩, hmoved⟩)
    · exact h.privilegedActionsIn_subset reference hd
    · by_contra he
      exact hmoved ⟨hreference, he⟩

/-- The analysis of privileged actions parts a reference list: both lists ascend by bytes, they have
no action in common, and together they have the actions of the reference list. In the first one are
those that a literal action of a statement matches which allows something. The order and number of
the statements and of the references do not count, and more statements only move actions from the
second list to the first one. -/
theorem privilegedActionsIn_partition
    (h : ∀ s ∈ d.statements, s.effect = .allow → ∀ p,
      Statement.HasLiteral s.action p → Wildcard.Usable p) (reference : List String) :
    (∀ difference, (d.privilegedActionsIn reference difference).Pairwise
        fun s t => Text.bytes s < Text.bytes t) ∧
      (d.privilegedActionsIn reference false).Disjoint (d.privilegedActionsIn reference true) ∧
      (∀ action, action ∈ d.privilegedActionsIn reference false ∨
        action ∈ d.privilegedActionsIn reference true ↔ action ∈ reference) ∧
      (∀ action ∈ reference, action ∈ d.privilegedActionsIn reference false ↔
        ∃ s ∈ d.statements, s.effect = .allow ∧ Statement.Matched s.action action) ∧
      (∀ (e : PolicyDocument) (others : List String),
        (∀ s, s ∈ e.statements ↔ s ∈ d.statements) →
        (∀ action, action ∈ others ↔ action ∈ reference) → ∀ difference,
        e.privilegedActionsIn others difference = d.privilegedActionsIn reference difference) ∧
      ∀ e : PolicyDocument, d.statements ⊆ e.statements →
        e.privilegedActionsIn reference true ⊆ d.privilegedActionsIn reference true ∧
        ∀ action, action ∈ e.privilegedActionsIn reference false ↔
          action ∈ d.privilegedActionsIn reference false ∨
            action ∈ d.privilegedActionsIn reference true ∧
              action ∉ e.privilegedActionsIn reference true := by
  refine ⟨fun difference => ?_, ?_, fun action => ?_, fun action haction => ?_,
    fun e others hstatements hreference difference => ?_, fun e hmore => ?_⟩
  · exact Text.pairwise_bytes_lt (pairwise_privilegedActionsIn d reference difference)
  · intro action hmatched hleft
    exact (mem_privilegedActionsIn_true_iff_not_mem.1 hleft).2 hmatched
  · rw [mem_privilegedActionsIn_false_iff, mem_privilegedActionsIn_true_iff, ← and_or_left,
      and_iff_left (em _)]
  · rw [mem_privilegedActionsIn_false_iff, and_iff_right haction, allowsByAction_iff h]
  · exact privilegedActionsIn_congr (allowsWithin_of_forall_mem fun s _ => (hstatements s).2)
      (allowsWithin_of_forall_mem fun s _ => (hstatements s).1) hreference difference
  · -- with more statements nothing is taken away, and what is won comes from the other list
    have hwithin : d.AllowsWithin e := allowsWithin_of_forall_mem fun s _ hs => hmore hs
    exact ⟨hwithin.privilegedActionsIn_superset reference,
      fun action => hwithin.mem_privilegedActionsIn_iff_moved⟩

/-- Of the two actions the policy grants one by its actions. The other one is granted by exception
only, so it is left. -/
theorem privilegedActionsIn_partition_keyring :
    (∀ s ∈ keyringPolicy.statements, s.effect = .allow → ∀ p,
      Statement.HasLiteral s.action p → Wildcard.Usable p) ∧
      "kms:Decrypt" ∈ keyringPolicy.privilegedActionsIn ["kms:Decrypt", "iam:PassRole"] false ∧
      "iam:PassRole" ∈ keyringPolicy.privilegedActionsIn ["kms:Decrypt", "iam:PassRole"] true := by
  have husable : ∀ s ∈ keyringPolicy.statements, s.effect = .allow → ∀ p,
      Statement.HasLiteral s.action p → Wildcard.Usable p := by
    intro s hs _ p hp
    have hall : ∀ s ∈ keyringPolicy.statements, ∀ p ∈ s.actions, Wildcard.Usable p := by decide
    exact hall s hs p (Statement.mem_literalsOf_iff.2 hp)
  obtain ⟨-, -, htogether, hmatched, -⟩ :=
    privilegedActionsIn_partition husable ["kms:Decrypt", "iam:PassRole"]
  refine ⟨husable, (hmatched _ (by decide)).2 (by decide), ?_⟩
  refine ((htogether "iam:PassRole").2 (by decide)).resolve_left fun hgranted => ?_
  revert hgranted
  rw [hmatched _ (by decide)]
  decide

end PolicyDocument

end StackAudit
