import StackAudit.Catalog
import StackAudit.Proofs.Pattern.Inclusion
import StackAudit.Proofs.Text.ByteOrder

/-!
# Expansion of patterns

To expand patterns against a catalog is to cut it in two: the actions that some pattern matches,
and, if the expansion is negated, the others. Both parts are in the order of the catalog, and
negation is of the patterns together, not of each of them (`Catalog.expandAll_partition`). So
expansions of more patterns are unions, and negated ones are intersections. A broader pattern
expands to more, and leaves less (`Catalog.expand_subset_expand`).

## Shape of the proof

`Catalog.mem_expandAll_iff` says which actions are in an expansion. All expansions ascend, being
parts of a catalog, so two of them are equal as soon as the same actions are in them
(`Text.eq_of_mem_iff`).
-/

namespace StackAudit.Catalog

/-- Some of the patterns matches an action. A text that is no usable pattern matches nothing. -/
def Covers (patterns : List String) (action : String) : Prop :=
  ∃ p ∈ patterns, Wildcard.Usable p ∧ Wildcard.Matches p.toList action.toList

/-- The patterns of texts are those of the usable ones. -/
theorem mem_patternsOf_iff {patterns : List String} {w : Wildcard} :
    w ∈ patternsOf patterns ↔ ∃ p ∈ patterns, Wildcard.ofText p = .ok w := by
  rw [patternsOf, List.mem_filterMap]
  refine exists_congr fun p => and_congr_right fun _ => ?_
  cases Wildcard.ofText p <;> simp [Except.toOption]

/-- Some of the patterns of texts accepts what the texts cover. -/
theorem any_patternsOf_iff {patterns : List String} {action : String} :
    (patternsOf patterns).any (·.accepts action) = true ↔ Covers patterns action := by
  rw [List.any_eq_true]
  constructor
  · rintro ⟨w, hw, haccepts⟩
    obtain ⟨p, hp, hread⟩ := mem_patternsOf_iff.1 hw
    exact ⟨p, hp, ⟨w, hread⟩, (Wildcard.accepts_iff_matches hread action).1 haccepts⟩
  · rintro ⟨p, hp, ⟨w, hread⟩, hmatches⟩
    have haccepts := (Wildcard.accepts_iff_matches hread action).2 hmatches
    exact ⟨w, mem_patternsOf_iff.2 ⟨p, hp, hread⟩, haccepts⟩

/-- Usable patterns cover what one of them matches. -/
theorem covers_iff_of_usable {patterns : List String} (h : ∀ p ∈ patterns, Wildcard.Usable p)
    {action : String} :
    Covers patterns action ↔ ∃ p ∈ patterns, Wildcard.Matches p.toList action.toList := by
  constructor
  · rintro ⟨p, hp, -, hmatches⟩
    exact ⟨p, hp, hmatches⟩
  · rintro ⟨p, hp, hmatches⟩
    exact ⟨p, hp, h p hp, hmatches⟩

/-- What is covered depends on which the patterns are. -/
theorem covers_congr {patterns others : List String} (h : ∀ p, p ∈ others ↔ p ∈ patterns)
    (action : String) : Covers others action ↔ Covers patterns action := by
  simp only [Covers, h]

/-- More patterns cover what either of the two lists covers. -/
theorem covers_append_iff {patterns more : List String} {action : String} :
    Covers (patterns ++ more) action ↔ Covers patterns action ∨ Covers more action := by
  simp only [Covers, List.mem_append, or_and_right, exists_or]

/-- Nothing is covered without patterns. -/
theorem not_covers_nil (action : String) : ¬Covers [] action := by
  rintro ⟨p, hp, -⟩
  cases hp

/-- The catalog of some actions has these actions. -/
@[simp]
theorem mem_actions_ofList {version action : String} {actions : List String} :
    action ∈ (ofList version actions).actions ↔ action ∈ actions :=
  Text.mem_ascending

variable {c : Catalog} {patterns : List String}

/-- The actions in an expansion are those of the catalog that the patterns cover, or do not cover if
it is negated. -/
theorem mem_expandAll_iff {negate : Bool} {action : String} :
    action ∈ c.expandAll patterns negate ↔
      action ∈ c.actions ∧ (Covers patterns action ↔ negate = false) := by
  rw [expandAll, List.mem_filter, ← any_patternsOf_iff]
  cases (patternsOf patterns).any (·.accepts action) <;> cases negate <;> simp

/-- An expansion has what the catalog has and the patterns cover. -/
theorem mem_expandAll_false_iff {action : String} :
    action ∈ c.expandAll patterns false ↔ action ∈ c.actions ∧ Covers patterns action := by
  simp [mem_expandAll_iff]

/-- A negated expansion has what the catalog has and the patterns do not cover. -/
theorem mem_expandAll_true_iff {action : String} :
    action ∈ c.expandAll patterns true ↔ action ∈ c.actions ∧ ¬Covers patterns action := by
  simp [mem_expandAll_iff]

/-- An expansion ascends. -/
theorem pairwise_expandAll (c : Catalog) (patterns : List String) (negate : Bool) :
    (c.expandAll patterns negate).Pairwise (· < ·) :=
  c.ascending.filter _

/-- An expansion does not depend on the order and number of the patterns. -/
theorem expandAll_congr {others : List String} (h : ∀ p, p ∈ others ↔ p ∈ patterns)
    (negate : Bool) : c.expandAll others negate = c.expandAll patterns negate := by
  -- both ascend, so it is enough that they have the same actions
  refine Text.eq_of_mem_iff (pairwise_expandAll c others negate)
    (pairwise_expandAll c patterns negate) fun action => ?_
  rw [mem_expandAll_iff, mem_expandAll_iff, covers_congr h]

/-- More patterns expand to the union. -/
theorem expandAll_append_false (more : List String) :
    c.expandAll (patterns ++ more) false =
      Text.ascending (c.expandAll patterns false ++ c.expandAll more false) := by
  refine Text.eq_of_mem_iff (pairwise_expandAll c _ false) (Text.pairwise_ascending _)
    fun action => ?_
  rw [Text.mem_ascending, List.mem_append, mem_expandAll_false_iff, mem_expandAll_false_iff,
    mem_expandAll_false_iff, covers_append_iff, and_or_left]

/-- More patterns leave the intersection of what each of them leaves. -/
theorem expandAll_append_true (more : List String) :
    c.expandAll (patterns ++ more) true =
      (c.expandAll patterns true).filter (· ∈ c.expandAll more true) := by
  refine Text.eq_of_mem_iff (pairwise_expandAll c _ true)
    ((pairwise_expandAll c patterns true).filter _) fun action => ?_
  rw [List.mem_filter, decide_eq_true_iff, mem_expandAll_true_iff, mem_expandAll_true_iff,
    mem_expandAll_true_iff, covers_append_iff, not_or]
  tauto

/-- Without patterns all actions are left. -/
theorem expandAll_nil_true (c : Catalog) : c.expandAll [] true = c.actions := by
  refine Text.eq_of_mem_iff (pairwise_expandAll c [] true) c.ascending fun action => ?_
  rw [mem_expandAll_true_iff, and_iff_left (not_covers_nil action)]

/-- Expanding patterns and its negation part the catalog: both ascend by bytes, they have no action
in common, and together they have all of them. An action is in the first part if some pattern
matches it. The order and number of the patterns do not count, and more patterns make unions of
first parts and intersections of second ones. -/
theorem expandAll_partition (h : ∀ p ∈ patterns, Wildcard.Usable p) :
    (∀ negate, (c.expandAll patterns negate).Pairwise fun s t => Text.bytes s < Text.bytes t) ∧
      (c.expandAll patterns false).Disjoint (c.expandAll patterns true) ∧
      (∀ action, action ∈ c.expandAll patterns false ∨ action ∈ c.expandAll patterns true ↔
        action ∈ c.actions) ∧
      (∀ action ∈ c.actions, action ∈ c.expandAll patterns false ↔
        ∃ p ∈ patterns, Wildcard.Matches p.toList action.toList) ∧
      (∀ others, (∀ p, p ∈ others ↔ p ∈ patterns) → ∀ negate,
        c.expandAll others negate = c.expandAll patterns negate) ∧
      (∀ more, c.expandAll (patterns ++ more) false =
        Text.ascending (c.expandAll patterns false ++ c.expandAll more false)) ∧
      (∀ more, c.expandAll (patterns ++ more) true =
        (c.expandAll patterns true).filter (· ∈ c.expandAll more true)) ∧
      c.expandAll [] true = c.actions := by
  refine ⟨fun negate => Text.pairwise_bytes_lt (pairwise_expandAll c patterns negate), ?_, ?_, ?_,
    fun others hothers => expandAll_congr hothers, expandAll_append_false, expandAll_append_true,
    expandAll_nil_true c⟩
  · intro action hmatched hleft
    exact (mem_expandAll_true_iff.1 hleft).2 (mem_expandAll_false_iff.1 hmatched).2
  · intro action
    rw [mem_expandAll_false_iff, mem_expandAll_true_iff, ← and_or_left, and_iff_left (em _)]
  · intro action haction
    rw [mem_expandAll_false_iff, and_iff_right haction, covers_iff_of_usable h]

/-- A catalog of three actions. -/
def instanceCatalog : Catalog :=
  .ofList "" ["ec2:RunInstances", "ec2:RunScheduledInstances", "iam:PassRole"]

/-- Of the three actions two are to run instances; the other one is left. -/
theorem expandAll_partition_instances :
    (∀ p ∈ ["ec2:Run?nstances", "EC2:run*"], Wildcard.Usable p) ∧
      "ec2:RunScheduledInstances" ∈
        instanceCatalog.expandAll ["ec2:Run?nstances", "EC2:run*"] false ∧
      "iam:PassRole" ∈ instanceCatalog.expandAll ["ec2:Run?nstances", "EC2:run*"] true := by
  have husable : ∀ p ∈ ["ec2:Run?nstances", "EC2:run*"], Wildcard.Usable p := by
    intro p hp
    rcases List.mem_cons.1 hp with rfl | hp
    · exact ⟨_, rfl⟩
    · obtain rfl := List.mem_singleton.1 hp
      exact ⟨_, rfl⟩
  obtain ⟨-, -, htogether, hmatched, -⟩ := expandAll_partition (c := instanceCatalog) husable
  have hscheduled : "ec2:RunScheduledInstances" ∈ instanceCatalog.actions := by
    simp [instanceCatalog]
  have hpass : "iam:PassRole" ∈ instanceCatalog.actions := by simp [instanceCatalog]
  refine ⟨husable, (hmatched _ hscheduled).2 ⟨"EC2:run*", by simp, by decide⟩, ?_⟩
  refine ((htogether _).2 hpass).resolve_left fun hin => ?_
  -- no pattern matches, and there are only two to try
  revert hin
  rw [hmatched _ hpass]
  decide

/-! ## Broader patterns -/

/-- Patterns that cover more expand to more, and leave less. -/
theorem expandAll_subset_expandAll {broader : List String}
    (h : ∀ action, Covers patterns action → Covers broader action) :
    c.expandAll patterns false ⊆ c.expandAll broader false ∧
      c.expandAll broader true ⊆ c.expandAll patterns true := by
  constructor
  · intro action haction
    obtain ⟨hmem, hcovers⟩ := mem_expandAll_false_iff.1 haction
    exact mem_expandAll_false_iff.2 ⟨hmem, h action hcovers⟩
  · intro action haction
    obtain ⟨hmem, hleft⟩ := mem_expandAll_true_iff.1 haction
    exact mem_expandAll_true_iff.2 ⟨hmem, mt (h action) hleft⟩

/-- A pattern accepts its own text. If a pattern without question marks accepts this text too, it
accepts all that the first one does. So in every catalog it expands to no less, and leaves no more.
-/
theorem expand_subset_expand {p : String} {w : Wildcard} (h : Wildcard.ofText p = .ok w) :
    w.accepts p = true ∧
      ∀ q broader, '?' ∉ q.toList → Wildcard.ofText q = .ok broader → broader.accepts p = true →
        (∀ text, w.accepts text = true → broader.accepts text = true) ∧
        ∀ c : Catalog, c.expand p false ⊆ c.expand q false ∧ c.expand q true ⊆ c.expand p true := by
  refine ⟨(Wildcard.accepts_iff_matches h p).2 (Wildcard.matches_self p.toList), ?_⟩
  intro q broader hmark hread haccepts
  have hbroad := (Wildcard.accepts_iff_matches hread p).1 haccepts
  refine ⟨fun text htext => ?_, fun c => expandAll_subset_expandAll fun action hcovers => ?_⟩
  · -- `broader` matches `p` as a text, and `p` as a pattern matches `text`
    rw [Wildcard.accepts_iff_matches h] at htext
    exact (Wildcard.accepts_iff_matches hread text).2 (hbroad.trans hmark htext)
  · obtain ⟨_, hp, -, hmatches⟩ := hcovers
    obtain rfl := List.mem_singleton.1 hp
    exact ⟨q, List.mem_singleton_self q, ⟨broader, hread⟩, hbroad.trans hmark hmatches⟩

/-- What gets an object gets something. -/
theorem expand_subset_expand_get :
    ∃ w broader, Wildcard.ofText "s3:Get?bject*" = .ok w ∧ Wildcard.ofText "S3:get*" = .ok broader ∧
      w.accepts "s3:Get?bject*" = true ∧ broader.accepts "s3:Get?bject*" = true ∧
      ∀ c : Catalog, c.expand "s3:Get?bject*" false ⊆ c.expand "S3:get*" false ∧
        c.expand "S3:get*" true ⊆ c.expand "s3:Get?bject*" true := by
  refine ⟨_, _, rfl, rfl, ?_⟩
  obtain ⟨hself, hbroader⟩ := expand_subset_expand (p := "s3:Get?bject*") rfl
  exact ⟨hself, by decide, (hbroader "S3:get*" _ (by decide) rfl (by decide)).2⟩

end StackAudit.Catalog
