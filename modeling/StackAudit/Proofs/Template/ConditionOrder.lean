import StackAudit.Proofs.Resolution.Locality
import StackAudit.Proofs.Sequencing
import StackAudit.Template.Conditions

/-!
# The order in which conditions are decided

If conditions ask only for conditions that stand before them, then the scope in which the last one
has been decided is a fixpoint: every condition has its verdict in it too. Since the verdicts are
those of the fixpoint, they do not depend on the order in which the conditions stand.

## Shape of the proof

A run changes the conditions of the scope at the decided names only (`decideConditions_frame`), and
a condition does not see the names from its own place on. So its node is resolved alike before it is
decided and in the final scope (`settles_of_decideConditions`). Conversely a scope that settles all
conditions is where every run ends that starts from what the conditions do not see
(`decideConditions_of_settles`); both a second run and a run in another order are such runs.
-/

namespace StackAudit

/-- Every condition asks, by literal names, only for conditions that stand before it or that are not
in the list at all. -/
def NamesEarlier (conditions : List (String × Node)) : Prop :=
  ∀ before name node after, conditions = before ++ (name, node) :: after →
    node.AsksOnly fun asked => asked ∈ before.map Prod.fst ∨ asked ∉ conditions.map Prod.fst

/-- It is enough to look at each place of the list. -/
theorem namesEarlier_iff {conditions : List (String × Node)} :
    NamesEarlier conditions ↔ ∀ i (_ : i < conditions.length), conditions[i].2.AsksOnly fun asked =>
      asked ∈ (conditions.take i).map Prod.fst ∨ asked ∉ conditions.map Prod.fst := by
  constructor
  · intro h i hi
    refine h (conditions.take i) conditions[i].1 conditions[i].2 (conditions.drop (i + 1)) ?_
    show conditions = conditions.take i ++ conditions[i] :: conditions.drop (i + 1)
    rw [← List.drop_eq_getElem_cons hi, List.take_append_drop]
  · intro h before name node after heq
    have hi : before.length < conditions.length := by
      rw [heq, List.length_append, List.length_cons]
      omega
    have hplace := h before.length hi
    simpa [heq] using hplace

instance (conditions : List (String × Node)) : Decidable (NamesEarlier conditions) :=
  decidable_of_iff _ namesEarlier_iff.symm

/-- No condition asks for itself or for one that stands behind it. -/
def NamesNotLater (conditions : List (String × Node)) : Prop :=
  ∀ before name node after, conditions = before ++ (name, node) :: after →
    node.AsksOnly (· ∉ name :: after.map Prod.fst)

/-- The verdict of a condition in a scope is the one that its node has there. -/
def Scope.Settles (scope : Scope) (c : String × Node) : Prop :=
  ∃ b, c.2.resolve scope = .ok (.bool b) ∧ scope.conditions.get? c.1 = some b

/-- The verdicts of conditions in a scope. -/
def Scope.verdictsOn (scope : Scope) (conditions : List (String × Node)) : List (String × Bool) :=
  conditions.map fun c => (c.1, scope.condition c.1)

/-- Two scopes differ at most in the conditions of the given names. -/
structure Scope.AgreeOff (names : List String) (scope other : Scope) : Prop where
  params : scope.params = other.params
  mappings : scope.mappings = other.mappings
  get? : ∀ name, name ∉ names → scope.conditions.get? name = other.conditions.get? name

namespace Scope

variable {names : List String} {scope other : Scope}

/-- Scopes that differ in some conditions only agree for what asks for none of these. -/
theorem AgreeOff.agreeOn (h : scope.AgreeOff names other) : scope.AgreeOn (· ∉ names) other :=
  ⟨h.params, h.mappings, fun name hname => by rw [condition, condition, h.get? name hname]⟩

/-- Scopes that differ in no condition are equal. -/
theorem AgreeOff.eq (h : scope.AgreeOff [] other) : scope = other := by
  obtain ⟨params, mappings, conditions⟩ := scope
  obtain ⟨params', mappings', conditions'⟩ := other
  have hconditions : conditions = conditions' := Table.ext_get? fun n => h.get? n (by simp)
  rw [show params = params' from h.params, show mappings = mappings' from h.mappings, hconditions]

/-- Deciding a condition as in the other scope leaves one name less to differ in. -/
theorem AgreeOff.withCondition {name : String} {b : Bool} (h : scope.AgreeOff (name :: names) other)
    (hb : other.conditions.get? name = some b) :
    (scope.withCondition name b).AgreeOff names other := by
  refine ⟨h.params, h.mappings, fun n hn => ?_⟩
  rw [Scope.withCondition, Table.get?_insert]
  by_cases heq : n = name
  · rw [if_pos heq, heq, hb]
  · rw [if_neg heq]
    exact h.get? n (by simp [heq, hn])

/-- A settled condition is decided as its node. -/
theorem Settles.resolve {c : String × Node} (h : scope.Settles c) :
    c.2.resolve scope = .ok (.bool (scope.condition c.1)) := by
  obtain ⟨b, hb, hget⟩ := h
  rw [hb, condition, hget, Option.getD_some]

end Scope

/-- The first condition asks neither for itself nor for any other of the row. -/
theorem NamesNotLater.head {c : String × Node} {rest : List (String × Node)}
    (h : NamesNotLater (c :: rest)) : c.2.AsksOnly (· ∉ c.1 :: rest.map Prod.fst) :=
  h [] c.1 c.2 rest rfl

/-- The conditions after the first one do not ask for later ones either. -/
theorem NamesNotLater.tail {c : String × Node} {rest : List (String × Node)}
    (h : NamesNotLater (c :: rest)) : NamesNotLater rest :=
  fun before name node after heq => h (c :: before) name node after (by rw [heq, List.cons_append])

/-- What stands before a condition does not stand behind it if names are distinct. -/
theorem NamesEarlier.namesNotLater {conditions : List (String × Node)}
    (hnames : (conditions.map Prod.fst).Nodup) (h : NamesEarlier conditions) :
    NamesNotLater conditions := by
  intro before name node after heq
  refine (h before name node after heq).imp fun asked hasked hlater => ?_
  rw [heq, List.map_append, List.map_cons] at hnames hasked
  rcases hasked with hbefore | hnowhere
  · exact (List.nodup_append.1 hnames).2.2 asked hbefore asked hlater rfl
  · exact hnowhere (List.mem_append_right _ hlater)

/-! ## Runs -/

variable {conditions : List (String × Node)} {scope final : Scope}

/-- A boolean is a verdict, and nothing else is. -/
theorem verdict_eq_ok_iff {name : String} {value : Value} {b : Bool} :
    verdict name value = .ok b ↔ value = .bool b := by
  cases value <;> simp [verdict]

/-- A condition has a verdict if its node resolves to a boolean. -/
theorem resolve_verdict_eq_ok_iff {name : String} {node : Node} {b : Bool} :
    (node.resolve scope >>= verdict name) = .ok b ↔ node.resolve scope = .ok (.bool b) := by
  rw [bind_eq_ok_iff]
  constructor
  · rintro ⟨value, hvalue, hb⟩
    rw [hvalue, verdict_eq_ok_iff.1 hb]
  · intro h
    exact ⟨.bool b, h, rfl⟩

/-- A run that succeeds decides its first condition and goes on with the others. -/
theorem decideConditions_cons_eq_ok_iff {c : String × Node} {rest : List (String × Node)}
    {verdicts : List (String × Bool)} :
    decideConditions (c :: rest) scope = (.ok verdicts, final) ↔
      ∃ b others, c.2.resolve scope = .ok (.bool b) ∧ verdicts = (c.1, b) :: others ∧
        decideConditions rest (scope.withCondition c.1 b) = (.ok others, final) := by
  obtain ⟨name, node⟩ := c
  rw [decideConditions]
  constructor
  · intro h
    split at h
    · cases h
    · next b hb =>
      cases hrest : decideConditions rest (scope.withCondition name b) with
      | mk result last =>
        rw [hrest] at h
        cases result with
        | error e => cases h
        | ok others =>
          cases h
          exact ⟨b, others, resolve_verdict_eq_ok_iff.1 hb, rfl, hrest⟩
  · rintro ⟨b, others, hb, rfl, hrest⟩
    have hverdict : (node.resolve scope >>= verdict name) = .ok b :=
      resolve_verdict_eq_ok_iff.2 hb
    dsimp only at hrest
    simp only [hverdict, hrest, Except.map]

/-- A run, whether it succeeds or not, changes the conditions of the scope at the decided names
only. -/
theorem decideConditions_frame (conditions : List (String × Node)) (scope : Scope) :
    scope.AgreeOff (conditions.map Prod.fst) (decideConditions conditions scope).2 := by
  induction conditions generalizing scope with
  | nil => exact ⟨rfl, rfl, fun _ _ => rfl⟩
  | cons c rest ih =>
    obtain ⟨name, node⟩ := c
    rw [decideConditions]
    split
    · exact ⟨rfl, rfl, fun _ _ => rfl⟩
    · next b hb =>
      -- the verdict is entered under its own name, and the rest of the run keeps to its names
      have hrest := ih (scope.withCondition name b)
      refine ⟨hrest.params, hrest.mappings, fun n hn => ?_⟩
      rw [List.map_cons, List.mem_cons, not_or] at hn
      rw [← hrest.get? n hn.2, Scope.withCondition, Table.get?_insert, if_neg hn.1]

/-- After a run that succeeds every condition is settled, and its verdict is the one that the run
gave it. -/
theorem settles_of_decideConditions (hnames : (conditions.map Prod.fst).Nodup)
    (hlater : NamesNotLater conditions) {verdicts : List (String × Bool)}
    (h : decideConditions conditions scope = (.ok verdicts, final)) :
    (∀ c ∈ conditions, final.Settles c) ∧ verdicts = final.verdictsOn conditions := by
  induction conditions generalizing scope verdicts with
  | nil =>
    cases h
    exact ⟨by simp, rfl⟩
  | cons c rest ih =>
    -- what the first node asks for is the same before the run and after it
    have hframe : scope.AgreeOff ((c :: rest).map Prod.fst) final := by
      rw [show final = (decideConditions (c :: rest) scope).2 by rw [h]]
      exact decideConditions_frame (c :: rest) scope
    obtain ⟨b, others, hb, rfl, hrest⟩ := decideConditions_cons_eq_ok_iff.1 h
    obtain ⟨hhead, htail⟩ := List.nodup_cons.1 hnames
    obtain ⟨hsettled, rfl⟩ := ih htail hlater.tail hrest
    -- its verdict is still there at the end: no condition behind it has its name
    have hget : final.conditions.get? c.1 = some b := by
      have hframe' := decideConditions_frame rest (scope.withCondition c.1 b)
      rw [hrest] at hframe'
      rw [← hframe'.get? c.1 hhead, Scope.withCondition, Table.get?_insert, if_pos rfl]
    have hc : final.Settles c :=
      ⟨b, by rw [← Node.resolve_congr hframe.agreeOn hlater.head, hb], hget⟩
    refine ⟨List.forall_mem_cons.2 ⟨hc, hsettled⟩, ?_⟩
    rw [Scope.verdictsOn, Scope.verdictsOn, List.map_cons, Scope.condition, hget, Option.getD_some]

/-- A scope that settles all conditions is where every run ends that starts from a scope which
differs from it at most in these conditions. -/
theorem decideConditions_of_settles (hlater : NamesNotLater conditions)
    (hsettled : ∀ c ∈ conditions, final.Settles c)
    (hagree : scope.AgreeOff (conditions.map Prod.fst) final) :
    decideConditions conditions scope = (.ok (final.verdictsOn conditions), final) := by
  induction conditions generalizing scope with
  | nil => rw [decideConditions, hagree.eq]; rfl
  | cons c rest ih =>
    obtain ⟨hc, hrest⟩ := List.forall_mem_cons.1 hsettled
    obtain ⟨b, hb, hget⟩ := hc
    refine decideConditions_cons_eq_ok_iff.2 ⟨b, final.verdictsOn rest, ?_, ?_, ?_⟩
    · -- the node sees none of the names in which the two scopes differ
      rw [Node.resolve_congr hagree.agreeOn hlater.head, hb]
    · rw [Scope.verdictsOn, List.map_cons, Scope.condition, hget]; rfl
    · exact ih hlater.tail hrest (hagree.withCondition hget)

/-- If conditions ask only for earlier ones, then the final scope of a run that succeeds is a
fixpoint: in it every node resolves to the verdict of its condition, a second run gives the same
verdicts and changes nothing, and so does, up to order, a run from the first scope in any other
order in which conditions ask only for earlier ones. -/
theorem decideConditions_stable (hnames : (conditions.map Prod.fst).Nodup)
    (hearlier : NamesEarlier conditions) {verdicts : List (String × Bool)}
    (h : decideConditions conditions scope = (.ok verdicts, final)) :
    List.Forall₂ (fun c v => v.1 = c.1 ∧ c.2.resolve final = .ok (.bool v.2)) conditions verdicts ∧
      decideConditions conditions final = (.ok verdicts, final) ∧
      ∀ other : List (String × Node), other.Perm conditions → NamesEarlier other →
        ∃ verdicts', decideConditions other scope = (.ok verdicts', final) ∧
          verdicts'.Perm verdicts ∧ ∀ name, verdicts'.lookup name = verdicts.lookup name := by
  have hlater := hearlier.namesNotLater hnames
  have hframe : scope.AgreeOff (conditions.map Prod.fst) final := by
    rw [show final = (decideConditions conditions scope).2 by rw [h]]
    exact decideConditions_frame conditions scope
  obtain ⟨hsettled, rfl⟩ := settles_of_decideConditions hnames hlater h
  refine ⟨?_, ?_, fun other hperm hother => ?_⟩
  · rw [Scope.verdictsOn, List.forall₂_map_right_iff]
    exact List.forall₂_same.2 fun c hc => ⟨rfl, (hsettled c hc).resolve⟩
  · -- a second run starts from the settled scope itself
    exact decideConditions_of_settles hlater hsettled ⟨rfl, rfl, fun _ _ => rfl⟩
  · have hnames' : (other.map Prod.fst).Nodup := (hperm.map Prod.fst).symm.nodup hnames
    have hverdicts : (final.verdictsOn other).Perm (final.verdictsOn conditions) := hperm.map _
    -- the other order has the same names, so the first scope is as far from the settled one
    refine ⟨final.verdictsOn other, ?_, hverdicts, fun name => ?_⟩
    · refine decideConditions_of_settles (hother.namesNotLater hnames')
        (fun c hc => hsettled c (hperm.subset hc)) ?_
      exact ⟨hframe.params, hframe.mappings, fun name hname =>
        hframe.get? name fun hmem => hname ((hperm.map Prod.fst).symm.subset hmem)⟩
    · refine Entries.lookup_eq_of_perm hverdicts ?_ name
      rwa [Scope.verdictsOn, List.map_map]

/-- Three conditions: the second asks for the first, and the third for one that is not declared. -/
def stageConditions : List (String × Node) :=
  [("IsProd", .call .equals (.list [.call .ref (.string "Env"), .string "prod"])),
    ("IsOpen", .map [("Fn::Not", .list [.map [("Condition", .string "IsProd")]])]),
    ("IsOld", .call .ifElse (.list [.string "Nowhere", .bool true, .bool false]))]

/-- A scope that already has a verdict for the second of these conditions. -/
def stageScope : Scope :=
  (Scope.empty.withParam "Env" (.string "prod")).withCondition "IsOpen" true

/-- The three conditions are settled by one run, with the last one in its place or moved to the
front. -/
theorem decideConditions_stable_stages :
    (stageConditions.map Prod.fst).Nodup ∧ NamesEarlier stageConditions ∧
      NamesEarlier (stageConditions.drop 2 ++ stageConditions.take 2) ∧
      ∃ final, decideConditions stageConditions stageScope =
          (.ok [("IsProd", true), ("IsOpen", false), ("IsOld", false)], final) ∧
        decideConditions stageConditions final =
          (.ok [("IsProd", true), ("IsOpen", false), ("IsOld", false)], final) ∧
        ∃ verdicts, decideConditions (stageConditions.drop 2 ++ stageConditions.take 2) stageScope =
            (.ok verdicts, final) ∧ verdicts.lookup "IsOpen" = some false := by
  have hnames : (stageConditions.map Prod.fst).Nodup := by decide
  have hearlier : NamesEarlier stageConditions := by decide
  have hother : NamesEarlier (stageConditions.drop 2 ++ stageConditions.take 2) := by decide
  have hperm : (stageConditions.drop 2 ++ stageConditions.take 2).Perm stageConditions :=
    List.perm_append_comm.trans (by rw [List.take_append_drop])
  have hrun : decideConditions stageConditions stageScope =
      (.ok [("IsProd", true), ("IsOpen", false), ("IsOld", false)],
        (decideConditions stageConditions stageScope).2) := rfl
  obtain ⟨-, hagain, horder⟩ := decideConditions_stable hnames hearlier hrun
  obtain ⟨verdicts, hverdicts, -, hlookup⟩ := horder _ hperm hother
  exact ⟨hnames, hearlier, hother, _, hrun, hagain, verdicts, hverdicts, by rw [hlookup]; rfl⟩

end StackAudit
