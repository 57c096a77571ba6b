import StackAudit.Proofs.Template.ConditionOrder

/-!
# Runs of conditions, step by step

A run decides one condition after the other. It ends at the first condition without a verdict, in
the scope that the verdicts before it have made: they have been entered, and nothing else has
changed (`decideConditions_sequence`).

What a run has entered is looked up as the last verdict of a name (`Scope.get?_withConditions`).
`Scope.Decides` says which verdicts a row of conditions has, and `Scope.Refuses` which error a
condition has that has no verdict. Both speak of what single nodes resolve to, and of no run. Runs
that succeed and runs that fail are put in these terms by `decideConditions_eq_ok_iff` and
`decideConditions_eq_error_iff`. Both rest on the two steps that a run can take
(`decideConditions_of_bool` and `decideConditions_of_refuses`).
-/

namespace StackAudit

namespace Scope

/-- Enters verdicts, one after the other. -/
def withConditions (scope : Scope) (verdicts : List (String × Bool)) : Scope :=
  verdicts.foldl (fun scope v => scope.withCondition v.1 v.2) scope

/-- Conditions have these verdicts: each node resolves to its verdict in the scope into which those
before it have been entered. -/
inductive Decides : Scope → List (String × Node) → List (String × Bool) → Prop where
  | nil (scope : Scope) : Decides scope [] []
  | cons {scope : Scope} {name : String} {node : Node} {b : Bool} {rest : List (String × Node)}
      {verdicts : List (String × Bool)} : node.resolve scope = .ok (.bool b) →
      Decides (scope.withCondition name b) rest verdicts →
      Decides scope ((name, node) :: rest) ((name, b) :: verdicts)

/-- A condition has no verdict in a scope: its node does not resolve, or not to a boolean. -/
inductive Refuses (scope : Scope) : String × Node → Error → Prop where
  | unresolved {name : String} {node : Node} {e : Error} : node.resolve scope = .error e →
      Refuses scope (name, node) e
  | notBoolean {name : String} {node : Node} {value : Value} : node.resolve scope = .ok value →
      (∀ b, value ≠ .bool b) →
      Refuses scope (name, node) (.invalidBooleanCoercion name value.text)

/-- The verdicts stand under the names of the conditions. -/
theorem Decides.map_fst_eq {scope : Scope} {conditions : List (String × Node)}
    {verdicts : List (String × Bool)} (h : scope.Decides conditions verdicts) :
    verdicts.map Prod.fst = conditions.map Prod.fst := by
  induction h with
  | nil scope => rfl
  | cons _ _ ih => rw [List.map_cons, List.map_cons, ih]

/-- Of the verdicts that are entered under a name the last one counts. -/
theorem get?_withConditions (scope : Scope) (verdicts : List (String × Bool)) (n : String) :
    (scope.withConditions verdicts).conditions.get? n =
      (verdicts.reverse.lookup n).or (scope.conditions.get? n) := by
  induction verdicts generalizing scope with
  | nil => rfl
  | cons v rest ih =>
    -- the first verdict is the last of the reversed row, where it yields to all others
    show ((scope.withCondition v.1 v.2).withConditions rest).conditions.get? n = _
    rw [ih, withCondition, Table.get?_insert, List.reverse_cons, List.lookup_append,
      Option.or_assoc, Entries.lookup_cons_ite, List.lookup_nil]
    by_cases hn : n = v.1
    · rw [if_pos hn, if_pos hn, Option.some_or]
    · rw [if_neg hn, if_neg hn, Option.none_or]

end Scope

/-! ## One condition -/

variable {scope final : Scope}

/-- What is no boolean is no verdict, and the error tells its text. -/
theorem verdict_eq_error_iff {name : String} {value : Value} {e : Error} :
    verdict name value = .error e ↔
      (∀ b, value ≠ .bool b) ∧ e = .invalidBooleanCoercion name value.text := by
  cases value <;> simp [verdict, eq_comm]

/-- A condition fails in a scope with the error with which the scope refuses it. -/
theorem resolve_verdict_eq_error_iff {name : String} {node : Node} {e : Error} :
    (node.resolve scope >>= verdict name) = .error e ↔ scope.Refuses (name, node) e := by
  constructor
  · intro h
    cases hnode : node.resolve scope with
    | error reason =>
      rw [hnode] at h
      cases h
      exact .unresolved hnode
    | ok value =>
      rw [hnode] at h
      obtain ⟨hvalue, rfl⟩ := verdict_eq_error_iff.1 h
      exact .notBoolean hnode hvalue
  · intro h
    cases h with
    | unresolved hnode => rw [hnode]; rfl
    | notBoolean hnode hvalue => rw [hnode]; exact verdict_eq_error_iff.2 ⟨hvalue, rfl⟩

/-- A condition has a verdict in a scope, or the scope refuses it. -/
theorem exists_bool_or_refuses (scope : Scope) (c : String × Node) :
    (∃ b, c.2.resolve scope = .ok (.bool b)) ∨ ∃ e, scope.Refuses c e := by
  obtain ⟨name, node⟩ := c
  cases h : node.resolve scope >>= verdict name with
  | error e => exact .inr ⟨e, resolve_verdict_eq_error_iff.1 h⟩
  | ok b => exact .inl ⟨b, resolve_verdict_eq_ok_iff.1 h⟩

/-- A condition without a verdict ends the run where it stands. -/
theorem decideConditions_of_refuses {c : String × Node} {e : Error} (h : scope.Refuses c e)
    (rest : List (String × Node)) : decideConditions (c :: rest) scope = (.error e, scope) := by
  obtain ⟨name, node⟩ := c
  rw [decideConditions, resolve_verdict_eq_error_iff.2 h]

/-- A condition with a verdict hands on the scope with the verdict in it. -/
theorem decideConditions_of_bool {c : String × Node} {b : Bool}
    (h : c.2.resolve scope = .ok (.bool b)) (rest : List (String × Node)) :
    decideConditions (c :: rest) scope =
      ((decideConditions rest (scope.withCondition c.1 b)).1.map ((c.1, b) :: ·),
        (decideConditions rest (scope.withCondition c.1 b)).2) := by
  obtain ⟨name, node⟩ := c
  have hverdict : (node.resolve scope >>= verdict name) = .ok b := resolve_verdict_eq_ok_iff.2 h
  rw [decideConditions, hverdict]

/-! ## Rows of conditions -/

/-- Two rows are decided one after the other: an error in the first one ends the run, and otherwise
the second one starts where the first one has ended. -/
theorem decideConditions_append (first second : List (String × Node)) (scope : Scope) :
    decideConditions (first ++ second) scope =
      match decideConditions first scope with
      | (.error e, reached) => (.error e, reached)
      | (.ok verdicts, reached) => ((decideConditions second reached).1.map (verdicts ++ ·),
          (decideConditions second reached).2) := by
  induction first generalizing scope with
  | nil =>
    show decideConditions second scope = ((decideConditions second scope).1.map ([] ++ ·), _)
    -- on the left there is no first row whose verdicts would be put in front
    cases decideConditions second scope with
    | mk result final => cases result <;> rfl
  | cons c rest ih =>
    rw [List.cons_append]
    rcases exists_bool_or_refuses scope c with ⟨b, hb⟩ | ⟨e, he⟩
    · rw [decideConditions_of_bool hb, decideConditions_of_bool hb, ih]
      cases decideConditions rest (scope.withCondition c.1 b) with
      | mk result reached =>
        cases result with
        | error e => rfl
        | ok verdicts =>
          dsimp only [Except.map]
          cases (decideConditions second reached).1 <;> rfl
    · -- the run ends here, whether or not a second row follows
      rw [decideConditions_of_refuses he, decideConditions_of_refuses he]

/-- A run succeeds with the verdicts that the conditions have, and ends in the scope into which they
have been entered. -/
theorem decideConditions_eq_ok_iff {conditions : List (String × Node)}
    {verdicts : List (String × Bool)} :
    decideConditions conditions scope = (.ok verdicts, final) ↔
      scope.Decides conditions verdicts ∧ final = scope.withConditions verdicts := by
  constructor
  · intro h
    induction conditions generalizing scope verdicts with
    | nil =>
      cases h
      exact ⟨.nil _, rfl⟩
    | cons c rest ih =>
      obtain ⟨b, others, hb, rfl, hrest⟩ := decideConditions_cons_eq_ok_iff.1 h
      obtain ⟨hothers, rfl⟩ := ih hrest
      exact ⟨.cons hb hothers, rfl⟩
  · rintro ⟨h, rfl⟩
    induction h with
    | nil scope => rfl
    | cons hb _ ih => exact decideConditions_cons_eq_ok_iff.2 ⟨_, _, hb, rfl, ih⟩

/-- A run fails at a condition that is refused in the scope which the verdicts before it have made,
and ends in this scope. -/
theorem decideConditions_eq_error_iff {conditions : List (String × Node)} {e : Error} :
    decideConditions conditions scope = (.error e, final) ↔ ∃ decided refused rest verdicts,
      conditions = decided ++ refused :: rest ∧ scope.Decides decided verdicts ∧
        final = scope.withConditions verdicts ∧ final.Refuses refused e := by
  constructor
  · intro h
    induction conditions generalizing scope with
    | nil => cases h
    | cons c rest ih =>
      rcases exists_bool_or_refuses scope c with ⟨b, hb⟩ | ⟨reason, hreason⟩
      · rw [decideConditions_of_bool hb] at h
        cases hrun : decideConditions rest (scope.withCondition c.1 b) with
        | mk result last =>
          rw [hrun] at h
          cases result with
          | ok verdicts => cases h
          | error reason =>
            cases h
            -- the rest fails further on, in a scope that has the first verdict too
            obtain ⟨decided, refused, others, verdicts, rfl, hdecided, hfinal, hrefused⟩ := ih hrun
            exact ⟨c :: decided, refused, others, (c.1, b) :: verdicts, rfl, .cons hb hdecided,
              hfinal, hrefused⟩
      · rw [decideConditions_of_refuses hreason] at h
        cases h
        exact ⟨[], c, rest, [], rfl, .nil _, rfl, hreason⟩
  · -- the decided ones are a row of their own, which ends where the refused one stands
    rintro ⟨decided, refused, rest, verdicts, rfl, hdecided, rfl, hrefused⟩
    rw [decideConditions_append, decideConditions_eq_ok_iff.2 ⟨hdecided, rfl⟩]
    dsimp only
    rw [decideConditions_of_refuses hrefused]
    rfl

/-- Conditions are decided in sequence. Two rows, one after the other, are decided as two runs of
which the second starts where the first has ended, unless the first has failed. Every run keeps the
parameters and mappings, and the conditions under all names but those decided. A run that succeeds
has entered its verdicts, and one that fails has entered the verdicts of the conditions before the
one that is refused, and nothing else. Of the verdicts that are entered under a name the last one is
found, and where there is none what was there before. -/
theorem decideConditions_sequence (scope : Scope) :
    (∀ first second, decideConditions (first ++ second) scope =
      match decideConditions first scope with
      | (.error e, reached) => (.error e, reached)
      | (.ok verdicts, reached) => ((decideConditions second reached).1.map (verdicts ++ ·),
          (decideConditions second reached).2)) ∧
    (∀ conditions,
      scope.AgreeOff (conditions.map Prod.fst) (decideConditions conditions scope).2) ∧
    (∀ conditions verdicts final, decideConditions conditions scope = (.ok verdicts, final) ↔
      scope.Decides conditions verdicts ∧ final = scope.withConditions verdicts) ∧
    (∀ conditions e final, decideConditions conditions scope = (.error e, final) ↔
      ∃ decided refused rest verdicts, conditions = decided ++ refused :: rest ∧
        scope.Decides decided verdicts ∧ final = scope.withConditions verdicts ∧
        final.Refuses refused e) ∧
    ∀ verdicts name, (scope.withConditions verdicts).conditions.get? name =
      (verdicts.reverse.lookup name).or (scope.conditions.get? name) :=
  ⟨fun first second => decideConditions_append first second scope,
    fun conditions => decideConditions_frame conditions scope,
    fun _ _ _ => decideConditions_eq_ok_iff, fun _ _ _ => decideConditions_eq_error_iff,
    scope.get?_withConditions⟩

/-- The second condition is decided over an older verdict of its name, and the third one ends the
run. -/
example :
    let scope := Scope.empty.withCondition "IsOpen" true
    let conditions := [("IsProd", Node.bool true),
      ("IsOpen", .call .not (.list [.call .condition (.string "IsProd")])),
      ("IsOld", .string "yes"), ("IsNew", .bool true)]
    decideConditions conditions scope = (.error (.invalidBooleanCoercion "IsOld" "yes"),
      scope.withConditions [("IsProd", true), ("IsOpen", false)]) := rfl

end StackAudit
