import StackAudit.Proofs.Template.ConditionRuns
import StackAudit.Template.Resolved

/-!
# What survives the resolution of a template

A resource or output survives unless it is a map that names a condition which is not true. The
resolved template has the survivors and nothing else, each resolved in the scope of all verdicts;
what is dropped is never looked into (`Template.resolve_survivors`).

## Shape of the proof

`Template.resolve_eq` puts resolution as a row of steps, one for each survivor, after the verdicts.
It rests on two facts about the scope in which a run of the conditions ends: its conditions are the
verdicts of the run (`Template.decideConditions_initialScope`), so what is kept in it is what
survives the verdicts (`survives_eq_isKept`). The rest is about rows: they succeed if every step
does, and they are equal if what survives is.
-/

namespace StackAudit

/-- An entry survives verdicts unless it is a map with a string under `Condition` and the verdict of
that name is not true, or there is none. Of two verdicts of one name the later counts. -/
def survives (verdicts : List (String × Bool)) (entry : Node) : Bool :=
  match entry.get? "Condition" with
  | some (.string name) => (Table.ofList verdicts).get? name = some true
  | _ => true

namespace Template

/-- The verdicts of the conditions of a template. -/
def verdicts (t : Template) (settings : Settings) : Except Error (List (String × Bool)) :=
  (decideConditions t.conditions (t.initialScope settings)).1

/-- The parameters and mappings of a template, with the verdicts of all conditions. -/
def scopeWith (t : Template) (settings : Settings) (verdicts : List (String × Bool)) : Scope where
  params := effectiveParams settings.pseudo (t.parameters.map (·.2)) settings.overrides
  mappings := t.mappings
  conditions := .ofList verdicts

/-- The entries that survive, with what they resolve to in the scope of all verdicts. -/
def survivors (t : Template) (settings : Settings) (verdicts : List (String × Bool))
    (entries : List (String × Node)) : Except Error (List (String × Value)) :=
  (entries.filter (survives verdicts ·.2)).mapM fun entry =>
    (entry.2.resolve (t.scopeWith settings verdicts)).map (entry.1, ·)

/-- An entry stands in for another: it is the same, or the other one is a map that does not survive
the verdicts of the template and it is a map with the same member `Condition`. -/
inductive StandsIn (t : Template) (settings : Settings) : String × Node → String × Node → Prop where
  | same (entry : String × Node) : StandsIn t settings entry entry
  | dropped {id : String} {entries others : List (String × Node)} :
      (∀ verdicts, t.verdicts settings = .ok verdicts → survives verdicts (.map entries) = false) →
      others.lookup "Condition" = entries.lookup "Condition" →
      StandsIn t settings (id, .map entries) (id, .map others)

/-- Two templates differ at most in what is dropped from the first. -/
structure DiffersInDropped (t : Template) (settings : Settings) (u : Template) : Prop where
  parameters : u.parameters = t.parameters
  mappings : u.mappings = t.mappings
  conditions : u.conditions = t.conditions
  resources : List.Forall₂ (t.StandsIn settings) t.resources u.resources
  outputs : List.Forall₂ (t.StandsIn settings) t.outputs u.outputs

end Template

/-! ## The scope of all verdicts -/

/-- In a table of entries the last one of a name is found. -/
theorem Table.get?_ofList {α : Type} (entries : List (String × α)) (n : String) :
    (Table.ofList entries).get? n = entries.reverse.lookup n := by
  show (Entries.sort entries).lookup n = _
  rw [Entries.sort, Entries.lookup_foldl_insert, List.lookup_nil, Option.or_none]

/-- A run that succeeds has a verdict for each condition, in their order, and enters the verdicts
into the scope. -/
theorem decideConditions_ok {conditions : List (String × Node)} {scope final : Scope}
    {verdicts : List (String × Bool)}
    (h : decideConditions conditions scope = (.ok verdicts, final)) :
    verdicts.map Prod.fst = conditions.map Prod.fst ∧ ∀ n,
      final.conditions.get? n = (verdicts.reverse.lookup n).or (scope.conditions.get? n) := by
  obtain ⟨hdecides, rfl⟩ := decideConditions_eq_ok_iff.1 h
  exact ⟨hdecides.map_fst_eq, scope.get?_withConditions verdicts⟩

/-- What survives the verdicts is kept in a scope of these verdicts. -/
theorem survives_eq_isKept {scope : Scope} {verdicts : List (String × Bool)}
    (h : scope.conditions = .ofList verdicts) (entry : Node) :
    survives verdicts entry = isKept scope entry := by
  rw [survives, isKept]
  cases entry.get? "Condition" with
  | none => rfl
  | some node =>
    cases node with
    | string name =>
      show decide ((Table.ofList verdicts).get? name = some true) = scope.condition name
      rw [Scope.condition, h]
      cases (Table.ofList verdicts).get? name with
      | none => rfl
      | some b => cases b <;> rfl
    | _ => rfl

/-- To resolve what is kept is to resolve each entry that is kept, one after the other. -/
theorem resolveKept_eq_mapM (scope : Scope) (entries : List (String × Node)) :
    resolveKept scope entries = (entries.filter (isKept scope ·.2)).mapM fun entry =>
      (entry.2.resolve scope).map (entry.1, ·) := by
  induction entries with
  | nil => rfl
  | cons entry rest ih =>
    obtain ⟨name, node⟩ := entry
    rw [resolveKept, List.filter_cons]
    by_cases hkept : isKept scope node = true
    · rw [if_pos hkept, if_pos hkept, List.mapM_cons, ← ih]
      cases node.resolve scope <;> rfl
    · rw [if_neg hkept, if_neg hkept, ih]

namespace Template

variable {t u : Template} {settings : Settings}

/-- A run of the conditions ends in the scope of its verdicts. -/
theorem decideConditions_initialScope {verdicts : List (String × Bool)} {final : Scope}
    (h : decideConditions t.conditions (t.initialScope settings) = (.ok verdicts, final)) :
    final = t.scopeWith settings verdicts := by
  have hframe := decideConditions_frame t.conditions (t.initialScope settings)
  rw [h] at hframe
  have hconditions : final.conditions = .ofList verdicts := by
    refine Table.ext_get? fun n => ?_
    rw [(decideConditions_ok h).2, Table.get?_ofList, initialScope, Table.get?_empty,
      Option.or_none]
  -- parameters and mappings are those that the run has started with
  obtain ⟨params, mappings, conditions⟩ := final
  obtain rfl : (t.initialScope settings).params = params := hframe.params
  obtain rfl : (t.initialScope settings).mappings = mappings := hframe.mappings
  obtain rfl : conditions = .ofList verdicts := hconditions
  rfl

/-- To resolve a template is to decide its conditions and to resolve what survives the verdicts. -/
theorem resolve_eq (t : Template) (settings : Settings) :
    t.resolve settings = (do
      let conditions ← t.verdicts settings
      let resources ← t.survivors settings conditions t.resources
      let outputs ← t.survivors settings conditions t.outputs
      return { t with conditions, resources, outputs }) := by
  rw [resolve, verdicts]
  cases hrun : decideConditions t.conditions (t.initialScope settings) with
  | mk result final =>
    cases result with
    | error e => rfl
    | ok verdicts =>
      -- from here on the scope of the verdicts takes the place of the one the run ended in
      obtain rfl := decideConditions_initialScope hrun
      have hkept (entries : List (String × Node)) :
          resolveKept (t.scopeWith settings verdicts) entries =
            t.survivors settings verdicts entries := by
        have hsame (entry : Node) :
            survives verdicts entry = isKept (t.scopeWith settings verdicts) entry :=
          survives_eq_isKept rfl entry
        rw [resolveKept_eq_mapM, survivors]
        simp only [hsame]
      simp only [hkept]
      rfl

/-- A template resolves to its verdicts and to the survivors of these. -/
theorem resolve_eq_ok_iff {r : ResolvedTemplate} :
    t.resolve settings = .ok r ↔ ∃ verdicts resources outputs,
      t.verdicts settings = .ok verdicts ∧
        t.survivors settings verdicts t.resources = .ok resources ∧
        t.survivors settings verdicts t.outputs = .ok outputs ∧
        r = ⟨t.parameters, t.mappings, verdicts, resources, outputs⟩ := by
  rw [resolve_eq, bind_eq_ok_iff]
  constructor
  · rintro ⟨verdicts, hverdicts, h⟩
    obtain ⟨resources, hresources, h⟩ := bind_eq_ok_iff.1 h
    obtain ⟨outputs, houtputs, h⟩ := bind_eq_ok_iff.1 h
    exact ⟨verdicts, resources, outputs, hverdicts, hresources, houtputs, (Except.ok.inj h).symm⟩
  · rintro ⟨verdicts, resources, outputs, hverdicts, hresources, houtputs, rfl⟩
    refine ⟨verdicts, hverdicts, bind_eq_ok_iff.2 ⟨resources, hresources, ?_⟩⟩
    exact bind_eq_ok_iff.2 ⟨outputs, houtputs, rfl⟩

/-- The survivors are in their order, each under its own name. -/
theorem survivors_eq_ok_iff {verdicts : List (String × Bool)} {entries : List (String × Node)}
    {values : List (String × Value)} :
    t.survivors settings verdicts entries = .ok values ↔
      List.Forall₂ (fun entry value => value.1 = entry.1 ∧
        entry.2.resolve (t.scopeWith settings verdicts) = .ok value.2)
        (entries.filter (survives verdicts ·.2)) values := by
  rw [survivors, mapM_eq_ok_iff]
  have hstep (entry : String × Node) (value : String × Value) :
      (entry.2.resolve (t.scopeWith settings verdicts)).map (entry.1, ·) = .ok value ↔
        value.1 = entry.1 ∧ entry.2.resolve (t.scopeWith settings verdicts) = .ok value.2 := by
    obtain ⟨name, v⟩ := value
    rw [map_eq_ok_iff]
    constructor
    · rintro ⟨a, ha, heq⟩
      cases heq
      exact ⟨rfl, ha⟩
    · rintro ⟨rfl, hv⟩
      exact ⟨v, hv, rfl⟩
  simp only [hstep]

/-- The survivors have values if each of them has one. -/
theorem exists_survivors_eq_ok_iff {verdicts : List (String × Bool)}
    {entries : List (String × Node)} :
    (∃ values, t.survivors settings verdicts entries = .ok values) ↔
      ∀ entry ∈ entries, survives verdicts entry.2 = true →
        ∃ value, entry.2.resolve (t.scopeWith settings verdicts) = .ok value := by
  rw [survivors, exists_mapM_eq_ok_iff]
  simp only [List.mem_filter, and_imp, map_eq_ok_iff]
  refine forall₃_congr fun entry _ _ => ?_
  constructor
  · rintro ⟨_, value, hvalue, -⟩
    exact ⟨value, hvalue⟩
  · rintro ⟨value, hvalue⟩
    exact ⟨_, value, hvalue, rfl⟩

/-- A template resolves if its conditions have verdicts and all survivors have values. -/
theorem exists_resolve_eq_ok_iff :
    (∃ r, t.resolve settings = .ok r) ↔ ∃ verdicts, t.verdicts settings = .ok verdicts ∧
      ∀ entry ∈ t.resources ++ t.outputs, survives verdicts entry.2 = true →
        ∃ value, entry.2.resolve (t.scopeWith settings verdicts) = .ok value := by
  simp only [resolve_eq_ok_iff, List.forall_mem_append, ← exists_survivors_eq_ok_iff]
  constructor
  · rintro ⟨_, verdicts, resources, outputs, hverdicts, hresources, houtputs, -⟩
    exact ⟨verdicts, hverdicts, ⟨resources, hresources⟩, ⟨outputs, houtputs⟩⟩
  · rintro ⟨verdicts, hverdicts, ⟨resources, hresources⟩, ⟨outputs, houtputs⟩⟩
    exact ⟨_, verdicts, resources, outputs, hverdicts, hresources, houtputs, rfl⟩

/-! ## What is dropped -/

/-- Maps with the same member `Condition` survive alike. -/
theorem survives_map_congr {entries others : List (String × Node)}
    (h : others.lookup "Condition" = entries.lookup "Condition")
    (verdicts : List (String × Bool)) :
    survives verdicts (.map others) = survives verdicts (.map entries) := by
  have hget : (Node.map others).get? "Condition" = (Node.map entries).get? "Condition" := h
  rw [survives, survives, hget]

/-- The same survives of entries and of what stands in for them. -/
theorem filter_survives_eq {verdicts : List (String × Bool)}
    (hverdicts : t.verdicts settings = .ok verdicts) {entries others : List (String × Node)}
    (h : List.Forall₂ (t.StandsIn settings) entries others) :
    others.filter (survives verdicts ·.2) = entries.filter (survives verdicts ·.2) := by
  induction h with
  | nil => rfl
  | cons hhead _ ih =>
    cases hhead with
    | same entry => rw [List.filter_cons, List.filter_cons, ih]
    | @dropped id before after hdropped hcondition =>
      -- neither of the two survives: both ask for the same condition
      have hgone : ¬survives verdicts (id, Node.map before).2 = true :=
        ne_true_of_eq_false (hdropped verdicts hverdicts)
      have hgone' : ¬survives verdicts (id, Node.map after).2 = true :=
        (survives_map_congr hcondition verdicts).symm ▸ hgone
      rw [List.filter_cons, if_neg hgone', List.filter_cons, if_neg hgone, ih]

/-- What is dropped makes no difference. -/
theorem DiffersInDropped.resolve_eq (h : t.DiffersInDropped settings u) :
    u.resolve settings = t.resolve settings := by
  obtain ⟨hparameters, hmappings, hconditions, hresources, houtputs⟩ := h
  have hverdicts : u.verdicts settings = t.verdicts settings := by
    rw [verdicts, verdicts, hconditions, initialScope, initialScope, hparameters, hmappings]
  have hscope (verdicts : List (String × Bool)) :
      u.scopeWith settings verdicts = t.scopeWith settings verdicts := by
    rw [scopeWith, scopeWith, hparameters, hmappings]
  rw [Template.resolve_eq, Template.resolve_eq, hverdicts]
  cases hrun : t.verdicts settings with
  | error e => rfl
  | ok verdicts =>
    -- given the verdicts, only survivors are resolved, and these are the same on both sides
    have hsurvivors {entries others : List (String × Node)}
        (hentries : List.Forall₂ (t.StandsIn settings) entries others) :
        u.survivors settings verdicts others = t.survivors settings verdicts entries := by
      rw [survivors, survivors, filter_survives_eq hrun hentries, hscope]
    show (do
      let resources ← u.survivors settings verdicts u.resources
      let outputs ← u.survivors settings verdicts u.outputs
      return (⟨u.parameters, u.mappings, verdicts, resources, outputs⟩ : ResolvedTemplate)) = _
    rw [hsurvivors hresources, hsurvivors houtputs, hparameters, hmappings]
    rfl

/-- Resolution fails exactly if a condition has no verdict or a survivor has no value. If it
succeeds, then the conditions have their verdicts, in their order, and the resources and outputs are
the survivors, in their order, each with its value in the scope of all verdicts. What is dropped may
be any other map with the same member `Condition`. -/
theorem resolve_survivors (t : Template) (settings : Settings) :
    ((∃ e, t.resolve settings = .error e) ↔
      (∃ e, t.verdicts settings = .error e) ∨
        ∃ verdicts, t.verdicts settings = .ok verdicts ∧
          ∃ entry ∈ t.resources ++ t.outputs, survives verdicts entry.2 = true ∧
            ∃ e, entry.2.resolve (t.scopeWith settings verdicts) = .error e) ∧
    (∀ r, t.resolve settings = .ok r →
      t.verdicts settings = .ok r.conditions ∧
        r.conditions.map Prod.fst = t.conditions.map Prod.fst ∧
        List.Forall₂ (fun entry value => value.1 = entry.1 ∧
            entry.2.resolve (t.scopeWith settings r.conditions) = .ok value.2)
          (t.resources.filter (survives r.conditions ·.2)) r.resources ∧
        List.Forall₂ (fun entry value => value.1 = entry.1 ∧
            entry.2.resolve (t.scopeWith settings r.conditions) = .ok value.2)
          (t.outputs.filter (survives r.conditions ·.2)) r.outputs) ∧
    ∀ u, t.DiffersInDropped settings u → u.resolve settings = t.resolve settings := by
  refine ⟨?_, fun r h => ?_, fun u h => h.resolve_eq⟩
  · rw [exists_eq_error_iff, exists_resolve_eq_ok_iff]
    cases t.verdicts settings with
    | error e => simp
    | ok verdicts => simp [exists_eq_error_iff]
  · obtain ⟨verdicts, resources, outputs, hverdicts, hresources, houtputs, rfl⟩ :=
      resolve_eq_ok_iff.1 h
    refine ⟨hverdicts, ?_, survivors_eq_ok_iff.1 hresources, survivors_eq_ok_iff.1 houtputs⟩
    exact (decideConditions_ok (Prod.ext hverdicts rfl)).1

/-- A template with a condition that asks for a later one, a box, an archive and a shed. Nothing is
declared under the name that the shed asks for. -/
def yard (archive : List (String × Node)) : Template where
  parameters := []
  mappings := .empty
  conditions := [("IsOld", .call .condition (.string "IsBig")),
    ("IsBig", .call .equals (.list [.call .ref (.string "Size"), .string "big"]))]
  resources := [("Box", .map [("Size", .call .ref (.string "Size")),
      ("Condition", .string "IsBig"),
      ("Lid", .call .ifElse (.list [.string "IsOld", .string "none", .bool true]))]),
    ("Archive", .map archive),
    ("Shed", .map [("Condition", .string "Nowhere"), ("Door", .call .select .null)])]
  outputs := [("Big", .call .condition (.string "IsBig"))]

/-- Settings for the yard. -/
def yardSettings : Settings := ({} : Settings).withOverride "Size" (.string "big")

/-- An archive with a broken call. -/
def shelves : List (String × Node) :=
  [("Condition", .string "IsOld"), ("Shelf", .call .join .null)]

/-- Another archive with a broken call. -/
def drawers : List (String × Node) :=
  [("Drawers", .list [.call .and .null]), ("Condition", .string "IsOld")]

/-- With one archive or the other in the yard, neither shows. -/
theorem resolve_survivors_yard :
    (yard shelves).DiffersInDropped yardSettings (yard drawers) ∧
      (yard drawers).resolve yardSettings = .ok ⟨[], .empty, [("IsOld", false), ("IsBig", true)],
        [("Box", .map [("Condition", .string "IsBig"), ("Lid", .bool true),
          ("Size", .string "big")])], [("Big", .bool true)]⟩ := by
  have hverdicts : (yard shelves).verdicts yardSettings =
      .ok [("IsOld", false), ("IsBig", true)] := rfl
  have hother : (yard shelves).DiffersInDropped yardSettings (yard drawers) := by
    refine ⟨rfl, rfl, rfl, .cons (.same _) (.cons (.dropped ?_ rfl) (.cons (.same _) .nil)),
      .cons (.same _) .nil⟩
    intro verdicts h
    obtain rfl := Except.ok.inj (hverdicts.symm.trans h)
    rfl
  obtain ⟨-, -, hdropped⟩ := resolve_survivors (yard shelves) yardSettings
  exact ⟨hother, (hdropped _ hother).trans rfl⟩

end Template

end StackAudit
