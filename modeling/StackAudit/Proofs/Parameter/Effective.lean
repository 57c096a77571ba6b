import Mathlib.Data.List.Basic
import StackAudit.Parameter.Effective

/-!
# What references see

The values that references see lie in three layers: the overrides of names that are not declared,
over the values of the declared parameters, over the pseudo parameters. The override of a declared
parameter is in none of them. It only goes into the value of the parameter
(`effectiveParams_layers`).

## Shape of the proof

Adding a parameter touches its own name in both tables and no other name (`get?_addDeclared_fst`,
`get?_addDeclared_snd`). So the names that are not declared come through all steps untouched, and
since names are distinct, what stands under the name of a parameter is what its own step has left
there.
-/

namespace StackAudit

/-- A string, or a list of strings. -/
inductive Value.IsTextual : Value → Prop where
  | string (s : String) : IsTextual (.string s)
  | list (texts : List String) : IsTextual (.list (texts.map .string))

/-- A reference to a parameter yields a string or a list of strings. -/
theorem Parameter.isTextual_of_refValue {p : Parameter} {provided : Option Value} {v : Value}
    (h : p.refValue provided = some v) : v.IsTextual := by
  rw [refValue] at h
  split at h
  · rw [← Option.some.inj h]
    exact .string _
  · obtain ⟨value, -, rfl⟩ := Option.map_eq_some_iff.1 h
    split
    · exact .list _
    · exact .string _

/-! ## One parameter -/

/-- The value of a declared parameter, if it has one, replaces the one before. -/
theorem get?_addDeclared_fst (tables : Table Value × Table Value) (p : Parameter) (n : String) :
    (addDeclared tables p).1.get? n = if n = p.name then
      (p.refValue (tables.2.get? p.name)).or (tables.1.get? n) else tables.1.get? n := by
  obtain ⟨params, overrides⟩ := tables
  rw [addDeclared]
  cases p.refValue (overrides.get? p.name) with
  | none => simp
  | some value =>
    rw [Table.get?_insert]
    split <;> simp

/-- A declared parameter uses its override up. -/
theorem get?_addDeclared_snd (tables : Table Value × Table Value) (p : Parameter) (n : String) :
    (addDeclared tables p).2.get? n = if n = p.name then none else tables.2.get? n :=
  Table.get?_erase tables.2 p.name n

/-! ## All parameters -/

variable {parameters : List Parameter}

/-- What stands under a name that is not declared stays as it is. -/
theorem get?_foldl_addDeclared_of_not_mem {n : String} (hn : n ∉ parameters.map Parameter.name)
    (tables : Table Value × Table Value) :
    (parameters.foldl addDeclared tables).1.get? n = tables.1.get? n ∧
      (parameters.foldl addDeclared tables).2.get? n = tables.2.get? n := by
  induction parameters generalizing tables with
  | nil => exact ⟨rfl, rfl⟩
  | cons p rest ih =>
    rw [List.map_cons, List.mem_cons, not_or] at hn
    obtain ⟨hne, hrest⟩ := hn
    obtain ⟨hparams, hoverrides⟩ := ih hrest (addDeclared tables p)
    rw [List.foldl_cons, hparams, hoverrides, get?_addDeclared_fst, get?_addDeclared_snd,
      if_neg hne, if_neg hne]
    exact ⟨rfl, rfl⟩

/-- Under the name of a parameter stands its value, or what stood there before if it has none; its
override is used up. -/
theorem get?_foldl_addDeclared_of_mem (hnames : (parameters.map Parameter.name).Nodup)
    {p : Parameter} (hp : p ∈ parameters) (tables : Table Value × Table Value) :
    (parameters.foldl addDeclared tables).1.get? p.name =
        (p.refValue (tables.2.get? p.name)).or (tables.1.get? p.name) ∧
      (parameters.foldl addDeclared tables).2.get? p.name = none := by
  induction parameters generalizing tables with
  | nil => cases hp
  | cons q rest ih =>
    obtain ⟨hhead, hrest⟩ := List.nodup_cons.1 hnames
    rcases List.mem_cons.1 hp with rfl | hp
    · -- no later parameter has the name, so what this step leaves there is final
      obtain ⟨hparams, hoverrides⟩ :=
        get?_foldl_addDeclared_of_not_mem hhead (addDeclared tables p)
      rw [List.foldl_cons, hparams, hoverrides, get?_addDeclared_fst, get?_addDeclared_snd,
        if_pos rfl, if_pos rfl]
      exact ⟨rfl, rfl⟩
    · have hne : p.name ≠ q.name := fun heq => hhead (heq ▸ List.mem_map_of_mem hp)
      obtain ⟨hparams, hoverrides⟩ := ih hrest hp (addDeclared tables q)
      rw [List.foldl_cons, hparams, hoverrides, get?_addDeclared_fst, get?_addDeclared_snd,
        if_neg hne, if_neg hne]
      exact ⟨rfl, rfl⟩

variable {pseudo : PseudoParameters} {overrides others : Table Value}

/-- Under the name of a parameter references see its value, or else the pseudo parameter. -/
theorem get?_effectiveParams_of_mem (hnames : (parameters.map Parameter.name).Nodup)
    {p : Parameter} (hp : p ∈ parameters) :
    (effectiveParams pseudo parameters overrides).get? p.name =
      (p.refValue (overrides.get? p.name)).or (pseudo.toParams.get? p.name) := by
  obtain ⟨hparams, hoverrides⟩ :=
    get?_foldl_addDeclared_of_mem hnames hp (pseudo.toParams, overrides)
  rw [effectiveParams, Table.get?_union, hparams, hoverrides, Option.none_or]

/-- Under a name that is not declared references see the override, or else the pseudo parameter. -/
theorem get?_effectiveParams_of_not_mem {n : String} (hn : n ∉ parameters.map Parameter.name) :
    (effectiveParams pseudo parameters overrides).get? n =
      (overrides.get? n).or (pseudo.toParams.get? n) := by
  obtain ⟨hparams, hoverrides⟩ :=
    get?_foldl_addDeclared_of_not_mem hn (pseudo.toParams, overrides)
  rw [effectiveParams, Table.get?_union, hparams, hoverrides]

/-- Overrides under which the parameters have the same values, and which agree at all other names,
make no difference. -/
theorem effectiveParams_eq_of_refValue (hnames : (parameters.map Parameter.name).Nodup)
    (hvalues : ∀ p ∈ parameters, p.refValue (others.get? p.name) =
      p.refValue (overrides.get? p.name))
    (hrest : ∀ n, n ∉ parameters.map Parameter.name → others.get? n = overrides.get? n) :
    effectiveParams pseudo parameters others = effectiveParams pseudo parameters overrides := by
  refine Table.ext_get? fun n => ?_
  -- a name is declared or not, and either way one lookup says all that a reference sees
  by_cases hn : n ∈ parameters.map Parameter.name
  · obtain ⟨p, hp, rfl⟩ := List.mem_map.1 hn
    rw [get?_effectiveParams_of_mem hnames hp, get?_effectiveParams_of_mem hnames hp, hvalues p hp]
  · rw [get?_effectiveParams_of_not_mem hn, get?_effectiveParams_of_not_mem hn, hrest n hn]

/-- The order in which parameters are declared makes no difference. -/
theorem effectiveParams_eq_of_perm (hnames : (parameters.map Parameter.name).Nodup)
    {reordered : List Parameter} (h : reordered.Perm parameters) :
    effectiveParams pseudo reordered overrides = effectiveParams pseudo parameters overrides := by
  have hsame : (reordered.map Parameter.name).Perm (parameters.map Parameter.name) := h.map _
  refine Table.ext_get? fun n => ?_
  by_cases hn : n ∈ parameters.map Parameter.name
  · obtain ⟨p, hp, rfl⟩ := List.mem_map.1 hn
    rw [get?_effectiveParams_of_mem hnames hp,
      get?_effectiveParams_of_mem (hsame.symm.nodup hnames) (h.mem_iff.2 hp)]
  · rw [get?_effectiveParams_of_not_mem hn, get?_effectiveParams_of_not_mem (mt hsame.mem_iff.1 hn)]

/-- References to a declared parameter see its value, which is a string or a list of strings, or the
pseudo parameter of its name if it has no value. Under every other name they see the override, or
else the pseudo parameter. So the overrides of declared parameters only count for the values of
these parameters, and the order of the parameters does not count. -/
theorem effectiveParams_layers (pseudo : PseudoParameters) {parameters : List Parameter}
    (hnames : (parameters.map Parameter.name).Nodup) (overrides : Table Value) :
    (∀ p ∈ parameters, ∀ v, p.refValue (overrides.get? p.name) = some v →
      (effectiveParams pseudo parameters overrides).get? p.name = some v ∧ v.IsTextual) ∧
    (∀ p ∈ parameters, p.refValue (overrides.get? p.name) = none →
      (effectiveParams pseudo parameters overrides).get? p.name =
        pseudo.toParams.get? p.name) ∧
    (∀ n, n ∉ parameters.map Parameter.name →
      (effectiveParams pseudo parameters overrides).get? n =
        (overrides.get? n).or (pseudo.toParams.get? n)) ∧
    (∀ others : Table Value,
      (∀ p ∈ parameters, p.refValue (others.get? p.name) = p.refValue (overrides.get? p.name)) →
      (∀ n, n ∉ parameters.map Parameter.name → others.get? n = overrides.get? n) →
      effectiveParams pseudo parameters others = effectiveParams pseudo parameters overrides) ∧
    ∀ reordered : List Parameter, reordered.Perm parameters →
      effectiveParams pseudo reordered overrides = effectiveParams pseudo parameters overrides := by
  refine ⟨fun p hp v hv => ⟨?_, Parameter.isTextual_of_refValue hv⟩, fun p hp hnone => ?_,
    fun n hn => get?_effectiveParams_of_not_mem hn,
    fun others hvalues hrest => effectiveParams_eq_of_refValue hnames hvalues hrest,
    fun reordered h => effectiveParams_eq_of_perm hnames h⟩
  · rw [get?_effectiveParams_of_mem hnames hp, hv, Option.some_or]
  · rw [get?_effectiveParams_of_mem hnames hp, hnone, Option.none_or]

/-- A list parameter with the name of a pseudo parameter, a parameter with the name of another one
and without a default, and a parameter with a default. -/
def siteParameters : List Parameter :=
  [⟨"AWS::Region", "CommaDelimitedList", some (.string "eu-west-1"), false, []⟩,
    ⟨"AWS::StackName", "String", none, false, []⟩,
    ⟨"Open", "String", some (.string "no"), false, []⟩]

/-- Overrides of two of these parameters, of a pseudo parameter and of a name that means nothing
else. -/
def siteOverrides (opened : Value) : Table Value :=
  (Table.ofList [("AWS::Region", .list [.string "us-east-1", .bool true]),
    ("AWS::Partition", .null), ("Stage", .map [("Name", .string "test")])]).insert "Open" opened

/-- What references see with these parameters and overrides, in any order of the parameters and
whether `Open` is given as a boolean or as a text. -/
theorem effectiveParams_layers_site :
    (siteParameters.map Parameter.name).Nodup ∧
      let params := effectiveParams {} siteParameters (siteOverrides (.bool true))
      params.get? "AWS::Region" = some (.list [.string "us-east-1", .string "true"]) ∧
        params.get? "AWS::StackName" = some (.string "stack-name") ∧
        params.get? "Open" = some (.string "true") ∧
        params.get? "AWS::Partition" = some .null ∧
        params.get? "Stage" = some (.map [("Name", .string "test")]) ∧
        params.get? "AWS::NoValue" = some .noValue ∧ params.get? "Nowhere" = none ∧
        effectiveParams {} siteParameters (siteOverrides (.string "true")) = params ∧
        effectiveParams {} siteParameters.reverse (siteOverrides (.bool true)) = params := by
  have hnames : (siteParameters.map Parameter.name).Nodup := by decide
  obtain ⟨hvalue, hnone, hother, hsame, hperm⟩ :=
    effectiveParams_layers {} hnames (siteOverrides (.bool true))
  have hmem (i : Nat) (hi : i < siteParameters.length) : siteParameters[i] ∈ siteParameters :=
    List.getElem_mem hi
  have hvalues : ∀ p ∈ siteParameters, p.refValue ((siteOverrides (.string "true")).get? p.name) =
      p.refValue ((siteOverrides (.bool true)).get? p.name) := by
    simp only [siteParameters, List.forall_mem_cons]
    exact ⟨rfl, rfl, rfl, nofun⟩
  have hrest (n : String) (hn : n ∉ siteParameters.map Parameter.name) :
      (siteOverrides (.string "true")).get? n = (siteOverrides (.bool true)).get? n := by
    have hne : n ≠ "Open" := fun heq => hn (by rw [heq]; decide)
    rw [siteOverrides, siteOverrides, Table.get?_insert, Table.get?_insert, if_neg hne, if_neg hne]
  have hopen : siteParameters[2].refValue ((siteOverrides (.bool true)).get? "Open") =
      some (.string "true") := by
    have hlist : siteParameters[2].isList = false := by decide +kernel
    have hgiven : (siteOverrides (.bool true)).get? "Open" = some (.bool true) := rfl
    rw [Parameter.refValue, hgiven, hlist]
    rfl
  exact ⟨hnames,
    (hvalue _ (hmem 0 (by decide)) (.list [.string "us-east-1", .string "true"]) rfl).1,
    hnone _ (hmem 1 (by decide)) rfl, (hvalue _ (hmem 2 (by decide)) _ hopen).1,
    hother "AWS::Partition" (by decide), hother "Stage" (by decide),
    hother "AWS::NoValue" (by decide), hother "Nowhere" (by decide), hsame _ hvalues hrest,
    hperm _ (List.reverse_perm _)⟩

end StackAudit
