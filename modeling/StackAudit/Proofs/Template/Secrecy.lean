import Mathlib.Data.List.Forall2
import StackAudit.Proofs.Parameter.Effective
import StackAudit.Template.Resolved

/-!
# Secret parameters do not show

What a secret parameter holds makes no difference to a resolved template: two templates that differ
only in the defaults of secret parameters, resolved with settings that differ only in the overrides
of these parameters, give the same result as long as the same defaults and overrides are present
(`Template.resolve_contents_congr`).

## Shape of the proof

The table of parameters is built by one step for each declared parameter. While it is built, the two
tables and the overrides that are left agree at every name but those of the secret parameters still
to come (`BuiltAlike`). A step with a secret parameter enters a text that only tells what is
present, and uses the override up, so its name is one at which both sides agree from then on. At the
end no secret parameter is to come, so what the conditions see is the same on both sides.
-/

namespace StackAudit

/-! ## What may differ -/

/-- Two declarations differ at most in what a secret default holds. -/
structure Parameter.AgreeOnPublic (p q : Parameter) : Prop where
  name : p.name = q.name
  type : p.type = q.type
  noEcho : p.noEcho = q.noEcho
  allowedValues : p.allowedValues = q.allowedValues
  default_of_public : p.noEcho = false → p.default? = q.default?
  default_present :
    p.noEcho = true → Parameter.isPresent p.default? = Parameter.isPresent q.default?

/-- The names of the secret parameters. -/
def Parameter.secretNames (parameters : List Parameter) : List String :=
  (parameters.filter Parameter.noEcho).map Parameter.name

/-- Two templates differ at most in what secret defaults hold. -/
structure Template.AgreeOnPublic (s t : Template) : Prop where
  parameters :
    List.Forall₂ (fun a b => a.1 = b.1 ∧ a.2.AgreeOnPublic b.2) s.parameters t.parameters
  mappings : s.mappings = t.mappings
  conditions : s.conditions = t.conditions
  resources : s.resources = t.resources
  outputs : s.outputs = t.outputs

/-- Two tables give the same values for all names but secret ones, and for those the same are
present. -/
structure AgreeButSecrets (secret : List String) (t u : Table Value) : Prop where
  get? : ∀ name, name ∉ secret → t.get? name = u.get? name
  present : ∀ name ∈ secret, Parameter.isPresent (t.get? name) = Parameter.isPresent (u.get? name)

/-- What a resolved template shows of itself: conditions, resources and outputs. -/
def ResolvedTemplate.contents (t : ResolvedTemplate) :
    List (String × Bool) × List (String × Value) × List (String × Value) :=
  (t.conditions, t.resources, t.outputs)

/-! ## One parameter -/

namespace Parameter

/-- A reference to a secret parameter only tells what is present. -/
theorem secretText_congr {p q : Parameter} {v w : Option Value}
    (hdefault : isPresent p.default? = isPresent q.default?) (h : isPresent v = isPresent w) :
    p.secretText v = q.secretText w := by
  rw [secretText, secretText, hdefault, h]

/-- A reference to a secret parameter gives the text that stands for it. -/
theorem refValue_of_secret {p : Parameter} (h : p.noEcho = true) (v : Option Value) :
    p.refValue v = some (.string (p.secretText v)) := by
  rw [refValue, if_pos h]

/-- References to a parameter that is not secret depend on its type, its default and its value. -/
theorem refValue_of_public {p q : Parameter} (h : p.noEcho = false) (hq : q.noEcho = false)
    (htype : p.type = q.type) (hdefault : p.default? = q.default?) (v : Option Value) :
    p.refValue v = q.refValue v := by
  have hlist : p.isList = q.isList := by rw [isList, isList, htype]
  rw [refValue, refValue, h, hq, hlist, hdefault]
  rfl

end Parameter

/-! ## The table of parameters -/

/-- Tables of parameters and overrides on the way: both agree at every name but those of the secret
parameters still to come, and for these the same overrides are present. -/
structure BuiltAlike (secret : List String) (x y : Table Value × Table Value) : Prop where
  params : ∀ name, name ∉ secret → x.1.get? name = y.1.get? name
  overrides : AgreeButSecrets secret x.2 y.2

/-- The first parameter adds its name to the secret ones if it is secret. -/
theorem mem_secretNames_cons {p : Parameter} {rest : List Parameter} {n : String} :
    n ∈ Parameter.secretNames (p :: rest) ↔
      (p.noEcho = true ∧ n = p.name) ∨ n ∈ Parameter.secretNames rest := by
  rw [Parameter.secretNames, List.filter_cons]
  by_cases h : p.noEcho = true
  · simp [h, Parameter.secretNames]
  · simp [h, Parameter.secretNames]

/-- A parameter is added alike. -/
theorem BuiltAlike.addDeclared {p q : Parameter} (hpq : p.AgreeOnPublic q) {rest : List Parameter}
    {x y : Table Value × Table Value}
    (h : BuiltAlike (Parameter.secretNames (p :: rest)) x y) :
    BuiltAlike (Parameter.secretNames rest) (addDeclared x p) (addDeclared y q) := by
  -- at other names nothing changes, and the same of them are secret
  have hother {n : String} (hn : n ≠ p.name) :
      n ∈ Parameter.secretNames (p :: rest) ↔ n ∈ Parameter.secretNames rest := by
    rw [mem_secretNames_cons]
    exact or_iff_right fun hp => hn hp.2
  have hoverrides (n : String) (hn : n ∉ Parameter.secretNames rest) :
      (StackAudit.addDeclared x p).2.get? n = (StackAudit.addDeclared y q).2.get? n := by
    rw [get?_addDeclared_snd, get?_addDeclared_snd, ← hpq.name]
    by_cases hname : n = p.name
    · rw [if_pos hname, if_pos hname]
    · rw [if_neg hname, if_neg hname, h.overrides.get? n (by rwa [hother hname])]
  refine ⟨fun n hn => ?_, hoverrides, fun n hn => ?_⟩
  · rw [get?_addDeclared_fst, get?_addDeclared_fst, ← hpq.name]
    by_cases hname : n = p.name
    · rw [if_pos hname, if_pos hname]
      cases hp : p.noEcho with
      | true =>
        -- each side enters the text that tells what is present, which is the same on both
        have hsecret : p.name ∈ Parameter.secretNames (p :: rest) :=
          mem_secretNames_cons.2 (.inl ⟨hp, rfl⟩)
        rw [Parameter.refValue_of_secret hp, Parameter.refValue_of_secret (hpq.noEcho ▸ hp),
          Parameter.secretText_congr (hpq.default_present hp)
            (h.overrides.present p.name hsecret)]
        rfl
      | false =>
        -- the name is not that of a secret one still to come, so both sides agree at it already
        have hpublic : n ∉ Parameter.secretNames (p :: rest) := by
          rw [mem_secretNames_cons, hp]
          simp [hn]
        rw [h.params n hpublic, h.overrides.get? p.name (hname ▸ hpublic),
          Parameter.refValue_of_public hp (hpq.noEcho ▸ hp) hpq.type (hpq.default_of_public hp)]
    · rw [if_neg hname, if_neg hname, h.params n (by rwa [hother hname])]
  · rw [get?_addDeclared_snd, get?_addDeclared_snd, ← hpq.name]
    by_cases hname : n = p.name
    · rw [if_pos hname, if_pos hname]
    · rw [if_neg hname, if_neg hname]
      exact h.overrides.present n ((hother hname).2 hn)

/-- Parameters are added alike, one after the other, until no secret one is to come. -/
theorem BuiltAlike.foldl {ps qs : List Parameter}
    (hpq : List.Forall₂ Parameter.AgreeOnPublic ps qs) {x y : Table Value × Table Value}
    (h : BuiltAlike (Parameter.secretNames ps) x y) :
    BuiltAlike [] (ps.foldl StackAudit.addDeclared x) (qs.foldl StackAudit.addDeclared y) := by
  induction hpq generalizing x y with
  | nil => exact h
  | cons hhead _ ih => exact ih (h.addDeclared hhead)

/-- The values that references see do not depend on what secret parameters hold. -/
theorem effectiveParams_congr {ps qs : List Parameter}
    (hpq : List.Forall₂ Parameter.AgreeOnPublic ps qs) (pseudo : PseudoParameters)
    {overrides others : Table Value}
    (h : AgreeButSecrets (Parameter.secretNames ps) overrides others) :
    effectiveParams pseudo ps overrides = effectiveParams pseudo qs others := by
  have hstart : BuiltAlike (Parameter.secretNames ps) (pseudo.toParams, overrides)
      (pseudo.toParams, others) := ⟨fun _ _ => rfl, h⟩
  have hbuilt := hstart.foldl hpq
  refine Table.ext_get? fun n => ?_
  rw [effectiveParams, effectiveParams, Table.get?_union, Table.get?_union,
    hbuilt.params n List.not_mem_nil, hbuilt.overrides.get? n List.not_mem_nil]

/-! ## Templates -/

namespace Template

/-- The contents of a resolved template depend on the values of its parameters and not on their
declarations. -/
theorem resolve_map_contents (t : Template) (settings : Settings) :
    (t.resolve settings).map ResolvedTemplate.contents = (do
      let (verdicts, scope) := decideConditions t.conditions (t.initialScope settings)
      return (← verdicts, ← resolveKept scope t.resources, ← resolveKept scope t.outputs)) := by
  rw [resolve]
  cases decideConditions t.conditions (t.initialScope settings) with
  | mk verdicts scope =>
    dsimp only
    cases verdicts with
    | error e => rfl
    | ok conditions =>
      cases resolveKept scope t.resources with
      | error e => rfl
      | ok resources => cases resolveKept scope t.outputs <;> rfl

/-- Secrets do not show: if two templates differ at most in what secret defaults hold, and two
settings at most in what the overrides of secret parameters hold, then resolving gives the same
error, or the same conditions, resources and outputs. -/
theorem resolve_contents_congr {s t : Template} (hst : s.AgreeOnPublic t) {a b : Settings}
    (hpseudo : a.pseudo = b.pseudo)
    (hoverrides : AgreeButSecrets (Parameter.secretNames (s.parameters.map (·.2)))
      a.overrides b.overrides) :
    (s.resolve a).map ResolvedTemplate.contents = (t.resolve b).map ResolvedTemplate.contents := by
  have hdeclared : List.Forall₂ Parameter.AgreeOnPublic (s.parameters.map (·.2))
      (t.parameters.map (·.2)) := by
    rw [List.forall₂_map_left_iff, List.forall₂_map_right_iff]
    exact hst.parameters.imp fun _ _ h => h.2
  have hscope : s.initialScope a = t.initialScope b := by
    rw [initialScope, initialScope, hst.mappings, hpseudo,
      effectiveParams_congr hdeclared b.pseudo hoverrides]
  rw [resolve_map_contents, resolve_map_contents, hscope, hst.conditions, hst.resources,
    hst.outputs]

/-- A template with a secret key, a condition that asks whether the key was given, and a box that
holds the key. -/
def vault (key : Value) : Template where
  parameters := [("Key", ⟨"Key", "String", some key, true, []⟩),
    ("Tags", ⟨"Tags", "CommaDelimitedList", some (.list [.string "a"]), false, []⟩)]
  mappings := .empty
  conditions :=
    [("Given", .call .equals (.list [.call .ref (.string "Key"), .string "NOECHO_WITH_VALUE"]))]
  resources := [("Box", .map [("Key", .call .sub (.string "${Key}-${Size}")),
    ("Tags", .call .ref (.string "Tags"))])]
  outputs := []

/-- Settings that give a key and the value of a parameter that is not declared. -/
def vaultSettings (key : Value) : Settings :=
  ({} : Settings).withOverrides [("Key", key), ("Size", .string "big")]

/-- Another key in the same vault gives the same box. -/
theorem resolve_contents_congr_vault :
    (vault (.string "sesame")).AgreeOnPublic (vault (.bool true)) ∧
      AgreeButSecrets ["Key"] (vaultSettings (.string "123")).overrides
        (vaultSettings (.bool false)).overrides ∧
      ((vault (.bool true)).resolve (vaultSettings (.bool false))).map ResolvedTemplate.contents =
        .ok ([("Given", true)], [("Box", .map [("Key", .string "NOECHO_WITH_VALUE-big"),
          ("Tags", .list [.string "a"])])], []) := by
  have hvault : (vault (.string "sesame")).AgreeOnPublic (vault (.bool true)) := by
    refine ⟨.cons ⟨rfl, rfl, rfl, rfl, rfl, nofun, fun _ => by decide⟩ (.cons ⟨rfl, ?_⟩ .nil),
      rfl, rfl, rfl, rfl⟩
    exact ⟨rfl, rfl, rfl, rfl, fun _ => rfl, nofun⟩
  have hoverrides : AgreeButSecrets ["Key"] (vaultSettings (.string "123")).overrides
      (vaultSettings (.bool false)).overrides := by
    refine ⟨fun n hn => ?_, fun n hn => ?_⟩
    · have hne : n ≠ "Key" := by simpa using hn
      simp [vaultSettings, Settings.withOverrides, Settings.withOverride, hne]
    · obtain rfl : n = "Key" := by simpa using hn
      decide
  have hbox := resolve_contents_congr hvault (a := vaultSettings (.string "123"))
    (b := vaultSettings (.bool false)) rfl hoverrides
  exact ⟨hvault, hoverrides, hbox.symm.trans rfl⟩

end Template

end StackAudit
