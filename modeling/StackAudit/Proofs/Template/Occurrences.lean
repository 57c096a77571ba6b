import Mathlib.Data.List.Basic
import Mathlib.Tactic.Choose
import StackAudit.Template.PolicyDocuments

/-!
# Occurrences of policies

A policy occurs in a resource at the end of a path: the last step goes to a map under one of the
names of policies, and no step before does (`Value.HoldsPolicyAt`). The documents of a resolved
template are those of all its occurrences that can be read, each once, in the order of the resources
and depth first within a resource (`ResolvedTemplate.policyDocuments_occurrences`). So an occurrence
that cannot be read hides no other one.

## Shape of the proof

An occurrence is one step away, or it is an occurrence in a value one step down
(`Value.holdsPolicyAt_cons_iff`). The search for policies takes the same two ways at every value
(`Value.policies_eq`), through the values one step down in the order of the steps. So a value has
its policies in a row if the values one step down have them in rows
(`Value.exists_policyRow_of_children`).
-/

namespace StackAudit

/-! ## Items with their indices -/

section Indices

variable {α β : Type}

/-- The indices of items ascend. -/
theorem pairwise_zipIdx (items : List α) : items.zipIdx.Pairwise fun a b => a.2 < b.2 := by
  refine List.pairwise_map.1 ?_
  rw [List.zipIdx_map_snd]
  exact List.pairwise_lt_range' 1

/-- Indices that are not looked at make no difference. -/
theorem flatMap_zipIdx (items : List α) (f : α → List β) :
    (items.zipIdx.flatMap fun e => f e.1) = items.flatMap f := by
  rw [← List.flatMap_map, List.zipIdx_map_fst]

end Indices

/-! ## Steps -/

/-- A step down into a value: to the entry of a name, or to the item of an index. -/
inductive Step where
  | entry (name : String)
  | item (index : Nat)

namespace Step

/-- Entries are in the order of their names, items in that of their indices. -/
inductive Before : Step → Step → Prop where
  | entry {m n : String} : m < n → Before (.entry m) (.entry n)
  | item {i j : Nat} : i < j → Before (.item i) (.item j)

/-- A step that goes to a policy. -/
def isPolicy : Step → Value → Bool
  | entry name, v => v.isPolicy name
  | item _, _ => false

/-- No step comes before itself. -/
theorem not_before_self (s : Step) : ¬s.Before s := by
  rintro (h | h)
  · exact String.lt_irrefl _ h
  · exact Nat.lt_irrefl _ h

/-- A step goes to a policy if it goes to a map under one of the names of policies. -/
theorem isPolicy_iff {s : Step} {v : Value} : s.isPolicy v = true ↔
    (∃ entries, v = .map entries) ∧ ∃ name ∈ policyNames, s = .entry name := by
  cases s with
  | item i => simp [isPolicy]
  | entry name => cases v <;> simp [isPolicy, Value.isPolicy, Value.asMap?]

end Step

namespace Value

/-! ## Paths -/

/-- The value that a step leads to. -/
def step? : Value → Step → Option Value
  | map entries, .entry name => entries.lookup name
  | list items, .item index => items[index]?
  | _, _ => none

/-- The value that a path leads to. -/
def at? : Value → List Step → Option Value
  | v, [] => some v
  | v, s :: rest => (v.step? s).bind fun u => u.at? rest

/-- The path leads to a map, and its last step to one of the names of policies. -/
def LeadsToPolicy (v : Value) (path : List Step) (policy : Value) : Prop :=
  v.at? path = some policy ∧ (∃ entries, policy = .map entries) ∧
    ∃ before, ∃ name ∈ policyNames, path = before ++ [.entry name]

/-- The path leads to a policy and passes through no other one. -/
structure HoldsPolicyAt (v : Value) (path : List Step) (policy : Value) : Prop where
  leads : v.LeadsToPolicy path policy
  first : ∀ before after w, path = before ++ after → after ≠ [] → ¬v.LeadsToPolicy before w

variable {u v w : Value} {s : Step} {rest : List Step}

/-- The empty path has no last step, so it leads to no policy. -/
theorem not_leadsToPolicy_nil : ¬v.LeadsToPolicy [] w := by
  rintro ⟨-, -, before, name, -, hpath⟩
  exact List.append_ne_nil_of_right_ne_nil before (List.cons_ne_nil _ _) hpath.symm

/-- A path leads to a policy if it is a single step to one, or if it does so past its first step. -/
theorem leadsToPolicy_cons_iff : v.LeadsToPolicy (s :: rest) w ↔ ∃ u, v.step? s = some u ∧
    (s.isPolicy u = true ∧ rest = [] ∧ w = u ∨ u.LeadsToPolicy rest w) := by
  constructor
  · rintro ⟨hat, hmap, before, name, hname, hpath⟩
    obtain ⟨u, hu, hrest⟩ := Option.bind_eq_some_iff.1 hat
    refine ⟨u, hu, ?_⟩
    cases before with
    | nil =>
      obtain ⟨rfl, rfl⟩ := List.cons.inj hpath
      obtain rfl := Option.some.inj hrest
      exact .inl ⟨Step.isPolicy_iff.2 ⟨hmap, name, hname, rfl⟩, rfl, rfl⟩
    | cons s before =>
      -- the last step comes past `s`, so the rest of the path leads there from `u`
      obtain ⟨-, rfl⟩ := List.cons.inj hpath
      exact .inr ⟨hrest, hmap, before, name, hname, rfl⟩
  · rintro ⟨u, hu, ⟨hpolicy, rfl, rfl⟩ | ⟨hat, hmap, before, name, hname, rfl⟩⟩
    · obtain ⟨hmap, name, hname, rfl⟩ := Step.isPolicy_iff.1 hpolicy
      exact ⟨Option.bind_eq_some_iff.2 ⟨w, hu, rfl⟩, hmap, [], name, hname, rfl⟩
    · exact ⟨Option.bind_eq_some_iff.2 ⟨u, hu, hat⟩, hmap, s :: before, name, hname, rfl⟩

/-- A policy is where a single step leads, or else it is held by the value that the first step leads
to. -/
theorem holdsPolicyAt_cons_iff : v.HoldsPolicyAt (s :: rest) w ↔
    ∃ u, v.step? s = some u ∧
      if s.isPolicy u then rest = [] ∧ w = u else u.HoldsPolicyAt rest w := by
  constructor
  · rintro ⟨hleads, hfirst⟩
    obtain ⟨u, hu, hways⟩ := leadsToPolicy_cons_iff.1 hleads
    refine ⟨u, hu, ?_⟩
    split
    · next hpolicy =>
      rcases hways with ⟨-, hrest, hw⟩ | hrest
      · exact ⟨hrest, hw⟩
      · -- the first step would go through a policy
        have hne : rest ≠ [] := by
          rintro rfl
          exact not_leadsToPolicy_nil hrest
        have hstep : v.LeadsToPolicy [s] u :=
          leadsToPolicy_cons_iff.2 ⟨u, hu, .inl ⟨hpolicy, rfl, rfl⟩⟩
        exact absurd hstep (hfirst [s] rest u rfl hne)
    · next hpolicy =>
      rcases hways with ⟨hpolicy', -⟩ | hrest
      · exact absurd hpolicy' hpolicy
      · refine ⟨hrest, fun before after x hpath hafter hx => ?_⟩
        exact hfirst (s :: before) after x (by rw [hpath, List.cons_append]) hafter
          (leadsToPolicy_cons_iff.2 ⟨u, hu, .inr hx⟩)
  · rintro ⟨u, hu, hways⟩
    split at hways
    · next hpolicy =>
      obtain ⟨rfl, rfl⟩ := hways
      refine ⟨leadsToPolicy_cons_iff.2 ⟨w, hu, .inl ⟨hpolicy, rfl, rfl⟩⟩, ?_⟩
      intro before after x hpath hafter hx
      cases before with
      | nil => exact not_leadsToPolicy_nil hx
      | cons _ before =>
        -- a single step leaves nothing for the part after it
        obtain ⟨-, hnil⟩ := List.append_eq_nil_iff.1 (List.cons.inj hpath).2.symm
        exact hafter hnil
    · next hpolicy =>
      refine ⟨leadsToPolicy_cons_iff.2 ⟨u, hu, .inr hways.leads⟩, ?_⟩
      intro before after x hpath hafter hx
      cases before with
      | nil => exact not_leadsToPolicy_nil hx
      | cons _ before =>
        obtain ⟨rfl, hrest⟩ := List.cons.inj hpath
        -- a path through `s` passes through `u`, so what it leads to is ruled out there
        obtain ⟨u', hu', hx⟩ := leadsToPolicy_cons_iff.1 hx
        obtain rfl := Option.some.inj (hu.symm.trans hu')
        rcases hx with ⟨hpolicy', -⟩ | hx
        · exact hpolicy hpolicy'
        · exact hways.first before after x hrest hafter hx

/-! ## One step down -/

/-- The values one step down, with the steps. -/
def children : Value → List (Step × Value)
  | map entries => entries.map fun e => (.entry e.1, e.2)
  | list items => items.zipIdx.map fun e => (.item e.2, e.1)
  | _ => []

/-- The values one step down are those that the steps lead to. As names are distinct, no entry hides
another one. -/
theorem mem_children_iff (h : v.Ordered) : (s, u) ∈ v.children ↔ v.step? s = some u := by
  cases h with
  | null | bool | number | string | date => cases s <;> simp [children, step?]
  | list =>
    cases s with
    | entry name => simp [children, step?]
    | item i =>
      -- an item is found at its index, which is what stands beside it in `zipIdx`
      simp only [children, step?, List.mem_map, Prod.exists, Prod.mk.injEq, Step.item.injEq,
        ← List.mk_mem_zipIdx_iff_getElem?]
      constructor
      · rintro ⟨_, _, hmem, rfl, rfl⟩
        exact hmem
      · exact fun hmem => ⟨u, i, hmem, rfl, rfl⟩
  | map hascending =>
    cases s with
    | item i => simp [children, step?]
    | entry name =>
      simp [children, step?, Entries.lookup_eq_some_iff_mem (Entries.nodup_of_ascending hascending)]

/-- The steps are in order. -/
theorem pairwise_children (h : v.Ordered) : v.children.Pairwise fun a b => a.1.Before b.1 := by
  cases h with
  | null | bool | number | string | date => exact List.Pairwise.nil
  | list => exact List.pairwise_map.2 ((pairwise_zipIdx _).imp .item)
  | map hascending => exact List.pairwise_map.2 (hascending.imp .entry)

/-- The policies of a value are found one step down. -/
theorem policies_eq (v : Value) : v.policies =
    v.children.flatMap fun c => if c.1.isPolicy c.2 then [c.2] else c.2.policies := by
  cases v with
  | null | bool | number | string | date => rfl
  | list items =>
    rw [policies, policiesOfItems_eq, children, List.flatMap_map]
    exact (flatMap_zipIdx items policies).symm
  | map entries =>
    rw [policies, policiesOfEntries_eq, children, List.flatMap_map]
    rfl

/-! ## The row of policies -/

/-- The policies of a value with the paths to them, depth first. -/
structure PolicyRow (v : Value) (row : List (List Step × Value)) : Prop where
  policies_eq : row.map Prod.snd = v.policies
  pairwise : row.Pairwise fun a b => List.Lex Step.Before a.1 b.1
  mem_iff : ∀ path policy, (path, policy) ∈ row ↔ v.HoldsPolicyAt path policy

/-- The part of a row that starts with a step, from the row of the value that the step leads to. -/
def rowThrough (c : Step × Value) (row : List (List Step × Value)) : List (List Step × Value) :=
  if c.1.isPolicy c.2 then [([c.1], c.2)] else row.map fun o => (c.1 :: o.1, o.2)

variable {c : Step × Value} {row : List (List Step × Value)}

/-- The paths of a part start with its step: they are the step alone if it goes to a policy, and
otherwise the step before a path of the row. -/
theorem mem_rowThrough_iff (h : c.2.PolicyRow row) {path : List Step} :
    (path, w) ∈ rowThrough c row ↔ ∃ rest, path = c.1 :: rest ∧
      if c.1.isPolicy c.2 then rest = [] ∧ w = c.2 else c.2.HoldsPolicyAt rest w := by
  unfold rowThrough
  split
  · simp only [List.mem_singleton, Prod.mk.injEq]
    constructor
    · rintro ⟨rfl, hw⟩
      exact ⟨[], rfl, rfl, hw⟩
    · rintro ⟨_, rfl, rfl, hw⟩
      exact ⟨rfl, hw⟩
  · simp only [List.mem_map, Prod.exists, Prod.mk.injEq, ← h.mem_iff]
    constructor
    · rintro ⟨rest, _, hmem, rfl, rfl⟩
      exact ⟨rest, rfl, hmem⟩
    · rintro ⟨rest, rfl, hmem⟩
      exact ⟨rest, w, hmem, rfl, rfl⟩

/-- The paths of a part are in order. -/
theorem pairwise_rowThrough (h : c.2.PolicyRow row) :
    (rowThrough c row).Pairwise fun a b => List.Lex Step.Before a.1 b.1 := by
  unfold rowThrough
  split
  · exact List.pairwise_singleton _ _
  · exact List.pairwise_map.2 (h.pairwise.imp .cons)

/-- The policies of a part are those that the search finds past its step. -/
theorem map_snd_rowThrough (h : c.2.PolicyRow row) :
    (rowThrough c row).map Prod.snd = if c.1.isPolicy c.2 then [c.2] else c.2.policies := by
  unfold rowThrough
  split
  · rfl
  · rw [List.map_map, ← h.policies_eq]
    rfl

/-- The rows of the values one step down make up the row of the value. -/
theorem exists_policyRow_of_children (hv : v.Ordered)
    (h : ∀ c ∈ v.children, ∃ row, c.2.PolicyRow row) : ∃ row, v.PolicyRow row := by
  choose! rows hrows using h
  refine ⟨v.children.flatMap fun c => rowThrough c (rows c), ?_, ?_, ?_⟩
  · -- the row goes through the values one step down as the search does
    rw [List.map_flatMap, policies_eq v]
    exact List.flatMap_congr fun c hc => map_snd_rowThrough (hrows c hc)
  · -- within a part of the row the paths go on in order, and between parts the first step decides
    refine List.pairwise_flatMap.2 ⟨fun c hc => pairwise_rowThrough (hrows c hc), ?_⟩
    refine (pairwise_children hv).imp_of_mem fun {c d} hc hd hbefore a ha b hb => ?_
    obtain ⟨_, hpath, -⟩ := (mem_rowThrough_iff (hrows c hc)).1 ha
    obtain ⟨_, hpath', -⟩ := (mem_rowThrough_iff (hrows d hd)).1 hb
    rw [hpath, hpath']
    exact .rel hbefore
  · -- a path in the row has a first step, and so has every path to a policy
    intro path policy
    constructor
    · intro hmem
      obtain ⟨c, hc, hmem⟩ := List.mem_flatMap.1 hmem
      obtain ⟨rest, rfl, hways⟩ := (mem_rowThrough_iff (hrows c hc)).1 hmem
      exact holdsPolicyAt_cons_iff.2 ⟨c.2, (mem_children_iff hv).1 hc, hways⟩
    · intro hholds
      cases path with
      | nil => exact absurd hholds.leads not_leadsToPolicy_nil
      | cons s rest =>
        obtain ⟨u, hu, hways⟩ := holdsPolicyAt_cons_iff.1 hholds
        have hc : (s, u) ∈ v.children := (mem_children_iff hv).2 hu
        exact List.mem_flatMap.2
          ⟨(s, u), hc, (mem_rowThrough_iff (hrows _ hc)).2 ⟨rest, rfl, hways⟩⟩

/-- Every value has its policies in a row. -/
theorem exists_policyRow (h : v.Ordered) : ∃ row, v.PolicyRow row := by
  induction h with
  | null | bool | number | string | date =>
    exact exists_policyRow_of_children (by constructor) fun _ hc => nomatch hc
  | list hitems ih =>
    refine exists_policyRow_of_children (.list hitems) fun c hc => ?_
    obtain ⟨e, he, rfl⟩ := List.mem_map.1 hc
    exact ih e.1 (List.fst_mem_of_mem_zipIdx he)
  | map hascending hentries ih =>
    refine exists_policyRow_of_children (.map hascending hentries) fun c hc => ?_
    obtain ⟨e, he, rfl⟩ := List.mem_map.1 hc
    exact ih e he

end Value

/-! ## Occurrences in a template -/

/-- A policy in a resource of a template. -/
structure Occurrence where
  place : Nat
  resource : String
  path : List Step
  policy : Value

namespace Occurrence

/-- The resource of the place has the name, and it holds the policy at the path. -/
def IsIn (o : Occurrence) (t : ResolvedTemplate) : Prop :=
  ∃ value, t.resources[o.place]? = some (o.resource, value) ∧ value.HoldsPolicyAt o.path o.policy

/-- Occurrences are in the order of the resources, within a resource in that of the paths. -/
def Before (o p : Occurrence) : Prop :=
  o.place < p.place ∨ o.place = p.place ∧ List.Lex Step.Before o.path p.path

/-- The document that an occurrence reads as, with the name of the resource. -/
def document? (o : Occurrence) : Option (String × PolicyDocument) :=
  (PolicyDocument.ofNode (.ofValue o.policy)).toOption.map (o.resource, ·)

/-- No occurrence comes before itself. -/
theorem not_before_self (o : Occurrence) : ¬o.Before o := by
  rintro (h | ⟨-, h⟩)
  · exact Nat.lt_irrefl _ h
  · exact List.lex_irrefl Step.not_before_self _ h

/-- The occurrences in the resource of an index, from the row of its policies. -/
def ofRow (e : (String × Value) × Nat) (row : List (List Step × Value)) : List Occurrence :=
  row.map fun o => ⟨e.2, e.1.1, o.1, o.2⟩

variable {e : (String × Value) × Nat} {row : List (List Step × Value)}

/-- The occurrences in a resource are those of its place and name that it holds. -/
theorem mem_ofRow_iff (h : e.1.2.PolicyRow row) {o : Occurrence} :
    o ∈ ofRow e row ↔
      o.place = e.2 ∧ o.resource = e.1.1 ∧ e.1.2.HoldsPolicyAt o.path o.policy := by
  rw [← h.mem_iff, ofRow, List.mem_map]
  constructor
  · rintro ⟨_, hmem, rfl⟩
    exact ⟨rfl, rfl, hmem⟩
  · rintro ⟨hplace, hresource, hmem⟩
    exact ⟨_, hmem, by rw [← hplace, ← hresource]⟩

/-- The occurrences in a resource are in the order of their paths. -/
theorem pairwise_ofRow (h : e.1.2.PolicyRow row) : (ofRow e row).Pairwise Before :=
  List.pairwise_map.2 (h.pairwise.imp fun hlex => .inr ⟨rfl, hlex⟩)

/-- The documents of the occurrences in a resource are the readings of its policies. -/
theorem filterMap_document?_ofRow (h : e.1.2.PolicyRow row) :
    (ofRow e row).filterMap document? = e.1.2.policies.filterMap fun policy =>
      (PolicyDocument.ofNode (.ofValue policy)).toOption.map (e.1.1, ·) := by
  rw [ofRow, ← h.policies_eq, List.filterMap_map, List.filterMap_map]
  rfl

end Occurrence

/-- The policy documents of a resolved template are the readings of its occurrences of policies: of
each occurrence once, in order, and of no other map. -/
theorem ResolvedTemplate.policyDocuments_occurrences (t : ResolvedTemplate)
    (h : ∀ r ∈ t.resources, r.2.Ordered) :
    ∃ row : List Occurrence, (∀ o, o ∈ row ↔ o.IsIn t) ∧ row.Pairwise Occurrence.Before ∧
      row.Nodup ∧ t.policyDocuments = row.filterMap Occurrence.document? := by
  have hrow : ∀ e ∈ t.resources.zipIdx, ∃ row, e.1.2.PolicyRow row := fun e he =>
    Value.exists_policyRow (h e.1 (List.fst_mem_of_mem_zipIdx he))
  choose! rows hrows using hrow
  have hpairwise : (t.resources.zipIdx.flatMap fun e => Occurrence.ofRow e (rows e)).Pairwise
      Occurrence.Before := by
    refine List.pairwise_flatMap.2 ⟨fun e he => Occurrence.pairwise_ofRow (hrows e he), ?_⟩
    -- between two resources their places decide, whatever the paths are
    refine (pairwise_zipIdx _).imp_of_mem fun {d e} hd he hlt o ho p hp => .inl ?_
    rw [((Occurrence.mem_ofRow_iff (hrows d hd)).1 ho).1,
      ((Occurrence.mem_ofRow_iff (hrows e he)).1 hp).1]
    exact hlt
  refine ⟨_, fun o => ?_, hpairwise, ?_, ?_⟩
  · rw [List.mem_flatMap]
    constructor
    · rintro ⟨⟨⟨name, value⟩, i⟩, he, ho⟩
      obtain ⟨hplace, hresource, hholds⟩ := (Occurrence.mem_ofRow_iff (hrows _ he)).1 ho
      refine ⟨value, ?_, hholds⟩
      rw [hplace, hresource]
      exact List.mk_mem_zipIdx_iff_getElem?.1 he
    · rintro ⟨value, hat, hholds⟩
      have he := List.mk_mem_zipIdx_iff_getElem?.2 hat
      exact ⟨_, he, (Occurrence.mem_ofRow_iff (hrows _ he)).2 ⟨rfl, rfl, hholds⟩⟩
  · -- occurrences in a strict order are distinct
    refine hpairwise.imp fun hbefore heq => ?_
    subst heq
    exact Occurrence.not_before_self _ hbefore
  · rw [List.filterMap_flatMap,
      List.flatMap_congr fun e he => Occurrence.filterMap_document?_ofRow (hrows e he)]
    exact (flatMap_zipIdx t.resources _).symm

/-- A role with a policy that cannot be read, and then one that holds a third. -/
def ResolvedTemplate.nestedPolicies : ResolvedTemplate where
  parameters := []
  mappings := .empty
  conditions := []
  resources := [("Role", .ofJson (.obj [
    ("AssumeRolePolicyDocument", .obj [("Statement", .str "missing")]),
    ("Policies", .arr [.obj [("PolicyDocument", .obj [("PolicyDocument", .obj [])])]])]))]
  outputs := []

/-- The policy within a policy is no occurrence of its own, and the one that cannot be read is left
out: only the outer policy of the second key is listed. -/
theorem ResolvedTemplate.policyDocuments_occurrences_nested :
    (nestedPolicies.policyDocuments.map Prod.fst = ["Role"]) ∧
    (∀ r ∈ nestedPolicies.resources, r.2.Ordered) ∧
    ∃ row : List Occurrence, (∀ o, o ∈ row ↔ o.IsIn nestedPolicies) ∧
      row.Pairwise Occurrence.Before ∧ row.Nodup ∧
      nestedPolicies.policyDocuments = row.filterMap Occurrence.document? := by
  have hordered : ∀ r ∈ nestedPolicies.resources, r.2.Ordered := by
    intro r hr
    obtain rfl := List.mem_singleton.1 hr
    exact Value.ordered_ofJson _
  exact ⟨rfl, hordered, nestedPolicies.policyDocuments_occurrences hordered⟩

end StackAudit
