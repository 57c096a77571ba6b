import StackAudit.Policy.Query
import StackAudit.Proofs.Condition.Interpretation
import StackAudit.Proofs.Policy.Reading
import StackAudit.Template.PolicyDocuments

/-!
# Documents without calls

A document that comes out of resolution is ready for all queries: no call stands in a field, every
principal is a literal text, and every condition can be compiled (`Statement.Ready`). This holds of
the documents in a resolved template and of documents that are resolved by themselves
(`Statement.ready_of_resolve`).

## Shape of the proof

The node of a value holds no call, and reading a document only takes it apart. So its statements are
`Statement.CallFree`, and what a statement without calls is ready for does not depend on the way by
which it came about (`Statement.CallFree.ready`).
-/

namespace StackAudit

/-! ## Principals -/

namespace Principal

/-- The tokens of a node without calls are literals. -/
theorem exists_literal_of_mem_tokensOf {n : Node} (h : n.containsCall = false) :
    ∀ token ∈ tokensOf n, ∃ text, token = .literal text := by
  induction n using Node.induct with
  | null | bool | date => exact fun token htoken => nomatch htoken
  | number | string => exact fun token htoken => ⟨_, List.mem_singleton.1 htoken⟩
  | list items ih =>
    intro token htoken
    rw [tokensOf, tokensOfItems_eq] at htoken
    obtain ⟨item, hitem, htoken⟩ := List.mem_flatMap.1 htoken
    exact ih item hitem (Node.containsCall_list_eq_false_iff.1 h item hitem) token htoken
  | map entries ih =>
    intro token htoken
    rw [tokensOf, tokensOfEntries_eq] at htoken
    obtain ⟨e, he, htoken⟩ := List.mem_flatMap.1 htoken
    exact ih e he (Node.containsCall_map_eq_false_iff.1 h e he) token htoken
  | call f argument => cases h

end Principal

/-! ## Conditions -/

/-- A condition without calls has no call among its operands. -/
theorem StatementCondition.not_hasCall_of_ofNode {node : Node} {c : StatementCondition}
    (h : ofNode node = .ok c) (hnode : node.containsCall = false) : ¬c.HasCall := by
  cases node with
  | map body =>
    obtain ⟨blocks, hblocks, hc⟩ := bind_eq_ok_iff.1 h
    obtain rfl := Except.ok.inj hc
    refine not_hasCall_iff.2 fun b hb e he => ?_
    obtain ⟨entry, hentry, hblock⟩ := exists_of_mem_right (mapM_eq_ok_iff.1 hblocks) hb
    obtain ⟨name, node⟩ := entry
    have hoperand := Node.containsCall_map_eq_false_iff.1 hnode _ hentry
    -- the operands of a block are the nodes of the map under its name
    obtain ⟨operator, -, hentries⟩ := bind_eq_ok_iff.1 hblock
    cases node with
    | map entries =>
      obtain rfl := Except.ok.inj hentries
      exact Node.containsCall_map_eq_false_iff.1 hoperand e he
    | _ => cases hentries
  | _ => cases h

/-! ## Statements -/

namespace Statement

/-- No call stands in a statement. -/
def CallFree (s : Statement) : Prop := s.MadeOf fun node => node.containsCall = false

/-- A statement is ready for all queries: no field holds a call, all principals are literals, and a
condition that can be read can be compiled if its patterns are patterns. -/
structure Ready (s : Statement) : Prop where
  fields : ∀ node, some node ∈ s.fields → node.containsCall = false
  literals : ∀ p, some p ∈ s.principalFields → ∀ token ∈ p.tokens, ∃ text, token = .literal text
  compiles : ∀ c, s.statementCondition = .ok (some c) → c.Binds →
    ∃ compiled, c.compile = .ok compiled

theorem CallFree.ready {s : Statement} (h : s.CallFree) : s.Ready where
  fields := h.fields
  -- a principal is read from its own node, which is free of calls
  literals p hp := by
    rw [Principal.tokens_eq]
    exact Principal.exists_literal_of_mem_tokensOf (h.principals p hp)
  compiles c hc hbinds := by
    refine (StatementCondition.exists_compile_eq_ok_iff hbinds).2 ?_
    unfold statementCondition at hc
    cases hcondition : s.condition with
    | none =>
      rw [hcondition] at hc
      cases hc
    | some node =>
      rw [hcondition] at hc
      obtain ⟨read, hread, heq⟩ := map_eq_ok_iff.1 hc
      obtain rfl := Option.some.inj heq
      have hfield : some node ∈ s.fields := by simp [Statement.fields, hcondition]
      exact StatementCondition.not_hasCall_of_ofNode hread (h.fields node hfield)

/-- A field that is resolved holds no call. -/
theorem containsCall_of_resolveField {scope : Scope} {field : Option Node} {node : Node}
    (h : resolveField scope field = .ok (some node)) : node.containsCall = false := by
  cases field with
  | none => cases h
  | some before =>
    obtain ⟨value, -, h⟩ := bind_eq_ok_iff.1 h
    have h := Except.ok.inj h
    split at h
    · cases h
    · obtain rfl := Option.some.inj h
      exact Node.containsCall_ofValue value

/-- A principal that is resolved holds no call. -/
theorem containsCall_of_resolvePrincipal {scope : Scope} {principal : Option Principal}
    {p : Principal} (h : resolvePrincipal scope principal = .ok (some p)) :
    p.toNode.containsCall = false := by
  cases principal with
  | none => cases h
  | some before =>
    obtain ⟨value, -, hnode⟩ := Principal.exists_toNode_of_resolve h
    rw [hnode]
    exact Node.containsCall_ofValue value

/-- A statement that is resolved holds no call. -/
theorem callFree_of_resolve {scope : Scope} {s t : Statement} (h : resolve scope s = .ok t) :
    t.CallFree := by
  obtain ⟨-, -, haction, hnotAction, hresource, hnotResource, hprincipal, hnotPrincipal,
    hcondition⟩ := resolve_eq_ok_iff.1 h
  refine ⟨fun field hfield => ?_, fun p hp => ?_⟩
  · simp only [fields, List.mem_cons, List.not_mem_nil, or_false] at hfield
    rcases hfield with hfield | hfield | hfield | hfield | hfield
    · exact containsCall_of_resolveField (hfield ▸ haction)
    · exact containsCall_of_resolveField (hfield ▸ hnotAction)
    · exact containsCall_of_resolveField (hfield ▸ hresource)
    · exact containsCall_of_resolveField (hfield ▸ hnotResource)
    · exact containsCall_of_resolveField (hfield ▸ hcondition)
  · simp only [principalFields, List.mem_cons, List.not_mem_nil, or_false] at hp
    rcases hp with hp | hp
    · exact containsCall_of_resolvePrincipal (hp ▸ hprincipal)
    · exact containsCall_of_resolvePrincipal (hp ▸ hnotPrincipal)

end Statement

/-! ## Documents -/

/-- The statements of a document that is resolved hold no call. -/
theorem PolicyDocument.callFree_of_resolve {scope : Scope} {d e : PolicyDocument}
    (h : d.resolve scope = .ok e) : ∀ s ∈ e.statements, s.CallFree := by
  intro s hs
  obtain ⟨-, hstatements⟩ := resolve_eq_ok_iff.1 h
  obtain ⟨before, -, hresolve⟩ := exists_of_mem_right (mapM_eq_ok_iff.1 hstatements) hs
  exact Statement.callFree_of_resolve hresolve

/-- The policy documents of a resolved template are read from values. -/
theorem ResolvedTemplate.exists_ofValue_of_mem_policyDocuments {r : ResolvedTemplate}
    {document : String × PolicyDocument} (h : document ∈ r.policyDocuments) :
    ∃ policy, PolicyDocument.ofNode (.ofValue policy) = .ok document.2 := by
  obtain ⟨resource, -, h⟩ := List.mem_flatMap.1 h
  obtain ⟨policy, -, h⟩ := List.mem_filterMap.1 h
  obtain ⟨d, hd, rfl⟩ := Option.map_eq_some_iff.1 h
  refine ⟨policy, ?_⟩
  cases hread : PolicyDocument.ofNode (.ofValue policy) with
  | error e =>
    rw [hread] at hd
    cases hd
  | ok read =>
    rw [hread] at hd
    rw [Option.some.inj hd]

/-- All statements are ready for queries once a template or a document is resolved. -/
theorem Statement.ready_of_resolve :
    (∀ (t : Template) (settings : Settings) (r : ResolvedTemplate), t.resolve settings = .ok r →
      ∀ document ∈ r.policyDocuments, ∀ s ∈ document.2.statements, s.Ready) ∧
    ∀ (d e : PolicyDocument) (scope : Scope), d.resolve scope = .ok e →
      ∀ s ∈ e.statements, s.Ready := by
  refine ⟨fun t settings r _ document hdocument s hs => ?_, fun d e scope h s hs => ?_⟩
  · -- read from a value, which has no calls to begin with
    obtain ⟨policy, hpolicy⟩ := r.exists_ofValue_of_mem_policyDocuments hdocument
    have hfree := Node.containsCall_ofValue policy
    have hcallFree : s.CallFree :=
      PolicyDocument.madeOf_of_ofNode Node.containsCall_of_part hpolicy hfree s hs
    exact hcallFree.ready
  · exact (PolicyDocument.callFree_of_resolve h s hs).ready

/-- The policy of a role that the account may assume for the stack. -/
def rolePolicy : Node :=
  .map [("Statement", .map [("Effect", .string "Allow"), ("Action", .string "sts:AssumeRole"),
    ("Principal", .map [("AWS", .call .ref (.string "AWS::AccountId"))]),
    ("Condition", .map [("StringEquals", .map [("sts:ExternalId",
      .call .ref (.string "AWS::StackName"))])])])]

/-- A template with the role. -/
def roleTemplate : Template where
  parameters := []
  mappings := .empty
  conditions := []
  resources := [("Role", .map [("AssumeRolePolicyDocument", rolePolicy)])]
  outputs := []

/-- The document that the policy resolves to. -/
def roleDocument : PolicyDocument where
  statements := [{
    effect := .allow
    action := some (.string "sts:AssumeRole")
    principal := some (.typed [("AWS", .string "123456789012")])
    condition := some (.map [("StringEquals", .map [("sts:ExternalId",
      .string "stack-name")])]) }]

/-- The document is ready for queries, both as part of the template and by itself. -/
theorem Statement.ready_of_resolve_role :
    (∃ r, roleTemplate.resolve {} = .ok r ∧ r.policyDocuments = [("Role", roleDocument)] ∧
      ∀ document ∈ r.policyDocuments, ∀ s ∈ document.2.statements, s.Ready) ∧
    ∃ d, PolicyDocument.ofNode rolePolicy = .ok d ∧
      d.resolve (roleTemplate.initialScope {}) = .ok roleDocument ∧
        ∀ s ∈ roleDocument.statements, s.Ready := by
  obtain ⟨htemplate, hdocument⟩ := ready_of_resolve
  refine ⟨⟨_, rfl, rfl, htemplate roleTemplate {} _ rfl⟩, ?_⟩
  obtain ⟨d, hd⟩ : ∃ d, PolicyDocument.ofNode rolePolicy = .ok d := ⟨_, rfl⟩
  have hresolve : d.resolve (roleTemplate.initialScope {}) = .ok roleDocument := by
    cases hd
    rfl
  exact ⟨d, hd, hresolve, hdocument d roleDocument _ hresolve⟩

end StackAudit
