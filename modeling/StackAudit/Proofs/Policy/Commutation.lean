import StackAudit.Policy.Document
import StackAudit.Proofs.Resolution.Data

/-!
# Reading and resolving policy documents

There are two ways from a policy in a template to a resolved document: to read the document and
resolve its fields, or to resolve the whole policy and read the document from the value. Both give
the same documents (`PolicyDocument.ofNode_ofJson_resolve_iff`), although their errors may differ.

## Shape of the proof

The policy is a map, and `Node.EntryResolves` relates what it has under each name to what its value
has there. So each field of a statement is settled by cases: a field that is missing, one that turns
out to be absent, and one that is present. A principal is read after it is resolved as before, since
what resolves to a principal, if it is no call, is one already. A statement succeeds on either way
if all of its fields do, and a document if all of its statements do.
-/

namespace StackAudit

open Node (EntryResolves)

/-! ## What a policy has to look like -/

/-- The identifier and the effect of a statement are settled before it is resolved. -/
structure Statement.Settled (fields : List (String × Node)) : Prop where
  sid : ∀ node, fields.lookup "Sid" = some node → node.Settled
  effect : ∀ node, fields.lookup "Effect" = some node → node.Settled

/-- The version of a document is settled before it is resolved, and its statements are maps with
settled identifiers and effects. -/
structure PolicyDocument.Settled (body : List (String × Node)) : Prop where
  version : ∀ node, body.lookup "Version" = some node → node.Settled
  statements : ∀ node, body.lookup "Statement" = some node → ∀ item ∈ node.elements,
    ∃ fields, item = .map fields ∧ Statement.Settled fields

/-! ## Fields -/

namespace Node.EntryResolves

variable {scope : Scope} {node? : Option Node} {value? : Option Value}

/-- A settled text is the same before and after. -/
theorem bind_asString? (h : EntryResolves scope node? value?)
    (hform : ∀ node, node? = some node → node.WellFormed)
    (hsettled : ∀ node, node? = some node → node.Settled) :
    (value?.map ofValue).bind Node.asString? = node?.bind Node.asString? := by
  cases h with
  | missing => rfl
  | @absent node value hvalue hmark =>
    have hpresent := ((hsettled node rfl).resolve (hform node rfl) hvalue).1
    cases hmark.symm.trans hpresent
  | @present node value hvalue _ =>
    have htext := ((hsettled node rfl).resolve (hform node rfl) hvalue).2
    rw [Option.map_some, Option.bind_some, Option.bind_some, ← htext, asString?_ofValue]

/-- A field resolves to the node of its value, if it has one. -/
theorem resolveField (h : EntryResolves scope node? value?) :
    Statement.resolveField scope node? = .ok (value?.map ofValue) := by
  cases h with
  | missing => rfl
  | absent hvalue hmark =>
    rw [Statement.resolveField, hvalue]
    simp [bind, Except.bind, hmark, pure, Except.pure]
  | present hvalue hmark =>
    rw [Statement.resolveField, hvalue]
    simp [bind, Except.bind, hmark, pure, Except.pure]

end Node.EntryResolves

/-- The text of a settled field is the same in the map and in its value. -/
theorem Node.bind_asString?_lookup {scope : Scope} {entries : List (String × Node)}
    {resolved : List (String × Value)} {name : String} (hform : (Node.map entries).WellFormed)
    (h : EntryResolves scope (entries.lookup name) (resolved.lookup name))
    (hsettled : ∀ node, entries.lookup name = some node → node.Settled) :
    ((ofValueEntries resolved).lookup name).bind Node.asString? =
      (entries.lookup name).bind Node.asString? := by
  rw [lookup_ofValueEntries]
  exact h.bind_asString? (fun node hnode => hform.of_lookup hnode) hsettled

/-- Only a principal resolves to what is read as one: what is no principal is its own value. -/
theorem Principal.ofNode_resolve {scope : Scope} {node : Node} {value : Value}
    (hvalue : node.resolve scope = .ok value) :
    Principal.ofNode node >>= Principal.resolve scope =
      if value.isNoValue then .ok none else (Principal.ofNode (.ofValue value)).map some := by
  -- a principal is resolved as its own node, and read again from the value
  have hread (p : Principal) (hp : p.toNode = node) : Principal.resolve scope p =
      if value.isNoValue then .ok none else (Principal.ofNode (.ofValue value)).map some := by
    rw [Principal.resolve, hp, hvalue]
    show (if value.isNoValue = true then .ok none
      else Principal.ofNode (.ofValue value) >>= fun p => .ok (some p)) = _
    cases Principal.ofNode (.ofValue value) <;> rfl
  cases node with
  | map entries => exact hread (.typed entries) rfl
  | list items => exact hread (.list items) rfl
  | string s => exact hread (.single (.string s)) rfl
  | call f argument => exact hread (.single (.call f argument)) rfl
  -- these are no principals, and they are their own values, so both ways fail alike
  | null => cases hvalue; rfl
  | bool b => cases hvalue; rfl
  | number n => cases hvalue; rfl
  | date t => cases hvalue; rfl

/-- A principal that is read and resolved is the one that is read from the value. -/
theorem Statement.principalOf_resolve {scope : Scope} {entries : List (String × Node)}
    {resolved : List (String × Value)} {name : String}
    (h : EntryResolves scope (entries.lookup name) (resolved.lookup name)) :
    principalOf entries name >>= resolvePrincipal scope =
      principalOf (Node.ofValueEntries resolved) name := by
  rw [principalOf, principalOf, Node.lookup_ofValueEntries]
  -- only the two lookups count, and how they are related
  revert h
  generalize entries.lookup name = node?
  generalize resolved.lookup name = value?
  intro h
  have hmap (node : Node) : (Principal.ofNode node).map some >>= resolvePrincipal scope =
      Principal.ofNode node >>= Principal.resolve scope := by
    cases Principal.ofNode node <;> rfl
  cases h with
  | missing => rfl
  | absent hvalue hmark =>
    show (Principal.ofNode _).map some >>= resolvePrincipal scope = .ok none
    rw [hmap, Principal.ofNode_resolve hvalue, if_pos hmark]
  | @present node value hvalue hmark =>
    show (Principal.ofNode _).map some >>= resolvePrincipal scope =
      (Principal.ofNode (.ofValue value)).map some
    rw [hmap, Principal.ofNode_resolve hvalue, hmark]
    rfl

/-! ## Statements -/

namespace Statement

/-- The effect that a statement has by its fields. -/
def effectOf? (body : List (String × Node)) : Option Effect :=
  ((body.lookup "Effect").bind Node.asString?).bind Effect.ofName?

/-- A statement is read if its effect and its principals are. -/
theorem ofNode_map_eq_ok_iff {body : List (String × Node)} {s : Statement} :
    ofNode (.map body) = .ok s ↔
      effectOf? body = some s.effect ∧ principalOf body "Principal" = .ok s.principal ∧
      principalOf body "NotPrincipal" = .ok s.notPrincipal ∧
      s.sid = (body.lookup "Sid").bind Node.asString? ∧ s.action = body.lookup "Action" ∧
      s.notAction = body.lookup "NotAction" ∧ s.resource = body.lookup "Resource" ∧
      s.notResource = body.lookup "NotResource" ∧ s.condition = body.lookup "Condition" := by
  constructor
  · intro h
    rw [ofNode] at h
    split at h
    · next effect heffect =>
      obtain ⟨_, hgiven, h⟩ := bind_eq_ok_iff.1 h
      obtain ⟨principal, hprincipal, h⟩ := bind_eq_ok_iff.1 h
      obtain ⟨notPrincipal, hnotPrincipal, h⟩ := bind_eq_ok_iff.1 h
      cases hgiven
      cases h
      exact ⟨heffect, hprincipal, hnotPrincipal, rfl, rfl, rfl, rfl, rfl, rfl⟩
    · cases h
  · intro ⟨heffect, hprincipal, hnotPrincipal, hsid, haction, hnotAction, hresource, hnotResource,
      hcondition⟩
    unfold effectOf? at heffect
    rw [ofNode, heffect, hprincipal, hnotPrincipal, ← hsid, ← haction, ← hnotAction, ← hresource,
      ← hnotResource, ← hcondition]
    rfl

/-- A statement is resolved if its fields are. -/
theorem resolve_eq_ok_iff {scope : Scope} {s t : Statement} :
    resolve scope s = .ok t ↔ t.sid = s.sid ∧ t.effect = s.effect ∧
      resolveField scope s.action = .ok t.action ∧
      resolveField scope s.notAction = .ok t.notAction ∧
      resolveField scope s.resource = .ok t.resource ∧
      resolveField scope s.notResource = .ok t.notResource ∧
      resolvePrincipal scope s.principal = .ok t.principal ∧
      resolvePrincipal scope s.notPrincipal = .ok t.notPrincipal ∧
      resolveField scope s.condition = .ok t.condition := by
  constructor
  · intro h
    obtain ⟨action, haction, h⟩ := bind_eq_ok_iff.1 h
    obtain ⟨notAction, hnotAction, h⟩ := bind_eq_ok_iff.1 h
    obtain ⟨resource, hresource, h⟩ := bind_eq_ok_iff.1 h
    obtain ⟨notResource, hnotResource, h⟩ := bind_eq_ok_iff.1 h
    obtain ⟨principal, hprincipal, h⟩ := bind_eq_ok_iff.1 h
    obtain ⟨notPrincipal, hnotPrincipal, h⟩ := bind_eq_ok_iff.1 h
    obtain ⟨condition, hcondition, h⟩ := bind_eq_ok_iff.1 h
    cases h
    exact ⟨rfl, rfl, haction, hnotAction, hresource, hnotResource, hprincipal, hnotPrincipal,
      hcondition⟩
  · intro ⟨hsid, heffect, haction, hnotAction, hresource, hnotResource, hprincipal, hnotPrincipal,
      hcondition⟩
    rw [resolve, haction, hnotAction, hresource, hnotResource, hprincipal, hnotPrincipal,
      hcondition, ← hsid, ← heffect]
    rfl

/-- A statement that is read and resolved is the one that is read from the value. -/
theorem ofNode_resolve_iff {scope : Scope} {fields : List (String × Node)} {value : Value}
    (hform : (Node.map fields).WellFormed) (hsettled : Settled fields)
    (hvalue : (Node.map fields).resolve scope = .ok value) {t : Statement} :
    ofNode (.map fields) >>= resolve scope = .ok t ↔ ofNode (.ofValue value) = .ok t := by
  obtain ⟨resolved, rfl, hfields⟩ := Node.resolve_map_eq_ok hform hvalue
  -- on the second way, a field is looked up where the first one resolves it
  have hfield (name : String) : resolveField scope (fields.lookup name) =
      .ok ((Node.ofValueEntries resolved).lookup name) := by
    rw [(hfields name).resolveField, Node.lookup_ofValueEntries]
  have hsid := Node.bind_asString?_lookup hform (hfields "Sid") hsettled.sid
  have heffect : effectOf? (Node.ofValueEntries resolved) = effectOf? fields := by
    rw [effectOf?, effectOf?,
      Node.bind_asString?_lookup hform (hfields "Effect") hsettled.effect]
  have hprincipal (name : String) := principalOf_resolve (hfields name)
  rw [Node.ofValue, ofNode_map_eq_ok_iff, bind_eq_ok_iff, heffect, hsid,
    ← hprincipal "Principal", ← hprincipal "NotPrincipal", bind_eq_ok_iff, bind_eq_ok_iff]
  constructor
  · rintro ⟨s, hs, ht⟩
    obtain ⟨heffect, hp, hnp, hsid, haction, hnotAction, hresource, hnotResource, hcondition⟩ :=
      ofNode_map_eq_ok_iff.1 hs
    obtain ⟨htsid, hteffect, htaction, htnotAction, htresource, htnotResource, htp, htnp,
      htcondition⟩ := resolve_eq_ok_iff.1 ht
    have hread {name : String} {before after : Option Node} (h : before = fields.lookup name)
        (h' : resolveField scope before = .ok after) :
        after = (Node.ofValueEntries resolved).lookup name := by
      rw [h, hfield] at h'
      exact (Except.ok.inj h').symm
    refine ⟨?_, ⟨s.principal, hp, htp⟩, ⟨s.notPrincipal, hnp, htnp⟩, htsid.trans hsid,
      hread haction htaction, hread hnotAction htnotAction, hread hresource htresource,
      hread hnotResource htnotResource, hread hcondition htcondition⟩
    rw [heffect, hteffect]
  · rintro ⟨heffect, ⟨p, hp, htp⟩, ⟨np, hnp, htnp⟩, hsid, haction, hnotAction, hresource,
      hnotResource, hcondition⟩
    -- what is read has the fields of the map, and principals that resolve to those of `t`
    refine ⟨{ t with
      action := fields.lookup "Action"
      notAction := fields.lookup "NotAction"
      resource := fields.lookup "Resource"
      notResource := fields.lookup "NotResource"
      principal := p
      notPrincipal := np
      condition := fields.lookup "Condition" }, ofNode_map_eq_ok_iff.2 ?_, resolve_eq_ok_iff.2 ?_⟩
    · exact ⟨heffect, hp, hnp, hsid, rfl, rfl, rfl, rfl, rfl⟩
    · refine ⟨rfl, rfl, ?_, ?_, ?_, ?_, htp, htnp, ?_⟩
      · rw [hfield, haction]
      · rw [hfield, hnotAction]
      · rw [hfield, hresource]
      · rw [hfield, hnotResource]
      · rw [hfield, hcondition]

end Statement

/-! ## Documents -/

/-- Maps are never absent, so the elements of a node that are maps all resolve to elements of its
value. -/
theorem Node.forall₂_elements {scope : Scope} {node : Node} {value : Value}
    (hform : node.WellFormed) (hmaps : ∀ item ∈ node.elements, ∃ fields, item = .map fields)
    (hvalue : node.resolve scope = .ok value) :
    value.isNoValue = false ∧
      List.Forall₂ (fun item v => item.resolve scope = .ok v) node.elements value.elements := by
  have hpresent {item : Node} {v : Value} (hitem : item ∈ node.elements)
      (hv : item.resolve scope = .ok v) : v.isNoValue = false := by
    obtain ⟨fields, rfl⟩ := hmaps item hitem
    obtain ⟨resolved, rfl, -⟩ := resolve_map_eq_ok (hform.of_mem_elements hitem) hv
    rfl
  -- a node that is no list is its only element, and must be a map
  have hsingle (h : node.elements = [node]) : value.isNoValue = false ∧
      List.Forall₂ (fun item v => item.resolve scope = .ok v) node.elements value.elements := by
    obtain ⟨fields, rfl⟩ := hmaps node (h ▸ List.mem_singleton_self node)
    obtain ⟨resolved, rfl, -⟩ := resolve_map_eq_ok hform hvalue
    exact ⟨rfl, .cons hvalue .nil⟩
  cases node with
  | list items =>
    obtain ⟨values, hrow, rfl⟩ := resolve_list_eq_ok_iff.1 hvalue
    refine ⟨rfl, ?_⟩
    have hall : ∀ v ∈ values, (!v.isNoValue) = true := by
      intro v hv
      obtain ⟨item, hitem, hresolve⟩ := exists_of_mem_right hrow hv
      rw [hpresent hitem hresolve]
      rfl
    rw [List.filter_eq_self.2 hall]
    exact hrow
  | _ => exact hsingle rfl

namespace PolicyDocument

/-- The statements that a document has by its body. -/
def statementsOf (body : List (String × Node)) : Except Error (List Statement) :=
  match body.lookup "Statement" with
  | none => .ok []
  | some node => node.elements.mapM Statement.ofNode

/-- A document is read if its statements are. -/
theorem ofNode_map_eq_ok_iff {body : List (String × Node)} {d : PolicyDocument} :
    ofNode (.map body) = .ok d ↔ d.version = (body.lookup "Version").bind Node.asString? ∧
      statementsOf body = .ok d.statements := by
  have hbody : ofNode (.map body) = (statementsOf body).map fun statements =>
      { version := (body.lookup "Version").bind Node.asString?, statements } := by
    rw [ofNode, statementsOf]
    cases body.lookup "Statement" with
    | none => rfl
    | some node => cases hnode : node.elements.mapM Statement.ofNode <;> simp only [hnode] <;> rfl
  rw [hbody, map_eq_ok_iff]
  constructor
  · rintro ⟨statements, hstatements, rfl⟩
    exact ⟨rfl, hstatements⟩
  · intro ⟨hversion, hstatements⟩
    exact ⟨d.statements, hstatements, by rw [← hversion]⟩

/-- A document is resolved if its statements are. -/
theorem resolve_eq_ok_iff {scope : Scope} {d e : PolicyDocument} :
    resolve scope d = .ok e ↔ e.version = d.version ∧
      d.statements.mapM (Statement.resolve scope) = .ok e.statements := by
  rw [resolve, bind_eq_ok_iff]
  constructor
  · rintro ⟨statements, hstatements, h⟩
    cases h
    exact ⟨rfl, hstatements⟩
  · intro ⟨hversion, hstatements⟩
    refine ⟨e.statements, hstatements, ?_⟩
    rw [← hversion]
    rfl

/-- The statements of elements that are read and resolved are those that are read from the values
of the elements. -/
theorem mapM_ofNode_resolve_iff {scope : Scope} {items : List Node} {values : List Value}
    {statements : List Statement} (hform : ∀ item ∈ items, item.WellFormed)
    (hsettled : ∀ item ∈ items, ∃ fields, item = .map fields ∧ Statement.Settled fields)
    (hvalues : List.Forall₂ (fun item v => item.resolve scope = .ok v) items values) :
    items.mapM Statement.ofNode >>= List.mapM (Statement.resolve scope) = .ok statements ↔
      (values.map Node.ofValue).mapM Statement.ofNode = .ok statements := by
  -- reading all and then resolving all succeeds if both steps do at each place
  rw [mapM_bind_mapM_eq_ok_iff, mapM_eq_ok_iff, List.forall₂_map_left_iff]
  refine forall₂_congr_left hvalues fun item hitem value hvalue s => ?_
  obtain ⟨fields, rfl, hfields⟩ := hsettled item hitem
  exact Statement.ofNode_resolve_iff (hform _ hitem) hfields hvalue

/-- The statements of a document that are read and resolved are those that are read from the
value. -/
theorem statementsOf_resolve_iff {scope : Scope} {body : List (String × Node)}
    {resolved : List (String × Value)} (hform : (Node.map body).WellFormed)
    (hsettled : Settled body) {statements : List Statement}
    (h : EntryResolves scope (body.lookup "Statement") (resolved.lookup "Statement")) :
    statementsOf body >>= List.mapM (Statement.resolve scope) = .ok statements ↔
      statementsOf (Node.ofValueEntries resolved) = .ok statements := by
  rw [statementsOf, statementsOf, Node.lookup_ofValueEntries]
  cases hnode : body.lookup "Statement" with
  | none =>
    rw [hnode] at h
    rw [h.eq_none]
    rfl
  | some node =>
    have hmaps := hsettled.statements node hnode
    have hnodeForm := hform.of_lookup hnode
    rw [hnode] at h
    have helements {value : Value} (hvalue : node.resolve scope = .ok value) :=
      Node.forall₂_elements hnodeForm
        (fun item hitem => (hmaps item hitem).imp fun _ h => h.1) hvalue
    generalize resolved.lookup "Statement" = value? at h ⊢
    cases h with
    | absent hvalue hmark =>
      -- statements are maps or a list of maps, so they are never absent
      cases hmark.symm.trans (helements hvalue).1
    | @present _ value hvalue _ =>
      show node.elements.mapM Statement.ofNode >>= List.mapM (Statement.resolve scope) =
        .ok statements ↔ (Node.ofValue value).elements.mapM Statement.ofNode = .ok statements
      rw [Node.elements_ofValue]
      exact mapM_ofNode_resolve_iff (fun item hitem => hnodeForm.of_mem_elements hitem) hmaps
        (helements hvalue).2

/-- Reading a policy of JSON and resolving the document gives the same as resolving the policy and
reading the document, whenever the policy resolves at all. -/
theorem ofNode_ofJson_resolve_iff {json : Json} (hjson : json.Distinct)
    {body : List (String × Node)} (hbody : Node.ofJson json = .map body)
    (hsettled : Settled body) {scope : Scope} {value : Value}
    (hvalue : (Node.ofJson json).resolve scope = .ok value) (d : PolicyDocument) :
    ofNode (.ofJson json) >>= resolve scope = .ok d ↔ ofNode (.ofValue value) = .ok d := by
  have hform : (Node.map body).WellFormed := hbody ▸ Node.wellFormed_ofJson hjson
  rw [hbody] at hvalue ⊢
  obtain ⟨resolved, rfl, hentries⟩ := Node.resolve_map_eq_ok hform hvalue
  have hstatements := @statementsOf_resolve_iff scope body resolved hform hsettled d.statements
    (hentries "Statement")
  have hversion := Node.bind_asString?_lookup hform (hentries "Version") hsettled.version
  rw [Node.ofValue, ofNode_map_eq_ok_iff, hversion, ← hstatements, bind_eq_ok_iff, bind_eq_ok_iff]
  constructor
  · rintro ⟨read, hread, hresolve⟩
    obtain ⟨hreadVersion, hreadStatements⟩ := ofNode_map_eq_ok_iff.1 hread
    obtain ⟨hdVersion, hdStatements⟩ := resolve_eq_ok_iff.1 hresolve
    exact ⟨hdVersion.trans hreadVersion, read.statements, hreadStatements, hdStatements⟩
  · rintro ⟨hdVersion, statements, hread, hresolve⟩
    refine ⟨{ d with statements }, ?_, ?_⟩
    · exact ofNode_map_eq_ok_iff.2 ⟨hdVersion, hread⟩
    · exact resolve_eq_ok_iff.2 ⟨rfl, hresolve⟩

/-- A policy with a principal to look up and a condition that turns out to be absent. -/
def bucketPolicy : Json :=
  .obj [("Version", .str "2012-10-17"),
    ("Statement", .arr [.obj [("Effect", .str "Allow"), ("Action", .str "s3:GetObject"),
      ("Principal", .obj [("AWS", .obj [("Ref", .str "Account")])]),
      ("Condition", .obj [("Ref", .str "AWS::NoValue")])]])]

/-- The scope of the policy. -/
def bucketScope : Scope :=
  (Scope.empty.withParam "Account" (.string "123456789012")).withParam "AWS::NoValue" .noValue

/-- The fields of the only statement of the policy. -/
def bucketFields : List (String × Node) :=
  [("Effect", .string "Allow"), ("Action", .string "s3:GetObject"),
    ("Principal", .map [("AWS", .call .ref (.string "Account"))]),
    ("Condition", .call .ref (.string "AWS::NoValue"))]

/-- The document that the policy resolves to. -/
def bucketDocument : PolicyDocument where
  version := some "2012-10-17"
  statements := [{
    effect := .allow
    action := some (.string "s3:GetObject")
    principal := some (.typed [("AWS", .string "123456789012")]) }]

/-- The policy gives its document on the first way because it does on the second. -/
theorem ofNode_ofJson_resolve_bucketPolicy :
    ofNode (.ofJson bucketPolicy) >>= resolve bucketScope = .ok bucketDocument := by
  have hjson : bucketPolicy.Distinct := by simp [bucketPolicy]
  have hsettled : Settled [("Version", .string "2012-10-17"),
      ("Statement", .list [.map bucketFields])] := by
    constructor
    · intro node hnode
      cases hnode
      exact ⟨rfl, Node.string.inj.mt (by decide)⟩
    · intro node hnode item hitem
      cases hnode
      refine ⟨bucketFields, List.mem_singleton.1 hitem, ⟨?_, ?_⟩⟩
      · intro node hnode
        cases hnode
      · intro node hnode
        cases hnode
        exact ⟨rfl, Node.string.inj.mt (by decide)⟩
  exact (ofNode_ofJson_resolve_iff hjson rfl hsettled rfl bucketDocument).2 rfl

end PolicyDocument

end StackAudit
