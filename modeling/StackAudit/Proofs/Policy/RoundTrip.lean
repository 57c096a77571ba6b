import StackAudit.Proofs.Json.RoundTrip
import StackAudit.Proofs.Policy.Reading

/-!
# Policy documents in JSON and back

A document that has been read from JSON is written as JSON that is read as the same document
(`PolicyDocument.ofJson_toJson`), although it is not the same JSON: members that a document does not
know are gone, a single statement stands in an array, and an identifier that is not a text is left
out.

## Shape of the proof

The object that a statement or a document is written as is never a call, because it has a member
that is named for no function. So it is a map in which every field is found under its name, as what
the field is written as. The fields of a document that has been read are parts of a node of JSON,
and such parts are read back (`Node.ReadsBack.of_part`); a principal is read back in its own shape,
since it is its own node that it was read from.
-/

namespace StackAudit

/-! ## Records in JSON -/

/-- An object with a member that is named for no function becomes a map in which every member is
found under its name. -/
theorem Node.exists_ofJson_obj_eq_map {members : List (String × Json)} {name : String} {json : Json}
    (hmember : members.lookup name = some json) (hname : Intrinsic.ofName? name = none) :
    ∃ body, Node.ofJson (.obj members) = .map body ∧
      ∀ n, body.lookup n = (members.lookup n).map Node.ofJson := by
  have hcall : Json.isCall (.obj members) = false := by
    -- the only member of a call is named for a function, and this member is not
    refine Bool.eq_false_iff.2 fun hcall => ?_
    obtain ⟨f, argument, rfl⟩ := Json.isCall_obj_iff.1 hcall
    rw [Entries.lookup_cons_ite] at hmember
    split at hmember
    · next heq => rw [heq, Intrinsic.ofName?_name f] at hname; cases hname
    · cases hmember
  refine ⟨ofJsonMembers members, ?_, fun n => lookup_ofJsonMembers n members⟩
  rw [ofJson_obj_of_not_isCall hcall, ofJsonMembers_eq]

/-- A field is found under its own name only. -/
theorem Statement.lookup_field {name n : String} {content : Option Json} :
    (field name content).lookup n = if n = name then content else none := by
  cases content with
  | none => rw [field, Option.toList_none, List.map_nil, List.lookup_nil, ite_self]
  | some json =>
    rw [field, Option.toList_some, List.map_cons, List.map_nil, Entries.lookup_cons_ite,
      List.lookup_nil]

/-! ## Statements -/

/-- A word of an effect is read as the effect. -/
theorem Effect.ofName?_name (e : Effect) : ofName? e.name = some e := by
  cases e <;> rfl

namespace Statement

/-- A statement is written as an object with its fields under their names. -/
theorem exists_toJson_eq_obj (s : Statement) : ∃ members, s.toJson = .obj members ∧
    members.lookup "Sid" = s.sid.map .str ∧
    members.lookup "Effect" = some (.str s.effect.name) ∧
    members.lookup "Action" = s.action.map Node.toJson ∧
    members.lookup "NotAction" = s.notAction.map Node.toJson ∧
    members.lookup "Resource" = s.resource.map Node.toJson ∧
    members.lookup "NotResource" = s.notResource.map Node.toJson ∧
    members.lookup "Principal" = s.principal.map Principal.toJson ∧
    members.lookup "NotPrincipal" = s.notPrincipal.map Principal.toJson ∧
    members.lookup "Condition" = s.condition.map Node.toJson := by
  refine ⟨_, rfl, ?_⟩
  simp [List.lookup_append, lookup_field, Entries.lookup_cons_ite]

/-- What a statement has to be read back: its fields are read back, and its principals are what is
read from their own nodes. -/
structure ReadsBack (s : Statement) : Prop where
  madeOf : s.MadeOf Node.ReadsBack
  principals : ∀ p, some p ∈ s.principalFields → Principal.ofNode p.toNode = .ok p

/-- A field that is a node is read from the member that it is written as. -/
theorem ReadsBack.map_ofJson_toJson {s : Statement} (h : s.ReadsBack) {field : Option Node}
    (hfield : field ∈ s.fields) : (field.map Node.toJson).map Node.ofJson = field := by
  cases field with
  | none => rfl
  | some node => exact congrArg some (h.madeOf.fields node hfield)

/-- A principal is read from the member that it is written as. -/
theorem ReadsBack.principalOf_eq_ok {s : Statement} (h : s.ReadsBack) {p : Option Principal}
    (hp : p ∈ s.principalFields) {body : List (String × Node)} {name : String}
    (hlookup : body.lookup name = (p.map Principal.toJson).map Node.ofJson) :
    principalOf body name = .ok p := by
  rw [principalOf, hlookup]
  cases p with
  | none => rfl
  | some p =>
    have hnode : Node.ofJson p.toJson = p.toNode := h.madeOf.principals p hp
    rw [Option.map_some, Option.map_some, hnode]
    exact map_eq_ok_iff.2 ⟨p, h.principals p hp, rfl⟩

/-- A statement is read from what it is written as. -/
theorem ReadsBack.ofNode_ofJson_toJson {s : Statement} (h : s.ReadsBack) :
    ofNode (.ofJson s.toJson) = .ok s := by
  obtain ⟨members, hmembers, hsid, heffect, haction, hnotAction, hresource, hnotResource,
    hprincipal, hnotPrincipal, hcondition⟩ := exists_toJson_eq_obj s
  -- every statement has an effect, and no function has its name
  obtain ⟨body, hbody, hlookup⟩ := Node.exists_ofJson_obj_eq_map heffect (by decide)
  have hfield {name : String} {field : Option Node} (hfield : field ∈ s.fields)
      (hmember : members.lookup name = field.map Node.toJson) : field = body.lookup name := by
    rw [hlookup, hmember, h.map_ofJson_toJson hfield]
  have hprincipalOf {name : String} {p : Option Principal} (hp : p ∈ s.principalFields)
      (hmember : members.lookup name = p.map Principal.toJson) : principalOf body name = .ok p :=
    h.principalOf_eq_ok hp (by rw [hlookup, hmember])
  rw [hmembers, hbody, ofNode_map_eq_ok_iff]
  refine ⟨?_, hprincipalOf (by simp [principalFields]) hprincipal,
    hprincipalOf (by simp [principalFields]) hnotPrincipal, ?_,
    hfield (by simp [fields]) haction, hfield (by simp [fields]) hnotAction,
    hfield (by simp [fields]) hresource, hfield (by simp [fields]) hnotResource,
    hfield (by simp [fields]) hcondition⟩
  · rw [effectOf?, hlookup, heffect]
    exact Effect.ofName?_name s.effect
  · rw [hlookup, hsid]
    cases s.sid <;> rfl

/-- A principal that is read is what is read from its own node. -/
theorem ofNode_toNode_of_principalOf {body : List (String × Node)} {name : String} {p : Principal}
    (h : principalOf body name = .ok (some p)) : Principal.ofNode p.toNode = .ok p := by
  rw [principalOf, lookup_of_principalOf h] at h
  obtain ⟨q, hq, heq⟩ := map_eq_ok_iff.1 h
  rw [hq, Option.some.inj heq]

/-- A statement that is read from a node that is read back is read back itself. -/
theorem readsBack_of_ofNode {node : Node} {s : Statement} (h : ofNode node = .ok s)
    (hnode : node.ReadsBack) : s.ReadsBack := by
  -- of a principal it is also kept in which of its shapes it was read
  refine ⟨madeOf_of_ofNode Node.ReadsBack.of_part h hnode, fun p hp => ?_⟩
  cases node with
  | map body =>
    obtain ⟨-, hprincipal, hnotPrincipal, -⟩ := ofNode_map_eq_ok_iff.1 h
    simp only [principalFields, List.mem_cons, List.not_mem_nil, or_false] at hp
    rcases hp with hp | hp
    · exact ofNode_toNode_of_principalOf (hp ▸ hprincipal)
    · exact ofNode_toNode_of_principalOf (hp ▸ hnotPrincipal)
  | _ => cases h

end Statement

/-! ## Documents -/

namespace PolicyDocument

/-- A document is written as an object with its version and an array of its statements. -/
theorem exists_toJson_eq_obj (d : PolicyDocument) : ∃ members, d.toJson = .obj members ∧
    members.lookup "Version" = d.version.map .str ∧
    members.lookup "Statement" = some (.arr (d.statements.map Statement.toJson)) := by
  refine ⟨_, rfl, ?_⟩
  simp [List.lookup_append, Statement.lookup_field, Entries.lookup_cons_ite]

/-- A document whose statements are read back is read from what it is written as. -/
theorem ofJson_toJson_of_readsBack {d : PolicyDocument}
    (h : ∀ s ∈ d.statements, s.ReadsBack) : ofJson d.toJson = .ok d := by
  obtain ⟨members, hmembers, hversion, hstatements⟩ := exists_toJson_eq_obj d
  -- the array of statements is always written, also if it is empty
  obtain ⟨body, hbody, hlookup⟩ := Node.exists_ofJson_obj_eq_map hstatements (by decide)
  rw [ofJson, hmembers, hbody, ofNode_map_eq_ok_iff]
  constructor
  · rw [hlookup, hversion]
    cases d.version <;> rfl
  · rw [statementsOf, hlookup, hstatements, Option.map_some, Node.ofJson, Node.ofJsonItems_eq]
    show (((d.statements.map Statement.toJson).map Node.ofJson).mapM Statement.ofNode) = _
    rw [mapM_eq_ok_iff, List.map_map, List.forall₂_map_left_iff, List.forall₂_same]
    exact fun s hs => (h s hs).ofNode_ofJson_toJson

/-- A document that is read from JSON is read again from the JSON that it is written as. -/
theorem ofJson_toJson {json : Json} {d : PolicyDocument} (h : ofJson json = .ok d) :
    ofJson d.toJson = .ok d := by
  refine ofJson_toJson_of_readsBack fun s hs => ?_
  obtain ⟨item, hitem, hread⟩ := exists_part_of_mem_statements h hs
  exact Statement.readsBack_of_ofNode hread ((Node.readsBack_ofJson json).of_part hitem)

/-- A policy with a single statement: an identifier that is not a text, an action that is null, a
resource that is a call, principals by kind and a list of exceptions. -/
def ledgerJson : Json :=
  .obj [("Version", .str "2012-10-17"), ("Id", .str "ledger"),
    ("Statement", .obj [("Sid", .num (.int 7)),
      ("NotPrincipal", .arr [.str "*", .obj [("Ref", .str "Guest")]]),
      ("Principal", .obj [("AWS", .arr [.obj [("Fn::GetAtt", .str "Clerk.Arn")]]),
        ("Service", .str "ec2.amazonaws.com")]),
      ("Resource", .obj [("Fn::Sub", .str "arn:aws:s3:::$\x7bBucket\x7d")]),
      ("Effect", .str "Deny"), ("Action", .null),
      ("Condition", .obj [("Bool", .obj [("aws:SecureTransport", .bool false)])])])]

/-- The document that is read from it. -/
def ledger : PolicyDocument where
  version := some "2012-10-17"
  statements := [{
    effect := .deny
    action := some .null
    resource := some (.call .sub (.string "arn:aws:s3:::$\x7bBucket\x7d"))
    principal := some (.typed [("AWS", .list [.call .getAtt (.string "Clerk.Arn")]),
      ("Service", .string "ec2.amazonaws.com")])
    notPrincipal := some (.list [.string "*", .call .ref (.string "Guest")])
    condition := some (.map [("Bool", .map [("aws:SecureTransport", .bool false)])]) }]

/-- The document is read from the policy, and read again from what it is written as. -/
theorem ofJson_toJson_ledger : ofJson ledgerJson = .ok ledger ∧ ofJson ledger.toJson = .ok ledger :=
  have hread : ofJson ledgerJson = .ok ledger := rfl
  ⟨hread, ofJson_toJson hread⟩

end PolicyDocument

end StackAudit
