import StackAudit.Proofs.Sequencing
import StackAudit.Proofs.Template.Layout
import StackAudit.Template

/-!
# Loading

A document in the shape of a template loads unless one of the objects that it is laid out in stands
for a call. If it loads, every section of the template has the members of the section of the
document, each as what its JSON value becomes (`Template.ofText_keeps`). Mappings are tables, in
ascending order of names at every level; the other sections keep the order of the document.

## Shape of the proof

Each reader has a lemma that says what it makes of a part of the document: `sectionOf_eq_ok_iff`,
`Parameter.exists_ofNode_eq_ok`, `exists_mappingsOf_eq_ok` and its converse
`plainLevels_of_mappingsOf`. `ofNode_map_eq_ok_iff` takes a template apart into what the readers
yield.
-/

namespace StackAudit

/-! ## Parameters -/

namespace Parameter

/-- A parameter is what a member of a section declares. -/
structure DeclaredBy (p : Parameter) (name : String) (declaration : Json) : Prop where
  name_eq : p.name = name
  type : declaration.member? "Type" = some (.str p.type)
  default : p.default? = (declaration.member? "Default").map Value.ofJson
  noEcho : p.noEcho =
    (((declaration.member? "NoEcho").bind Json.toValue?).bind Value.asBool?).getD false
  allowedValues : p.allowedValues =
    (((declaration.member? "AllowedValues").bind Json.toValue?).map Value.elements).getD []

/-- A declaration declares a parameter. -/
theorem exists_ofNode_eq_ok {declaration : Json} (h : declaration.IsDeclaration) (name : String) :
    ∃ p, ofNode name (Node.ofJson declaration) = .ok p ∧ p.DeclaredBy name declaration := by
  obtain ⟨members, rfl, hcall⟩ := h.exists_obj
  obtain ⟨value, htype, hstring⟩ := h.type
  obtain ⟨type, rfl⟩ := Json.exists_eq_str hstring
  have htypeField : ((Node.ofJsonMembers members).lookup "Type").bind Node.asString? =
      some type := by
    have hlookup : members.lookup "Type" = some (.str type) := htype
    rw [Node.lookup_ofJsonMembers, hlookup]
    rfl
  have hfield (key : String) : ((Node.ofJsonMembers members).lookup key).bind Node.toValue? =
      (members.lookup key).bind Json.toValue? := by
    rw [Node.lookup_ofJsonMembers, Option.bind_map]
    exact congrArg _ (funext Node.toValue?_ofJson)
  rw [Node.ofJson_obj_of_not_isCall hcall, ← Node.ofJsonMembers_eq]
  simp only [ofNode, htypeField, hfield]
  rw [Node.lookup_ofJsonMembers]
  -- the default is data, so that reading it cannot fail
  cases hdefault : members.lookup "Default" with
  | none =>
    exact ⟨_, rfl, rfl, htype, (congrArg (Option.map Value.ofJson) hdefault).symm, rfl, rfl⟩
  | some value =>
    have hvalue : (Node.ofJson value).toValue? = some (Value.ofJson value) :=
      Node.toValue?_ofJson_of_containsCall (h.default value hdefault)
    simp only [Option.map_some, hvalue]
    exact ⟨_, rfl, rfl, htype, (congrArg (Option.map Value.ofJson) hdefault).symm, rfl, rfl⟩

/-- The declarations of a section declare parameters under their names. -/
theorem exists_forall₂_ofNode {members : List (String × Json)}
    (h : ∀ m ∈ members, m.2.IsDeclaration) :
    ∃ parameters : List (String × Parameter), List.Forall₂ (fun m p => p.1 = m.1 ∧
      ofNode m.1 (Node.ofJson m.2) = .ok p.2 ∧ p.2.DeclaredBy m.1 m.2) members parameters := by
  refine exists_forall₂ fun m hm => ?_
  obtain ⟨p, hp, hdeclared⟩ := exists_ofNode_eq_ok (h m hm) m.1
  exact ⟨(m.1, p), rfl, hp, hdeclared⟩

end Parameter

/-! ## Mappings -/

/-- A table for an object: each name of a member has what the member becomes, and no other name has
a value. -/
inductive TableOf {α : Type} (R : Json → α → Prop) : Json → Table α → Prop where
  | obj {members : List (String × Json)} {row : List (String × α)} {table : Table α} :
      List.Forall₂ (fun m e => e.1 = m.1 ∧ R m.2 e.2) members row → table.entries.Perm row →
      TableOf R (.obj members) table

/-- Entries in any order make a table for an object if they are what its members become. -/
theorem TableOf.ofList {α : Type} {R : Json → α → Prop} {members : List (String × Json)}
    {row entries : List (String × α)} (hnames : (members.map Prod.fst).Nodup)
    (hrow : List.Forall₂ (fun m e => e.1 = m.1 ∧ R m.2 e.2) members row)
    (hperm : entries.Perm row) : TableOf R (.obj members) (Table.ofList entries) := by
  have hrownames : (row.map Prod.fst).Nodup := by
    rwa [Node.map_fst_eq_of_forall₂ hrow]
  have hentries : (entries.map Prod.fst).Nodup := (hperm.map Prod.fst).symm.nodup hrownames
  exact .obj hrow ((Entries.perm_sort hentries).trans hperm)

/-- A table of the values of the members of an object. -/
def IsTableOf : Json → Table Value → Prop := TableOf fun json value => value = Value.ofJson json

/-- A table of the tables of the members of an object. -/
def IsMappingOf : Json → Table (Table Value) → Prop := TableOf IsTableOf

/-- The value of an object has entries, and these make a table of it. -/
theorem Json.ObjectOf.exists_asMap?_eq_some {P : Json → Prop} {json : Json} (h : ObjectOf P json)
    (hdistinct : json.Distinct) :
    ∃ entries, (Value.ofJson json).asMap? = some entries ∧
      IsTableOf json (Table.ofList entries) := by
  obtain @⟨members, -⟩ := h
  have hnames : (members.map Prod.fst).Nodup := (distinct_obj.1 hdistinct).1
  have hrow : List.Forall₂ (fun m e => e.1 = m.1 ∧ e.2 = Value.ofJson m.2) members
      (Value.ofJsonMembers members) := by
    rw [Value.ofJsonMembers_eq, List.forall₂_map_right_iff]
    exact List.forall₂_same.2 fun _ _ => ⟨rfl, rfl⟩
  have hvalues : ((Value.ofJsonMembers members).map Prod.fst).Nodup := by
    rwa [Node.map_fst_eq_of_forall₂ hrow]
  exact ⟨_, rfl, .ofList hnames hrow (Entries.perm_sort hvalues)⟩

namespace Template

/-- A mapping is read as the table that it describes if none of its objects stands for a call. -/
theorem exists_mappingOf?_eq_some {mapping : Json} (h : mapping.IsMapping)
    (hdistinct : mapping.Distinct) (hplain : mapping.PlainLevels) :
    ∃ table, mappingOf? (Node.ofJson mapping) = some table ∧ IsMappingOf mapping table := by
  have hvalue : (Node.ofJson mapping).toValue? = some (Value.ofJson mapping) :=
    Node.toValue?_ofJson_of_containsCall (h.isData_iff.2 hplain)
  obtain @⟨tops, htops⟩ := h
  obtain ⟨hnames, hdistinct⟩ := Json.distinct_obj.1 hdistinct
  have hobject (m : String × Json) (hm : m ∈ tops) : ∃ entries,
      (Value.ofJson m.2).asMap? = some entries ∧ IsTableOf m.2 (Table.ofList entries) :=
    (htops m hm).exists_asMap?_eq_some (hdistinct m hm)
  -- the mapping is sorted before its objects are read, so reading them is put as a function
  let read (e : String × Value) : String × Table Value := (e.1, Table.ofList (e.2.asMap?.getD []))
  have hread (e : String × Value) (he : e ∈ Entries.sort (Value.ofJsonMembers tops)) :
      (e.2.asMap?.map fun seconds => (e.1, Table.ofList seconds)) = some (read e) := by
    have hmem := Entries.mem_of_mem_sort he
    rw [Value.ofJsonMembers_eq] at hmem
    obtain ⟨m, hm, rfl⟩ := List.mem_map.1 hmem
    obtain ⟨entries, hentries, -⟩ := hobject m hm
    simp only [read, hentries, Option.map_some, Option.getD_some]
  -- in the order of the members the same tables are read; sorting only permutes them
  have hrow : List.Forall₂ (fun m e => e.1 = m.1 ∧ IsTableOf m.2 e.2) tops
      ((Value.ofJsonMembers tops).map read) := by
    rw [Value.ofJsonMembers_eq, List.map_map, List.forall₂_map_right_iff]
    refine List.forall₂_same.2 fun m hm => ⟨rfl, ?_⟩
    obtain ⟨entries, hentries, htable⟩ := hobject m hm
    simpa only [Function.comp, read, hentries, Option.getD_some] using htable
  have hvalues : ((Value.ofJsonMembers tops).map Prod.fst).Nodup := by
    rwa [Value.ofJsonMembers_eq, List.map_map]
  refine ⟨Table.ofList ((Entries.sort (Value.ofJsonMembers tops)).map read), ?_, ?_⟩
  · rw [mappingOf?, hvalue, Value.ofJson]
    show List.mapM _ _ >>= _ = _
    rw [mapM_eq_some_map hread]
    rfl
  · exact .ofList hnames hrow ((Entries.perm_sort hvalues).map read)

/-- If a mapping is read, none of its objects stands for a call. -/
theorem plainLevels_of_mappingOf? {mapping : Json} (h : mapping.IsMapping)
    {table : Table (Table Value)} (htable : mappingOf? (Node.ofJson mapping) = some table) :
    mapping.PlainLevels := by
  rw [← h.isData_iff]
  -- a value with a call in it is no data, and a mapping is read from data only
  by_contra hcall
  have hnone : mapping.toValue? = none := if_pos (Bool.not_eq_false _ ▸ hcall)
  rw [mappingOf?, Node.toValue?_ofJson, hnone] at htable
  cases htable

/-- A section of mappings is read as the table of what its mappings are read as. -/
theorem mappingsOf_eq_ok_iff {entries : List (String × Node)} {mappings : Mappings} :
    mappingsOf entries = .ok mappings ↔ ∃ row,
      List.Forall₂ (fun e r => r.1 = e.1 ∧ mappingOf? e.2 = some r.2) entries row ∧
        mappings = .ofList row := by
  rw [mappingsOf, bind_eq_ok_iff]
  refine exists_congr fun row => and_congr ?_ ⟨fun h => (Except.ok.inj h).symm, fun h => h ▸ rfl⟩
  rw [mapM_eq_ok_iff]
  constructor
  · intro h
    refine h.imp ?_
    rintro ⟨name, node⟩ r hr
    cases hmapping : mappingOf? node with
    | none =>
      simp only [hmapping] at hr
      cases hr
    | some mapping =>
      simp only [hmapping] at hr
      cases hr
      exact ⟨rfl, rfl⟩
  · intro h
    refine h.imp ?_
    rintro ⟨name, node⟩ r ⟨hname, hread⟩
    obtain rfl : r.1 = name := hname
    simp only [hread]

/-- A section of mappings is read as the table that it describes if none of their objects stands for
a call. -/
theorem exists_mappingsOf_eq_ok {members : List (String × Json)}
    (h : ∀ m ∈ members, m.2.IsMapping) (hdistinct : (Json.obj members).Distinct)
    (hplain : ∀ m ∈ members, m.2.PlainLevels) :
    ∃ mappings, mappingsOf (members.map fun m => (m.1, Node.ofJson m.2)) = .ok mappings ∧
      TableOf IsMappingOf (.obj members) mappings := by
  obtain ⟨hnames, hmembers⟩ := Json.distinct_obj.1 hdistinct
  have hmapping (m : String × Json) (hm : m ∈ members) : ∃ e : String × Table (Table Value),
      e.1 = m.1 ∧ mappingOf? (Node.ofJson m.2) = some e.2 ∧ IsMappingOf m.2 e.2 := by
    obtain ⟨table, htable, hof⟩ :=
      exists_mappingOf?_eq_some (h m hm) (hmembers m hm) (hplain m hm)
    exact ⟨(m.1, table), rfl, htable, hof⟩
  obtain ⟨row, hrow⟩ := exists_forall₂ hmapping
  refine ⟨.ofList row, mappingsOf_eq_ok_iff.2 ⟨row, List.forall₂_map_left_iff.2 ?_, rfl⟩, ?_⟩
  · exact hrow.imp fun _ _ he => ⟨he.1, he.2.1⟩
  · exact .ofList hnames (hrow.imp fun _ _ he => ⟨he.1, he.2.2⟩) (.refl row)

/-- If a section of mappings is read, none of their objects stands for a call. -/
theorem plainLevels_of_mappingsOf {members : List (String × Json)}
    (h : ∀ m ∈ members, m.2.IsMapping) {mappings : Mappings}
    (hmappings : mappingsOf (members.map fun m => (m.1, Node.ofJson m.2)) = .ok mappings) :
    ∀ m ∈ members, m.2.PlainLevels := by
  intro m hm
  obtain ⟨row, hrow, -⟩ := mappingsOf_eq_ok_iff.1 hmappings
  obtain ⟨e, -, -, hread⟩ := exists_of_mem_right (List.forall₂_map_left_iff.1 hrow).flip hm
  exact plainLevels_of_mappingOf? (h m hm) hread

/-! ## Sections -/

/-- A section of a document is read unless its object stands for a call. -/
theorem sectionOf_eq_ok_iff {members : List (String × Json)} {name : String}
    (h : ∀ value ∈ (Json.obj members).member? name, value.isObject = true)
    {entries : List (String × Node)} :
    sectionOf (Node.ofJsonMembers members) name = .ok entries ↔
      (∀ value ∈ (Json.obj members).member? name, value.isCall = false) ∧
        entries = (Json.obj members).sectionNodes name := by
  have hmember : members.lookup name = (Json.obj members).member? name := rfl
  rw [sectionOf, Node.lookup_ofJsonMembers, Json.sectionNodes, Json.sectionMembers, hmember]
  cases hvalue : (Json.obj members).member? name with
  | none =>
    constructor
    · intro hentries
      exact ⟨fun _ hnone => absurd hnone (Option.not_mem_none _), (Except.ok.inj hentries).symm⟩
    · rintro ⟨-, rfl⟩
      rfl
  | some value =>
    obtain ⟨ms, rfl⟩ := Json.exists_eq_obj (h value hvalue)
    rw [Option.map_some, Option.elim_some, Json.members]
    constructor
    · intro hentries
      cases hcall : Json.isCall (.obj ms) with
      | true =>
        obtain ⟨f, argument, hnode⟩ := Node.exists_ofJson_eq_call hcall
        rw [hnode] at hentries
        cases hentries
      | false =>
        rw [Node.ofJson_obj_of_not_isCall hcall] at hentries
        exact ⟨fun _ hsome => Option.some.inj hsome ▸ hcall, (Except.ok.inj hentries).symm⟩
    · rintro ⟨hcall, rfl⟩
      rw [Node.ofJson_obj_of_not_isCall (hcall _ rfl)]

/-! ## Templates -/

/-- A template is what its sections are read as. -/
theorem ofNode_map_eq_ok_iff {body : List (String × Node)} {t : Template} :
    ofNode (.map body) = .ok t ↔
      (∃ entries, sectionOf body "Parameters" = .ok entries ∧
        List.Forall₂ (fun e p => p.1 = e.1 ∧ Parameter.ofNode e.1 e.2 = .ok p.2) entries
          t.parameters) ∧
      (∃ entries, sectionOf body "Mappings" = .ok entries ∧
        mappingsOf entries = .ok t.mappings) ∧
      sectionOf body "Conditions" = .ok t.conditions ∧
      sectionOf body "Resources" = .ok t.resources ∧
      sectionOf body "Outputs" = .ok t.outputs := by
  -- reading one declaration, without the name that it is put under
  have hstep (e : String × Node) (p : String × Parameter) :
      ((Parameter.ofNode e.1 e.2 >>= fun parameter => pure (e.1, parameter)) = .ok p) ↔
        p.1 = e.1 ∧ Parameter.ofNode e.1 e.2 = .ok p.2 := by
    rw [bind_eq_ok_iff]
    constructor
    · rintro ⟨parameter, hparameter, hp⟩
      cases hp
      exact ⟨rfl, hparameter⟩
    · rintro ⟨hname, hparameter⟩
      exact ⟨p.2, hparameter, congrArg Except.ok (Prod.ext hname.symm rfl)⟩
  rw [ofNode]
  simp only [bind_eq_ok_iff]
  constructor
  · rintro ⟨declared, hdeclared, parameters, hparameters, mapped, hmapped, mappings, hmappings,
      conditions, hconditions, resources, hresources, outputs, houtputs, ht⟩
    cases ht
    have hrow := mapM_eq_ok_iff.1 hparameters
    exact ⟨⟨declared, hdeclared, hrow.imp fun e p => (hstep e p).1⟩, ⟨mapped, hmapped, hmappings⟩,
      hconditions, hresources, houtputs⟩
  · rintro ⟨⟨declared, hdeclared, hrow⟩, ⟨mapped, hmapped, hmappings⟩, hconditions, hresources,
      houtputs⟩
    have hparameters := mapM_eq_ok_iff.2 (hrow.imp fun e p => (hstep e p).2)
    exact ⟨declared, hdeclared, _, hparameters, mapped, hmapped, _, hmappings, _, hconditions, _,
      hresources, _, houtputs, rfl⟩

/-- Every section of a template has the members of the section of a document, each as what its JSON
value becomes. -/
structure Keeps (t : Template) (document : Json) : Prop where
  parameters : List.Forall₂ (fun m p => p.1 = m.1 ∧
      Parameter.ofNode m.1 (Node.ofJson m.2) = .ok p.2 ∧ p.2.DeclaredBy m.1 m.2)
    (document.sectionMembers "Parameters") t.parameters
  mappings : TableOf IsMappingOf (.obj (document.sectionMembers "Mappings")) t.mappings
  conditions : t.conditions = document.sectionNodes "Conditions"
  resources : t.resources = document.sectionNodes "Resources"
  outputs : t.outputs = document.sectionNodes "Outputs"

/-- A document with a plain layout is read as a template that keeps it. -/
theorem exists_ofNode_eq_ok {document : Json} (h : document.IsTemplate)
    (hdistinct : document.Distinct) (hplain : document.PlainLayout) :
    ∃ t, ofNode (Node.ofJson document) = .ok t ∧ t.Keeps document := by
  obtain ⟨members, rfl⟩ := Json.exists_eq_obj h.object
  -- all five sections are read by the same reader
  have hsection (name : String) (hname : name ∈ Json.sectionNames) :
      sectionOf (Node.ofJsonMembers members) name = .ok ((Json.obj members).sectionNodes name) :=
    (sectionOf_eq_ok_iff (h.sections name hname)).2 ⟨hplain.sections name hname, rfl⟩
  obtain ⟨parameters, hparameters⟩ := Parameter.exists_forall₂_ofNode h.parameters
  obtain ⟨mappings, hmappings, htable⟩ := exists_mappingsOf_eq_ok h.mappings
    (hdistinct.obj_sectionMembers "Mappings") hplain.mappings
  let t : Template := {
    parameters, mappings
    conditions := (Json.obj members).sectionNodes "Conditions"
    resources := (Json.obj members).sectionNodes "Resources"
    outputs := (Json.obj members).sectionNodes "Outputs" }
  have hdeclared : List.Forall₂ (fun e p => p.1 = e.1 ∧ Parameter.ofNode e.1 e.2 = .ok p.2)
      ((Json.obj members).sectionNodes "Parameters") t.parameters :=
    List.forall₂_map_left_iff.2 (hparameters.imp fun _ _ hp => ⟨hp.1, hp.2.1⟩)
  refine ⟨t, ?_, hparameters, htable, rfl, rfl, rfl⟩
  rw [Node.ofJson_obj_of_not_isCall hplain.root, ← Node.ofJsonMembers_eq, ofNode_map_eq_ok_iff]
  exact ⟨⟨_, hsection _ (by decide), hdeclared⟩, ⟨_, hsection _ (by decide), hmappings⟩,
    hsection _ (by decide), hsection _ (by decide), hsection _ (by decide)⟩

/-- A document that is read as a template has a plain layout. -/
theorem plainLayout_of_ofNode {document : Json} (h : document.IsTemplate) {t : Template}
    (ht : ofNode (Node.ofJson document) = .ok t) : document.PlainLayout := by
  obtain ⟨members, rfl⟩ := Json.exists_eq_obj h.object
  have hroot : Json.isCall (.obj members) = false := by
    rw [Bool.eq_false_iff]
    intro hcall
    obtain ⟨f, argument, hnode⟩ := Node.exists_ofJson_eq_call hcall
    rw [hnode] at ht
    cases ht
  rw [Node.ofJson_obj_of_not_isCall hroot, ← Node.ofJsonMembers_eq, ofNode_map_eq_ok_iff] at ht
  -- every section has been read, and a call would have been refused as one
  obtain ⟨⟨_, hdeclared, -⟩, ⟨_, hmapped, hmappings⟩, hconditions, hresources, houtputs⟩ := ht
  have hsection (name : String) (hname : name ∈ Json.sectionNames) :
      ∃ entries, sectionOf (Node.ofJsonMembers members) name = .ok entries := by
    simp only [Json.sectionNames, List.mem_cons, List.not_mem_nil, or_false] at hname
    rcases hname with rfl | rfl | rfl | rfl | rfl
    exacts [⟨_, hdeclared⟩, ⟨_, hmapped⟩, ⟨_, hconditions⟩, ⟨_, hresources⟩, ⟨_, houtputs⟩]
  refine ⟨hroot, fun name hname => ?_, ?_⟩
  · obtain ⟨entries, hentries⟩ := hsection name hname
    exact ((sectionOf_eq_ok_iff (h.sections name hname)).1 hentries).1
  · obtain ⟨-, rfl⟩ := (sectionOf_eq_ok_iff (h.sections _ (by decide))).1 hmapped
    exact plainLevels_of_mappingsOf h.mappings hmappings

/-- A text of a document in the shape of a template loads exactly if none of the objects that the
document is laid out in stands for a call, and the template then keeps every section whole. -/
theorem ofText_keeps {text : String} {document : Json} (htext : Json.ofText? text = some document)
    (h : document.IsTemplate) :
    ((∃ t, ofText text = .ok t) ↔ document.PlainLayout) ∧
      ∀ t, ofText text = .ok t → t.Keeps document := by
  have hread : ofText text = ofNode (Node.ofJson document) := by rw [ofText, htext]
  have hloads (hplain : document.PlainLayout) :
      ∃ t, ofNode (Node.ofJson document) = .ok t ∧ t.Keeps document :=
    exists_ofNode_eq_ok h (Json.distinct_ofText? htext) hplain
  rw [hread]
  refine ⟨⟨?_, fun hplain => ?_⟩, fun t ht => ?_⟩
  · rintro ⟨t, ht⟩
    exact plainLayout_of_ofNode h ht
  · obtain ⟨t, ht, -⟩ := hloads hplain
    exact ⟨t, ht⟩
  · obtain ⟨kept, hkept, hkeeps⟩ := hloads (plainLayout_of_ofNode h ht)
    obtain rfl : kept = t := Except.ok.inj (hkept.symm.trans ht)
    exact hkeeps

/-- A text with a section whose only member has the name of a function. -/
def topicText : String :=
  "\x7b\"Resources\": \x7b\"Condition\": \x7b\"Type\": \"AWS::SNS::Topic\"\x7d\x7d\x7d"

/-- The shape of a template alone is not enough: a section with a single member that has the name of
a function stands for a call, and then nothing is loaded. -/
theorem not_forall_exists_ofText_keeps : ¬∀ (text : String) (document : Json),
    Json.ofText? text = some document → document.IsTemplate →
      ∃ t, ofText text = .ok t ∧ t.Keeps document := by
  intro h
  have htext : ∃ document ∈ Json.ofText? topicText, document.IsTemplate := by decide +kernel
  have hfails : (ofText topicText).isOk = false := by decide +kernel
  -- the resources of the topic have one member, and it is named for a function
  obtain ⟨document, hdocument, htemplate⟩ := htext
  obtain ⟨t, ht, -⟩ := h topicText document hdocument htemplate
  rw [ht] at hfails
  cases hfails

/-- A text with functions called in a resource, and with names of functions beside other names. -/
def queueText : String :=
  "\x7b\"Parameters\": \x7b\"Size\": \x7b\"Type\": \"Number\", \"Default\": 2\x7d\x7d, " ++
    "\"Mappings\": \x7b\"Delay\": \x7b\"west\": \x7b\"Ref\": 5, \"Base\": 7\x7d, " ++
    "\"east\": \x7b\x7d\x7d\x7d, " ++
    "\"Resources\": \x7b\"Queue\": \x7b\"Ref\": \"Size\"\x7d, \"Condition\": \x7b\x7d\x7d\x7d"

/-- The text of the queue loads, and nothing of it is lost. -/
theorem ofText_keeps_queue : ∃ document, Json.ofText? queueText = some document ∧
    document.IsTemplate ∧ document.PlainLayout ∧
      ∃ t, ofText queueText = .ok t ∧ t.Keeps document := by
  have htext : ∃ document ∈ Json.ofText? queueText, document.IsTemplate ∧ document.PlainLayout := by
    decide +kernel
  obtain ⟨document, hdocument, htemplate, hplain⟩ := htext
  obtain ⟨hloads, hkeeps⟩ := ofText_keeps hdocument htemplate
  obtain ⟨t, ht⟩ := hloads.2 hplain
  exact ⟨document, hdocument, htemplate, hplain, t, ht, hkeeps t ht⟩

end Template

end StackAudit
