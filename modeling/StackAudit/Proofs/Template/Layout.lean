import StackAudit.Proofs.Json.CallFree
import StackAudit.Proofs.Json.Distinct

/-!
# Layout of documents

`Json.IsTemplate` is the shape that a document needs to be a template: the sections are objects,
the parameters are declared, the mappings have two levels. Shape says nothing about names, and an
object whose only member is named for a function stands for a call. `Json.PlainLayout` asks that
this is not so for any of the objects that the template itself is laid out in: the document, its
sections, its mappings and the objects in these.

Both are decidable. A mapping is data exactly if none of its objects stands for a call
(`Json.IsMapping.isData_iff`), and a declaration never does (`Json.IsDeclaration.exists_obj`).
-/

namespace StackAudit.Json

/-- The members of an object. -/
def members : Json → List (String × Json)
  | .obj members => members
  | _ => []

/-- The value of a member of an object. -/
def member? (json : Json) (name : String) : Option Json := json.members.lookup name

/-- The members of a section of a document; a missing section has none. -/
def sectionMembers (document : Json) (name : String) : List (String × Json) :=
  (document.member? name).elim [] members

/-- The members of a section of a document, each as the node that it becomes. -/
def sectionNodes (document : Json) (name : String) : List (String × Node) :=
  (document.sectionMembers name).map fun m => (m.1, Node.ofJson m.2)

/-- A string. -/
def isString : Json → Bool
  | .str _ => true
  | _ => false

/-- An object. -/
def isObject : Json → Bool
  | .obj _ => true
  | _ => false

/-- What counts as a string is the JSON value of one. -/
theorem exists_eq_str {json : Json} (h : json.isString = true) : ∃ s, json = .str s := by
  cases json with
  | str s => exact ⟨s, rfl⟩
  | _ => cases h

/-- What counts as an object is the JSON value of its members. -/
theorem exists_eq_obj {json : Json} (h : json.isObject = true) :
    ∃ members, json = .obj members := by
  cases json with
  | obj members => exact ⟨members, rfl⟩
  | _ => cases h

/-! ## Shape -/

/-- An object whose members are all of one kind. -/
inductive ObjectOf (P : Json → Prop) : Json → Prop where
  | obj {members : List (String × Json)} : (∀ m ∈ members, P m.2) → ObjectOf P (.obj members)

instance {P : Json → Prop} [DecidablePred P] : DecidablePred (ObjectOf P)
  | .obj members => decidable_of_iff (∀ m ∈ members, P m.2) ⟨.obj, fun | .obj h => h⟩
  | .null | .bool _ | .num _ | .str _ | .arr _ => isFalse nofun

/-- A value without calls. -/
def IsData (json : Json) : Prop := json.containsCall = false

instance : DecidablePred IsData := fun _ => inferInstanceAs (Decidable (_ = _))

/-- A declaration of a parameter: an object with a type, the default of which is data. -/
structure IsDeclaration (declaration : Json) : Prop where
  type : ∃ value ∈ declaration.member? "Type", value.isString = true
  default : ∀ value ∈ declaration.member? "Default", value.IsData

instance : DecidablePred IsDeclaration := fun _ =>
  decidable_of_iff (_ ∧ _) ⟨fun h => ⟨h.1, h.2⟩, fun h => ⟨h.type, h.default⟩⟩

/-- A mapping: two levels of objects over data. -/
def IsMapping : Json → Prop := ObjectOf (ObjectOf IsData)

instance : DecidablePred IsMapping := inferInstanceAs (DecidablePred (ObjectOf _))

/-- The names of the sections of a template. -/
def sectionNames : List String :=
  ["Parameters", "Mappings", "Conditions", "Resources", "Outputs"]

/-- A document in the shape of a template: each section is absent or an object, parameters are
declarations and mappings have two levels over data. -/
structure IsTemplate (document : Json) : Prop where
  object : document.isObject = true
  sections : ∀ name ∈ sectionNames, ∀ value ∈ document.member? name, value.isObject = true
  parameters : ∀ m ∈ document.sectionMembers "Parameters", m.2.IsDeclaration
  mappings : ∀ m ∈ document.sectionMembers "Mappings", m.2.IsMapping

instance : DecidablePred IsTemplate := fun _ =>
  decidable_of_iff (_ ∧ _ ∧ _ ∧ _) ⟨fun h => ⟨h.1, h.2.1, h.2.2.1, h.2.2.2⟩,
    fun h => ⟨h.object, h.sections, h.parameters, h.mappings⟩⟩

/-! ## Objects that stand for calls -/

/-- None of the objects of a mapping stands for a call: neither the mapping itself nor an object in
it. -/
def PlainLevels (mapping : Json) : Prop :=
  mapping.isCall = false ∧ ∀ m ∈ mapping.members, m.2.isCall = false

instance : DecidablePred PlainLevels := fun _ => inferInstanceAs (Decidable (_ ∧ _))

/-- None of the objects that a template is laid out in stands for a call. -/
structure PlainLayout (document : Json) : Prop where
  root : document.isCall = false
  sections : ∀ name ∈ sectionNames, ∀ value ∈ document.member? name, value.isCall = false
  mappings : ∀ m ∈ document.sectionMembers "Mappings", m.2.PlainLevels

instance : DecidablePred PlainLayout := fun _ =>
  decidable_of_iff (_ ∧ _ ∧ _) ⟨fun h => ⟨h.1, h.2.1, h.2.2⟩,
    fun h => ⟨h.root, h.sections, h.mappings⟩⟩

/-- An object is data if it does not stand for a call and its members are data. -/
theorem isData_obj_iff {members : List (String × Json)} :
    (obj members).IsData ↔ isCall (.obj members) = false ∧ ∀ m ∈ members, m.2.IsData := by
  have hmembers : members.any (·.2.containsCall) = false ↔ ∀ m ∈ members, m.2.IsData := by
    simp only [List.any_eq_false, Bool.not_eq_true, IsData]
  rw [IsData, containsCall, anyMemberContainsCall_eq, Bool.or_eq_false_iff, hmembers]

/-- An object over data is data unless it stands for a call. -/
theorem ObjectOf.isData_iff {json : Json} (h : ObjectOf IsData json) :
    json.IsData ↔ json.isCall = false := by
  obtain ⟨hmembers⟩ := h
  rw [isData_obj_iff, and_iff_left hmembers]

/-- A mapping is data if none of its objects stands for a call. -/
theorem IsMapping.isData_iff {mapping : Json} (h : mapping.IsMapping) :
    mapping.IsData ↔ mapping.PlainLevels := by
  obtain ⟨hmembers⟩ := h
  rw [isData_obj_iff]
  exact and_congr_right fun _ => forall₂_congr fun m hm => (hmembers m hm).isData_iff

/-- A declaration is no call, since no function has the name of its type. -/
theorem IsDeclaration.exists_obj {declaration : Json} (h : declaration.IsDeclaration) :
    ∃ members, declaration = .obj members ∧ isCall (.obj members) = false := by
  obtain ⟨type, htype, -⟩ := h.type
  cases declaration with
  | obj members =>
    refine ⟨members, rfl, Bool.eq_false_iff.2 fun hcall => ?_⟩
    obtain ⟨f, argument, rfl⟩ := isCall_obj_iff.1 hcall
    -- a call has a single member, so the type of the declaration would be the argument
    have hname : "Type" ≠ f.name := by cases f <;> decide
    rw [member?, Json.members, Entries.lookup_cons_ite, if_neg hname] at htype
    cases htype
  | _ => cases htype

/-- Sections have distinct members if the document has. -/
theorem Distinct.obj_sectionMembers {document : Json} (h : document.Distinct) (name : String) :
    (Json.obj (document.sectionMembers name)).Distinct := by
  -- what is missing, or no object, has no members at all
  have hnone : (Json.obj []).Distinct := .obj List.nodup_nil fun _ hm => nomatch hm
  rw [Json.sectionMembers]
  cases hvalue : document.member? name with
  | none => exact hnone
  | some value =>
    have hdistinct : value.Distinct := by
      cases h with
      | obj hnames hmembers =>
        exact hmembers _ ((Entries.lookup_eq_some_iff_mem hnames).1 hvalue)
      | _ => cases hvalue
    cases hdistinct with
    | obj hnames hmembers => exact .obj hnames hmembers
    | _ => exact hnone

end StackAudit.Json
