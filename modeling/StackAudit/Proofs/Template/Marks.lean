import StackAudit.Proofs.Resolution.Origin
import StackAudit.Proofs.Template.Survival

/-!
# Marks of absent values in resolved templates

Resolution leaves marked items and entries out of every list and map that it builds. It does not
look into what a call takes over whole, and what a resource or an output is as a whole it keeps. So
a mark can be left in a resolved template in these two ways, and in no other
(`Template.resolve_marks`).
-/

namespace StackAudit

namespace Value

/-- An item of the list or an entry of the map is marked as absent. -/
def HoldsMark : Value → Prop
  | list items => noValue ∈ items
  | map entries => ∃ e ∈ entries, e.2 = noValue
  | _ => False

/-- A value is not marked as absent, and no list or map in it holds the mark. -/
def Unmarked (v : Value) : Prop := v ≠ noValue ∧ ∀ w : Value, w.Part v → ¬w.HoldsMark

/-- Only a list or a map can hold the mark. -/
theorem HoldsMark.isCompound {v : Value} (h : v.HoldsMark) : v.isCompound = true := by
  cases v with
  | list | map => rfl
  | _ => cases h

/-- No item is marked once the marked ones are left out. -/
theorem not_holdsMark_list_filter (items : List Value) :
    ¬(list (items.filter (!·.isNoValue))).HoldsMark := by
  intro h
  have hmark : (!noValue.isNoValue) = true := (List.mem_filter.1 h).2
  cases hmark

/-- No entry is marked once the marked ones are left out. -/
theorem not_holdsMark_map_filter (entries : List (String × Value)) :
    ¬(map (entries.filter (!·.2.isNoValue))).HoldsMark := by
  rintro ⟨e, he, hmark⟩
  have hpresent := (List.mem_filter.1 he).2
  rw [hmark] at hpresent
  cases hpresent

/-- Nor is an entry marked in a map that is sorted afterwards. -/
theorem not_holdsMark_map_sort_filter (entries : List (String × Value)) :
    ¬(map (Entries.sort (entries.filter (!·.2.isNoValue)))).HoldsMark := by
  rintro ⟨e, he, hmark⟩
  exact not_holdsMark_map_filter entries ⟨e, Entries.mem_of_mem_sort he, hmark⟩

end Value

namespace Node

variable {scope : Scope}

/-- Where marks in the value of a node come from. The value as a whole is the mark only if the node
is the mark itself or a call, and a list or a map in it holds the mark only within what a call takes
over. -/
structure MarksFrom (scope : Scope) (n : Node) (v : Value) : Prop where
  whole : v = .noValue → n = .string Value.noValueText ∨ n.ReadsAsCall
  within : ∀ w : Value, w.Part v → w.HoldsMark → ∃ x, n.Brings scope x ∧ w.Part x

/-- What data resolves to holds no mark. -/
theorem IsData.not_holdsMark {n : Node} (h : n.IsData) {v : Value} (hv : n.resolve scope = .ok v) :
    ¬v.HoldsMark := by
  cases n with
  | list items =>
    obtain ⟨values, -, rfl⟩ := resolve_list_eq_ok_iff.1 hv
    exact Value.not_holdsMark_list_filter values
  | map entries =>
    obtain ⟨values, -, rfl⟩ := (resolve_data_eq_ok_iff h).1 hv
    exact Value.not_holdsMark_map_sort_filter values
  | _ => cases h

/-- Whatever the value of a node, its marks come from the node in these two ways. -/
theorem marksFrom_of_resolve {n : Node} {v : Value} (h : n.resolve scope = .ok v) :
    n.MarksFrom scope v := by
  refine ⟨fun hmark => eq_string_or_readsAsCall (hmark ▸ h), fun w hw hmark => ?_⟩
  -- a list or map in the value is brought by a call, or it is what some data has resolved to
  rcases origin_of_part h hw hmark.isCompound with horigin | ⟨m, -, hdata, hresolve⟩
  · exact horigin
  · exact absurd hmark (hdata.not_holdsMark hresolve)

end Node

namespace Template

/-- Marks in a resolved template come from the entries of the template: each resource and output is
that of the surviving entry of its name, and has no marks but those that come from this entry. -/
theorem resolve_marks {t : Template} {settings : Settings} {r : ResolvedTemplate}
    (h : t.resolve settings = .ok r) :
    List.Forall₂ (fun entry value => value.1 = entry.1 ∧
        entry.2.MarksFrom (t.scopeWith settings r.conditions) value.2)
      (t.resources.filter (survives r.conditions ·.2)) r.resources ∧
    List.Forall₂ (fun entry value => value.1 = entry.1 ∧
        entry.2.MarksFrom (t.scopeWith settings r.conditions) value.2)
      (t.outputs.filter (survives r.conditions ·.2)) r.outputs := by
  obtain ⟨verdicts, resources, outputs, -, hresources, houtputs, rfl⟩ := resolve_eq_ok_iff.1 h
  refine ⟨(survivors_eq_ok_iff.1 hresources).imp ?_, (survivors_eq_ok_iff.1 houtputs).imp ?_⟩
  all_goals exact fun entry value hentry => ⟨hentry.1, Node.marksFrom_of_resolve hentry.2⟩

/-- A template with a list of names and a zone that are marked in part. -/
def register : Template where
  parameters := [("Names", {
    name := "Names"
    type := "CommaDelimitedList"
    default? := some (.list [.string "ann", .noValue])
    noEcho := false
    allowedValues := [] })]
  mappings := .ofList [("Zones", .ofList [("eu", .ofList [("spare", .map [("id", .noValue)])])])]
  conditions := []
  resources := [("Group", .map [("Members", .call .ref (.string "Names")), ("Size", .string "2"),
      ("Limit", .call .ref (.string "AWS::NoValue"))]),
    ("Zone", .map [("Spare",
      .call .findInMap (.list [.string "Zones", .string "eu", .string "spare"]))]),
    ("Tags", .map [("Names", .call .split (.list [.string ",", .string "red,AWS::NoValue"]))])]
  outputs := [("Written", .string "AWS::NoValue"), ("Called", .call .ref (.string "AWS::NoValue"))]

/-- What the template resolves to. -/
def resolvedRegister : ResolvedTemplate where
  parameters := register.parameters
  mappings := register.mappings
  conditions := []
  resources := [("Group", .map [("Members", .list [.string "ann", .noValue]),
      ("Size", .string "2")]),
    ("Zone", .map [("Spare", .map [("id", .noValue)])]),
    ("Tags", .map [("Names", .list [.string "red", .noValue])])]
  outputs := [("Written", .noValue), ("Called", .noValue)]

/-- The register resolves, with its marks left in the values that it takes over. -/
theorem resolve_register : register.resolve {} = .ok resolvedRegister := by
  -- splitting does not reduce with the rest, so that it is evaluated on its own
  have hpieces : Text.split "," "red,AWS::NoValue" = ["red", "AWS::NoValue"] := by decide +kernel
  have hnames (scope : Scope) :
      (Node.call .split (.list [.string ",", .string "red,AWS::NoValue"])).resolve scope =
        .ok (.list [.string "red", .noValue]) := by
    show Except.ok (Value.list ((Text.split "," "red,AWS::NoValue").map .string)) = _
    rw [hpieces]
    rfl
  have htags (scope : Scope) := (Node.resolve_data_eq_ok_iff (by rfl)).2
    ⟨_, .cons (a := ("Names", _)) (b := ("Names", _)) ⟨rfl, hnames scope⟩ .nil, rfl⟩
  refine resolve_eq_ok_iff.2
    ⟨[], _, _, rfl, survivors_eq_ok_iff.2 ?_, survivors_eq_ok_iff.2 ?_, rfl⟩
  · exact .cons ⟨rfl, rfl⟩ (.cons ⟨rfl, rfl⟩ (.cons ⟨rfl, htags _⟩ .nil))
  · exact .cons ⟨rfl, rfl⟩ (.cons ⟨rfl, rfl⟩ .nil)

/-- The mark is left in every resource and output of the register: in the value of a parameter and
of a mapping, among the pieces of a text, and as the whole of what is written or called for. -/
theorem resolve_register_not_unmarked : register.resolve {} = .ok resolvedRegister ∧
    ∀ entry ∈ resolvedRegister.resources ++ resolvedRegister.outputs, ¬entry.2.Unmarked := by
  refine ⟨resolve_register, fun entry hentry hunmarked => ?_⟩
  obtain ⟨hwhole, hwithin⟩ := hunmarked
  simp only [resolvedRegister, List.cons_append, List.nil_append, List.mem_cons,
    List.not_mem_nil, or_false] at hentry
  rcases hentry with rfl | rfl | rfl | rfl | rfl
  · refine hwithin (.list [.string "ann", .noValue]) (.entry List.mem_cons_self .self) ?_
    exact List.mem_cons_of_mem _ List.mem_cons_self
  · refine hwithin (.map [("id", .noValue)]) (.entry List.mem_cons_self .self) ?_
    exact ⟨_, List.mem_cons_self, rfl⟩
  · refine hwithin (.list [.string "red", .noValue]) (.entry List.mem_cons_self .self) ?_
    exact List.mem_cons_of_mem _ List.mem_cons_self
  · exact hwhole rfl
  · exact hwhole rfl

/-- The marks in the register all come from its entries. -/
theorem resolve_marks_register :
    List.Forall₂ (fun entry value => value.1 = entry.1 ∧
        entry.2.MarksFrom (register.scopeWith {} []) value.2)
      register.resources resolvedRegister.resources ∧
    List.Forall₂ (fun entry value => value.1 = entry.1 ∧
        entry.2.MarksFrom (register.scopeWith {} []) value.2)
      register.outputs resolvedRegister.outputs :=
  resolve_marks resolve_register

end Template

end StackAudit
