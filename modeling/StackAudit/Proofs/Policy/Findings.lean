import Mathlib.Data.List.Perm.Subperm
import StackAudit.Policy.Query
import StackAudit.Proofs.Policy.Reading

/-!
# Findings before and after resolution

A scan of a document that is not resolved only sees its literal texts. Resolving the document may
add to what is seen, but it takes nothing away, except for the mark of an absent value: a statement
keeps its identifier and effect, its literals in their order and its literal principals
(`Statement.Keeps`). So whatever a query finds by matching texts it finds after resolution too,
unless it looks for the mark (`PolicyDocument.findings_kept`).

## Shape of the proof

Literals are those of the parts, in order, on both sides. So the induction on a node comes down to
one fact about rows (`flatMap_filter_of_forall₂`): item by item the literals are among those of the
value, and of what is left out there are none but the mark. It is used with sublists for the
literals of fields. The principals of a map may change places, since its entries are sorted, so for
them it is used with sublists up to permutation.
-/

namespace StackAudit

/-- If place by place the texts of one row are among those of another, and there are none at the
places that the other one leaves out, then the same holds of all texts in a row. -/
theorem flatMap_filter_of_forall₂ {α β : Type} {S : α → β → Prop} {as : List α} {bs : List β}
    (h : List.Forall₂ S as bs) {Among : List String → List String → Prop} (hnil : Among [] [])
    (happend : ∀ {a b c d}, Among a b → Among c d → Among (a ++ c) (b ++ d))
    {texts : α → List String} {others : β → List String} {present : β → Bool}
    (hpresent : ∀ a ∈ as, ∀ b, S a b → present b = true → Among (texts a) (others b))
    (habsent : ∀ a ∈ as, ∀ b, S a b → present b = false → texts a = []) :
    Among (as.flatMap texts) ((bs.filter present).flatMap others) := by
  induction h with
  | nil => exact hnil
  | @cons a b as bs hab _ ih =>
    -- the row is split at its first place, which is kept or left out
    have ih := ih (fun x hx => hpresent x (List.mem_cons_of_mem a hx))
      (fun x hx => habsent x (List.mem_cons_of_mem a hx))
    rw [List.flatMap_cons]
    cases hb : present b with
    | true =>
      rw [List.filter_cons_of_pos hb, List.flatMap_cons]
      exact happend (hpresent a List.mem_cons_self b hab hb) ih
    | false =>
      rw [List.filter_cons_of_neg (by rw [hb]; decide), habsent a List.mem_cons_self b hab hb]
      exact ih

/-- Texts without the mark of an absent value. -/
def withoutMark (texts : List String) : List String := texts.filter (· ≠ Value.noValueText)

/-- The mark is left out text by text. -/
theorem withoutMark_flatMap {α : Type} (as : List α) (texts : α → List String) :
    withoutMark (as.flatMap texts) = as.flatMap fun a => withoutMark (texts a) :=
  List.filter_flatMap

/-- A text that matches is not the mark, unless the mark matches. -/
theorem mem_withoutMark {matching : String → Bool} (hmark : matching Value.noValueText = false)
    {texts : List String} {text : String} (htext : text ∈ texts) (hmatch : matching text = true) :
    text ∈ withoutMark texts := by
  refine List.mem_filter.2 ⟨htext, decide_eq_true ?_⟩
  rintro rfl
  cases hmark.symm.trans hmatch

/-- What matches is found among texts that hold all others but the mark. -/
theorem any_of_withoutMark_subset {before after : List String} (h : withoutMark before ⊆ after)
    {matching : String → Bool} (hmark : matching Value.noValueText = false)
    (hbefore : before.any matching = true) : after.any matching = true := by
  obtain ⟨text, htext, hmatch⟩ := List.any_eq_true.1 hbefore
  exact List.any_eq_true.2 ⟨text, h (mem_withoutMark hmark htext hmatch), hmatch⟩

/-! ## Literals of nodes -/

namespace Node

variable {scope : Scope}

/-- The texts of the literal tokens in a node. -/
def literalTokens (n : Node) : List String :=
  (Principal.tokensOf n).filterMap PrincipalToken.asLiteral?

/-- The literal tokens of a list are those of its items. -/
theorem literalTokens_list (items : List Node) :
    (list items).literalTokens = items.flatMap literalTokens := by
  rw [literalTokens, Principal.tokensOf, Principal.tokensOfItems_eq, List.filterMap_flatMap]
  rfl

/-- The literal tokens of a map are those of its entries. -/
theorem literalTokens_map (entries : List (String × Node)) :
    (map entries).literalTokens = entries.flatMap (·.2.literalTokens) := by
  rw [literalTokens, Principal.tokensOf, Principal.tokensOfEntries_eq, List.filterMap_flatMap]
  rfl

/-- What is absent has no literal but the mark. -/
theorem withoutMark_literals_of_resolve {n : Node} (h : n.resolve scope = .ok .noValue) :
    withoutMark n.literals = [] := by
  rcases eq_string_or_readsAsCall h with rfl | ⟨f, argument, rfl | rfl⟩ <;> rfl

/-- The literals of a node are among those of its value, in their order. -/
theorem withoutMark_literals_sublist {n : Node} {v : Value} (h : n.resolve scope = .ok v) :
    (withoutMark n.literals).Sublist (ofValue v).literals := by
  induction n using Node.induct generalizing v with
  | null | bool | number | date | map | call => exact List.nil_sublist _
  | string s =>
    cases h
    exact List.filter_sublist
  | list items ih =>
    obtain ⟨values, hrow, rfl⟩ := resolve_list_eq_ok_iff.1 h
    rw [literals, literalsOfItems_eq, withoutMark_flatMap, ofValue, ofValues_eq, literals,
      literalsOfItems_eq, List.flatMap_map]
    refine flatMap_filter_of_forall₂ hrow (List.nil_sublist _) (fun h h' => h.append h') ?_ ?_
    · exact fun item hitem value hvalue _ => ih item hitem hvalue
    · intro item hitem value hvalue habsent
      obtain rfl := Value.eq_noValue_of_isNoValue (by simpa using habsent)
      exact withoutMark_literals_of_resolve hvalue

/-- What is absent has no literal token but the mark. -/
theorem withoutMark_literalTokens_of_resolve {n : Node} (hform : n.WellFormed)
    (h : n.resolve scope = .ok .noValue) : withoutMark n.literalTokens = [] := by
  rcases eq_string_or_readsAsCall h with rfl | ⟨f, argument, rfl | rfl⟩
  · rfl
  · rfl
  · -- well-formed data does not stand for a call, so only the first two are left
    cases hform with
    | map hdata _ _ => cases hdata.symm.trans (callOf?_eq_some_iff.2 rfl)

/-- The literal tokens of a node are among those of its value, each at least as often. -/
theorem withoutMark_literalTokens_subperm {n : Node} (hform : n.WellFormed) {v : Value}
    (h : n.resolve scope = .ok v) :
    (withoutMark n.literalTokens).Subperm (ofValue v).literalTokens := by
  induction n using Node.induct generalizing v with
  | null | bool | date | call => exact List.nil_subperm
  | number | string =>
    cases h
    exact List.filter_sublist.subperm
  | list items ih =>
    obtain ⟨values, hrow, rfl⟩ := resolve_list_eq_ok_iff.1 h
    have hitems (item : Node) (hitem : item ∈ items) : item.WellFormed :=
      hform.of_part (.item hitem .self)
    rw [literalTokens_list, withoutMark_flatMap, ofValue, ofValues_eq, literalTokens_list,
      List.flatMap_map]
    refine flatMap_filter_of_forall₂ hrow List.nil_subperm (fun h h' => h.append h') ?_ ?_
    · exact fun item hitem value hvalue _ => ih item hitem (hitems item hitem) hvalue
    · intro item hitem value hvalue habsent
      obtain rfl := Value.eq_noValue_of_isNoValue (by simpa using habsent)
      exact withoutMark_literalTokens_of_resolve (hitems item hitem) hvalue
  | map entries ih =>
    cases hform with
    | map hdata hnames hnodes =>
      obtain ⟨values, hrow, rfl⟩ := (resolve_data_eq_ok_iff hdata).1 h
      rw [literalTokens_map, withoutMark_flatMap, ofValue, ofValueEntries_eq, literalTokens_map,
        List.flatMap_map]
      -- sorting the entries only brings their tokens in another order
      have hdistinct := nodup_map_fst_filter_of_forall₂ hrow hnames (!·.2.isNoValue)
      refine List.Subperm.trans ?_ ((Entries.perm_sort hdistinct).symm.flatMap_right _).subperm
      refine flatMap_filter_of_forall₂ hrow List.nil_subperm (fun h h' => h.append h') ?_ ?_
      · exact fun e he value hvalue _ => ih e he (hnodes e he) hvalue.2
      · intro e he value hvalue habsent
        have hmark := Value.eq_noValue_of_isNoValue (v := value.2) (by simpa using habsent)
        exact withoutMark_literalTokens_of_resolve (hnodes e he) (hmark ▸ hvalue.2)

end Node

/-! ## Statements -/

namespace Statement

variable {scope : Scope}

/-- The texts of the literal principals. -/
def literalPrincipals (s : Statement) : List String :=
  s.principals.filterMap PrincipalToken.asLiteral?

/-- What can be found in the first statement is kept in the second: its identifier and effect, its
literals in their order, and its literal principals as often as they occur. -/
structure Keeps (s t : Statement) : Prop where
  sid : t.sid = s.sid
  effect : t.effect = s.effect
  actions : (withoutMark s.actions).Sublist t.actions
  notActions : (withoutMark s.notActions).Sublist t.notActions
  resources : (withoutMark s.resources).Sublist t.resources
  principals : (withoutMark s.literalPrincipals).Subperm t.literalPrincipals

/-- The literals of a field are among those of the field that it resolves to. -/
theorem withoutMark_literalsOf_sublist {before after : Option Node}
    (h : resolveField scope before = .ok after) :
    (withoutMark (literalsOf before)).Sublist (literalsOf after) := by
  cases before with
  | none => exact List.nil_sublist _
  | some node =>
    obtain ⟨value, hvalue, h⟩ := bind_eq_ok_iff.1 h
    obtain rfl := Except.ok.inj h
    -- a field that turns out to be absent had no literal but the mark
    cases hmark : value.isNoValue with
    | true =>
      obtain rfl := Value.eq_noValue_of_isNoValue hmark
      rw [literalsOf, Option.map_some, Option.getD_some,
        Node.withoutMark_literals_of_resolve hvalue]
      exact List.nil_sublist _
    | false => exact Node.withoutMark_literals_sublist hvalue

/-- The literal principals are those of the node of the principal element. -/
theorem literalPrincipals_eq (s : Statement) :
    s.literalPrincipals = (s.principal.map (·.toNode.literalTokens)).getD [] := by
  rw [literalPrincipals, principals]
  cases s.principal with
  | none => rfl
  | some p =>
    show p.tokens.filterMap PrincipalToken.asLiteral? = _
    rw [Principal.tokens_eq]
    rfl

/-- Literal principals are among those of the element that they resolve to. -/
theorem withoutMark_literalPrincipals_subperm {s t : Statement}
    (hform : ∀ p, s.principal = some p → p.toNode.WellFormed)
    (h : resolvePrincipal scope s.principal = .ok t.principal) :
    (withoutMark s.literalPrincipals).Subperm t.literalPrincipals := by
  rw [literalPrincipals_eq, literalPrincipals_eq]
  cases hbefore : s.principal with
  | none => exact List.nil_subperm
  | some p =>
    rw [hbefore] at h
    cases hafter : t.principal with
    | none =>
      rw [hafter] at h
      have hvalue := Principal.resolve_toNode_of_resolve_none h
      show (withoutMark p.toNode.literalTokens).Subperm []
      rw [Node.withoutMark_literalTokens_of_resolve (hform p hbefore) hvalue]
    | some q =>
      rw [hafter] at h
      obtain ⟨value, hvalue, hnode⟩ := Principal.exists_toNode_of_resolve h
      show (withoutMark p.toNode.literalTokens).Subperm q.toNode.literalTokens
      rw [hnode]
      exact Node.withoutMark_literalTokens_subperm (hform p hbefore) hvalue

/-- Resolving a statement keeps what can be found in it. -/
theorem keeps_of_resolve {s t : Statement} (hform : ∀ p, s.principal = some p → p.toNode.WellFormed)
    (h : resolve scope s = .ok t) : s.Keeps t := by
  obtain ⟨hsid, heffect, haction, hnotAction, hresource, -, hprincipal, -, -⟩ :=
    resolve_eq_ok_iff.1 h
  exact ⟨hsid, heffect, withoutMark_literalsOf_sublist haction,
    withoutMark_literalsOf_sublist hnotAction, withoutMark_literalsOf_sublist hresource,
    withoutMark_literalPrincipals_subperm hform hprincipal⟩

end Statement

/-! ## Documents -/

namespace PolicyDocument

variable {d e : PolicyDocument} {matching : String → Bool}

/-- The places of the statements with a property. -/
theorem mem_placesWhere_iff {property : Statement → Bool} {i : Nat} :
    i ∈ d.placesWhere property ↔ ∃ s, d.statements[i]? = some s ∧ property s = true := by
  rw [placesWhere, List.mem_map]
  constructor
  · rintro ⟨⟨s, j⟩, hs, rfl⟩
    obtain ⟨hmem, hproperty⟩ := List.mem_filter.1 hs
    exact ⟨s, List.mk_mem_zipIdx_iff_getElem?.1 hmem, hproperty⟩
  · rintro ⟨s, hs, hproperty⟩
    exact ⟨(s, i), List.mem_filter.2 ⟨List.mk_mem_zipIdx_iff_getElem?.2 hs, hproperty⟩, rfl⟩

/-- Properties that are kept are kept in their places. -/
theorem placesWhere_subset (h : List.Forall₂ Statement.Keeps d.statements e.statements)
    {property : Statement → Bool}
    (hproperty : ∀ s t, Statement.Keeps s t → property s = true → property t = true) :
    d.placesWhere property ⊆ e.placesWhere property := by
  intro i hi
  obtain ⟨s, hs, hfound⟩ := mem_placesWhere_iff.1 hi
  obtain ⟨hlength, hkeeps⟩ := List.forall₂_iff_get.1 h
  obtain ⟨hlt, rfl⟩ := List.getElem?_eq_some_iff.1 hs
  have hlt' : i < e.statements.length := hlength ▸ hlt
  refine mem_placesWhere_iff.2 ⟨e.statements[i], List.getElem?_eq_getElem hlt', ?_⟩
  exact hproperty _ _ (hkeeps i hlt hlt') hfound

/-- The matching principals are literal principals of statements that allow something. -/
theorem mem_allowedPrincipalsWith_iff {text : String} :
    text ∈ d.allowedPrincipalsWith matching ↔ matching text = true ∧
      ∃ s ∈ d.statements, s.isAllow = true ∧ text ∈ s.literalPrincipals := by
  rw [allowedPrincipalsWith, Text.mem_ascending, List.mem_filter, allowedPrincipals,
    List.filterMap_flatMap, List.mem_flatMap]
  simp only [allowStatements, List.mem_filter, and_assoc]
  exact and_comm

/-- Principals that are found are found again if the statements are kept. -/
theorem allowedPrincipalsWith_subset (h : List.Forall₂ Statement.Keeps d.statements e.statements)
    (hmark : matching Value.noValueText = false) :
    d.allowedPrincipalsWith matching ⊆ e.allowedPrincipalsWith matching := by
  intro text htext
  obtain ⟨hmatch, s, hs, hallow, hprincipal⟩ := mem_allowedPrincipalsWith_iff.1 htext
  obtain ⟨t, ht, hkeeps⟩ := exists_of_mem_right h.flip hs
  refine mem_allowedPrincipalsWith_iff.2 ⟨hmatch, t, ht, ?_, ?_⟩
  · rwa [Statement.isAllow, hkeeps.effect]
  · exact hkeeps.principals.subset (mem_withoutMark hmark hprincipal hmatch)

/-- Resolving a document keeps its statements, with what can be found in each of them. So a query by
texts finds at least as much in the resolved document, unless it looks for the mark of an absent
value. -/
theorem findings_kept {json : Json} (hjson : json.Distinct) {scope : Scope}
    (hd : ofJson json = .ok d) (he : d.resolve scope = .ok e) :
    List.Forall₂ Statement.Keeps d.statements e.statements ∧
      ∀ matching : String → Bool, matching Value.noValueText = false →
        d.statementsWith matching ⊆ e.statementsWith matching ∧
        d.allowedActionsWith matching ⊆ e.allowedActionsWith matching ∧
        d.allowedPrincipalsWith matching ⊆ e.allowedPrincipalsWith matching := by
  -- names in a principal are distinct because they are in the JSON that it comes from
  have hform : ∀ s ∈ d.statements, ∀ p, s.principal = some p → p.toNode.WellFormed := by
    intro s hs p hp
    have hmade := madeOf_of_ofNode Node.WellFormed.of_part hd (Node.wellFormed_ofJson hjson) s hs
    exact hmade.principals p (by simp [Statement.principalFields, hp])
  have hrow := mapM_eq_ok_iff.1 (resolve_eq_ok_iff.1 he).2
  have hkeeps : List.Forall₂ Statement.Keeps d.statements e.statements :=
    ((List.forall₂_and_left _ _).2 ⟨hform, hrow⟩).imp fun _ _ h =>
      Statement.keeps_of_resolve h.1 h.2
  refine ⟨hkeeps, fun matching hmark => ⟨?_, ?_, allowedPrincipalsWith_subset hkeeps hmark⟩⟩
  · exact placesWhere_subset hkeeps fun s t h hs =>
      any_of_withoutMark_subset h.resources.subset hmark hs
  · refine placesWhere_subset hkeeps fun s t h hs => ?_
    obtain ⟨hallow, hactions⟩ := Bool.and_eq_true_iff.1 hs
    refine Bool.and_eq_true_iff.2 ⟨?_, ?_⟩
    · rwa [Statement.isAllow, h.effect]
    · exact any_of_withoutMark_subset h.actions.subset hmark hactions

/-- A policy with actions and principals that are written or called for, and a resource that is
absent. -/
def archivePolicy : Json :=
  .obj [("Statement", .arr [.obj [("Sid", .str "Read"), ("Effect", .str "Allow"),
    ("Action", .arr [.str "s3:Get*", .obj [("Ref", .str "More")], .arr [.str "s3:List*"]]),
    ("Resource", .str "AWS::NoValue"),
    ("Principal", .obj [("Service", .str "ec2.amazonaws.com"),
      ("AWS", .arr [.str "111122223333", .obj [("Ref", .str "Account")]])])]])]

/-- The scope of the policy. -/
def archiveScope : Scope :=
  (Scope.empty.withParam "Account" (.string "123456789012")).withParam "More"
    (.list [.string "s3:PutObject", .string "s3:DeleteObject"])

/-- The action to list, which is written in the policy, is found once it is resolved. -/
theorem findings_kept_archive : ∃ d e, ofJson archivePolicy = .ok d ∧
    d.resolve archiveScope = .ok e ∧ List.Forall₂ Statement.Keeps d.statements e.statements ∧
      0 ∈ e.allowedActionsWith (· == "s3:List*") := by
  obtain ⟨d, hd⟩ : ∃ d, ofJson archivePolicy = .ok d := ⟨_, rfl⟩
  obtain ⟨e, he⟩ : ∃ e, d.resolve archiveScope = .ok e := by
    cases hd
    exact ⟨_, rfl⟩
  have hfound : 0 ∈ d.allowedActionsWith (· == "s3:List*") := by
    cases hd
    decide
  obtain ⟨hkeeps, hqueries⟩ := findings_kept (by simp [archivePolicy]) hd he
  obtain ⟨-, hactions, -⟩ := hqueries (· == "s3:List*") (by decide)
  exact ⟨d, e, hd, he, hkeeps, hactions hfound⟩

end PolicyDocument

end StackAudit
