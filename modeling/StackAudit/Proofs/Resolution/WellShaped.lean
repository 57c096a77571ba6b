import StackAudit.Proofs.Resolution.Replacement
import StackAudit.Proofs.Sequencing

/-!
# Well-shaped nodes

Resolution fails only where the argument of a call has the wrong shape. `Node.WellShaped` says what
shapes are right, one constructor for each kind of argument, and a well-shaped node has a value in
every scope (`Node.WellShaped.exists_resolve_eq_ok`): what parameters and mappings hold, and whether
they hold anything, plays no part.

A node that is `Node.BooleanRooted` resolves to nothing but booleans
(`Node.BooleanRooted.eq_bool`).
-/

namespace StackAudit

namespace Node

/-- A literal index: an integer of sixty-four bits, or a string that spells one between blanks. -/
def IsIndex : Node → Prop
  | number n => n.toInt64?.isSome
  | string s => (Text.int64? (Text.trimBlanks s.toList)).isSome
  | _ => False

/-- Every call within a node has an argument of the right shape. -/
inductive WellShaped : Node → Prop where
  | null : WellShaped .null
  | bool (b : Bool) : WellShaped (.bool b)
  | number (n : Numeral) : WellShaped (.number n)
  | string (s : String) : WellShaped (.string s)
  | date (t : Instant) : WellShaped (.date t)
  | list {items : List Node} : (∀ item ∈ items, item.WellShaped) → WellShaped (.list items)
  | data {entries : List (String × Node)} : callOf? entries = none →
      (∀ e ∈ entries, e.2.WellShaped) → WellShaped (.map entries)
  /-- A map that stands for a call. -/
  | written {f : Intrinsic} {argument : Node} : WellShaped (.call f argument) →
      WellShaped (.map [(f.name, argument)])
  | whole {f : Intrinsic} {argument : Node} :
      f = .ref ∨ f = .importValue ∨ f = .base64 ∨ f = .condition → argument.WellShaped →
      WellShaped (.call f argument)
  | ignored {f : Intrinsic} (argument : Node) : f = .getAtt ∨ f = .getAZs →
      WellShaped (.call f argument)
  | pair {f : Intrinsic} {a b : Node} : f = .join ∨ f = .split ∨ f = .equals →
      a.WellShaped → b.WellShaped → WellShaped (.call f (.list [a, b]))
  | triple {f : Intrinsic} {a b c : Node} : f = .ifElse ∨ f = .findInMap →
      a.WellShaped → b.WellShaped → c.WellShaped → WellShaped (.call f (.list [a, b, c]))
  | operands {f : Intrinsic} {items : List Node} : f = .and ∨ f = .or →
      (∀ item ∈ items, item.WellShaped) → WellShaped (.call f (.list items))
  | not {operand : Node} : operand.WellShaped → WellShaped (.call .not (.list [operand]))
  | select {index items : Node} : index.IsIndex → items.WellShaped →
      WellShaped (.call .select (.list [index, items]))
  | template {template : Node} : template.asList? = none → template.WellShaped →
      WellShaped (.call .sub template)
  | soleTemplate {template : Node} : template.WellShaped →
      WellShaped (.call .sub (.list [template]))
  | boundTemplate {template : Node} {entries : List (String × Node)} : template.WellShaped →
      callOf? entries = none → (∀ e ∈ entries, e.2.WellShaped) →
      WellShaped (.call .sub (.list [template, .map entries]))

/-- A boolean, a call that answers a question, or a choice between such nodes. -/
inductive BooleanRooted : Node → Prop where
  | bool (b : Bool) : BooleanRooted (.bool b)
  | question {f : Intrinsic} (argument : Node) :
      f = .equals ∨ f = .and ∨ f = .or ∨ f = .not ∨ f = .condition →
      BooleanRooted (.call f argument)
  | choice (name : Node) {whenTrue whenFalse : Node} : whenTrue.BooleanRooted →
      whenFalse.BooleanRooted →
      BooleanRooted (.call .ifElse (.list [name, whenTrue, whenFalse]))
  /-- A map that stands for a call. -/
  | written {f : Intrinsic} {argument : Node} : BooleanRooted (.call f argument) →
      BooleanRooted (.map [(f.name, argument)])

variable {scope : Scope}

/-! ## Values of well-shaped nodes -/

/-- Items with values have their values together. -/
theorem exists_collect_resolve_eq_ok {items : List Node}
    (h : ∀ item ∈ items, ∃ v, item.resolve scope = .ok v) :
    ∃ values, collect (evaluateItems scope items) = .ok values := by
  rw [evaluateItems_eq]
  refine exists_collect_eq_ok fun outcome houtcome => ?_
  obtain ⟨item, hitem, rfl⟩ := List.mem_map.1 houtcome
  exact h item hitem

/-- Data whose entries have values resolves to a map. -/
theorem exists_resolve_eq_ok_map {entries : List (String × Node)} (hdata : callOf? entries = none)
    (h : ∀ e ∈ entries, ∃ v, e.2.resolve scope = .ok v) :
    ∃ values, (map entries).resolve scope = .ok (.map values) := by
  have hvalues : ∃ values, collectEntries (evaluateEntries scope entries) = .ok values := by
    rw [evaluateEntries_eq]
    refine exists_collectEntries_eq_ok fun argument hargument => ?_
    obtain ⟨e, he, rfl⟩ := List.mem_map.1 hargument
    exact h e he
  obtain ⟨values, hvalues⟩ := hvalues
  rw [resolve, evaluate_map, hdata]
  exact ⟨_, map_eq_ok_iff.2 ⟨values, hvalues, rfl⟩⟩

/-- A literal index resolves to a value that is an integer. -/
theorem IsIndex.exists_asInt64? {index : Node} (h : index.IsIndex) (scope : Scope) :
    ∃ v i, index.resolve scope = .ok v ∧ v.asInt64? = some i := by
  cases index with
  | number n =>
    obtain ⟨i, hi⟩ := Option.isSome_iff_exists.1 h
    exact ⟨.number n, i, rfl, hi⟩
  | string s =>
    obtain ⟨i, hi⟩ := Option.isSome_iff_exists.1 h
    exact ⟨.string s, i, rfl, hi⟩
  | _ => cases h

/-- `Fn::Select` yields something from every value once the index is an integer. -/
theorem exists_selectOutcome_eq_ok {index items : Value} {i : Int} (h : index.asInt64? = some i) :
    ∃ v, Intrinsic.selectOutcome (.ok index) (.ok items) = .ok v := by
  simp only [Intrinsic.selectOutcome, bind, Except.bind, h]
  cases items <;> exact ⟨_, rfl⟩

/-- A well-shaped node has a value in every scope. -/
theorem WellShaped.exists_resolve_eq_ok {n : Node} (h : n.WellShaped) (scope : Scope) :
    ∃ v, n.resolve scope = .ok v := by
  induction h with
  | null | bool | number | string | date => exact ⟨_, rfl⟩
  | list _ ih =>
    obtain ⟨values, hvalues⟩ := exists_collect_resolve_eq_ok ih
    exact ⟨_, map_eq_ok_iff.2 ⟨values, hvalues, rfl⟩⟩
  | data hdata _ ih =>
    obtain ⟨values, hvalues⟩ := exists_resolve_eq_ok_map hdata ih
    exact ⟨_, hvalues⟩
  | written _ ih => rwa [resolve_map_name]
  | @whole f argument hf _ ih =>
    obtain ⟨value, hvalue⟩ := ih
    have htext : (argument.evaluate scope).text = .ok value.text :=
      map_eq_ok_iff.2 ⟨value, hvalue, rfl⟩
    rcases hf with rfl | rfl | rfl | rfl <;> exact ⟨_, map_eq_ok_iff.2 ⟨_, htext, rfl⟩⟩
  | ignored argument hf => rcases hf with rfl | rfl <;> exact ⟨_, rfl⟩
  | pair hf _ _ iha ihb =>
    obtain ⟨x, hx⟩ := iha
    obtain ⟨y, hy⟩ := ihb
    rw [(IsCallOf.call _ _).resolve_pair_eq, hx, hy]
    rcases hf with rfl | rfl | rfl <;> exact ⟨_, rfl⟩
  | triple hf _ _ _ iha ihb ihc =>
    obtain ⟨x, hx⟩ := iha
    obtain ⟨y, hy⟩ := ihb
    obtain ⟨z, hz⟩ := ihc
    rw [resolve_call_list, List.map_cons, List.map_cons, List.map_singleton, hx, hy, hz]
    rcases hf with rfl | rfl
    · show ∃ v, (if scope.condition x.text then .ok y else .ok z) = Except.ok v
      split <;> exact ⟨_, rfl⟩
    · exact ⟨_, rfl⟩
  | operands hf _ ih =>
    obtain ⟨values, hvalues⟩ := exists_collect_resolve_eq_ok ih
    rcases hf with rfl | rfl <;> exact ⟨_, map_eq_ok_iff.2 ⟨values, hvalues, rfl⟩⟩
  | not _ ih =>
    obtain ⟨x, hx⟩ := ih
    rw [resolve_call_list, List.map_singleton, hx]
    exact ⟨_, rfl⟩
  | select hindex _ ih =>
    -- an index out of range selects null, so to be an integer is all that it takes
    obtain ⟨x, i, hx, hi⟩ := hindex.exists_asInt64? scope
    obtain ⟨y, hy⟩ := ih
    rw [(IsCallOf.call _ _).resolve_pair_eq, hx, hy]
    exact exists_selectOutcome_eq_ok hi
  | @template template hlist _ ih =>
    obtain ⟨x, hx⟩ := ih
    -- written as a list, a template would be taken for its parts
    show ∃ v, Intrinsic.sub.apply scope (template.evaluate scope) = .ok v
    rw [evaluate_of_asList? hlist, hx]
    exact ⟨_, rfl⟩
  | soleTemplate _ ih =>
    obtain ⟨x, hx⟩ := ih
    rw [resolve_call_list, List.map_singleton, hx]
    exact ⟨_, rfl⟩
  | boundTemplate _ hdata _ ih ihentries =>
    obtain ⟨x, hx⟩ := ih
    -- bindings are taken from a map only, and what data resolves to is one
    obtain ⟨values, hvalues⟩ := exists_resolve_eq_ok_map hdata ihentries
    rw [(IsCallOf.call _ _).resolve_pair_eq, hx, hvalues]
    exact ⟨_, rfl⟩

/-! ## Booleans -/

/-- What a call that answers a question yields is a boolean. -/
theorem eq_bool_of_apply {f : Intrinsic}
    (hf : f = .equals ∨ f = .and ∨ f = .or ∨ f = .not ∨ f = .condition) {a : Argument} {v : Value}
    (h : f.apply scope a = .ok v) : ∃ b, v = .bool b := by
  cases f with
  | equals =>
    -- on an argument of another form the call fails
    match a with
    | .items [left, right] =>
      obtain ⟨x, -, h⟩ := bind_eq_ok_iff.1 h
      obtain ⟨y, -, h⟩ := bind_eq_ok_iff.1 h
      exact ⟨_, (Except.ok.inj h).symm⟩
    | .single _ | .items [] | .items [_] | .items (_ :: _ :: _ :: _) => cases h
  | and | or =>
    cases a with
    | single _ => cases h
    | items operands =>
      obtain ⟨values, -, rfl⟩ := map_eq_ok_iff.1 h
      exact ⟨_, rfl⟩
  | not =>
    cases a with
    | single _ => cases h
    | items operands =>
      obtain ⟨values, -, h⟩ := bind_eq_ok_iff.1 h
      match values with
      | [operand] => exact ⟨_, (Except.ok.inj h).symm⟩
      | [] | _ :: _ :: _ => cases h
  | condition =>
    obtain ⟨name, -, rfl⟩ := map_eq_ok_iff.1 h
    exact ⟨_, rfl⟩
  | _ => simp at hf

/-- What a boolean-rooted node resolves to is a boolean. -/
theorem BooleanRooted.eq_bool {n : Node} (h : n.BooleanRooted) {v : Value}
    (hv : n.resolve scope = .ok v) : ∃ b, v = .bool b := by
  induction h with
  | bool b => exact ⟨b, (Except.ok.inj hv).symm⟩
  | question argument hf => exact eq_bool_of_apply hf hv
  | choice name _ _ ihtrue ihfalse =>
    -- only the branch that was taken needs to have had a value
    obtain ⟨x, -, hbranch⟩ := bind_eq_ok_iff.1 hv
    split at hbranch
    · exact ihtrue hbranch
    · exact ihfalse hbranch
  | written _ ih => exact ih (resolve_map_name scope _ _ ▸ hv)

end Node

end StackAudit
