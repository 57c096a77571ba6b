import StackAudit.Proofs.Calls

/-!
# What resolution reads of the decided conditions

Of the conditions in its scope a call reads only the one that it asks for, if it asks for one at
all (`Intrinsic.apply_congr`). So a node whose calls ask for conditions by literal names is resolved
alike in all scopes that agree on these names (`Node.resolve_congr`).
-/

namespace StackAudit

/-- Two scopes differ at most in conditions without the property. -/
structure Scope.AgreeOn (known : String → Prop) (scope other : Scope) : Prop where
  params : scope.params = other.params
  mappings : scope.mappings = other.mappings
  condition : ∀ name, known name → scope.condition name = other.condition name

namespace Intrinsic

/-- The condition that a call asks for. -/
def conditionAsked? : Intrinsic → Argument → Option String
  | condition, a => a.text.toOption
  | ifElse, .items [name, _, _] => (name.map Value.text).toOption
  | _, _ => none

/-- The part of the argument of a call that names a condition. -/
def nameArgument? : Intrinsic → Node → Option Node
  | condition, argument => some argument
  | ifElse, .list [name, _, _] => some name
  | _, _ => none

/-- A call asks for at most one condition and reads no other. -/
theorem apply_congr {scope other : Scope} (hparams : scope.params = other.params)
    (hmappings : scope.mappings = other.mappings) (f : Intrinsic) (a : Argument)
    (h : ∀ name, f.conditionAsked? a = some name → scope.condition name = other.condition name) :
    f.apply scope a = f.apply other a := by
  obtain ⟨params, mappings, conditions⟩ := scope
  obtain ⟨_, _, conditions'⟩ := other
  obtain rfl : params = _ := hparams
  obtain rfl : mappings = _ := hmappings
  cases f with
  | condition =>
    rw [apply, apply]
    cases htext : a.text with
    | error e => rfl
    | ok name =>
      have hname := h name (by rw [conditionAsked?, htext]; rfl)
      simp only [Except.map, hname]
  | ifElse =>
    -- `Fn::If` looks at its first argument only if there are three
    match a with
    | .items [name, whenTrue, whenFalse] =>
      rw [apply, apply, ifOutcome, ifOutcome]
      cases name with
      | error e => rfl
      | ok name =>
        have hname := h name.text (by rw [conditionAsked?]; rfl)
        simp only [bind, Except.bind, hname]
    | .single _ | .items [] | .items [_] | .items [_, _] | .items (_ :: _ :: _ :: _ :: _) => rfl
  | _ =>
    -- the shape of the argument decides; the conditions of the scope play no part
    match a with
    | .single _ | .items [] | .items [_] | .items [_, _] | .items [_, _, _]
    | .items (_ :: _ :: _ :: _ :: _) => rfl

end Intrinsic

namespace Node

/-- Every call that asks for a condition does so by a literal name with the property. -/
def AsksOnly (known : String → Prop) (n : Node) : Prop :=
  ∀ call ∈ n.calls, ∀ name ∈ call.1.nameArgument? call.2, ∃ s ∈ name.asString?, known s

instance (known : String → Prop) [DecidablePred known] (n : Node) : Decidable (n.AsksOnly known) :=
  inferInstanceAs (Decidable (∀ call ∈ n.calls, _))

variable {known : String → Prop} {scope other : Scope}

/-- What asks for names with a property asks for names with every weaker one. -/
theorem AsksOnly.imp {known' : String → Prop} {n : Node} (h : n.AsksOnly known)
    (himp : ∀ s, known s → known' s) : n.AsksOnly known' := by
  intro call hcall name hname
  obtain ⟨s, hs, hknown⟩ := h call hcall name hname
  exact ⟨s, hs, himp s hknown⟩

/-- Only a string has the text of a string. -/
theorem eq_string_of_asString? {n : Node} {s : String} (h : n.asString? = some s) :
    n = .string s := by
  cases n <;> simp_all [asString?]

/-- The calls in an item are calls in the list. -/
theorem AsksOnly.item {items : List Node} (h : (list items).AsksOnly known) {item : Node}
    (hitem : item ∈ items) : item.AsksOnly known := by
  intro call hcall
  refine h call ?_
  rw [calls, callsOfItems_eq]
  exact List.mem_flatMap.2 ⟨item, hitem, hcall⟩

/-- The calls in an entry are calls in the map. -/
theorem AsksOnly.entry {entries : List (String × Node)} (h : (map entries).AsksOnly known)
    {e : String × Node} (he : e ∈ entries) : e.2.AsksOnly known := by
  intro call hcall
  refine h call ?_
  rw [calls, callsOfEntries_eq]
  exact List.mem_append_right _ (List.mem_flatMap.2 ⟨e, he, hcall⟩)

/-- The calls in an argument are calls in the call. -/
theorem AsksOnly.argument {f : Intrinsic} {argument : Node}
    (h : (call f argument).AsksOnly known) : argument.AsksOnly known := by
  intro c hc
  refine h c ?_
  rw [calls]
  exact List.mem_cons_of_mem _ hc

/-- A call with a literal name asks for the condition of that name. -/
theorem eq_of_conditionAsked? {f : Intrinsic} {argument : Node} {asked : String}
    (hnamed : ∀ name ∈ f.nameArgument? argument, ∃ s ∈ name.asString?, known s)
    (h : f.conditionAsked? (argument.evaluate scope) = some asked) : known asked := by
  cases f with
  | condition =>
    obtain ⟨s, hname, hs⟩ := hnamed argument rfl
    rw [eq_string_of_asString? hname] at h
    obtain rfl : s = asked := Option.some.inj h
    exact hs
  | ifElse =>
    match argument with
    | .list [name, whenTrue, whenFalse] =>
      obtain ⟨s, hname, hs⟩ := hnamed name rfl
      rw [eq_string_of_asString? hname] at h
      obtain rfl : s = asked := Option.some.inj h
      exact hs
    | .list [] | .list [_] | .list [_, _] | .list (_ :: _ :: _ :: _ :: _) | .null | .bool _
    | .number _ | .string _ | .date _ | .map _ | .call _ _ => cases h
  | _ => cases h

/-- Calls are resolved alike in scopes that agree on the names that they ask for. -/
theorem apply_evaluate_congr (hagree : scope.AgreeOn known other) {f : Intrinsic} {argument : Node}
    (hnamed : ∀ name ∈ f.nameArgument? argument, ∃ s ∈ name.asString?, known s)
    (hargument : argument.evaluate scope = argument.evaluate other) :
    f.apply scope (argument.evaluate scope) = f.apply other (argument.evaluate other) := by
  rw [← hargument]
  refine Intrinsic.apply_congr hagree.params hagree.mappings f _ fun asked hasked => ?_
  exact hagree.condition asked (eq_of_conditionAsked? hnamed hasked)

/-- A node is the same argument in all scopes that agree on the conditions it asks for. -/
theorem evaluate_congr (hagree : scope.AgreeOn known other) {n : Node} (h : n.AsksOnly known) :
    n.evaluate scope = n.evaluate other := by
  induction n using Node.induct with
  | list items ih =>
    have hitems : items.map (resolve scope) = items.map (resolve other) :=
      List.map_congr_left fun item hitem => congrArg Argument.whole (ih item hitem (h.item hitem))
    rw [evaluate, evaluate, evaluateItems_eq, evaluateItems_eq, hitems]
  | map entries ih =>
    rw [evaluate_map, evaluate_map]
    cases hcall : callOf? entries with
    | none =>
      have hentries : evaluateEntries scope entries = evaluateEntries other entries := by
        rw [evaluateEntries_eq, evaluateEntries_eq]
        exact List.map_congr_left fun e he => by rw [ih e he (h.entry he)]
      rw [hentries]
    | some pair =>
      obtain ⟨f, argument⟩ := pair
      obtain rfl := callOf?_eq_some_iff.1 hcall
      -- a map that stands for a call is a call itself, and its argument is the node of its entry
      have hmem : (f.name, argument) ∈ [(f.name, argument)] := List.mem_singleton_self _
      have hnamed := h (f, argument) (by rw [calls, hcall]; exact List.mem_append_left _ (by simp))
      exact congrArg Argument.single
        (apply_evaluate_congr hagree hnamed (ih _ hmem (h.entry hmem)))
  | call f argument ih =>
    have hnamed := h (f, argument) (by rw [calls]; exact List.mem_cons_self)
    rw [evaluate, evaluate, apply_evaluate_congr hagree hnamed (ih h.argument)]
  | null => rfl
  | bool b => rfl
  | number n => rfl
  | string s => rfl
  | date t => rfl

/-- A node is resolved alike in all scopes that agree on the conditions it asks for. -/
theorem resolve_congr (hagree : scope.AgreeOn known other) {n : Node} (h : n.AsksOnly known) :
    n.resolve scope = n.resolve other := by
  rw [resolve, resolve, evaluate_congr hagree h]

end Node

end StackAudit
