import StackAudit.Proofs.Resolution.Origin

/-!
# Values that read as calls

A map with one entry that is named for a function reads as a call: turned back into a node, it would
be resolved as one. Data is never such a map, but it can resolve to one, since absent entries are
left out. If neither parameters nor mappings hold a map that reads as a call, this is the only way
in which the value of a node of JSON comes to have one (`Node.exists_leavesCall_of_part`).
-/

namespace StackAudit

/-- A map with one entry, which is named for a function. -/
def Value.ReadsAsCall (v : Value) : Prop :=
  ∃ (f : Intrinsic) (x : Value), v = .map [(f.name, x)]

namespace Node

variable {scope : Scope}

/-- Of several entries only that of a function is present; all others are absent. -/
structure LeavesCall (scope : Scope) (entries : List (String × Node)) (f : Intrinsic) (x : Value) :
    Prop where
  several : 2 ≤ entries.length
  left : ∃ node, entries.lookup f.name = some node ∧ node.resolve scope = .ok x ∧
    x.isNoValue = false
  absent : ∀ e ∈ entries, e.1 ≠ f.name → e.2.resolve scope = .ok .noValue

/-- Data that resolves to a map which reads as a call leaves that call of its entries. -/
theorem leavesCall_of_resolve {entries : List (String × Node)} (hform : (map entries).WellFormed)
    {f : Intrinsic} {x : Value} (h : (map entries).resolve scope = .ok (.map [(f.name, x)])) :
    LeavesCall scope entries f x := by
  obtain ⟨resolved, hresolved, hentries⟩ := resolve_map_eq_ok hform h
  obtain rfl := Value.map.inj hresolved
  cases hform with
  | map hdata hnames _ =>
    have hleft : ∃ node, entries.lookup f.name = some node ∧ node.resolve scope = .ok x ∧
        x.isNoValue = false := by
      -- the value has `x` under the name of the function, so the node there is not left out
      have hentry := hentries f.name
      rw [Entries.lookup_cons_ite, if_pos rfl] at hentry
      generalize entries.lookup f.name = node? at hentry
      cases hentry with
      | present hx hmark => exact ⟨_, rfl, hx, hmark⟩
    refine ⟨?_, hleft, fun e he hne => ?_⟩
    · obtain ⟨node, hnode, -⟩ := hleft
      match entries with
      | [] => cases hnode
      | [e] =>
        -- a single entry would have been named for the function already
        obtain rfl := List.mem_singleton.1 ((Entries.lookup_eq_some_iff_mem hnames).1 hnode)
        cases hdata.symm.trans (callOf?_eq_some_iff.2 rfl)
      | _ :: _ :: _ => exact Nat.le_add_left 2 _
    · -- under every other name the value has nothing, so the node there is absent
      have hentry := hentries e.1
      rw [(Entries.lookup_eq_some_iff_mem hnames).2 he, Entries.lookup_cons_ite,
        if_neg hne] at hentry
      cases hentry with
      | @absent _ value hvalue hmark =>
        rw [hvalue, Value.eq_noValue_of_isNoValue hmark]

/-- A map within the value of a node of JSON reads as a call only if it is what is left of a larger
map of data, provided that no value that calls can take over holds a map that reads as a call. -/
theorem exists_leavesCall_of_part {json : Json} (hjson : json.Distinct)
    (hscope : ∀ w, scope.Holds w → ¬w.ReadsAsCall) {v : Value}
    (hv : (ofJson json).resolve scope = .ok v) {w : Value} (hw : w.Part v) (hcall : w.ReadsAsCall) :
    ∃ (entries : List (String × Node)) (f : Intrinsic) (x : Value),
      (map entries).Part (ofJson json) ∧ w = .map [(f.name, x)] ∧
        LeavesCall scope entries f x := by
  obtain ⟨f, x, rfl⟩ := hcall
  rcases origin_of_part hv hw rfl with ⟨y, hy, hpart⟩ | ⟨m, hm, hdata, hresolve⟩
  · -- taken over whole: ruled out by the hypothesis on the scope
    exact absurd ⟨f, x, rfl⟩ (hscope _ (hy.holds_map hpart))
  · cases m with
    | list items =>
      obtain ⟨values, -, heq⟩ := resolve_list_eq_ok_iff.1 hresolve
      cases heq
    | map entries =>
      have hform := (wellFormed_ofJson hjson).of_part hm
      exact ⟨entries, f, x, hm, rfl, leavesCall_of_resolve hform hresolve⟩
    | _ => cases hdata

/-- Settings with a value that is absent. -/
def instanceSettings : Json :=
  .obj [("Condition", .str "IsLarge"), ("Value", .obj [("Ref", .str "AWS::NoValue")])]

/-- A scope with the mark of an absent value and nothing else. -/
def markScope : Scope := Scope.empty.withParam "AWS::NoValue" .noValue

/-- The mark is all that the scope holds, and it is no map. -/
theorem not_readsAsCall_of_holds_markScope {w : Value} (h : markScope.Holds w) :
    ¬w.ReadsAsCall := by
  rintro ⟨f, x, rfl⟩
  cases h with
  | @param name value hget hpart =>
    rw [markScope, Scope.withParam, Table.get?_insert] at hget
    split at hget
    · cases hget
      cases hpart.eq_of_isCompound rfl
    · cases hget
  | mapping hfind _ => cases hfind

/-- What data resolves to can read as a call, although nothing in the scope does. -/
theorem not_forall_not_readsAsCall :
    ¬∀ (json : Json) (scope : Scope) (v : Value), json.Distinct →
      (∀ w, scope.Holds w → ¬w.ReadsAsCall) → (ofJson json).resolve scope = .ok v →
      ∀ w : Value, w.Part v → ¬w.ReadsAsCall := by
  intro h
  refine h instanceSettings markScope _ ?_ (fun _ => not_readsAsCall_of_holds_markScope) rfl _ .self
    ⟨.condition, .string "IsLarge", rfl⟩
  simp [instanceSettings]

/-- What is left of the settings reads as a call, since their other entry is absent. -/
theorem exists_leavesCall_of_part_instanceSettings :
    ∃ (entries : List (String × Node)) (f : Intrinsic) (x : Value),
      (map entries).Part (ofJson instanceSettings) ∧
        Value.map [("Condition", .string "IsLarge")] = .map [(f.name, x)] ∧
          LeavesCall markScope entries f x :=
  exists_leavesCall_of_part (by simp [instanceSettings])
    (fun _ => not_readsAsCall_of_holds_markScope) rfl .self ⟨.condition, .string "IsLarge", rfl⟩

end Node

end StackAudit
