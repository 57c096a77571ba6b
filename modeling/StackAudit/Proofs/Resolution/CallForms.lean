import Mathlib.Data.List.Perm.Basic
import StackAudit.Proofs.Resolution.Data

/-!
# The two forms of a call

JSON becomes a node in two ways. Directly, an object whose only member is named for a function
becomes a call, and all other objects keep the order of their members. By way of a value, every
object becomes a map in ascending order of names, also one that stands for a call. The two nodes
resolve to the same value, or neither has one (`Node.alike_resolve_ofJson`). The members of a JSON
object have distinct names, at every depth (`Json.Distinct`); every text that is read has this.

## Shape of the proof

The two nodes are compared as arguments, part by part: `Argument.Alike` asks for the same form and
for outcomes that are `Alike`. Functions take alike arguments to alike outcomes
(`Intrinsic.alike_apply`), and so do maps, whatever the order of their entries (`alike_mapOutcome`).
The reason for a failure may differ, since it is that of the first entry that fails.
-/

namespace StackAudit

/-- Two results are the same value, or both are errors. -/
inductive Alike {ε α : Type} : Except ε α → Except ε α → Prop where
  | value (a : α) : Alike (.ok a) (.ok a)
  | failure (e e' : ε) : Alike (.error e) (.error e')

namespace Alike

variable {ε α β : Type} {x y z : Except ε α}

/-- Every result is like itself. -/
theorem refl (x : Except ε α) : Alike x x := by
  cases x with
  | ok a => exact .value a
  | error e => exact .failure e e

/-- Likeness goes on from one result to the next. -/
theorem trans (h : Alike x y) (h' : Alike y z) : Alike x z := by
  cases h with
  | value a => exact h'
  | failure e e' =>
    cases h' with
    | failure _ e'' => exact .failure e e''

/-- What is like a value is this value. -/
theorem eq_ok {a : α} (h : Alike (.ok a) y) : y = .ok a := by
  cases h with
  | value => rfl

/-- Steps go on alike after alike first steps. -/
theorem bind {f g : α → Except ε β} (h : Alike x y) (hfg : ∀ a, Alike (f a) (g a)) :
    Alike (x >>= f) (y >>= g) := by
  cases h with
  | value a => exact hfg a
  | failure e e' => exact .failure e e'

/-- Results stay alike when they are mapped. -/
theorem map (h : Alike x y) (f : α → β) : Alike (x.map f) (y.map f) := by
  cases h with
  | value a => exact .value (f a)
  | failure e e' => exact .failure e e'

/-- Results are alike if each has the value of the other. -/
theorem of_eq_ok (h : ∀ a, x = .ok a → y = .ok a) (h' : ∀ a, y = .ok a → x = .ok a) :
    Alike x y := by
  cases x with
  | ok a => rw [h a rfl]; exact .value a
  | error e =>
    cases y with
    | ok b => exact nomatch h' b rfl
    | error e' => exact .failure e e'

end Alike

/-- Two arguments have the same form, and their outcomes are alike. -/
inductive Argument.Alike : Argument → Argument → Prop where
  | single {x y : Outcome} : StackAudit.Alike x y → Argument.Alike (.single x) (.single y)
  | items {xs ys : List Outcome} : List.Forall₂ StackAudit.Alike xs ys →
      Argument.Alike (.items xs) (.items ys)

/-! ## Functions -/

/-- Rows of alike outcomes collect to alike results. -/
theorem alike_collect {xs ys : List Outcome} (h : List.Forall₂ Alike xs ys) :
    Alike (collect xs) (collect ys) := by
  induction h with
  | nil => exact .refl _
  | cons hhead _ ih =>
    rw [collect, collect]
    exact hhead.bind fun _ => ih.bind fun _ => .refl _

namespace Argument

variable {a b : Argument}

/-- The number of items of a list. -/
def length? : Argument → Option Nat
  | single _ => none
  | items outcomes => some outcomes.length

/-- Alike arguments have as many items. -/
theorem Alike.length?_eq (h : a.Alike b) : a.length? = b.length? := by
  cases h with
  | single _ => rfl
  | items hrow => exact congrArg some hrow.length_eq

/-- An argument that is like a list is a list, with outcomes alike in their order. -/
theorem Alike.exists_items (h : a.Alike b) {n : Nat} (hlength : a.length? = some n) :
    ∃ xs ys, a = .items xs ∧ b = .items ys ∧ List.Forall₂ StackAudit.Alike xs ys := by
  cases h with
  | single _ => cases hlength
  | items hrow => exact ⟨_, _, rfl, rfl, hrow⟩

/-- As a whole, alike arguments have alike outcomes. -/
theorem Alike.whole (h : a.Alike b) : StackAudit.Alike a.whole b.whole := by
  cases h with
  | single h => exact h
  | items h => exact (alike_collect h).map _

/-- Alike arguments read alike as texts. -/
theorem Alike.text (h : a.Alike b) : StackAudit.Alike a.text b.text := h.whole.map Value.text

end Argument

namespace Intrinsic

variable {scope : Scope}

/-- Selection looks at the value of the index only. -/
theorem alike_selectOutcome {index items index' items' : Outcome} (hindex : Alike index index')
    (hitems : Alike items items') :
    Alike (selectOutcome index items) (selectOutcome index' items') := by
  refine hindex.bind fun value => ?_
  cases value.asInt64? with
  | none => exact .refl _
  | some i => exact hitems.bind fun _ => .refl _

/-- Only the branch that is chosen has to be alike, but both are. -/
theorem alike_ifOutcome {name whenTrue whenFalse name' whenTrue' whenFalse' : Outcome}
    (hname : Alike name name') (htrue : Alike whenTrue whenTrue')
    (hfalse : Alike whenFalse whenFalse') :
    Alike (ifOutcome scope name whenTrue whenFalse)
      (ifOutcome scope name' whenTrue' whenFalse') := by
  refine hname.bind fun value => ?_
  cases scope.condition value.text with
  | true => exact htrue
  | false => exact hfalse

/-- The number of arguments of a function that takes a list of so many. -/
def arity? : Intrinsic → Option Nat
  | join | split | select | equals => some 2
  | findInMap | ifElse => some 3
  | _ => none

/-- A function with a fixed number of arguments takes nothing else. -/
theorem apply_of_length?_ne {f : Intrinsic} {n : Nat} (hf : f.arity? = some n) {a : Argument}
    (ha : a.length? ≠ some n) : f.apply scope a = f.misnumbered n := by
  cases f with
  | join | split | select | equals =>
    -- in both groups the function matches on lists of its own length and refuses the rest
    obtain rfl : 2 = n := Option.some.inj hf
    match a, ha with
    | .single _, _ | .items [], _ | .items [_], _ | .items (_ :: _ :: _ :: _), _ => rfl
    | .items [_, _], ha => exact absurd rfl ha
  | findInMap | ifElse =>
    obtain rfl : 3 = n := Option.some.inj hf
    match a, ha with
    | .single _, _ | .items [], _ | .items [_], _ | .items [_, _], _
    | .items (_ :: _ :: _ :: _ :: _), _ => rfl
    | .items [_, _, _], ha => exact absurd rfl ha
  | _ => cases hf

/-- A function with a fixed number of arguments has a value only for so many. -/
theorem length?_of_apply {f : Intrinsic} {n : Nat} (hf : f.arity? = some n) {a : Argument}
    {v : Value} (h : f.apply scope a = .ok v) : a.length? = some n := by
  by_contra hlength
  rw [apply_of_length?_ne hf hlength] at h
  cases h

/-- A function of two arguments has a value only on a list of two. -/
theorem exists_pair_of_apply {f : Intrinsic} (hf : f.arity? = some 2) {a : Argument} {v : Value}
    (h : f.apply scope a = .ok v) : ∃ x y, a = .items [x, y] := by
  have hlength := length?_of_apply hf h
  cases a with
  | single _ => cases hlength
  | items outcomes =>
    obtain ⟨x, y, rfl⟩ := List.length_eq_two.1 (Option.some.inj hlength)
    exact ⟨x, y, rfl⟩

/-- A function of three arguments has a value only on a list of three. -/
theorem exists_triple_of_apply {f : Intrinsic} (hf : f.arity? = some 3) {a : Argument} {v : Value}
    (h : f.apply scope a = .ok v) : ∃ x y z, a = .items [x, y, z] := by
  have hlength := length?_of_apply hf h
  cases a with
  | single _ => cases hlength
  | items outcomes =>
    obtain ⟨x, y, z, rfl⟩ := List.length_eq_three.1 (Option.some.inj hlength)
    exact ⟨x, y, z, rfl⟩

/-- A function of two arguments takes alike outcomes to alike outcomes. -/
theorem alike_apply_pair {f : Intrinsic} (hf : f.arity? = some 2) {x y x' y' : Outcome}
    (hx : Alike x x') (hy : Alike y y') :
    Alike (f.apply scope (.items [x, y])) (f.apply scope (.items [x', y'])) := by
  cases f with
  | join | split | equals => exact hx.bind fun _ => hy.bind fun _ => .refl _
  | select => exact alike_selectOutcome hx hy
  | _ => cases hf

/-- A function of three arguments takes alike outcomes to alike outcomes. -/
theorem alike_apply_triple {f : Intrinsic} (hf : f.arity? = some 3) {x y z x' y' z' : Outcome}
    (hx : Alike x x') (hy : Alike y y') (hz : Alike z z') :
    Alike (f.apply scope (.items [x, y, z])) (f.apply scope (.items [x', y', z'])) := by
  cases f with
  | findInMap => exact hx.bind fun _ => hy.bind fun _ => hz.bind fun _ => .refl _
  | ifElse => exact alike_ifOutcome hx hy hz
  | _ => cases hf

/-- A function with a fixed number of arguments takes alike arguments to alike outcomes. -/
theorem alike_apply_of_arity? {f : Intrinsic} {n : Nat} (hf : f.arity? = some n) {a b : Argument}
    (h : a.Alike b) : Alike (f.apply scope a) (f.apply scope b) := by
  -- both arguments have the right number of items or neither, since that is a matter of form
  by_cases hlength : a.length? = some n
  · obtain ⟨xs, ys, rfl, rfl, hrow⟩ := h.exists_items hlength
    -- a row of two or three is taken apart, and its outcomes are handed over one by one
    have hn : n = 2 ∨ n = 3 := by cases f <;> simp_all [arity?]
    rcases hn with rfl | rfl
    · obtain ⟨x, y, rfl⟩ := List.length_eq_two.1 (Option.some.inj hlength)
      obtain ⟨x', _, hx, hrest, rfl⟩ := List.forall₂_cons_left_iff.1 hrow
      obtain ⟨y', _, hy, hnil, rfl⟩ := List.forall₂_cons_left_iff.1 hrest
      obtain rfl := List.forall₂_nil_left_iff.1 hnil
      exact alike_apply_pair hf hx hy
    · obtain ⟨x, y, z, rfl⟩ := List.length_eq_three.1 (Option.some.inj hlength)
      obtain ⟨x', _, hx, hrest, rfl⟩ := List.forall₂_cons_left_iff.1 hrow
      obtain ⟨y', _, hy, hlast, rfl⟩ := List.forall₂_cons_left_iff.1 hrest
      obtain ⟨z', _, hz, hnil, rfl⟩ := List.forall₂_cons_left_iff.1 hlast
      obtain rfl := List.forall₂_nil_left_iff.1 hnil
      exact alike_apply_triple hf hx hy hz
  · have hlength' : b.length? ≠ some n := h.length?_eq ▸ hlength
    rw [apply_of_length?_ne hf hlength, apply_of_length?_ne hf hlength']
    exact .refl _

/-- The forms of an argument of `Fn::Sub` are told apart by its length alone. -/
theorem alike_apply_sub {a b : Argument} (h : a.Alike b) :
    Alike (sub.apply scope a) (sub.apply scope b) := by
  cases h with
  | single htemplate => exact htemplate.bind fun _ => .refl _
  | items hrow =>
    cases hrow with
    | nil => exact .refl _
    | cons htemplate hrow =>
      cases hrow with
      | nil => exact htemplate.bind fun _ => .refl _
      | cons hbound hrow =>
        cases hrow with
        | nil => exact htemplate.bind fun _ => hbound.bind fun _ => .refl _
        | cons _ _ => exact .refl _

/-- A function takes alike arguments to alike outcomes. -/
theorem alike_apply (f : Intrinsic) {a b : Argument} (h : a.Alike b) :
    Alike (f.apply scope a) (f.apply scope b) := by
  cases f with
  | ref | importValue | condition | base64 => exact h.text.map _
  | getAtt | getAZs => exact .refl _
  | join | split | select | equals | findInMap | ifElse => exact alike_apply_of_arity? rfl h
  | sub => exact alike_apply_sub h
  | and | or =>
    -- anything but a list of operands is refused, without a look at its outcome
    cases h with
    | single _ => exact .refl _
    | items hrow => exact (alike_collect hrow).map _
  | not =>
    cases h with
    | single _ => exact .refl _
    | items hrow => exact (alike_collect hrow).bind fun _ => .refl _

end Intrinsic

/-! ## Maps -/

/-- Entries of the same names with alike arguments collect to alike results. -/
theorem alike_collectEntries {xs ys : List (String × Argument)}
    (h : List.Forall₂ (fun x y => y.1 = x.1 ∧ x.2.Alike y.2) xs ys) :
    Alike (collectEntries xs) (collectEntries ys) := by
  induction h with
  | nil => exact .refl _
  | @cons x y _ _ hhead _ ih =>
    obtain ⟨name, argument⟩ := x
    obtain ⟨name', argument'⟩ := y
    obtain ⟨rfl, hargument⟩ := hhead
    rw [collectEntries, collectEntries]
    exact hargument.whole.bind fun _ => ih.bind fun _ => .refl _

/-- Data has the same value in any order of its entries. -/
theorem dataOutcome_eq_ok_of_perm {xs ys : List (String × Argument)} (hperm : xs.Perm ys)
    (hnames : (xs.map Prod.fst).Nodup) {value : Value} (h : dataOutcome xs = .ok value) :
    dataOutcome ys = .ok value := by
  obtain ⟨values, hvalues, rfl⟩ := map_eq_ok_iff.1 h
  have hrow := collectEntries_eq_ok_iff.1 hvalues
  obtain ⟨others, hothers, hsame⟩ := List.perm_comp_forall₂ hperm.symm hrow
  -- `others` are the values in the other order, and sorting undoes that as names are distinct
  refine map_eq_ok_iff.2 ⟨others, collectEntries_eq_ok_iff.2 hothers, ?_⟩
  have hdistinct := Node.nodup_map_fst_filter_of_forall₂ hrow hnames (!·.2.isNoValue)
  rw [Entries.sort_eq_of_perm (hsame.symm.filter _) hdistinct]

/-- Data is alike in any order of its entries. -/
theorem alike_dataOutcome_of_perm {xs ys : List (String × Argument)} (hperm : xs.Perm ys)
    (hnames : (xs.map Prod.fst).Nodup) : Alike (dataOutcome xs) (dataOutcome ys) := by
  have hnames' : (ys.map Prod.fst).Nodup := (hperm.map Prod.fst).nodup hnames
  -- failures need not agree: each order reports the first entry of its own that fails
  exact .of_eq_ok (fun _ => dataOutcome_eq_ok_of_perm hperm hnames)
    fun _ => dataOutcome_eq_ok_of_perm hperm.symm hnames'

/-- Only a map with one entry can be a call. -/
theorem mapOutcome_of_length_ne_one {scope : Scope} {entries : List (String × Argument)}
    (h : entries.length ≠ 1) : mapOutcome scope entries = dataOutcome entries := by
  match entries with
  | [] => rfl
  | [_] => exact absurd rfl h
  | _ :: _ :: _ => rfl

/-- Maps with alike entries are alike, in any order of the entries. -/
theorem alike_mapOutcome {scope : Scope} {xs ys zs : List (String × Argument)}
    (hnames : (xs.map Prod.fst).Nodup)
    (hrow : List.Forall₂ (fun x y => y.1 = x.1 ∧ x.2.Alike y.2) xs ys) (hperm : ys.Perm zs) :
    Alike (mapOutcome scope xs) (mapOutcome scope zs) := by
  have hdata : Alike (dataOutcome xs) (dataOutcome zs) := by
    refine Alike.trans ((alike_collectEntries hrow).map _) (alike_dataOutcome_of_perm hperm ?_)
    rwa [Node.map_fst_eq_of_forall₂ hrow]
  by_cases hlength : xs.length = 1
  · -- a single entry has no other order, so both maps stand for a call or neither does
    obtain ⟨⟨name, argument⟩, rfl⟩ := List.length_eq_one_iff.1 hlength
    obtain ⟨⟨name', argument'⟩, _, ⟨hname, hargument⟩, hrest, rfl⟩ :=
      List.forall₂_cons_left_iff.1 hrow
    obtain rfl := List.forall₂_nil_left_iff.1 hrest
    obtain rfl : name' = name := hname
    obtain rfl := List.singleton_perm.1 hperm
    rw [mapOutcome, mapOutcome]
    cases Intrinsic.ofName? name' with
    | none => exact hdata
    | some f => exact f.alike_apply hargument
  · have hlength' : zs.length ≠ 1 := by
      rwa [← hperm.length_eq, ← hrow.length_eq]
    rw [mapOutcome_of_length_ne_one hlength, mapOutcome_of_length_ne_one hlength']
    exact hdata

/-! ## Nodes -/

namespace Value

/-- The values of the items, item by item. -/
theorem ofJsonItems_eq (items : List Json) : ofJsonItems items = items.map ofJson := by
  induction items with
  | nil => rfl
  | cons item rest ih => rw [ofJsonItems, ih, List.map_cons]

/-- The values of the members under their names. -/
theorem ofJsonMembers_eq (members : List (String × Json)) :
    ofJsonMembers members = members.map fun m => (m.1, ofJson m.2) := by
  induction members with
  | nil => rfl
  | cons m rest ih => rw [ofJsonMembers, ih, List.map_cons]

end Value

namespace Node

variable {scope : Scope}

/-- The nodes of the items, item by item. -/
theorem ofJsonItems_eq (items : List Json) : ofJsonItems items = items.map ofJson := by
  induction items with
  | nil => rfl
  | cons item rest ih => rw [ofJsonItems, ih, List.map_cons]

/-- The nodes of the members under their names. -/
theorem ofJsonMembers_eq (members : List (String × Json)) :
    ofJsonMembers members = members.map fun m => (m.1, ofJson m.2) := by
  induction members with
  | nil => rfl
  | cons m rest ih => rw [ofJsonMembers, ih, List.map_cons]

/-- The node of entries is resolved like the map of them. -/
theorem evaluate_ofEntries (scope : Scope) (entries : List (String × Node)) :
    (ofEntries entries).evaluate scope = (map entries).evaluate scope := by
  match entries with
  | [] => rfl
  | [(name, argument)] =>
    rw [ofEntries, evaluate_map, callOf?]
    -- a call node in one form, and a map that stands for it in the other
    cases hname : Intrinsic.ofName? name with
    | none => rw [evaluate_map, callOf?, hname]
    | some f => rfl
  | _ :: _ :: _ => rfl

/-- The two nodes of a JSON value are alike as arguments. -/
theorem alike_evaluate_ofJson (scope : Scope) {json : Json} (h : json.Distinct) :
    ((ofJson json).evaluate scope).Alike ((ofValue (Value.ofJson json)).evaluate scope) := by
  induction h with
  | null | bool | num | str => exact .single (.refl _)
  | @arr items _ ih =>
    rw [ofJson, Value.ofJson, ofValue, evaluate, evaluate, evaluateItems_eq, evaluateItems_eq,
      ofJsonItems_eq, ofValues_eq, Value.ofJsonItems_eq, List.map_map, List.map_map, List.map_map]
    refine .items ?_
    rw [List.forall₂_map_left_iff, List.forall₂_map_right_iff]
    exact List.forall₂_same.2 fun item hitem => (ih item hitem).whole
  | @obj members hnames _ ih =>
    -- the value of an object has its members in another order, each alike to the node of the member
    have hnames' : ((Value.ofJsonMembers members).map Prod.fst).Nodup := by
      rwa [Value.ofJsonMembers_eq, List.map_map]
    have hperm := (Entries.perm_sort hnames').symm.map fun e => (e.1, (ofValue e.2).evaluate scope)
    rw [ofJson, Value.ofJson, ofValue, evaluate_ofEntries, evaluate, evaluate, evaluateEntries_eq,
      evaluateEntries_eq, ofJsonMembers_eq, ofValueEntries_eq, List.map_map, List.map_map]
    refine .single (alike_mapOutcome ?_ ?_ hperm)
    · rwa [List.map_map]
    · rw [Value.ofJsonMembers_eq, List.map_map, List.forall₂_map_left_iff,
        List.forall₂_map_right_iff]
      exact List.forall₂_same.2 fun m hm => ⟨rfl, ih m hm⟩

/-- The form of calls and the order of maps do not show: the node of a JSON value and the node of
its value resolve to the same value, or both fail. -/
theorem alike_resolve_ofJson {json : Json} (h : json.Distinct) (scope : Scope) :
    Alike ((ofJson json).resolve scope) ((ofValue (Value.ofJson json)).resolve scope) :=
  (alike_evaluate_ofJson scope h).whole

/-- A box whose members are not in ascending order; its name depends on a condition, and one of its
tags is absent. -/
def boxJson : Json :=
  .obj [("Tags", .arr [.obj [("Ref", .str "Env")], .obj [("Ref", .str "AWS::NoValue")]]),
    ("Name", .obj [("Fn::If", .arr [.str "IsProd",
      .obj [("Fn::Sub", .arr [.str "$\x7bSize\x7d-$\x7bEnv\x7d",
        .obj [("Size", .num (.int 3)), ("Color", .str "red")]])],
      .obj [("Fn::Select", .arr [.str "first", .arr []])]])])]

/-- A scope for the box. -/
def boxScope : Scope :=
  ((Scope.empty.withParam "Env" (.string "prod")).withParam "AWS::NoValue" .noValue).withCondition
    "IsProd" true

/-- Both nodes of the box resolve to the same map. -/
theorem alike_resolve_ofJson_box :
    boxJson.Distinct ∧ (ofValue (Value.ofJson boxJson)).resolve boxScope =
      .ok (.map [("Name", .string "3-prod"), ("Tags", .list [.string "prod"])]) := by
  have hdistinct : boxJson.Distinct := by simp [boxJson]
  have hbox : (ofJson boxJson).resolve boxScope =
      .ok (.map [("Name", .string "3-prod"), ("Tags", .list [.string "prod"])]) := rfl
  have halike := alike_resolve_ofJson hdistinct boxScope
  rw [hbox] at halike
  exact ⟨hdistinct, halike.eq_ok⟩

/-- Of two faults each node reports the first one in the order of its own members. -/
example :
    let json := Json.obj [("B", .obj [("Fn::Join", .null)]), ("A", .obj [("Fn::And", .null)])]
    (ofJson json).resolve .empty = Intrinsic.join.misnumbered 2 ∧
      (ofValue (Value.ofJson json)).resolve .empty = Intrinsic.and.misshapen "a list of operands" :=
  ⟨rfl, rfl⟩

end Node

end StackAudit
