import Mathlib.Data.List.Forall2
import StackAudit.Proofs.Calls

/-!
# Parts that can stand for each other

A part of a node may be replaced by any other part with the same outcome, as long as neither is a
list: what the node resolves to, value or error, stays the same (`Node.resolve_replaced`). So a
reference to a parameter that holds a string may be replaced by the string.

Lists are left out because functions ask whether their argument is written as a list, and how long
it is, before anything is resolved. That is all that they ask: any other argument reaches them as an
outcome (`Node.evaluate_of_asList?`). So nodes with interchangeable parts are the same argument
(`Node.evaluate_replaced`), by induction on how the one arises from the other.
-/

namespace StackAudit.Node

/-- One node arises from the other by putting related parts in place of each other, at any number
of places. All else is the same: scalars, the lengths of lists, the names of entries and their
order, and functions. -/
inductive Replaced (R : Node → Node → Prop) : Node → Node → Prop where
  | part {a b : Node} : R a b → Replaced R a b
  | same (n : Node) : Replaced R n n
  | list {items others : List Node} : List.Forall₂ (Replaced R) items others →
      Replaced R (.list items) (.list others)
  | map {entries others : List (String × Node)} :
      entries.map Prod.fst = others.map Prod.fst →
      List.Forall₂ (Replaced R) (entries.map Prod.snd) (others.map Prod.snd) →
      Replaced R (.map entries) (.map others)
  | call (function : Intrinsic) {argument other : Node} : Replaced R argument other →
      Replaced R (.call function argument) (.call function other)

/-- Two nodes have the same outcome, and neither is a list. -/
structure Interchangeable (scope : Scope) (a b : Node) : Prop where
  left : a.asList? = none
  right : b.asList? = none
  resolve_eq : a.resolve scope = b.resolve scope

/-- A reference, in either form, to a parameter that holds a string, and the string. -/
inductive Inlined (scope : Scope) : Node → Node → Prop where
  | call {name s : String} : scope.params.get? name = some (.string s) →
      Inlined scope (.call .ref (.string name)) (.string s)
  | map {name s : String} : scope.params.get? name = some (.string s) →
      Inlined scope (.map [("Ref", .string name)]) (.string s)

variable {scope : Scope}

/-- What is no list is its outcome as an argument. -/
theorem evaluate_of_asList? {n : Node} (h : n.asList? = none) :
    n.evaluate scope = .single (n.resolve scope) := by
  cases n with
  | list items => cases h
  | _ => rfl

/-- Entries as arguments are their names with their nodes as arguments. -/
theorem evaluateEntries_eq_zip (entries : List (String × Node)) :
    evaluateEntries scope entries =
      (entries.map Prod.fst).zip ((entries.map Prod.snd).map (evaluate scope)) := by
  rw [evaluateEntries_eq, List.map_map, List.zip_map', Function.comp_def]

/-- Nodes with interchangeable parts are the same argument. -/
theorem evaluate_replaced {n other : Node} (h : Replaced (Interchangeable scope) n other) :
    n.evaluate scope = other.evaluate scope := by
  -- equal outcomes would not carry the induction: a function sees its argument, not its outcome
  induction h using Replaced.rec (motive_2 := fun items others _ =>
    items.map (evaluate scope) = others.map (evaluate scope)) with
  | part hab => rw [evaluate_of_asList? hab.left, evaluate_of_asList? hab.right, hab.resolve_eq]
  | same n => rfl
  | @list items others _ ih =>
    -- as an argument a list is the row of outcomes of its items, which are those of the items as
    -- arguments
    have houtcomes (nodes : List Node) :
        nodes.map (resolve scope) = (nodes.map (evaluate scope)).map Argument.whole := by
      rw [List.map_map]; rfl
    rw [evaluate, evaluate, evaluateItems_eq, evaluateItems_eq, houtcomes, ih, ← houtcomes]
  | map hnames _ ih =>
    rw [evaluate, evaluate, evaluateEntries_eq_zip, evaluateEntries_eq_zip, hnames, ih]
  | call f _ ih => rw [evaluate, evaluate, ih]
  | nil => rfl
  | cons _ _ ihhead ihrest => rw [List.map_cons, List.map_cons, ihhead, ihrest]

/-- Parts that are related in one way may be related in any way that follows. -/
theorem Replaced.mono {R S : Node → Node → Prop} (hRS : ∀ a b, R a b → S a b) {n other : Node}
    (h : Replaced R n other) : Replaced S n other := by
  induction h using Replaced.rec (motive_2 := fun items others _ =>
    List.Forall₂ (Replaced S) items others) with
  | part hab => exact .part (hRS _ _ hab)
  | same n => exact .same n
  | list _ ih => exact .list ih
  | map hnames _ ih => exact .map hnames ih
  | call f _ ih => exact .call f ih
  | nil => exact .nil
  | cons _ _ ihhead ihrest => exact .cons ihhead ihrest

/-- A reference to a parameter that holds a string yields the string. -/
theorem reference_of_get?_eq_string {name s : String}
    (h : scope.params.get? name = some (.string s)) : scope.reference name = .string s := by
  rw [Scope.reference, h]
  rfl

/-- A reference to a parameter that holds a string resolves to the string. -/
theorem Inlined.interchangeable {a b : Node} (h : Inlined scope a b) :
    Interchangeable scope a b := by
  cases h with
  | call hs | map hs => exact ⟨rfl, rfl, congrArg Except.ok (reference_of_get?_eq_string hs)⟩

/-- Replacing parts by interchangeable ones does not change what a node resolves to, and neither
does putting the strings that parameters hold in place of references to them. -/
theorem resolve_replaced (scope : Scope) :
    (∀ n other, Replaced (Interchangeable scope) n other →
      n.resolve scope = other.resolve scope) ∧
    ∀ n other, Replaced (Inlined scope) n other → n.resolve scope = other.resolve scope := by
  have hinterchangeable (n other : Node) (h : Replaced (Interchangeable scope) n other) :
      n.resolve scope = other.resolve scope := congrArg Argument.whole (evaluate_replaced h)
  refine ⟨hinterchangeable, fun n other h => hinterchangeable n other ?_⟩
  exact h.mono fun _ _ => Inlined.interchangeable

/-- A greeting that refers to a name twice, in both forms. -/
def greeting : Node :=
  .call .join (.list [.string " ", .list [.string "Dear", .call .ref (.string "Name"),
    .map [("Fn::Sub", .list [.string "and $\x7bOther\x7d",
      .map [("Other", .map [("Ref", .string "Name")])]])]]])

/-- The greeting with the name put in for both references. -/
def greetingInlined : Node :=
  .call .join (.list [.string " ", .list [.string "Dear", .string "Ada",
    .map [("Fn::Sub", .list [.string "and $\x7bOther\x7d",
      .map [("Other", .string "Ada")]])]]])

/-- The greeting resolves as before once the name is put in, and two calls with the same error can
stand for each other within a call that fails because of them. -/
theorem resolve_replaced_greeting :
    let scope := Scope.empty.withParam "Name" (.string "Ada")
    let faulty := Node.call .select (.list [.string "first", .null])
    let other := Node.map [("Fn::Select", .list [.null, .string "Ada"])]
    Replaced (Inlined scope) greeting greetingInlined ∧
      greetingInlined.resolve scope = .ok (.string "Dear Ada and Ada") ∧
      greeting.resolve scope = .ok (.string "Dear Ada and Ada") ∧
      Replaced (Interchangeable scope) (.call .and (.list [.bool true, faulty]))
        (.call .and (.list [.bool true, other])) ∧
      (Node.call .and (.list [.bool true, faulty])).resolve scope =
        Intrinsic.select.misshapen "an integer index" := by
  intro scope faulty other
  have hname : scope.params.get? "Name" = some (.string "Ada") := rfl
  have hgreeting : Replaced (Inlined scope) greeting greetingInlined := by
    have hother : Replaced (Inlined scope) (.map [("Ref", .string "Name")]) (.string "Ada") :=
      .part (.map hname)
    refine .call _ (.list (.cons (.same _) (.cons (.list ?_) .nil)))
    refine .cons (.same _) (.cons ?_ (.cons ?_ .nil))
    · exact .part (.call hname)
    · refine .map rfl (.cons (.list (.cons (.same _) (.cons ?_ .nil))) .nil)
      exact .map rfl (.cons hother .nil)
  have hfaulty : Replaced (Interchangeable scope) (.call .and (.list [.bool true, faulty]))
      (.call .and (.list [.bool true, other])) := by
    refine .call _ (.list (.cons (.same _) (.cons (.part ⟨rfl, rfl, ?_⟩) .nil)))
    rfl
  have hinlined : greetingInlined.resolve scope = .ok (.string "Dear Ada and Ada") := rfl
  obtain ⟨hinterchangeable, hreferences⟩ := resolve_replaced scope
  refine ⟨hgreeting, hinlined, ?_, hfaulty, ?_⟩
  · rw [hreferences _ _ hgreeting, hinlined]
  · rw [hinterchangeable _ _ hfaulty]
    rfl

/-- A list cannot stand for a reference to a parameter that holds the same list. -/
example :
    let scope := Scope.empty.withParam "Parts" (.list [.string "-", .string "a"])
    let parts := Node.list [.string "-", .string "a"]
    let reference := Node.call .ref (.string "Parts")
    parts.resolve scope = reference.resolve scope ∧
      (Node.call .join parts).resolve scope = .ok (.string "a") ∧
      (Node.call .join reference).resolve scope = Intrinsic.join.misnumbered 2 :=
  ⟨rfl, rfl, rfl⟩

end StackAudit.Node
