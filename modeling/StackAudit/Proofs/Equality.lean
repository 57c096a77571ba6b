import Mathlib.Data.List.Perm.Subperm
import StackAudit.Proofs.Sequencing

/-!
# Equality of nodes

Equality of nodes is not identity: the order of the entries of a map makes no difference, and
neither does the sign of a zero. It is transitive on all nodes (`Node.equals_trans`). It is
reflexive and symmetric where maps have distinct names and numbers are numbers (`Node.Sound`): of
two entries of one name only the first is looked up, and "not a number" equals nothing.

## Shape of the proof

Lists and calls are equal part by part. The equality of two maps looks at the entries of the first
one only. If its names are distinct, the number of entries leaves no room for further names in the
second one (`Node.perm_names_of_equals`), so the same can be seen from the other side.
-/

namespace StackAudit

/-! ## Numbers -/

/-- Equal binary64 numbers are both numbers and stand at the same place, so the two zeros are equal.
-/
theorem Binary64.equals_iff {x y : Binary64} :
    x.equals y = true ↔ x.isNaN = false ∧ y.isNaN = false ∧ x.signedPlace = y.signedPlace := by
  unfold equals compare?
  cases x.isNaN <;> cases y.isNaN <;> simp

namespace Numeral

/-- An integer, or a binary64 number that is not "not a number". -/
def IsNumber (n : Numeral) : Prop := ∀ x, n = .float x → x.isNaN = false

variable {k m n : Numeral}

/-- A number equals itself. -/
theorem IsNumber.equals_self (h : n.IsNumber) : n.equals n = true := by
  cases n with
  | int => simp [equals]
  | float x => exact Binary64.equals_iff.2 ⟨h x rfl, h x rfl, rfl⟩

/-- Equality of numbers looks the same from both sides. -/
theorem equals_symm (h : m.equals n = true) : n.equals m = true := by
  cases m <;> cases n <;> try cases h
  · exact beq_iff_eq.2 (beq_iff_eq.1 h).symm
  · obtain ⟨hx, hy, hplace⟩ := Binary64.equals_iff.1 h
    exact Binary64.equals_iff.2 ⟨hy, hx, hplace.symm⟩

/-- Equality of numbers is transitive, since only numbers of one kind are equal. -/
theorem equals_trans (h : k.equals m = true) (h' : m.equals n = true) : k.equals n = true := by
  -- integers never equal binary64 numbers, so the kinds are all the same
  cases k <;> cases m <;> (try cases h) <;> cases n <;> try cases h'
  · exact beq_iff_eq.2 ((beq_iff_eq.1 h).trans (beq_iff_eq.1 h'))
  · obtain ⟨hx, -, hplace⟩ := Binary64.equals_iff.1 h
    obtain ⟨-, hz, hplace'⟩ := Binary64.equals_iff.1 h'
    exact Binary64.equals_iff.2 ⟨hx, hz, hplace.trans hplace'⟩

end Numeral

namespace Node

/-! ## Equal nodes -/

variable {a b c : Node} {as bs : List Node} {entries others : List (String × Node)}

/-- Rows of items are equal if they are equal place by place. -/
theorem equalItems_iff :
    equalItems as bs = true ↔ List.Forall₂ (fun x y => x.equals y = true) as bs := by
  induction as generalizing bs with
  | nil => cases bs <;> simp [equalItems]
  | cons x as ih => cases bs <;> simp [equalItems, ih]

/-- Each entry has an equal one under its name. -/
theorem entriesAmong_iff : entriesAmong entries others = true ↔
    ∀ e ∈ entries, ∃ node, others.lookup e.1 = some node ∧ e.2.equals node = true := by
  induction entries with
  | nil => simp [entriesAmong]
  | cons e rest ih =>
    rw [entriesAmong, Bool.and_eq_true, ih, List.forall_mem_cons]
    cases others.lookup e.1 <;> simp

/-- A list equals only lists, those that are equal place by place. -/
theorem list_equals_iff : (list as).equals b = true ↔
    ∃ bs, b = list bs ∧ List.Forall₂ (fun x y => x.equals y = true) as bs := by
  cases b <;> simp [equals, equalItems_iff]

/-- A map equals only maps with as many entries, which have an equal node under each of its names.
-/
theorem map_equals_iff : (map entries).equals b = true ↔
    ∃ others, b = map others ∧ entries.length = others.length ∧
      ∀ e ∈ entries, ∃ node, others.lookup e.1 = some node ∧ e.2.equals node = true := by
  cases b <;> simp [equals, entriesAmong_iff]

/-- A call equals only calls of the same function on an equal argument. -/
theorem call_equals_iff {f : Intrinsic} : (call f a).equals b = true ↔
    ∃ argument, b = call f argument ∧ a.equals argument = true := by
  cases b <;> simp [equals, and_assoc, @eq_comm _ f]

/-! ## Transitivity -/

/-- Equality is transitive on all nodes, also those that do not equal themselves. -/
theorem equals_trans (h : a.equals b = true) (h' : b.equals c = true) : a.equals c = true := by
  induction a using Node.induct generalizing b c with
  | null | bool | string | date => cases b <;> cases c <;> simp_all [equals]
  | number n =>
    cases b <;> try cases h
    cases c <;> try cases h'
    exact Numeral.equals_trans h h'
  | list items ih =>
    obtain ⟨bs, rfl, hrow⟩ := list_equals_iff.1 h
    obtain ⟨cs, rfl, hrow'⟩ := list_equals_iff.1 h'
    exact list_equals_iff.2 ⟨cs, rfl, forall₂_trans hrow hrow' fun x hx _ _ => ih x hx⟩
  | map entries ih =>
    obtain ⟨others, rfl, hlength, hentries⟩ := map_equals_iff.1 h
    obtain ⟨thirds, rfl, hlength', hothers⟩ := map_equals_iff.1 h'
    refine map_equals_iff.2 ⟨thirds, rfl, hlength.trans hlength', fun e he => ?_⟩
    obtain ⟨node, hnode, heq⟩ := hentries e he
    -- the node that is found is among the entries, so it has an equal one in turn
    obtain ⟨before, after, rfl, -⟩ := List.lookup_eq_some_iff.1 hnode
    obtain ⟨third, hthird, heq'⟩ := hothers (e.1, node) (by simp)
    exact ⟨third, hthird, ih e he heq heq'⟩
  | call f argument ih =>
    obtain ⟨_, rfl, heq⟩ := call_equals_iff.1 h
    obtain ⟨_, rfl, heq'⟩ := call_equals_iff.1 h'
    exact call_equals_iff.2 ⟨_, rfl, ih heq heq'⟩

/-! ## Reflexivity and symmetry -/

/-- The maps within a node have distinct names, and its numbers are numbers. -/
inductive Sound : Node → Prop where
  | null : Sound .null
  | bool (b : Bool) : Sound (.bool b)
  | number {n : Numeral} : n.IsNumber → Sound (.number n)
  | string (s : String) : Sound (.string s)
  | date (t : Instant) : Sound (.date t)
  | list {items : List Node} : (∀ item ∈ items, item.Sound) → Sound (.list items)
  | map {entries : List (String × Node)} : (entries.map Prod.fst).Nodup →
      (∀ e ∈ entries, e.2.Sound) → Sound (.map entries)
  | call (f : Intrinsic) {argument : Node} : argument.Sound → Sound (.call f argument)

@[simp]
theorem sound_string (s : String) : (string s).Sound := .string s

/-- A list is sound if its items are. -/
@[simp]
theorem sound_list_iff : (list as).Sound ↔ ∀ item ∈ as, item.Sound := by
  constructor
  · intro h
    cases h with
    | list hitems => exact hitems
  · exact .list

/-- A map is sound if its names are distinct and its nodes are sound. -/
@[simp]
theorem sound_map_iff : (map entries).Sound ↔
    (entries.map Prod.fst).Nodup ∧ ∀ e ∈ entries, e.2.Sound := by
  constructor
  · intro h
    cases h with
    | map hnames hentries => exact ⟨hnames, hentries⟩
  · exact fun h => .map h.1 h.2

/-- A call is sound if its argument is. -/
@[simp]
theorem sound_call_iff {f : Intrinsic} : (call f a).Sound ↔ a.Sound := by
  constructor
  · intro h
    cases h with
    | call _ hargument => exact hargument
  · exact .call f

/-- A sound node equals itself. -/
theorem Sound.equals_self (h : a.Sound) : a.equals a = true := by
  induction h with
  | null => rfl
  | bool | string => exact beq_self_eq_true _
  | date t => exact decide_eq_true rfl
  | number hn => exact hn.equals_self
  | list _ ih => exact list_equals_iff.2 ⟨_, rfl, List.forall₂_same.2 ih⟩
  | map hnames _ ih =>
    refine map_equals_iff.2 ⟨_, rfl, rfl, fun e he => ⟨e.2, ?_, ih e he⟩⟩
    -- without distinct names the lookup could find another entry of the name
    exact (Entries.lookup_eq_some_iff_mem hnames).2 he
  | call f _ ih => exact call_equals_iff.2 ⟨_, rfl, ih⟩

/-- Names that are distinct and all found among as many others are the same names. -/
theorem perm_names_of_equals (hnames : (entries.map Prod.fst).Nodup)
    (hlength : entries.length = others.length)
    (h : ∀ e ∈ entries, ∃ node, others.lookup e.1 = some node ∧ e.2.equals node = true) :
    (entries.map Prod.fst).Perm (others.map Prod.fst) := by
  have hsubset : entries.map Prod.fst ⊆ others.map Prod.fst := by
    intro name hname
    obtain ⟨e, he, rfl⟩ := List.mem_map.1 hname
    obtain ⟨node, hnode, -⟩ := h e he
    obtain ⟨before, after, rfl, -⟩ := List.lookup_eq_some_iff.1 hnode
    simp
  refine (List.subperm_of_subset hnames hsubset).perm_of_length_le ?_
  rw [List.length_map, List.length_map]
  exact Nat.le_of_eq hlength.symm

/-- What a sound node equals equals it. -/
theorem Sound.equals_symm (ha : a.Sound) (h : a.equals b = true) : b.equals a = true := by
  induction ha generalizing b with
  | null | bool | string | date => cases b <;> simp_all [equals]
  | number =>
    cases b <;> try cases h
    exact Numeral.equals_symm h
  | list _ ih =>
    obtain ⟨bs, rfl, hrow⟩ := list_equals_iff.1 h
    have hrow' := forall₂_imp_of_mem hrow fun x hx _ => ih x hx
    exact list_equals_iff.2 ⟨_, rfl, hrow'.flip⟩
  | @map entries hnames _ ih =>
    obtain ⟨others, rfl, hlength, hentries⟩ := map_equals_iff.1 h
    -- `hentries` starts from `map entries`, but the others have no names that are not there
    have hperm := perm_names_of_equals hnames hlength hentries
    refine map_equals_iff.2 ⟨entries, rfl, hlength.symm, fun o ho => ?_⟩
    obtain ⟨e, he, hname⟩ := List.mem_map.1 (hperm.mem_iff.2 (List.mem_map_of_mem ho))
    obtain ⟨node, hnode, heq⟩ := hentries e he
    -- the names of the others are distinct too, so the entry that is found is this one
    have hfound : others.lookup e.1 = some o.2 :=
      (Entries.lookup_eq_some_iff_mem (hperm.nodup hnames)).2 (hname ▸ ho)
    obtain rfl := Option.some.inj (hnode.symm.trans hfound)
    exact ⟨e.2, (Entries.lookup_eq_some_iff_mem hnames).2 (hname ▸ he), ih e he heq⟩
  | call f _ ih =>
    obtain ⟨_, rfl, heq⟩ := call_equals_iff.1 h
    exact call_equals_iff.2 ⟨_, rfl, ih heq⟩

end Node

end StackAudit
