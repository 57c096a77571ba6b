import StackAudit.AddressBlock

/-!
# Containment of blocks

An address is in a block if its leading bits are those of the block (`AddressBlock.Has`). Such
addresses follow each other without a gap, so that it is enough to look at the ends: an address is
in the block if it is not before the first and not behind the last one
(`AddressBlock.contains_iff_has`), and a block holds another one if it has every address of the
other (`AddressBlock.holds_iff`).
-/

namespace StackAudit.AddressBlock

/-- The address has as many bits as the family says, and the prefix is a part of it. -/
structure Valid (b : AddressBlock) : Prop where
  address_lt : b.address < 1 <<< b.family.bits
  prefixLength_le : b.prefixLength ≤ b.family.bits

/-- An address of the family of a block that begins with the prefix of the block. -/
def Has (b : AddressBlock) (address : Nat) : Prop :=
  address < 1 <<< b.family.bits ∧
    ∀ i < b.prefixLength,
      address.testBit (b.family.bits - 1 - i) = b.address.testBit (b.family.bits - 1 - i)

variable {a b c : AddressBlock} {x : Nat}

/-- No block is empty. -/
theorem size_pos (b : AddressBlock) : 0 < b.size := by
  rw [size, Nat.one_shiftLeft]
  exact Nat.two_pow_pos _

/-- Every prefix has a block of the same size, and together these blocks are the whole family. -/
theorem prefixes_mul_size (hb : b.Valid) :
    1 <<< b.prefixLength * b.size = 1 <<< b.family.bits := by
  have hle := hb.prefixLength_le
  rw [size, Nat.one_shiftLeft, Nat.one_shiftLeft, Nat.one_shiftLeft, ← Nat.pow_add]
  congr 1
  omega

/-- Dividing by the size of a block takes away the bits that its prefix leaves open. -/
theorem testBit_div_size (b : AddressBlock) (x i : Nat) :
    (x / b.size).testBit i = x.testBit (i + (b.family.bits - b.prefixLength)) := by
  rw [size, Nat.one_shiftLeft, Nat.testBit_div_two_pow]

/-- An address has no bits beyond those of its family. -/
theorem testBit_eq_false {n i : Nat} (hx : x < 1 <<< n) (hi : n ≤ i) : x.testBit i = false := by
  rw [Nat.one_shiftLeft] at hx
  exact Nat.testBit_lt_two_pow (Nat.lt_of_lt_of_le hx (Nat.pow_le_pow_right (by decide) hi))

/-- A block contains the addresses between its ends. -/
theorem contains_iff_between : b.contains x = true ↔ b.first ≤ x ∧ x ≤ b.last := by
  simp only [contains, Bool.and_eq_true, decide_eq_true_eq]

/-- The addresses between the ends of a block are those with the same quotient by its size. -/
theorem contains_iff_div : b.contains x = true ↔ x / b.size = b.address / b.size := by
  have hpos := b.size_pos
  rw [contains_iff_between, Nat.div_eq_iff hpos, first, last, first]
  omega

/-- The quotient of an address by the size of the block is its prefix as a number. -/
theorem has_iff_div (hb : b.Valid) : b.Has x ↔ x / b.size = b.address / b.size := by
  have hle := hb.prefixLength_le
  have haddress := hb.address_lt
  rw [Has]
  constructor
  · rintro ⟨hx, hbits⟩
    refine Nat.eq_of_testBit_eq fun i => ?_
    rw [testBit_div_size, testBit_div_size]
    -- a bit of the prefix is one of those that agree, and beyond the family all bits are zero
    by_cases hi : i < b.prefixLength
    · have hbit := hbits (b.prefixLength - 1 - i) (by omega)
      rwa [show b.family.bits - 1 - (b.prefixLength - 1 - i) =
        i + (b.family.bits - b.prefixLength) by omega] at hbit
    · rw [testBit_eq_false hx (by omega), testBit_eq_false haddress (by omega)]
  · intro h
    refine ⟨?_, fun i hi => ?_⟩
    · -- the address is of the family because its quotient is that of one that is
      rw [← prefixes_mul_size hb, ← Nat.div_lt_iff_lt_mul b.size_pos] at haddress ⊢
      rwa [h]
    · -- bits are counted from the front in the prefix and from the back in a number
      have hbit := b.testBit_div_size x (b.prefixLength - 1 - i)
      rw [h, testBit_div_size] at hbit
      rw [show b.family.bits - 1 - i =
        b.prefixLength - 1 - i + (b.family.bits - b.prefixLength) by omega]
      exact hbit.symm

/-- An address is between the ends of a block exactly if it begins with the prefix. -/
theorem contains_iff_has (hb : b.Valid) : b.contains x = true ↔ b.Has x :=
  contains_iff_div.trans (has_iff_div hb).symm

/-- The first address of a block is not behind its last one. -/
theorem first_le_last (b : AddressBlock) : b.first ≤ b.last :=
  Nat.le_add_right _ _

/-- To hold a block is to have the addresses between its ends. -/
theorem holds_iff_contains : b.holds a = true ↔
    b.family = a.family ∧ ∀ x, a.contains x = true → b.contains x = true := by
  simp only [holds, Bool.and_eq_true, decide_eq_true_eq, contains_iff_between, and_assoc]
  refine and_congr_right fun _ => ?_
  -- the ends of a block are in it, and whatever else is in it lies between them
  have hends := a.first_le_last
  constructor
  · intro h x hx
    omega
  · intro h
    have hfirst := h a.first ⟨Nat.le_refl _, hends⟩
    have hlast := h a.last ⟨hends, Nat.le_refl _⟩
    exact ⟨hfirst.1, hfirst.2, hlast.1, hlast.2⟩

/-- A block holds another one if they are of one family and it has every address of the other. -/
theorem holds_iff (hb : b.Valid) (ha : a.Valid) : b.holds a = true ↔
    b.family = a.family ∧ ∀ x, a.Has x → b.Has x := by
  simp only [holds_iff_contains, contains_iff_has hb, contains_iff_has ha]

/-- Every block holds itself. -/
theorem holds_self (b : AddressBlock) : b.holds b = true :=
  holds_iff_contains.2 ⟨rfl, fun _ => id⟩

/-- What is held by a block is held by every block that holds this one. -/
theorem holds_trans (hbc : c.holds b = true) (hab : b.holds a = true) : c.holds a = true := by
  rw [holds_iff_contains] at hbc hab ⊢
  exact ⟨hbc.1.trans hab.1, fun x hx => hbc.2 x (hab.2 x hx)⟩

end StackAudit.AddressBlock
