import StackAudit.Proofs.AddressBlock.Reading
import StackAudit.Proofs.Condition.Quantifiers

/-!
# Conditions on addresses

The comparisons of addresses read both values as blocks, and look at no more than the ends of a
block; still they tell whether all addresses of the one block are in the other one
(`Comparison.verdict_address`).
-/

namespace StackAudit

namespace Comparison

variable {operand actual : Value} {e a : AddressBlock}

/-- Blocks are compared by what the one holds of the other. -/
theorem verdict_address_of_eq_some (he : Matcher.addressBlock? operand = some e)
    (ha : Matcher.addressBlock? actual = some a) (negated : Bool) :
    (address negated).verdict operand actual = .ok (e.holds a != negated) := by
  simp only [verdict, Matcher.bind, he, Except.map, Matcher.accepts, ha]

/-- What is no block is neither within nor outside of anything. -/
theorem verdict_address_of_eq_none
    (h : Matcher.addressBlock? operand = none ∨ Matcher.addressBlock? actual = none)
    (negated : Bool) : (address negated).verdict operand actual = .ok false := by
  rcases h with h | h
  · simp only [verdict, Matcher.bind, h, Except.map, Matcher.accepts]
  · simp only [verdict, Matcher.bind, Except.map, Matcher.accepts, h]
    cases Matcher.addressBlock? operand <;> rfl

/-- A value is within another one only if both are blocks. -/
theorem verdict_address_false_eq_true_iff :
    (address false).verdict operand actual = .ok true ↔
      ∃ e a, Matcher.addressBlock? operand = some e ∧ Matcher.addressBlock? actual = some a ∧
        e.holds a = true := by
  cases he : Matcher.addressBlock? operand with
  | none => simp [verdict_address_of_eq_none (.inl he)]
  | some e =>
    cases ha : Matcher.addressBlock? actual with
    | none => simp [verdict_address_of_eq_none (.inr ha)]
    | some a => simp [verdict_address_of_eq_some he ha]

/-- The block of a value is valid. -/
theorem valid_of_addressBlock? {v : Value} {b : AddressBlock}
    (h : Matcher.addressBlock? v = some b) : b.Valid :=
  AddressBlock.valid_of_ofChars? h

/-- Of two values that are blocks of addresses the one is within the other if they are of one family
and every address of the one is in the other, and it is outside if it is not within. Values that are
no blocks are neither. So every block is within itself, and what is within a block is within every
block around that. A condition with a single operand has the verdict of its comparison. -/
theorem verdict_address :
    (∀ operand actual e a, Matcher.addressBlock? operand = some e →
      Matcher.addressBlock? actual = some a →
      ∃ within, (address false).verdict operand actual = .ok within ∧
        (address true).verdict operand actual = .ok !within ∧
        (within = true ↔ e.family = a.family ∧ ∀ x, a.Has x → e.Has x)) ∧
    (∀ operand actual negated,
      Matcher.addressBlock? operand = none ∨ Matcher.addressBlock? actual = none →
      (address negated).verdict operand actual = .ok false) ∧
    (∀ v e, Matcher.addressBlock? v = some e → (address false).verdict v v = .ok true) ∧
    (∀ u v w, (address false).verdict v u = .ok true → (address false).verdict w v = .ok true →
      (address false).verdict w u = .ok true) ∧
    ∀ negated ifExists key node operand (request : RequestContext) actual,
      node.toValue? = some operand → operand.asList? = none → request.get? key = some actual →
      Operator.verdict ⟨.plain, address negated, ifExists⟩ key node request =
        (address negated).verdict operand actual := by
  refine ⟨fun operand actual e a he ha => ?_, fun operand actual negated h => ?_,
    fun v e he => ?_, fun u v w huv hvw => ?_, ?_⟩
  · refine ⟨e.holds a, ?_, ?_, ?_⟩
    · rw [verdict_address_of_eq_some he ha, Bool.bne_false]
    · rw [verdict_address_of_eq_some he ha, Bool.bne_true]
    · exact AddressBlock.holds_iff (valid_of_addressBlock? he) (valid_of_addressBlock? ha)
  · exact verdict_address_of_eq_none h negated
  · exact verdict_address_false_eq_true_iff.2 ⟨e, e, he, he, e.holds_self⟩
  · rw [verdict_address_false_eq_true_iff] at huv hvw ⊢
    obtain ⟨b, a, hb, ha, hba⟩ := huv
    obtain ⟨c, b', hc, hb', hcb⟩ := hvw
    -- the value in the middle is read as one block
    obtain rfl := Option.some.inj (hb.symm.trans hb')
    exact ⟨c, a, hc, ha, AddressBlock.holds_trans hcb hba⟩
  · intro negated ifExists key node operand request actual hvalue hlist hactual
    exact Operator.verdict_plain (by simp) hvalue hlist hactual ifExists

/-- Bits after the prefix and blanks around the text make no difference: the block of 10.1.2.3/16 is
within that of 10.20.30.40/8, so that every address that begins with 10.1 begins with 10. -/
theorem verdict_address_privateNetwork :
    (address false).verdict (.string "10.20.30.40/8") (.string " 10.1.2.3/16 ") = .ok true ∧
      (address true).verdict (.string "10.20.30.40/8") (.string " 10.1.2.3/16 ") = .ok false ∧
      ∀ x, AddressBlock.Has ⟨.v4, 167838211, 16⟩ x → AddressBlock.Has ⟨.v4, 169090600, 8⟩ x := by
  obtain ⟨hblocks, -⟩ := verdict_address
  obtain ⟨within, hinside, houtside, hiff⟩ := hblocks (.string "10.20.30.40/8")
    (.string " 10.1.2.3/16 ") ⟨.v4, 169090600, 8⟩ ⟨.v4, 167838211, 16⟩ rfl rfl
  have htrue : (address false).verdict (.string "10.20.30.40/8") (.string " 10.1.2.3/16 ") =
      .ok true := rfl
  obtain rfl := Except.ok.inj (htrue.symm.trans hinside)
  exact ⟨hinside, houtside, (hiff.1 rfl).2⟩

end Comparison

end StackAudit
