import Mathlib.Data.List.Pairwise
import Mathlib.Tactic.SplitIfs
import StackAudit.Text.Ascending

/-!
# The order of texts

Texts are compared character by character. UTF-8 keeps this order: comparing the bytes of two texts
one by one gives the same answer (`Text.lt_iff_bytes_lt`), so what ascends by characters ascends by
bytes (`Text.pairwise_bytes_lt`). A list of texts in strictly ascending order is determined by the
texts in it (`Text.eq_of_mem_iff`).
-/

namespace StackAudit.Text

/-- The bytes of a text in UTF-8. -/
def bytes (s : String) : List UInt8 := s.toUTF8.data.toList

/-- The bytes of a text are those of its characters in a row. -/
theorem bytes_eq (s : String) : bytes s = s.toList.flatMap String.utf8EncodeChar := by
  have hbytes : s.toUTF8 = (s.toList.flatMap String.utf8EncodeChar).toByteArray :=
    String.utf8Encode_toList.symm
  rw [bytes, hbytes, List.data_toByteArray]

/-! ## Characters -/

/-- Bytes of small numbers are in the order of the numbers. -/
theorem ofNat_lt_ofNat_iff {m n : Nat} (hm : m < 256) (hn : n < 256) :
    UInt8.ofNat m < UInt8.ofNat n ↔ m < n := by
  rw [UInt8.lt_iff_toNat_lt, UInt8.toNat_ofNat', UInt8.toNat_ofNat', Nat.mod_eq_of_lt hm,
    Nat.mod_eq_of_lt hn]

/-- Bytes of small numbers are equal if the numbers are. -/
theorem ofNat_eq_ofNat_iff {m n : Nat} (hm : m < 256) (hn : n < 256) :
    UInt8.ofNat m = UInt8.ofNat n ↔ m = n := by
  rw [← UInt8.toNat_inj, UInt8.toNat_ofNat', UInt8.toNat_ofNat', Nat.mod_eq_of_lt hm,
    Nat.mod_eq_of_lt hn]

/-- The bytes of a smaller character come first, whatever follows either of them. -/
theorem utf8EncodeChar_append_lt {c d : Char} (h : c < d) (after after' : List UInt8) :
    String.utf8EncodeChar c ++ after < String.utf8EncodeChar d ++ after' := by
  have hlt : c.val.toNat < d.val.toNat := h
  have hlimit : d.val.toNat < 0x110000 := by
    have hvalid := d.valid
    unfold UInt32.isValidChar Nat.isValidChar at hvalid
    omega
  unfold String.utf8EncodeChar
  generalize c.val.toNat = m at hlt
  generalize d.val.toNat = n at hlt hlimit
  -- the bytes are digits to the base 64, so each quotient is one of the quotient before it
  have hsecond (v : Nat) : v / 4096 = v / 64 / 64 := by omega
  have hthird (v : Nat) : v / 262144 = v / 64 / 64 / 64 := by omega
  simp only [hsecond, hthird]
  -- one to four bytes on either side: a longer row has the larger first byte
  split_ifs <;>
    simp (disch := omega) only [List.cons_append, List.nil_append, List.cons_lt_cons_iff,
      ofNat_lt_ofNat_iff, ofNat_eq_ofNat_iff] <;>
    omega

/-! ## Texts -/

/-- A row of characters that is before another one has its bytes before those of the other. -/
theorem flatMap_utf8EncodeChar_lt {a b : List Char} (h : a < b) :
    a.flatMap String.utf8EncodeChar < b.flatMap String.utf8EncodeChar := by
  induction h with
  | @nil c rest =>
    rw [List.flatMap_cons]
    -- a text that goes on has at least one more byte
    have hne : String.utf8EncodeChar c ≠ [] := String.utf8EncodeChar_ne_nil
    obtain ⟨first, others, hfirst⟩ := List.exists_cons_of_ne_nil hne
    rw [hfirst]
    exact List.nil_lt_cons _ _
  | rel hcd =>
    rw [List.flatMap_cons, List.flatMap_cons]
    exact utf8EncodeChar_append_lt hcd _ _
  | cons _ ih =>
    rw [List.flatMap_cons, List.flatMap_cons]
    exact List.append_left_lt ih

/-- One text is before another if its bytes are. -/
theorem lt_iff_bytes_lt {s t : String} : s < t ↔ bytes s < bytes t := by
  have hforward {s t : String} (h : s < t) : bytes s < bytes t := by
    rw [bytes_eq, bytes_eq]
    exact flatMap_utf8EncodeChar_lt h
  constructor
  · exact hforward
  · intro h
    -- both orders are linear, so the converse follows from the same direction
    by_contra hnot
    have hle : t ≤ s := Std.not_lt.1 hnot
    by_cases heq : s = t
    · subst heq
      exact List.lt_irrefl _ h
    · have hlt : t < s := Std.not_le.1 fun hge => heq (String.le_antisymm hge hle)
      exact List.lt_asymm h (hforward hlt)

/-- What ascends by characters ascends by bytes. -/
theorem pairwise_bytes_lt {texts : List String} (h : texts.Pairwise (· < ·)) :
    texts.Pairwise fun s t => bytes s < bytes t :=
  h.imp lt_iff_bytes_lt.1

/-- Texts in strictly ascending order are determined by which they are. -/
theorem eq_of_mem_iff {a b : List String} (ha : a.Pairwise (· < ·)) (hb : b.Pairwise (· < ·))
    (h : ∀ s, s ∈ a ↔ s ∈ b) : a = b := by
  have hdistinct {c : List String} (hc : c.Pairwise (· < ·)) : c.Nodup := by
    refine List.nodup_iff_pairwise_ne.2 (hc.imp fun {s t} hlt heq => ?_)
    exact String.lt_irrefl t (heq ▸ hlt)
  have hperm : a.Perm b := (List.perm_ext_iff_of_nodup (hdistinct ha) (hdistinct hb)).2 h
  exact hperm.eq_of_pairwise (fun s t _ _ hst hts => absurd (String.lt_trans hst hts)
    (String.lt_irrefl s)) ha hb

end StackAudit.Text
