import Mathlib.Tactic.SplitIfs
import StackAudit.AddressBlock.Reader
import StackAudit.Proofs.AddressBlock.Containment
import StackAudit.Proofs.Sequencing

/-!
# Blocks that are read are valid

What a text spells is an address of its family and a prefix that is no longer than the address
(`AddressBlock.valid_of_ofChars?`): an address is made up of parts of equal width that each fit
their place, four octets or eight groups (`AddressBlock.join_lt`).
-/

namespace StackAudit

open Text (hexDigit? hexValue?)

/-- A hexadecimal digit fits four bits. -/
theorem Text.hexDigit?_lt {c : Char} {n : Nat} (h : hexDigit? c = some n) : n < 1 <<< 4 := by
  -- characters are compared as numbers, so each range bounds the number of the character
  have hle {a : Char} (ha : c ≤ a) : c.toNat ≤ a.toNat := UInt32.le_iff_toNat_le.1 ha
  show n < 16
  unfold hexDigit? at h
  split_ifs at h with hdecimal hlower hupper
  · have hlast : c.toNat ≤ 57 := hle hdecimal.2
    have hn := Option.some.inj h
    omega
  · have hlast : c.toNat ≤ 102 := hle hlower.2
    have hn := Option.some.inj h
    omega
  · have hlast : c.toNat ≤ 70 := hle hupper.2
    have hn := Option.some.inj h
    omega

namespace AddressBlock

/-! ## Parts of equal width -/

/-- The parts fill the places below a number and leave it as it is. -/
theorem foldl_join_lt {width : Nat} {parts : List Nat} (h : ∀ part ∈ parts, part < 1 <<< width)
    (n : Nat) : parts.foldl (fun n part => n <<< width + part) n <
      (n + 1) <<< (width * parts.length) := by
  induction parts generalizing n with
  | nil => simp
  | cons part rest ih =>
    have hpart : part < 1 <<< width := h part List.mem_cons_self
    -- a part that fits its width does not carry into the number before it
    have hstep : n <<< width + part + 1 ≤ (n + 1) <<< width := by
      rw [Nat.one_shiftLeft] at hpart
      rw [Nat.shiftLeft_eq, Nat.shiftLeft_eq, Nat.add_mul]
      omega
    rw [List.foldl_cons, List.length_cons, Nat.mul_succ, Nat.add_comm (width * rest.length),
      Nat.shiftLeft_add]
    calc rest.foldl (fun n part => n <<< width + part) (n <<< width + part)
      _ < (n <<< width + part + 1) <<< (width * rest.length) :=
        ih (fun q hq => h q (List.mem_cons_of_mem part hq)) _
      _ ≤ (n + 1) <<< width <<< (width * rest.length) := by
        rw [Nat.shiftLeft_eq, Nat.shiftLeft_eq _ (width * rest.length)]
        exact Nat.mul_le_mul_right _ hstep

/-- Parts that fit their width make up a number that fits the width of all of them. -/
theorem join_lt {width : Nat} {parts : List Nat} (h : ∀ part ∈ parts, part < 1 <<< width) :
    join width parts < 1 <<< (width * parts.length) := by
  have hlt := foldl_join_lt h 0
  rwa [Nat.zero_add] at hlt

/-- A hexadecimal digit is a part of four bits. -/
theorem hexValue?_eq (digits : List Char) :
    hexValue? digits = (digits.mapM hexDigit?).map (join 4) := by
  -- the digits are read from some number on, since the fold does not start again at each digit
  suffices h : ∀ n, digits.foldlM (fun n c => (hexDigit? c).map (16 * n + ·)) n =
      (digits.mapM hexDigit?).map (List.foldl (fun n part => n <<< 4 + part) n) from h 0
  induction digits with
  | nil => exact fun n => rfl
  | cons c rest ih =>
    intro n
    rw [List.foldlM_cons, List.mapM_cons]
    cases hexDigit? c with
    | none => rfl
    | some d =>
      have hshift : n <<< 4 + d = 16 * n + d := by
        rw [Nat.shiftLeft_eq]
        omega
      show rest.foldlM (fun n c => (hexDigit? c).map (16 * n + ·)) (16 * n + d) = _
      rw [ih, ← hshift]
      cases rest.mapM hexDigit? <;> rfl

/-- The parts that are read one by one make up a number that fits the width of all of them. -/
theorem join_lt_of_mapM {width : Nat} {α : Type} {read : α → Option Nat} {texts : List α}
    {parts : List Nat} (hlt : ∀ {text part}, read text = some part → part < 1 <<< width)
    (h : texts.mapM read = some parts) : join width parts < 1 <<< (width * parts.length) := by
  refine join_lt fun part hpart => ?_
  obtain ⟨text, -, htext⟩ := exists_of_mem_right (mapM_eq_some_iff.1 h) hpart
  exact hlt htext

/-! ## Addresses -/

variable {text : List Char} {n limit : Nat} {b : AddressBlock}

/-- An octet fits eight bits. -/
theorem octet?_lt (h : octet? text = some n) : n < 1 <<< 8 := by
  obtain ⟨-, h⟩ := guard_bind_eq_some_iff.1 h
  obtain ⟨m, -, h⟩ := Option.bind_eq_some_iff.1 h
  obtain ⟨hle, h⟩ := guard_bind_eq_some_iff.1 h
  obtain rfl := Option.some.inj h
  exact Nat.lt_succ_of_le hle

/-- An address of version 4 fits 32 bits. -/
theorem address4?_lt (h : address4? text = some n) : n < 1 <<< 32 := by
  obtain ⟨parts, hparts, h⟩ := Option.bind_eq_some_iff.1 h
  obtain ⟨hlength, h⟩ := guard_bind_eq_some_iff.1 h
  obtain rfl := Option.some.inj h
  have hlt := join_lt_of_mapM octet?_lt hparts
  rwa [hlength] at hlt

/-- A group fits sixteen bits: it has at most four hexadecimal digits. -/
theorem group?_lt (h : group? text = some n) : n < 1 <<< 16 := by
  obtain ⟨⟨-, hlength⟩, h⟩ := guard_bind_eq_some_iff.1 h
  rw [hexValue?_eq, Option.map_eq_some_iff] at h
  obtain ⟨digits, hdigits, rfl⟩ := h
  rw [(mapM_eq_some_iff.1 hdigits).length_eq] at hlength
  refine Nat.lt_of_lt_of_le (join_lt_of_mapM Text.hexDigit?_lt hdigits) ?_
  rw [Nat.one_shiftLeft, Nat.one_shiftLeft]
  exact Nat.pow_le_pow_right (by decide) (by omega)

/-- The groups of one side of a double colon each fit sixteen bits, also those that are written as
an address of version 4. -/
theorem read_lt {tail : Bool} {parts : List (List Char)} {groups : List Nat}
    (h : groups?.read tail parts = some groups) : ∀ group ∈ groups, group < 1 <<< 16 := by
  induction parts using groups?.read.induct tail generalizing groups with
  | case1 =>
    obtain rfl := Option.some.inj h
    simp
  | case2 part address haddress htail =>
    simp only [groups?.read, haddress, htail, if_true, Option.some.injEq] at h
    -- either half of the address fits a group
    have hlt : address < 65536 * 65536 := address4?_lt haddress
    intro group hgroup
    rw [← h, List.mem_pair] at hgroup
    show group < 65536
    omega
  | case3 part address haddress htail =>
    -- an address of version 4 may only stand at the end
    simp only [groups?.read, haddress, htail] at h
    cases h
  | case4 part haddress =>
    simp only [groups?.read, haddress, Option.map_eq_some_iff] at h
    obtain ⟨value, hvalue, rfl⟩ := h
    intro group hgroup
    rw [List.mem_singleton.1 hgroup]
    exact group?_lt hvalue
  | case5 part rest hrest ih =>
    rw [groups?.read] at h
    · obtain ⟨value, hvalue, h⟩ := Option.bind_eq_some_iff.1 h
      obtain ⟨others, hothers, h⟩ := Option.bind_eq_some_iff.1 h
      obtain rfl := Option.some.inj h
      intro group hgroup
      rcases List.mem_cons.1 hgroup with rfl | hgroup
      · exact group?_lt hvalue
      · exact ih hothers group hgroup
    · exact hrest

/-- The groups of a text each fit sixteen bits. -/
theorem groups?_lt {tail : Bool} {groups : List Nat} (h : groups? tail text = some groups) :
    ∀ group ∈ groups, group < 1 <<< 16 := by
  rw [groups?] at h
  split_ifs at h
  · obtain rfl := Option.some.inj h
    simp
  · exact read_lt h

/-- An address of version 6 fits 128 bits. -/
theorem address6?_lt (h : address6? text = some n) : n < 1 <<< 128 := by
  have hjoin {groups : List Nat} (hlt : ∀ group ∈ groups, group < 1 <<< 16)
      (hlength : groups.length = 8) : join 16 groups < 1 <<< 128 := by
    have hlt := join_lt hlt
    rwa [hlength] at hlt
  rw [address6?] at h
  cases hsplit : splitDoubleColon? text with
  | none =>
    rw [hsplit] at h
    obtain ⟨groups, hgroups, h⟩ := Option.bind_eq_some_iff.1 h
    obtain ⟨hlength, h⟩ := guard_bind_eq_some_iff.1 h
    obtain rfl := Option.some.inj h
    exact hjoin (groups?_lt hgroups) hlength
  | some halves =>
    rw [hsplit] at h
    obtain ⟨head, hhead, h⟩ := Option.bind_eq_some_iff.1 h
    obtain ⟨tail, htail, h⟩ := Option.bind_eq_some_iff.1 h
    obtain ⟨hlength, h⟩ := guard_bind_eq_some_iff.1 h
    obtain rfl := Option.some.inj h
    -- with the zeros in between there are eight groups, as many as without a double colon
    refine hjoin (fun group hgroup => ?_) ?_
    · rw [List.mem_append, List.mem_append] at hgroup
      rcases hgroup with (hgroup | hgroup) | hgroup
      · exact groups?_lt hhead group hgroup
      · rw [(List.mem_replicate.1 hgroup).2]
        decide
      · exact groups?_lt htail group hgroup
    · rw [List.length_append, List.length_append, List.length_replicate]
      omega

/-! ## Prefixes -/

/-- The length of a prefix is within its limit. -/
theorem length?_le (h : length? limit text = some n) : n ≤ limit := by
  obtain ⟨m, -, h⟩ := Option.bind_eq_some_iff.1 h
  obtain ⟨hle, h⟩ := guard_bind_eq_some_iff.1 h
  obtain rfl := Option.some.inj h
  exact hle

/-- A mask is that of a prefix of at most 32 bits. -/
theorem maskLength?_le {mask : Nat} (h : maskLength? mask = some n) : n ≤ 32 :=
  Nat.le_of_lt_succ (List.mem_range.1 (List.mem_of_find?_eq_some h))

/-- The prefix of an address of version 4 has at most 32 bits, as a mask or as a length. -/
theorem prefix4?_le (h : prefix4? text = some n) : n ≤ 32 := by
  rw [prefix4?] at h
  split at h
  · exact maskLength?_le h
  · exact length?_le h

/-- What is read is a valid block. -/
theorem valid_of_ofChars? (h : ofChars? text = some b) : b.Valid := by
  rw [ofChars?] at h
  split at h
  case h_1 address _ =>
    -- without a slash the prefix is the whole address
    rw [Option.orElse_eq_orElse, Option.orElse_eq_or, Option.or_eq_some_iff] at h
    rcases h with h | ⟨-, h⟩
    · obtain ⟨n, hn, rfl⟩ := Option.map_eq_some_iff.1 h
      exact ⟨address4?_lt hn, Nat.le_refl 32⟩
    · obtain ⟨n, hn, rfl⟩ := Option.map_eq_some_iff.1 h
      exact ⟨address6?_lt hn, Nat.le_refl 128⟩
  case h_2 address length _ =>
    -- with a slash each family has its own way to read what follows
    rw [Option.orElse_eq_orElse, Option.orElse_eq_or, Option.or_eq_some_iff] at h
    rcases h with h | ⟨-, h⟩
    · obtain ⟨n, hn, h⟩ := Option.bind_eq_some_iff.1 h
      obtain ⟨k, hk, h⟩ := Option.bind_eq_some_iff.1 h
      obtain rfl := Option.some.inj h
      exact ⟨address4?_lt hn, prefix4?_le hk⟩
    · obtain ⟨n, hn, h⟩ := Option.bind_eq_some_iff.1 h
      obtain ⟨k, hk, h⟩ := Option.bind_eq_some_iff.1 h
      obtain rfl := Option.some.inj h
      exact ⟨address6?_lt hn, length?_le hk⟩
  case h_3 => cases h

end AddressBlock

end StackAudit
