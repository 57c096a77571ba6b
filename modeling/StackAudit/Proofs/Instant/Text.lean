import Mathlib.Data.Nat.Digits.Defs
import StackAudit.Instant.Reader
import StackAudit.Instant.Text
import StackAudit.Proofs.Instant.Calendar
import StackAudit.Proofs.Sequencing

/-!
# Reading written instants

The text of an instant of the years 0 to 9999 is read back as the same instant
(`Instant.ofText?_text`), to the nanosecond and also within a leap second.

## Shape of the proof

The text is a row of numbers of fixed width with marks between them. A number that is padded to a
width is read off the front of any text (`exactDigits?_padded`), and so is the fraction if no digit
follows it (`fraction?_fractionText`). What is read are the parts of the date and of the time of
day, and these make up the instant again.
-/

namespace StackAudit.Instant

open Text (decimalValue)

variable {width n : Nat} {rest : List Char}

/-! ## Padded numbers -/

/-- A number that fits the width is padded to the width. -/
theorem length_padded (hwidth : 0 < width) (h : n < 10 ^ width) :
    (padded width n).length = width := by
  have hle : (Nat.toDigits 10 n).length ≤ width :=
    (Nat.length_toDigits_le_iff (by decide) hwidth).2 h
  rw [padded, List.length_append, List.length_replicate, Nat.sub_add_cancel hle]

/-- A padded number has nothing but digits. -/
theorem isDigit_of_mem_padded : ∀ c ∈ padded width n, c.isDigit = true := by
  intro c hc
  rcases List.mem_append.1 hc with hc | hc
  · rw [(List.mem_replicate.1 hc).2]
    decide
  · exact Nat.isDigit_of_mem_toDigits (by decide) (by decide) hc

/-- Zeros in front do not count, and zeros behind count as powers of ten. -/
theorem decimalValue_padded_append (width n zeros : Nat) :
    decimalValue (padded width n ++ List.replicate zeros '0') = 10 ^ zeros * n := by
  show Nat.ofDigitChars 10 _ 0 = _
  simp only [padded, Nat.ofDigitChars_append, Nat.ofDigitChars_replicate_zero, Nat.mul_zero,
    Nat.ofDigitChars_ten_toDigits]

/-- A padded number is read as itself. -/
theorem decimalValue_padded (width n : Nat) : decimalValue (padded width n) = n := by
  have h := decimalValue_padded_append width n 0
  rwa [List.replicate_zero, List.append_nil, Nat.pow_zero, Nat.one_mul] at h

/-- A padded number is read off the front of a text. -/
theorem exactDigits?_padded (hwidth : 0 < width) (h : n < 10 ^ width) (rest : List Char) :
    exactDigits? width (padded width n ++ rest) = some (n, rest) := by
  have hlength := length_padded hwidth h
  have htake : (padded width n ++ rest).take width = padded width n :=
    List.take_left' hlength
  have hdrop : (padded width n ++ rest).drop width = rest := List.drop_left' hlength
  rw [exactDigits?, htake, hdrop,
    if_pos ⟨hlength, List.all_eq_true.2 isDigit_of_mem_padded⟩, decimalValue_padded]

/-! ## Fractions -/

/-- A point and digits are read as nanoseconds. -/
theorem fraction?_padded (hwidth : 0 < width) (hnine : width ≤ 9) (h : n < 10 ^ width)
    (hrest : rest.takeWhile Char.isDigit = []) :
    fraction? ('.' :: padded width n ++ rest) = some (10 ^ (9 - width) * n, rest) := by
  have hlength := length_padded hwidth h
  have htake : (padded width n ++ rest).takeWhile Char.isDigit = padded width n := by
    rw [List.takeWhile_append_of_pos isDigit_of_mem_padded, hrest, List.append_nil]
  have hdrop : (padded width n ++ rest).dropWhile Char.isDigit = rest := by
    rw [List.dropWhile_append_of_pos isDigit_of_mem_padded]
    have happend := List.takeWhile_append_dropWhile (p := Char.isDigit) (l := rest)
    rwa [hrest] at happend
  have hne : padded width n ≠ [] := List.length_pos_iff.1 (by rwa [hlength])
  have hcounted : (padded width n).take 9 = padded width n :=
    List.take_of_length_le (by rwa [hlength])
  rw [List.cons_append, fraction?, htake, hdrop, if_neg hne, hcounted, hlength,
    decimalValue_padded_append]

/-- The fraction of a second is read back if no digit and no point follows it. -/
theorem fraction?_fractionText {nanos : Nat} (h : nanos < 1000000000)
    (hrest : rest.takeWhile Char.isDigit = []) (hpoint : rest.head? ≠ some '.') :
    fraction? (fractionText nanos ++ rest) = some (nanos, rest) := by
  rw [fractionText]
  split_ifs with hzero hmillis hmicros
  · rw [hzero, List.nil_append, fraction?]
    rintro text rfl
    exact hpoint rfl
  -- three, six or nine digits, as many as the number needs
  all_goals
    rw [fraction?_padded (by decide) (by decide) (by omega) hrest]
    congr 2
    omega

/-! ## Instants -/

variable {t : Instant}

/-- A written date and time of day are read, with second 60 as the leap second of second 59. -/
theorem ofDateTimeText?_written {year month day hour minute second nanos : Nat}
    (hyear : year ≤ 9999) (hdate : Date.IsValid ⟨year, month, day⟩) (hhour : hour ≤ 23)
    (hminute : minute ≤ 59) (hsecond : second ≤ 60) (hnanos : nanos < 1000000000)
    (ht : ofDateTime? ⟨year, month, day⟩
      ((hour * 60 + minute) * 60 + (second - (second / 60 : Nat)))
      (nanos + second / 60 * 1000000000) = some t) :
    ofDateTimeText? (padded 4 year ++ '-' :: padded 2 month ++ '-' :: padded 2 day
      ++ 'T' :: padded 2 hour ++ ':' :: padded 2 minute ++ ':' :: padded 2 second
      ++ fractionText nanos ++ ['Z']) = some t := by
  obtain ⟨hmonth, hday⟩ : month ≤ 12 ∧ day ≤ 31 := hdate.le
  have htwo {n : Nat} (hn : n < 100) := @exactDigits?_padded 2 n (by decide) hn
  -- every number is read off the front, and then the mark behind it is skipped
  simp only [List.append_assoc, List.cons_append]
  refine Option.bind_eq_some_iff.2 ⟨_, exactDigits?_padded (by decide) (by omega) _, ?_⟩
  refine Option.bind_eq_some_iff.2 ⟨_, rfl, ?_⟩
  refine Option.bind_eq_some_iff.2 ⟨_, htwo (by omega) _, ?_⟩
  refine Option.bind_eq_some_iff.2 ⟨_, rfl, ?_⟩
  refine Option.bind_eq_some_iff.2 ⟨_, htwo (by omega) _, ?_⟩
  refine Option.bind_eq_some_iff.2 ⟨_, rfl, ?_⟩
  refine Option.bind_eq_some_iff.2 ⟨_, htwo (by omega) _, ?_⟩
  refine Option.bind_eq_some_iff.2 ⟨_, rfl, ?_⟩
  refine Option.bind_eq_some_iff.2 ⟨_, htwo (by omega) _, ?_⟩
  refine Option.bind_eq_some_iff.2 ⟨_, rfl, ?_⟩
  refine Option.bind_eq_some_iff.2 ⟨_, htwo (by omega) _, ?_⟩
  refine Option.bind_eq_some_iff.2 ⟨_, fraction?_fractionText hnanos rfl (by decide), ?_⟩
  refine Option.bind_eq_some_iff.2 ⟨(0, []), rfl, ?_⟩
  refine guard_bind_eq_some_iff.2 ⟨⟨hdate, hhour, hminute, hsecond, rfl⟩, ?_⟩
  rwa [Int.sub_zero]

/-- The date and the time of day make up the instant. -/
theorem ofDateTime?_date (t : Instant) : ofDateTime? t.date t.secondOfDay t.nanos = some t := by
  have hseconds : (t.date.dayNumber - epochDay) * 86400 + t.secondOfDay = t.seconds := by
    rw [date, Date.dayNumber_ofDayNumber, secondOfDay]
    omega
  rw [ofDateTime?, hseconds, ofParts?, dif_pos ⟨t.inRange, t.nanos_lt⟩]

/-- The text of an instant of the years 0 to 9999 is read back. -/
theorem ofText?_text (hyear : 0 ≤ t.date.year ∧ t.date.year ≤ 9999) : ofText? t.text = some t := by
  have htime : t.secondOfDay < 86400 := by
    rw [secondOfDay]
    omega
  -- a leap second is the sixtieth second of its minute
  have hleap : t.nanos / 1000000000 = 0 ∨
      t.nanos / 1000000000 = 1 ∧ t.secondOfDay % 60 = 59 := by
    have hnanos := t.nanos_lt
    rw [secondOfDay]
    omega
  have hdate : (⟨t.date.year.toNat, t.date.month, t.date.day⟩ : Date) = t.date := by
    rw [Int.toNat_of_nonneg hyear.1]
  have hvalid : Date.IsValid ⟨t.date.year.toNat, t.date.month, t.date.day⟩ := by
    rw [hdate]
    exact Date.isValid_ofDayNumber _
  have hread : ofDateTimeText? t.characters = some t := by
    rw [characters, yearText, if_pos hyear]
    refine ofDateTimeText?_written (by omega) hvalid (by omega) (by omega) (by omega)
      (Nat.mod_lt _ (by decide)) ?_
    rw [hdate]
    -- the seconds and the nanoseconds are put together as they were taken apart
    convert ofDateTime?_date t using 2
    · omega
    · omega
  rw [ofText?, text, String.toList_ofList, hread]
  rfl

end StackAudit.Instant
