import Mathlib.Algebra.GroupWithZero.Nat
import Mathlib.Tactic.SplitIfs
import StackAudit.Instant.Calendar

/-!
# Dates and day numbers

The date of a day number is a day of the calendar (`Date.isValid_ofDayNumber`), and its day number
is the one it was made from (`Date.dayNumber_ofDayNumber`). The year is right because the quotient
by the mean length of a year is off by one year at most; within the year the months are counted off
one after the other.
-/

namespace StackAudit.Date

/-! ## Years -/

/-- The number of days in a year. -/
def yearLength (year : Int) : Nat := if isLeapYear year then 366 else 365

/-- Every fourth year is a leap year, but of the centuries only every fourth one. -/
theorem isLeapYear_iff (year : Int) :
    isLeapYear year = true ↔ year % 4 = 0 ∧ (year % 100 ≠ 0 ∨ year % 400 = 0) := by
  simp [isLeapYear]

/-- A year is over when its days are. -/
theorem daysBeforeYear_succ (year : Int) :
    daysBeforeYear (year + 1) = daysBeforeYear year + yearLength year := by
  -- the three divisions each step where a leap year ends, and nowhere else
  unfold daysBeforeYear yearLength
  split_ifs with h
  all_goals
    rw [isLeapYear_iff] at h
    omega

/-- A day is in its year. -/
theorem yearOfDay_spec (day : Int) :
    daysBeforeYear (yearOfDay day) ≤ day ∧ day < daysBeforeYear (yearOfDay day + 1) := by
  -- a year begins less than a year before and after as many mean lengths of a year
  have hbounds (year : Int) : 146097 * year - 396 ≤ 400 * daysBeforeYear year ∧
      400 * daysBeforeYear year ≤ 146097 * year + 699 := by
    unfold daysBeforeYear
    omega
  have hbefore := hbounds (day * 400 / 146097 - 1)
  have hafter := hbounds (day * 400 / 146097 + 1 + 1)
  rw [yearOfDay]
  split_ifs with hless hmore
  · rw [Int.sub_add_cancel]
    exact ⟨by omega, hless⟩
  · exact ⟨hmore, by omega⟩
  · exact ⟨Int.not_lt.1 hless, Int.not_le.1 hmore⟩

/-! ## Months -/

/-- A day is counted into a month that has it, after the months before. -/
theorem exists_splitMonths_eq (month : Nat) {day : Nat} {lengths : List Nat}
    (h : day < lengths.sum) :
    ∃ k r, splitMonths month lengths day = (month + k, r + 1) ∧ r < lengths.getD k 0 ∧
      (lengths.take k).sum + r = day := by
  induction lengths generalizing month day with
  | nil => exact absurd h (Nat.not_lt_zero day)
  | cons length rest ih =>
    rw [splitMonths]
    split_ifs with hday
    · exact ⟨0, day, rfl, hday, Nat.zero_add day⟩
    · rw [List.sum_cons] at h
      obtain ⟨k, r, hsplit, hr, hsum⟩ := ih (month + 1) (show day - length < rest.sum by omega)
      refine ⟨k + 1, r, ?_, hr, ?_⟩
      · rw [hsplit, Nat.add_assoc, Nat.add_comm 1 k]
      · rw [List.take_succ_cons, List.sum_cons]
        omega

/-- The months make up the year. -/
theorem sum_monthLengths (year : Int) : (monthLengths year).sum = yearLength year := by
  rw [monthLengths, yearLength]
  split_ifs <;> rfl

/-- Before a month are the days of the months before it. -/
theorem daysBeforeMonth_eq (year : Int) (month : Nat) :
    daysBeforeMonth year month = ((monthLengths year).take (month - 1)).sum := by
  rw [daysBeforeMonth, List.sum_eq_foldl]

/-! ## Dates -/

/-- The date of a day number, by its month and its day of the month from 0 on. -/
theorem exists_ofDayNumber_eq (day : Int) : ∃ k r,
    ofDayNumber day = ⟨yearOfDay day, k + 1, r + 1⟩ ∧
      r < (monthLengths (yearOfDay day)).getD k 0 ∧
      (((monthLengths (yearOfDay day)).take k).sum : Int) + r =
        day - daysBeforeYear (yearOfDay day) := by
  -- the day of the year is one that the months of the year make up
  obtain ⟨hstart, hend⟩ := yearOfDay_spec day
  rw [daysBeforeYear_succ, ← sum_monthLengths] at hend
  have hday : (day - daysBeforeYear (yearOfDay day)).toNat <
      (monthLengths (yearOfDay day)).sum := by omega
  obtain ⟨k, r, hsplit, hr, hsum⟩ := exists_splitMonths_eq 1 hday
  refine ⟨k, r, ?_, hr, by omega⟩
  rw [ofDayNumber, hsplit, Nat.add_comm 1 k]

/-- The date of a day number is a day of the calendar. -/
theorem isValid_ofDayNumber (day : Int) : (ofDayNumber day).IsValid := by
  obtain ⟨k, r, hdate, hr, -⟩ := exists_ofDayNumber_eq day
  rw [hdate]
  exact ⟨Nat.le_add_left 1 k, Nat.le_add_left 1 r, hr⟩

/-- The date of a day number has that number. -/
theorem dayNumber_ofDayNumber (day : Int) : (ofDayNumber day).dayNumber = day := by
  obtain ⟨k, r, hdate, -, hsum⟩ := exists_ofDayNumber_eq day
  rw [hdate, dayNumber, daysBeforeMonth_eq]
  show daysBeforeYear (yearOfDay day) + ((monthLengths (yearOfDay day)).take k).sum +
    ((r + 1 : Nat) : Int) - 1 = day
  omega

/-- There are twelve months of at most 31 days. -/
theorem IsValid.le {d : Date} (h : d.IsValid) : d.month ≤ 12 ∧ d.day ≤ 31 := by
  obtain ⟨hmonth, hday, hlength⟩ := h
  have hlengths : ∀ length ∈ monthLengths d.year, length ≤ 31 := by
    rw [monthLengths]
    split_ifs <;> decide
  have hcount : (monthLengths d.year).length = 12 := rfl
  -- a month that is not there has no days, so it cannot have this one
  rw [List.getD_eq_getElem?_getD] at hlength
  cases hget : (monthLengths d.year)[d.month - 1]? with
  | none =>
    rw [hget, Option.getD_none] at hlength
    omega
  | some length =>
    rw [hget, Option.getD_some] at hlength
    obtain ⟨hexists, -⟩ := List.getElem?_eq_some_iff.1 hget
    have hmax := hlengths length (List.mem_of_getElem? hget)
    omega

end StackAudit.Date
