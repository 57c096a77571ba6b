/-!
# Ascending lists of texts

`ascending` puts the texts of a list in strictly ascending order, each once.
-/

namespace StackAudit.Text

/-- Leaves out the texts that are equal to the one before them. -/
def dropRepeats : List String → List String
  | [] => []
  | s :: rest =>
    match dropRepeats rest with
    | [] => [s]
    | t :: more => if s = t then t :: more else s :: t :: more

/-- The texts of a list in strictly ascending order. -/
def ascending (texts : List String) : List String :=
  dropRepeats (texts.mergeSort fun s t => decide (s ≤ t))

@[simp]
theorem mem_dropRepeats {s : String} {texts : List String} : s ∈ dropRepeats texts ↔ s ∈ texts := by
  induction texts with
  | nil => simp [dropRepeats]
  | cons t rest ih =>
    rw [dropRepeats]
    split
    · next h => simp [h] at ih; simp [ih]
    · next u more h =>
      rw [h] at ih
      split
      · next heq => subst heq; simp [← ih]
      · simp [← ih]

/-- The same texts are in the ascending list. -/
@[simp]
theorem mem_ascending {s : String} {texts : List String} : s ∈ ascending texts ↔ s ∈ texts := by
  simp [ascending]

/-- Without repeats, an ascending list ascends strictly. -/
theorem pairwise_dropRepeats {texts : List String} (h : texts.Pairwise (· ≤ ·)) :
    (dropRepeats texts).Pairwise (· < ·) := by
  induction texts with
  | nil => simp [dropRepeats]
  | cons s rest ih =>
    obtain ⟨hhead, hrest⟩ := List.pairwise_cons.1 h
    have ih := ih hrest
    rw [dropRepeats]
    split
    · simp
    · next t more heq =>
      rw [heq] at ih
      split
      · exact ih
      · next hne =>
        refine List.pairwise_cons.2 ⟨fun u hu => ?_, ih⟩
        have ht : s < t := by
          have hle : s ≤ t := hhead t (mem_dropRepeats.1 (by simp [heq]))
          exact Std.not_le.1 fun hge => hne (String.le_antisymm hle hge)
        rcases List.mem_cons.1 hu with rfl | hu
        · exact ht
        · exact String.lt_trans ht ((List.pairwise_cons.1 ih).1 u hu)

/-- The ascending list ascends strictly. -/
theorem pairwise_ascending (texts : List String) : (ascending texts).Pairwise (· < ·) := by
  refine pairwise_dropRepeats ?_
  have htrans (a b c : String) (hab : decide (a ≤ b) = true) (hbc : decide (b ≤ c) = true) :
      decide (a ≤ c) = true :=
    decide_eq_true (String.le_trans (of_decide_eq_true hab) (of_decide_eq_true hbc))
  have htotal (a b : String) : (decide (a ≤ b) || decide (b ≤ a)) = true := by
    simpa using String.le_total a b
  exact (List.pairwise_mergeSort htrans htotal texts).imp of_decide_eq_true

end StackAudit.Text
