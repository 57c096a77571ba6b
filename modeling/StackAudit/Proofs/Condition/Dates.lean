import Mathlib.Data.Option.Basic
import StackAudit.Proofs.Condition.Quantifiers
import StackAudit.Proofs.Instant.Text

/-!
# Dates and their texts

A date and its text are the same instant, for all years that are written with four digits
(`Instant.HasPlainYear`). So a condition that compares instants has the same verdict whether a date
stands in the operand or in the request as a date or as its text, alone or in a list
(`Operator.verdict_dates`).

## Shape of the proof

The verdict only depends on the instants that the elements of the two values stand for
(`Operator.verdict_date`), and writing dates as texts leaves them as they are
(`Value.DatesWritten.elements`).
-/

namespace StackAudit

/-- The instant is of a year that is written with four digits. -/
def Instant.HasPlainYear (t : Instant) : Prop := 0 ≤ t.date.year ∧ t.date.year ≤ 9999

namespace Value

/-- The second value is the first one with some dates of plain years replaced by their texts, at any
depth of lists and maps. -/
inductive DatesWritten : Value → Value → Prop where
  | same (v : Value) : DatesWritten v v
  | date {t : Instant} : t.HasPlainYear → DatesWritten (.date t) (.string t.text)
  | list {items others : List Value} : List.Forall₂ DatesWritten items others →
      DatesWritten (.list items) (.list others)
  | map {entries others : List (String × Value)} :
      others.map Prod.fst = entries.map Prod.fst →
      List.Forall₂ DatesWritten (entries.map Prod.snd) (others.map Prod.snd) →
      DatesWritten (.map entries) (.map others)

/-- The text of a date stands for the date. -/
theorem asInstant?_text {t : Instant} (h : t.HasPlainYear) :
    (string (date t).text).asInstant? = some t :=
  Instant.ofText?_text h

namespace DatesWritten

variable {v w : Value}

/-- Writing dates as texts leaves the instant of a value as it is. -/
theorem asInstant?_eq (h : v.DatesWritten w) : w.asInstant? = v.asInstant? := by
  cases h with
  | same => rfl
  | date hyear => exact asInstant?_text hyear
  | list _ => rfl
  | map _ _ => rfl

/-- A value is a list before and after its dates are written as texts. -/
theorem isSome_asList?_eq (h : v.DatesWritten w) : w.asList?.isSome = v.asList?.isSome := by
  cases h <;> rfl

/-- The elements are written element by element, also that of a value that is no list. -/
theorem elements (h : v.DatesWritten w) : List.Forall₂ DatesWritten v.elements w.elements := by
  cases h with
  | same => exact List.forall₂_same.2 fun item _ => .same item
  | date hyear => exact .cons (.date hyear) .nil
  | list hitems => exact hitems
  | map hnames hvalues => exact .cons (.map hnames hvalues) .nil

/-- Writing dates as texts leaves the instants of the elements as they are. -/
theorem map_asInstant?_elements (h : v.DatesWritten w) :
    w.elements.map asInstant? = v.elements.map asInstant? := by
  rw [← List.forall₂_eq_eq_eq, List.forall₂_map_left_iff, List.forall₂_map_right_iff]
  exact h.elements.flip.imp fun _ _ hitem => hitem.asInstant?_eq

end DatesWritten

end Value

/-- A comparison of instants looks at nothing else in a value. -/
theorem Matcher.accepts_date_congr {relation : Relation} {expected : Option Instant} {v w : Value}
    (h : w.asInstant? = v.asInstant?) :
    (date relation expected).accepts w = (date relation expected).accepts v := by
  simp only [accepts, h]

/-- A test by instants has the same outcome whether dates stand in a request as such or as texts. -/
theorem KeyTest.holds_dates {key : String} {o : Operator} {several : Bool} {relation : Relation}
    {instants : List (Option Instant)} {request other : RequestContext}
    (h : Option.Rel Value.DatesWritten (request.get? key) (other.get? key)) :
    (comparison key o several (instants.map (.date relation))).holds other =
      (comparison key o several (instants.map (.date relation))).holds request := by
  -- a matcher of instants sees a value only through its instant
  have hmatched {v w : Value} (hvalue : v.DatesWritten w) :
      (instants.map (Matcher.date relation)).any (Matcher.accepts w) =
        (instants.map (Matcher.date relation)).any (Matcher.accepts v) := by
    simp only [List.any_map, Function.comp_def, Matcher.accepts_date_congr hvalue.asInstant?_eq]
  rw [holds, holds]
  generalize request.get? key = before at h
  generalize other.get? key = after at h
  cases h with
  | none => rfl
  | @some actual written hactual =>
    have hall := all_eq_of_forall₂ hactual.elements fun _ _ h => (hmatched h).symm
    have hany := any_eq_of_forall₂ hactual.elements fun _ _ h => (hmatched h).symm
    -- each quantifier goes through the elements, or asks of the value itself
    cases o.quantifier with
    | forAllValues => exact hall.symm
    | forAnyValue => exact hany.symm
    | plain =>
      cases several with
      | true => exact hany.symm
      | false => exact hmatched hactual

namespace Operator

/-- A comparison with instants has a verdict, and it only depends on the instants of the operand. -/
theorem verdict_date {o : Operator} {relation : Relation} (hdate : o.comparison = .date relation)
    {node : Node} {operand : Value} (h : node.toValue? = some operand) (key : String)
    (request : RequestContext) :
    o.verdict key node request = .ok ((KeyTest.comparison key o operand.asList?.isSome
      ((operand.elements.map Value.asInstant?).map (.date relation))).holds request) := by
  have hbind : (operand.elements.mapM fun e => Matcher.bind e o.comparison) =
      .ok ((operand.elements.map Value.asInstant?).map (.date relation)) := by
    rw [mapM_eq_ok_iff, List.forall₂_map_right_iff, List.forall₂_map_right_iff]
    exact List.forall₂_same.2 fun e _ => by rw [hdate, Matcher.bind]
  rw [verdict_of_ne_null h (by simp [hdate]), hbind]
  rfl

/-- The text of a date of a plain year stands for the date. So a comparison of instants, under any
quantifier, has one verdict for a value of the request and an operand and for the same two with any
of these dates replaced by their texts. -/
theorem verdict_dates :
    (∀ t : Instant, t.HasPlainYear →
      (Value.string (Value.date t).text).asInstant? = some t) ∧
    ∀ (quantifier : Quantifier) (relation : Relation) (ifExists : Bool) (key : String)
      (node written : Node) (operand operandWritten : Value)
      (request requestWritten : RequestContext),
      node.toValue? = some operand → written.toValue? = some operandWritten →
      operand.DatesWritten operandWritten →
      Option.Rel Value.DatesWritten (request.get? key) (requestWritten.get? key) →
      ∃ b, verdict ⟨quantifier, .date relation, ifExists⟩ key node request = .ok b ∧
        verdict ⟨quantifier, .date relation, ifExists⟩ key written requestWritten = .ok b := by
  refine ⟨fun t => Value.asInstant?_text, ?_⟩
  intro quantifier relation ifExists key node written operand operandWritten request requestWritten
    hnode hwritten hoperand hrequest
  refine ⟨_, verdict_date rfl hnode key request, ?_⟩
  rw [verdict_date rfl hwritten, hoperand.isSome_asList?_eq, hoperand.map_asInstant?_elements,
    KeyTest.holds_dates hrequest]

/-- Half a second into the leap second at the end of 2016. -/
def leapSecond : Instant := ⟨1483228799, 1500000000, by decide, by decide⟩

/-- The leap second is read back from its text. It is the first of two instants of an operand and
the only value of a key, and whether it stands there as a date or as its text, it is not before
both. -/
theorem verdict_dates_leapSecond :
    leapSecond.HasPlainYear ∧ leapSecond.text = "2016-12-31T23:59:60.500Z" ∧
      (Value.string "2016-12-31T23:59:60.500Z").asInstant? = some leapSecond ∧
      verdict ⟨.forAllValues, .date .greaterOrEqual, false⟩ "aws:CurrentTime"
        (.list [.date leapSecond, .string "2017-01-01"])
        (.ofList [("aws:CurrentTime", .list [.date leapSecond])]) = .ok true ∧
      verdict ⟨.forAllValues, .date .greaterOrEqual, false⟩ "aws:CurrentTime"
        (.list [.string "2016-12-31T23:59:60.500Z", .string "2017-01-01"])
        (.ofList [("aws:CurrentTime", .list [.string "2016-12-31T23:59:60.500Z"])]) = .ok true := by
  have hyear : leapSecond.HasPlainYear := by
    unfold Instant.HasPlainYear
    decide
  have htext : leapSecond.text = "2016-12-31T23:59:60.500Z" := by decide
  have hwritten : (Value.date leapSecond).DatesWritten (.string "2016-12-31T23:59:60.500Z") :=
    htext ▸ .date hyear
  obtain ⟨htexts, hverdicts⟩ := verdict_dates
  obtain ⟨b, hdate, hstring⟩ := hverdicts .forAllValues .greaterOrEqual false "aws:CurrentTime"
    (.list [.date leapSecond, .string "2017-01-01"])
    (.list [.string "2016-12-31T23:59:60.500Z", .string "2017-01-01"]) _ _
    (.ofList [("aws:CurrentTime", .list [.date leapSecond])])
    (.ofList [("aws:CurrentTime", .list [.string "2016-12-31T23:59:60.500Z"])]) rfl rfl
    (.list (.cons hwritten (.cons (.same _) .nil))) (.some (.list (.cons hwritten .nil)))
  have htrue : verdict ⟨.forAllValues, .date .greaterOrEqual, false⟩ "aws:CurrentTime"
      (.list [.date leapSecond, .string "2017-01-01"])
      (.ofList [("aws:CurrentTime", .list [.date leapSecond])]) = .ok true := rfl
  exact ⟨hyear, htext, htext ▸ htexts leapSecond hyear, htrue, by rw [hstring, ← hdate, htrue]⟩

end Operator

end StackAudit
