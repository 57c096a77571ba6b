import StackAudit.Instant.Calendar

/-!
# Instants

An instant is a second of universal time, counted from the beginning of 1970, and nanoseconds in it.
A leap second has no count of its own: it is the second before it with a thousand million
nanoseconds more, and only the last second of a minute may have one.
-/

namespace StackAudit

namespace Instant

/-- The first second of the year -262143. -/
def earliest : Int := -8334601228800

/-- The last second of the year 262142. -/
def latest : Int := 8210266876799

end Instant

/-- A point of universal time, to the nanosecond. -/
structure Instant where
  /-- Seconds since the beginning of 1970. -/
  seconds : Int
  /-- Nanoseconds within the second; from a thousand million on they are those of a leap second. -/
  nanos : Nat
  inRange : Instant.earliest ≤ seconds ∧ seconds ≤ Instant.latest
  nanos_lt : nanos < 1000000000 ∨ nanos < 2000000000 ∧ seconds % 60 = 59
  deriving DecidableEq

namespace Instant

/-- The instant of a count of seconds and nanoseconds, if there is one. -/
def ofParts? (seconds : Int) (nanos : Nat) : Option Instant :=
  if h : (earliest ≤ seconds ∧ seconds ≤ latest)
      ∧ (nanos < 1000000000 ∨ nanos < 2000000000 ∧ seconds % 60 = 59) then
    some ⟨seconds, nanos, h.1, h.2⟩
  else none

/-- Instants are ordered by their seconds and then by their nanoseconds, so that a leap second comes
after the second it belongs to and before the next one. -/
def compare (a b : Instant) : Ordering :=
  (Ord.compare a.seconds b.seconds).then (Ord.compare a.nanos b.nanos)

/-- The day number of 1 January 1970. -/
def epochDay : Int := Date.daysBeforeYear 1970

/-- The instant of a date and a time of day, in universal time. -/
def ofDateTime? (date : Date) (secondOfDay : Int) (nanos : Nat) : Option Instant :=
  ofParts? ((date.dayNumber - epochDay) * 86400 + secondOfDay) nanos

/-- The date of an instant. -/
def date (t : Instant) : Date := Date.ofDayNumber (t.seconds / 86400 + epochDay)

/-- The seconds since midnight. -/
def secondOfDay (t : Instant) : Nat := (t.seconds % 86400).toNat

end Instant

end StackAudit
