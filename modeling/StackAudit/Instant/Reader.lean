import StackAudit.Instant
import StackAudit.Text.Blank
import StackAudit.Text.Integer

/-!
# Reading instants

An instant may be written as a date and a time with an offset from universal time, as a date alone,
which stands for its midnight, or as a count of seconds since the beginning of 1970. The three forms
are tried in this order.
-/

namespace StackAudit.Instant

open Text (decimalValue)

/-- A number of exactly `width` digits in front of a text. -/
def exactDigits? (width : Nat) (text : List Char) : Option (Nat × List Char) :=
  let digits := text.take width
  if digits.length = width ∧ digits.all Char.isDigit then
    some (decimalValue digits, text.drop width)
  else none

/-- A number of one to `width` digits in front of a text, as long as possible. -/
def upToDigits? (width : Nat) (text : List Char) : Option (Nat × List Char) :=
  let digits := (text.take width).takeWhile Char.isDigit
  if digits = [] then none else some (decimalValue digits, text.drop digits.length)

/-- Takes one of the given characters off the front of a text. -/
def skip? (wanted : List Char) : List Char → Option (List Char)
  | [] => none
  | c :: rest => if c ∈ wanted then some rest else none

/-- The fraction of a second in nanoseconds: nothing, or a point and digits, of which the first nine
count. -/
def fraction? : List Char → Option (Nat × List Char)
  | '.' :: text =>
    let digits := text.takeWhile Char.isDigit
    let counted := digits.take 9
    if digits = [] then none
    else
      some (decimalValue (counted ++ List.replicate (9 - counted.length) '0'),
        text.dropWhile Char.isDigit)
  | text => some (0, text)

/-- An offset from universal time in minutes: `Z`, or a sign, hours and minutes. The sign for minus
may be a hyphen or the minus sign proper. -/
def offset? (text : List Char) : Option (Int × List Char) :=
  match text with
  | [] => none
  | mark :: rest =>
    if mark = 'Z' ∨ mark = 'z' then some (0, rest)
    else if mark ∈ ['+', '-', '\u2212'] then do
      let (hours, rest) ← exactDigits? 2 rest
      let rest ← skip? [':'] rest
      let (minutes, rest) ← exactDigits? 2 rest
      guard (hours ≤ 23 ∧ minutes ≤ 59)
      let offset : Int := hours * 60 + minutes
      return (if mark = '+' then offset else -offset, rest)
    else none

/-- A date and a time of day with an offset, such as `2024-01-02T03:04:05.678+01:00`. The letter
between date and time may be small or a space. Second 60 is a leap second at the end of any minute.
-/
def ofDateTimeText? (text : List Char) : Option Instant := do
  let (year, text) ← exactDigits? 4 text
  let text ← skip? ['-'] text
  let (month, text) ← exactDigits? 2 text
  let text ← skip? ['-'] text
  let (day, text) ← exactDigits? 2 text
  let text ← skip? ['T', 't', ' '] text
  let (hour, text) ← exactDigits? 2 text
  let text ← skip? [':'] text
  let (minute, text) ← exactDigits? 2 text
  let text ← skip? [':'] text
  let (second, text) ← exactDigits? 2 text
  let (nanos, text) ← fraction? text
  let (offset, text) ← offset? text
  let date : Date := { year, month, day }
  guard (date.IsValid ∧ hour ≤ 23 ∧ minute ≤ 59 ∧ second ≤ 60 ∧ text = [])
  let leap := second / 60
  ofDateTime? date ((hour * 60 + minute - offset) * 60 + (second - leap))
    (nanos + leap * 1000000000)

/-- A year: up to four digits, or a sign and any number of digits. -/
def year? (text : List Char) : Option (Int × List Char) :=
  match text with
  | '-' :: rest => (upToDigits? rest.length rest).map fun (n, rest) => (-n, rest)
  | '+' :: rest => (upToDigits? rest.length rest).map fun (n, rest) => (n, rest)
  | _ => (upToDigits? 4 text).map fun (n, rest) => (n, rest)

/-- A date such as `2024-01-02`. Blanks may stand before each of the three numbers. -/
def ofDateText? (text : List Char) : Option Instant := do
  let (year, text) ← year? (Text.dropBlanks text)
  let text ← skip? ['-'] text
  let (month, text) ← upToDigits? 2 (Text.dropBlanks text)
  let text ← skip? ['-'] text
  let (day, text) ← upToDigits? 2 (Text.dropBlanks text)
  let date : Date := { year, month, day }
  guard (date.IsValid ∧ text = [])
  ofDateTime? date 0 0

/-- A count of seconds, between blanks. -/
def ofSecondsText? (text : List Char) : Option Instant := do
  ofParts? (← Text.int64? (Text.trimBlanks text)) 0

/-- Reads an instant in any of its three forms. -/
def ofText? (text : String) : Option Instant :=
  let text := text.toList
  ofDateTimeText? text <|> ofDateText? text <|> ofSecondsText? text

end StackAudit.Instant
