import FieldRules.Proofs.Calendar
import FieldRules.Proofs.DateInterval
import FieldRules.Proofs.DateText
import FieldRules.Proofs.JsonOrder

/-!
Dates that are written and read again. An instant with a year of four digits is written as the civil
time in UTC that it has, and a civil time is read as its instant; so JSON keeps such dates as they
are, and the mail form in a message keeps the bound to the second. Main statement:
`date_text_faithful`.
-/
namespace FieldRules

open Text

namespace Time

namespace Instant

def wholeSecond (i : Instant) : Instant := i.withNanos 0 (Nat.zero_le _)

/-- The civil time in UTC; a leap second is second 60. -/
def civil (i : Instant) : Civil :=
  let leap := nanosPerSecond ≤ i.nanos
  { date := i.date
    hour := i.secondOfDay / 3600
    minute := i.secondOfDay / 60 % 60
    second := if leap then i.secondOfDay % 60 + 1 else i.secondOfDay % 60
    nanos := if leap then i.nanos - nanosPerSecond else i.nanos }

theorem civil_of_lt {i : Instant} (h : i.nanos < nanosPerSecond) :
    i.civil = ⟨i.date, i.secondOfDay / 3600, i.secondOfDay / 60 % 60, i.secondOfDay % 60,
      i.nanos⟩ := by
  unfold civil
  dsimp only
  rw [if_neg (Nat.not_le.mpr h), if_neg (Nat.not_le.mpr h)]

theorem secondOfDay_lt (i : Instant) : i.secondOfDay < 86400 := by
  unfold secondOfDay
  omega

/-- Days and seconds of the day add up to the seconds of the instant, also before the epoch. -/
theorem seconds_eq (i : Instant) : i.date.toDays * 86400 + i.secondOfDay = i.seconds := by
  unfold date secondOfDay
  rw [Date.toDays_ofDays]
  omega

theorem toInternet_eq (i : Instant) : i.toInternet = i.civil.internet := rfl

theorem toMail_eq (i : Instant) : i.toMail = i.civil.mail := by
  have hweekday : weekday (i.seconds / 86400) = weekday i.civil.date.toDays :=
    congrArg weekday (Date.toDays_ofDays _).symm
  have hsecond : i.secondOfDay % 60 + (if nanosPerSecond ≤ i.nanos then 1 else 0) =
      i.civil.second := by
    unfold civil
    dsimp only
    split <;> rfl
  unfold toMail Civil.mail
  dsimp only
  rw [hweekday, hsecond]
  rfl

section FourDigits

variable {i : Instant} (h : 0 ≤ i.date.year ∧ i.date.year ≤ 9999)
include h

/-- Within four digits of the year, each part of the civil time fits in the digits that it is
written with. -/
theorem civil_fits : i.civil.Fits := by
  obtain ⟨hlow, hhigh, hpos, hday⟩ := Date.valid_ofDays (i.seconds / 86400)
  have hclock := i.secondOfDay_lt
  have hnanos := i.nanos_lt
  unfold nanosPerSecond at hnanos
  exact
    { year := h
      month := ⟨hlow, hhigh⟩
      day := (hday.trans (Date.daysInMonth_le _ _)).trans_lt (by decide)
      hour := by
        change i.secondOfDay / 3600 < 100
        omega
      minute := by
        change i.secondOfDay / 60 % 60 < 100
        omega
      second := by
        unfold civil
        dsimp only
        split <;> omega
      nanos := by
        unfold civil nanosPerSecond
        dsimp only
        split <;> omega }

/-- In a leap second the civil time is second 60, which stands for second 59 gone on. -/
theorem toInstant?_civil : i.civil.toInstant? 0 = some i := by
  have hclock := i.secondOfDay_lt
  have hseconds := i.seconds_eq
  have hnanos_lt := i.nanos_lt
  have hdate : i.civil.date = i.date := rfl
  have hhour : i.civil.hour = i.secondOfDay / 3600 := rfl
  have hminute : i.civil.minute = i.secondOfDay / 60 % 60 := rfl
  have hvalid : i.civil.date.Valid := Date.valid_ofDays (i.seconds / 86400)
  have hyear : -262143 ≤ i.civil.date.year ∧ i.civil.date.year ≤ 262142 := by
    rw [hdate]
    omega
  rw [Civil.toInstant?_eq_some_iff]
  unfold Civil.seconds Civil.secondNanos
  rw [hdate]
  by_cases hleap : nanosPerSecond ≤ i.nanos
  · have hlast := i.leap hleap
    have hsecond : i.civil.second = i.secondOfDay % 60 + 1 := if_pos hleap
    have hnanos : i.civil.nanos = i.nanos - nanosPerSecond := if_pos hleap
    refine ⟨⟨hvalid, hyear, by omega, by omega⟩, by omega, ?_⟩
    rw [if_pos (by omega)]
    omega
  · have hsecond : i.civil.second = i.secondOfDay % 60 := if_neg hleap
    have hnanos : i.civil.nanos = i.nanos := if_neg hleap
    refine ⟨⟨hvalid, hyear, by omega, by omega⟩, by omega, ?_⟩
    rw [if_neg (by omega)]
    exact hnanos.symm

/-- The Internet form keeps an instant to the nanosecond, also within a leap second. -/
theorem ofText?_toInternet : ofText? (String.ofList i.toInternet) = some i := by
  rw [toInternet_eq]
  exact Civil.ofText?_internet (civil_fits h) (toInstant?_civil h)

omit h in
/-- A leap second is written as second 60. -/
example : String.ofList (toInternet { seconds := 1483228799, nanos := 1500000000 }) =
    "2016-12-31T23:59:60.500Z" := by decide

/-- The mail form drops the part of a second. -/
theorem ofText?_toMail (hnanos : i.nanos < nanosPerSecond) :
    ofText? (String.ofList i.toMail) = some i.wholeSecond := by
  have hcivil : { i.civil with nanos := 0 } = i.wholeSecond.civil := by
    have hzero : i.wholeSecond.nanos < nanosPerSecond := (Nat.zero_le _).trans_lt hnanos
    rw [civil_of_lt hnanos, civil_of_lt hzero]
    rfl
  have hyear : 0 ≤ i.wholeSecond.date.year ∧ i.wholeSecond.date.year ≤ 9999 := h
  rw [toMail_eq]
  exact Civil.ofText?_mail (civil_fits h) (hcivil ▸ toInstant?_civil hyear)

end FourDigits

end Instant

end Time

open Time (Instant)

open Builtin

/-- Through JSON a date of a four-digit year becomes text that is read as that date, so that the
check for dates answers as it did before. -/
theorem checkDate_json {record : Record} {field : String} {i : Instant}
    (hyear : 0 ≤ i.date.year ∧ i.date.year ≤ 9999) (hfind : record.find? field = some (.date i)) :
    ∃ record' text, Record.ofJson? record.toJson = some record' ∧
      record'.find? field = some (.string text) ∧
      ∀ args, checkDate ⟨record', field⟩ args = checkDate ⟨record, field⟩ args := by
  have hfind' : (record.map fun v => Value.ofJson v.toJson).find? field =
      some (.string (String.ofList i.toInternet)) := by
    rw [Dict.find?_map, hfind]
    rfl
  have hne : i.toInternet ≠ [] :=
    List.append_ne_nil_of_right_ne_nil _ (List.cons_ne_nil 'Z' [])
  refine ⟨_, _, Record.ofJson?_toJson record, hfind', checkDate_congr rfl ?_⟩
  have hcontent : (Focus.mk record field).content? = some (.date i) :=
    Focus.content?_of_value hfind rfl
  have hcontent' : (Focus.mk (record.map fun v => Value.ofJson v.toJson) field).content? =
      some (.string (String.ofList i.toInternet)) :=
    Focus.content?_of_value hfind' (by simpa [Value.isEmpty] using hne)
  rw [hcontent, hcontent', Option.map_some, Option.map_some]
  exact congrArg some (Instant.ofText?_toInternet hyear)

/-- An instant of a four-digit year, with any part of a second and within a leap second too, is
written in JSON as text that is read as that instant, and so the check for dates, with whatever
bounds, gives the same answer after a record has gone through JSON. The messages of the check name a
bound that was broken in its mail form, and this is read as the bound without its part of a
second. -/
theorem date_text_faithful :
    (∀ i : Instant, 0 ≤ i.date.year ∧ i.date.year ≤ 9999 →
      ∃ text, (Value.date i).toJson = .string text ∧ (Value.string text).toDate? = some i) ∧
    (∀ (record : Record) field i, 0 ≤ i.date.year ∧ i.date.year ≤ 9999 →
      record.find? field = some (.date i) →
      ∃ record' text, Record.ofJson? record.toJson = some record' ∧
        record'.find? field = some (.string text) ∧
        ∀ args, date.validator.check ⟨record', field⟩ args =
          date.validator.check ⟨record, field⟩ args) ∧
    (∀ f args message, date.validator.check f args = .ok (.fail message) →
      message = s!"Field `{f.field}` must be a date string or object." ∨ ∃ bound,
        (dateBound args 0 "after" = .ok (some bound) ∧
          message = s!"Field `{f.field}` must be a date after `{mailText bound}`.") ∨
        (dateBound args 1 "before" = .ok (some bound) ∧
          message = s!"Field `{f.field}` must be a date prior to `{mailText bound}`.")) ∧
    ∀ args i name bound, dateBound args i name = .ok (some bound) →
      0 ≤ bound.date.year ∧ bound.date.year ≤ 9999 →
        (Value.string (mailText bound)).toDate? = some bound.wholeSecond := by
  refine ⟨?_, fun record field i => checkDate_json, fun f args message => message_of_checkDate, ?_⟩
  · intro i hyear
    exact ⟨_, rfl, Instant.ofText?_toInternet hyear⟩
  · intro args i name bound hbound hyear
    exact Instant.ofText?_toMail hyear (nanos_lt_of_dateBound hbound)

/-- The middle of the leap second at the end of 2016 goes through JSON, and a bound a millisecond
before 1970 is read from its mail form as the second that it lies in. -/
theorem date_text_faithful_of_leap_second :
    let leap : Instant := { seconds := 1483228799, nanos := 1500000000 }
    let bound : Instant := { seconds := -1, nanos := 999000000 }
    (∃ text, (Value.date leap).toJson = .string text ∧
      (Value.string text).toDate? = some leap) ∧
    (Value.string (mailText bound)).toDate? = some { seconds := -1, nanos := 0 } := by
  intro leap bound
  have hbound : dateBound ["-1"] 0 "after" = .ok (some bound) := by decide
  obtain ⟨hjson, -, -, hmail⟩ := date_text_faithful
  exact ⟨hjson leap (by decide), hmail _ _ _ bound hbound (by decide)⟩

end FieldRules
