import FieldRules.Time.Calendar

/-!
Instants: seconds from the start of 1970 in UTC and nanoseconds in the second, in the years from
-262143 to 262142. A leap second can only end a minute; within it the count of seconds stands still
and the nanoseconds go on past one thousand million. Instants are ordered by their seconds first.
-/
namespace FieldRules.Time

def earliestSecond : Int := -8334601228800
def latestSecond : Int := 8210266876799

def nanosPerSecond : Nat := 1000000000

@[ext] structure Instant where
  seconds : Int
  nanos : Nat
  earliest : earliestSecond ≤ seconds := by decide
  latest : seconds ≤ latestSecond := by decide
  nanos_lt : nanos < 2 * nanosPerSecond := by decide
  leap : nanosPerSecond ≤ nanos → seconds % 60 = 59 := by decide
deriving DecidableEq

namespace Instant

/-- Strictly earlier. -/
def lt (a b : Instant) : Bool :=
  a.seconds < b.seconds || (a.seconds == b.seconds && a.nanos < b.nanos)

/-- Milliseconds from the start of 1970, rounded down. -/
def millis (i : Instant) : Int := i.seconds * 1000 + (i.nanos / 1000000 : Nat)

/-- The instant of these seconds and nanoseconds, if it is in the range of years. -/
def inRange? (seconds : Int) (nanos : Nat) (nanos_lt : nanos < 2 * nanosPerSecond)
    (leap : nanosPerSecond ≤ nanos → seconds % 60 = 59) : Option Instant :=
  if h : earliestSecond ≤ seconds ∧ seconds ≤ latestSecond then
    some { seconds, nanos, earliest := h.1, latest := h.2, nanos_lt, leap }
  else none

section InRange

variable {seconds : Int} {nanos : Nat} {nanos_lt : nanos < 2 * nanosPerSecond}
  {leap : nanosPerSecond ≤ nanos → seconds % 60 = 59}

theorem inRange?_eq_some_iff {i : Instant} :
    inRange? seconds nanos nanos_lt leap = some i ↔ i.seconds = seconds ∧ i.nanos = nanos := by
  unfold inRange?
  constructor
  · intro h
    split at h
    · cases h
      exact ⟨rfl, rfl⟩
    · cases h
  · rintro ⟨rfl, rfl⟩
    exact dif_pos ⟨i.earliest, i.latest⟩

theorem inRange?_isSome_iff : (inRange? seconds nanos nanos_lt leap).isSome = true ↔
    earliestSecond ≤ seconds ∧ seconds ≤ latestSecond := by
  unfold inRange?
  split
  · exact iff_of_true rfl ‹_›
  · exact iff_of_false nofun ‹_›

end InRange

theorem nanos_of_millis_lt (millis : Int) :
    (millis % 1000).toNat * 1000000 < nanosPerSecond := by
  unfold nanosPerSecond
  omega

def ofMillis? (millis : Int) : Option Instant :=
  inRange? (millis / 1000) ((millis % 1000).toNat * 1000000)
    (Nat.lt_of_lt_of_le (nanos_of_millis_lt millis) (by decide))
    fun hleap => absurd (nanos_of_millis_lt millis) (Nat.not_lt.mpr hleap)

def date (i : Instant) : Date := Date.ofDays (i.seconds / 86400)

def secondOfDay (i : Instant) : Nat := (i.seconds % 86400).toNat

end Instant

/-- A date and a time of day as written, before they are checked. -/
structure Civil where
  date : Date
  hour : Nat
  minute : Nat
  second : Nat
  nanos : Nat
deriving DecidableEq

namespace Civil

/-- The date is in the calendar and its range of years, and the time is on the clock. Second 60 is a
leap second, in any minute. -/
structure Valid (c : Civil) : Prop where
  date : c.date.Valid
  year : -262143 ≤ c.date.year ∧ c.date.year ≤ 262142
  clock : c.hour < 24 ∧ c.minute < 60 ∧ c.second ≤ 60
  nanos : c.nanos < nanosPerSecond

instance (c : Civil) : Decidable c.Valid :=
  decidable_of_iff
    (c.date.Valid ∧ (-262143 ≤ c.date.year ∧ c.date.year ≤ 262142) ∧
      (c.hour < 24 ∧ c.minute < 60 ∧ c.second ≤ 60) ∧ c.nanos < nanosPerSecond)
    ⟨fun ⟨date, year, clock, nanos⟩ => ⟨date, year, clock, nanos⟩,
      fun h => ⟨h.date, h.year, h.clock, h.nanos⟩⟩

/-- Seconds from the start of 1970 in UTC, at an offset in minutes east of it; in a leap second they
stand at second 59. -/
def seconds (c : Civil) (offset : Int) : Int :=
  c.date.toDays * 86400 + (c.hour * 3600 + c.minute * 60 + min c.second 59 : Nat) - offset * 60

/-- Nanoseconds in the second; those of a leap second follow on those of second 59. -/
def secondNanos (c : Civil) : Nat :=
  if c.second = 60 then c.nanos + nanosPerSecond else c.nanos

theorem Valid.secondNanos_lt {c : Civil} (h : c.Valid) : c.secondNanos < 2 * nanosPerSecond := by
  have hnanos := h.nanos
  unfold secondNanos
  split <;> omega

theorem Valid.seconds_of_leap {c : Civil} (h : c.Valid) (offset : Int)
    (hleap : nanosPerSecond ≤ c.secondNanos) : c.seconds offset % 60 = 59 := by
  have hnanos := h.nanos
  unfold secondNanos at hleap
  split at hleap
  · rename_i hsecond
    unfold seconds
    rw [hsecond]
    omega
  · exact absurd hnanos (Nat.not_lt.mpr hleap)

/-- The instant of a civil time at an offset, in minutes, east of UTC. -/
def toInstant? (c : Civil) (offset : Int) : Option Instant :=
  if h : c.Valid then
    Instant.inRange? (c.seconds offset) c.secondNanos h.secondNanos_lt (h.seconds_of_leap offset)
  else none

theorem toInstant?_eq_some_iff {c : Civil} {offset : Int} {i : Instant} :
    c.toInstant? offset = some i ↔
      c.Valid ∧ i.seconds = c.seconds offset ∧ i.nanos = c.secondNanos := by
  unfold toInstant?
  constructor
  · intro h
    split at h
    · rename_i hvalid
      exact ⟨hvalid, Instant.inRange?_eq_some_iff.mp h⟩
    · cases h
  · rintro ⟨hvalid, h⟩
    rw [dif_pos hvalid]
    exact Instant.inRange?_eq_some_iff.mpr h

end Civil

end FieldRules.Time
