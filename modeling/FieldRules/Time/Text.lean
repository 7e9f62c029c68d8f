import FieldRules.Time.Instant

/-!
Two written forms of an instant, both in UTC: the Internet form `2017-04-25T10:30:00.500Z`, with as
many groups of three fraction digits as it needs, and the mail form `Tue, 25 Apr 2017 10:30:00 GMT`,
which drops the fraction. Years outside 0 to 9999 carry a sign.
-/
namespace FieldRules.Time

/-- The decimal digits of `n`, filled up with zeros to `width`. -/
def padded (width n : Nat) : List Char :=
  let digits := Nat.toDigits 10 n
  List.replicate (width - digits.length) '0' ++ digits

def yearText (year : Int) : List Char :=
  if 0 ≤ year ∧ year ≤ 9999 then padded 4 year.toNat
  else (if year < 0 then '-' else '+') :: padded 4 year.natAbs

def clockText (secondOfDay second : Nat) : List Char :=
  padded 2 (secondOfDay / 3600) ++ ':' :: padded 2 (secondOfDay / 60 % 60) ++
    ':' :: padded 2 second

def fractionText (nanos : Nat) : List Char :=
  if nanos = 0 then []
  else if nanos % 1000000 = 0 then '.' :: padded 3 (nanos / 1000000)
  else if nanos % 1000 = 0 then '.' :: padded 6 (nanos / 1000)
  else '.' :: padded 9 nanos

namespace Instant

/-- The Internet form; a leap second is written as second 60. -/
def toInternet (i : Instant) : List Char :=
  let d := i.date
  let clock := i.secondOfDay
  let leap := nanosPerSecond ≤ i.nanos
  yearText d.year ++ '-' :: padded 2 d.month ++ '-' :: padded 2 d.day ++ 'T' ::
    clockText clock (if leap then clock % 60 + 1 else clock % 60) ++
    fractionText (if leap then i.nanos - nanosPerSecond else i.nanos) ++ ['Z']

/-- The mail form. -/
def toMail (i : Instant) : List Char :=
  let d := i.date
  let leap := if nanosPerSecond ≤ i.nanos then 1 else 0
  (weekdayNames.getD (weekday (i.seconds / 86400)) "").toList ++ ',' :: ' ' ::
    padded 2 d.day ++ ' ' :: (monthNames.getD (d.month - 1) "").toList ++
    ' ' :: yearText d.year ++ ' ' ::
    clockText i.secondOfDay (i.secondOfDay % 60 + leap) ++ " GMT".toList

end Instant

end FieldRules.Time
