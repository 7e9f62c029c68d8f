import FieldRules.Proofs.DateText
import FieldRules.Proofs.TruthValue
import Mathlib.Data.List.DropRight

/-!
The forms of dates exclude each other. The readers of the plain forms and of the Internet form agree
on the year, the rest of the date and the time of day wherever both read them, so that what follows
these parts tells the form: a slash, a dash, the letter `T`, an offset or nothing. In the mail form
a blank follows the first number. Hence at most one form accepts a text, and the order in which they
are tried does not matter. Main statement: `date_forms_exclusive`.
-/
namespace FieldRules

open Text

namespace Time

/-! ### Numbers -/

section Digits

variable {least most : ℕ} {s run rest : List Char} {n : ℕ}

/-- What is read is a run of digits at the start, which does not go on unless it is as long as it
may be. -/
theorem digits?_eq_some_iff : digits? least most s = some (run, rest) ↔
    s = run ++ rest ∧ (∀ c ∈ run, c.isDigit = true) ∧ least ≤ run.length ∧ run.length ≤ most ∧
      (run.length = most ∨ ∀ c, rest.head? = some c → c.isDigit = false) := by
  constructor
  · intro h
    unfold digits? at h
    dsimp only at h
    split at h
    · cases h
    rename_i hleast
    obtain ⟨hrun, hrest⟩ := Prod.mk.inj (Option.some.inj h)
    rw [hrun] at hrest hleast
    have htaken : run <+: s.take most := hrun ▸ List.takeWhile_prefix _
    have hsplit : s = run ++ rest := by
      rw [← hrest]
      exact (List.prefix_iff_eq_append.mp (htaken.trans (List.take_prefix _ _))).symm
    have hdigits : ∀ c ∈ run, c.isDigit = true := fun c hc => List.mem_takeWhile_imp (hrun ▸ hc)
    have hmost : run.length ≤ most := htaken.length_le.trans (List.length_take_le _ _)
    refine ⟨hsplit, hdigits, Nat.not_lt.mp hleast, hmost, ?_⟩
    rcases Nat.eq_or_lt_of_le hmost with heq | hlt
    · exact Or.inl heq
    · refine Or.inr fun c hc => ?_
      obtain ⟨tail, rfl⟩ := List.head?_eq_some_iff.mp hc
      obtain ⟨k, hk⟩ : ∃ k, most - run.length = k + 1 := ⟨most - run.length - 1, by omega⟩
      rw [hsplit, List.take_append, List.take_of_length_le hmost, hk, List.take_succ_cons,
        List.takeWhile_append_of_pos hdigits, List.takeWhile_cons] at hrun
      by_contra hdigit
      simp [hdigit] at hrun
  · rintro ⟨rfl, hdigits, hleast, hmost, hend⟩
    exact digits?_append hdigits hleast hmost hend

theorem number?_eq_some_iff : number? least most s = some (n, rest) ↔
    ∃ run, digits? least most s = some (run, rest) ∧ Nat.ofDigitChars 10 run 0 = n := by
  unfold number?
  rw [Option.map_eq_some_iff]
  constructor
  · rintro ⟨⟨run, rest'⟩, hdigits, heq⟩
    obtain ⟨rfl, rfl⟩ := Prod.mk.inj heq
    exact ⟨run, hdigits, rfl⟩
  · rintro ⟨run, hdigits, rfl⟩
    exact ⟨(run, rest), hdigits, rfl⟩

/-- With fewer digits asked for, the same number is read. -/
theorem number?_of_least {least' : ℕ} (hleast : least' ≤ least)
    (h : number? least most s = some (n, rest)) : number? least' most s = some (n, rest) := by
  obtain ⟨run, hdigits, hn⟩ := number?_eq_some_iff.mp h
  obtain ⟨hsplit, hrun, hlength, hmost, hend⟩ := digits?_eq_some_iff.mp hdigits
  have hdigits' : digits? least' most s = some (run, rest) :=
    digits?_eq_some_iff.mpr ⟨hsplit, hrun, hleast.trans hlength, hmost, hend⟩
  exact number?_eq_some_iff.mpr ⟨run, hdigits', hn⟩

/-- With more digits allowed, the same number is read if none follows. -/
theorem number?_of_most {most' : ℕ} (hmost : most ≤ most')
    (hrest : ∀ c, rest.head? = some c → c.isDigit = false)
    (h : number? least most s = some (n, rest)) : number? least most' s = some (n, rest) := by
  obtain ⟨run, hdigits, hn⟩ := number?_eq_some_iff.mp h
  obtain ⟨hsplit, hrun, hlength, hlong, -⟩ := digits?_eq_some_iff.mp hdigits
  have hdigits' : digits? least most' s = some (run, rest) :=
    digits?_eq_some_iff.mpr ⟨hsplit, hrun, hlength, hlong.trans hmost, Or.inr hrest⟩
  exact number?_eq_some_iff.mpr ⟨run, hdigits', hn⟩

theorem head?_of_number? (hleast : 0 < least) (h : number? least most s = some (n, rest)) :
    ∃ c, s.head? = some c ∧ c.isDigit = true := by
  obtain ⟨run, hdigits, -⟩ := number?_eq_some_iff.mp h
  obtain ⟨rfl, hrun, hlength, -⟩ := digits?_eq_some_iff.mp hdigits
  cases run with
  | nil => exact absurd (hleast.trans_le hlength) (Nat.lt_irrefl 0)
  | cons c run => exact ⟨c, rfl, hrun c List.mem_cons_self⟩

theorem trimStart_of_number? (hleast : 0 < least) (h : number? least most s = some (n, rest)) :
    trimStart s = s := by
  obtain ⟨c, hc, hdigit⟩ := head?_of_number? hleast h
  refine trimStart_of_head fun d hd => ?_
  obtain rfl := Option.some.inj (hc.symm.trans hd)
  exact not_isBlank_of_isDigit hdigit

theorem plainNumber?_of_number? (h : number? 2 2 s = some (n, rest)) :
    plainNumber? s = some (n, rest) := by
  unfold plainNumber?
  rw [trimStart_of_number? (by decide) h]
  exact number?_of_least (by decide) h

end Digits

/-! ### Parts of a date -/

section Parts

variable {s rest : List Char}

theorem char?_eq_some_iff {c : Char} : char? c s = some rest ↔ s = c :: rest := by
  cases s with
  | nil => simp [char?]
  | cons d tail =>
    unfold char?
    rw [Option.ite_none_right_eq_some, Option.some.injEq, List.cons.injEq]

/-- A year that begins with a digit has no sign. -/
theorem plainYear?_of_digit {c : Char} (hc : (trimStart s).head? = some c)
    (hdigit : c.isDigit = true) :
    plainYear? s = (number? 1 4 (trimStart s)).map fun r => ((r.1 : ℤ), r.2) := by
  obtain ⟨tail, htail⟩ := List.head?_eq_some_iff.mp hc
  unfold plainYear?
  rw [htail]
  split
  · rename_i heq
    obtain ⟨rfl, -⟩ := List.cons.inj heq
    cases hdigit
  · rename_i heq
    obtain ⟨rfl, -⟩ := List.cons.inj heq
    cases hdigit
  · rfl

theorem plainYear?_of_number? {n : ℕ} (h : number? 4 4 s = some (n, rest)) :
    plainYear? s = some ((n : ℤ), rest) := by
  have htrim := trimStart_of_number? (by decide) h
  obtain ⟨c, hc, hdigit⟩ := head?_of_number? (by decide) h
  rw [plainYear?_of_digit (htrim.symm ▸ hc) hdigit, htrim,
    number?_of_least (by decide) h, Option.map_some]

def separator? (s : List Char) : Option Char := (plainYear? s).bind fun r => r.2.head?

theorem separator?_of_plainDate? {c : Char} {d : Date} (h : plainDate? c s = some (d, rest)) :
    separator? s = some c := by
  unfold plainDate? at h
  obtain ⟨⟨year, afterYear⟩, hyear, h⟩ := Option.bind_eq_some_iff.mp h
  obtain ⟨tail, hchar, -⟩ := Option.bind_eq_some_iff.mp h
  unfold separator?
  rw [hyear, Option.bind_some, char?_eq_some_iff.mp hchar, List.head?_cons]

/-- A number of at most two digits is read as a year too. -/
theorem separator?_of_number? {n : ℕ} {c : Char} (hc : c.isDigit = false)
    (h : number? 1 2 (trimStart s) = some (n, c :: rest)) : separator? s = some c := by
  obtain ⟨d, hd, hdigit⟩ := head?_of_number? (by decide) h
  have hnumber : number? 1 4 (trimStart s) = some (n, c :: rest) := by
    refine number?_of_most (by decide) ?_ h
    rintro _ ⟨⟩
    exact hc
  unfold separator?
  rw [plainYear?_of_digit hd hdigit, hnumber, Option.map_some, Option.bind_some, List.head?_cons]

def afterClock? (s : List Char) : Option (List Char) := do
  let (_, s) ← plainNumber? s
  let (_, s) ← plainNumber? (← char? ':' s)
  let (_, s) ← plainNumber? (← char? ':' s)
  let (_, s) ← optionalFraction? s
  some s

theorem afterClock?_of_parts {hour minute second nanos : ℕ} {s₁ s₂ s₃ s₄ s₅ : List Char}
    (hhour : plainNumber? s = some (hour, s₁)) (hfirst : char? ':' s₁ = some s₂)
    (hminute : plainNumber? s₂ = some (minute, s₃)) (hlast : char? ':' s₃ = some s₄)
    (hsecond : plainNumber? s₄ = some (second, s₅))
    (hnanos : optionalFraction? s₅ = some (nanos, rest)) : afterClock? s = some rest := by
  unfold afterClock?
  refine (bind_of_some hhour _).trans ?_
  refine (bind_of_some hfirst _).trans ?_
  refine (bind_of_some hminute _).trans ?_
  refine (bind_of_some hlast _).trans ?_
  refine (bind_of_some hsecond _).trans ?_
  exact bind_of_some hnanos _

theorem plainDate?_of_numbers {c : Char} {year month day : ℕ} {s₁ s₂ s₃ s₄ : List Char}
    (hyear : number? 4 4 s = some (year, s₁)) (hfirst : char? c s₁ = some s₂)
    (hmonth : number? 2 2 s₂ = some (month, s₃)) (hlast : char? c s₃ = some s₄)
    (hday : number? 2 2 s₄ = some (day, rest)) :
    plainDate? c s = some (⟨year, month, day⟩, rest) := by
  unfold plainDate?
  refine (bind_of_some (plainYear?_of_number? hyear) _).trans ?_
  refine (bind_of_some hfirst _).trans ?_
  refine (bind_of_some (plainNumber?_of_number? hmonth) _).trans ?_
  refine (bind_of_some hlast _).trans ?_
  exact bind_of_some (plainNumber?_of_number? hday) _

def internetTime? (d : Date) (s : List Char) : Option Instant := do
  let (hour, s) ← number? 2 2 s
  let (minute, s) ← number? 2 2 (← char? ':' s)
  let (second, s) ← number? 2 2 (← char? ':' s)
  let (nanos, s) ← optionalFraction? s
  let (offset, s) ← internetOffset? s
  if s.isEmpty then Civil.toInstant? { date := d, hour, minute, second, nanos } offset else none

theorem internetForm?_date {i : Instant} (h : internetForm? s = some i) :
    ∃ d c rest, plainDate? '-' s = some (d, c :: rest) ∧ (c = 'T' ∨ c = 't' ∨ c = ' ') ∧
      internetTime? d rest = some i := by
  unfold internetForm? at h
  obtain ⟨⟨year, s₁⟩, hyear, h⟩ := Option.bind_eq_some_iff.mp h
  obtain ⟨s₂, hfirst, h⟩ := Option.bind_eq_some_iff.mp h
  obtain ⟨⟨month, s₃⟩, hmonth, h⟩ := Option.bind_eq_some_iff.mp h
  obtain ⟨s₄, hlast, h⟩ := Option.bind_eq_some_iff.mp h
  obtain ⟨⟨day, s₅⟩, hday, h⟩ := Option.bind_eq_some_iff.mp h
  have hdate := plainDate?_of_numbers hyear hfirst hmonth hlast hday
  dsimp only at h
  split at h
  · exact ⟨_, _, _, hdate, Or.inl rfl, h⟩
  · exact ⟨_, _, _, hdate, Or.inr (Or.inl rfl), h⟩
  · exact ⟨_, _, _, hdate, Or.inr (Or.inr rfl), h⟩
  · cases h

/-- In the Internet form something must follow the time of day, namely the offset. -/
theorem internetTime?_clock {d : Date} {i : Instant} (h : internetTime? d s = some i) :
    trimStart s = s ∧ ∃ after, afterClock? s = some after ∧ after ≠ [] := by
  unfold internetTime? at h
  obtain ⟨⟨hour, s₁⟩, hhour, h⟩ := Option.bind_eq_some_iff.mp h
  obtain ⟨s₂, hfirst, h⟩ := Option.bind_eq_some_iff.mp h
  obtain ⟨⟨minute, s₃⟩, hminute, h⟩ := Option.bind_eq_some_iff.mp h
  obtain ⟨s₄, hlast, h⟩ := Option.bind_eq_some_iff.mp h
  obtain ⟨⟨second, s₅⟩, hsecond, h⟩ := Option.bind_eq_some_iff.mp h
  obtain ⟨⟨nanos, s₆⟩, hnanos, h⟩ := Option.bind_eq_some_iff.mp h
  obtain ⟨⟨offset, s₇⟩, hoffset, -⟩ := Option.bind_eq_some_iff.mp h
  refine ⟨trimStart_of_number? (by decide) hhour, s₆, ?_, ?_⟩
  · exact afterClock?_of_parts (plainNumber?_of_number? hhour) hfirst
      (plainNumber?_of_number? hminute) hlast (plainNumber?_of_number? hsecond) hnanos
  · rintro rfl
    cases hoffset

/-- In the forms of a date and a time without an offset, the time of day ends the text. -/
theorem plainDateTime?_clock {joint : List Char → Option (List Char)} {i : Instant}
    (h : plainDateTime? joint s = some i) :
    ∃ d rest time, plainDate? '-' s = some (d, rest) ∧ joint rest = some time ∧
      afterClock? time = some [] := by
  unfold plainDateTime? at h
  obtain ⟨⟨d, rest⟩, hdate, h⟩ := Option.bind_eq_some_iff.mp h
  obtain ⟨time, hjoint, h⟩ := Option.bind_eq_some_iff.mp h
  obtain ⟨⟨hour, s₁⟩, hhour, h⟩ := Option.bind_eq_some_iff.mp h
  obtain ⟨s₂, hfirst, h⟩ := Option.bind_eq_some_iff.mp h
  obtain ⟨⟨minute, s₃⟩, hminute, h⟩ := Option.bind_eq_some_iff.mp h
  obtain ⟨s₄, hlast, h⟩ := Option.bind_eq_some_iff.mp h
  obtain ⟨⟨second, s₅⟩, hsecond, h⟩ := Option.bind_eq_some_iff.mp h
  obtain ⟨⟨nanos, s₆⟩, hnanos, h⟩ := Option.bind_eq_some_iff.mp h
  obtain ⟨hempty, -⟩ := Option.ite_none_right_eq_some.mp h
  obtain rfl := List.isEmpty_iff.mp hempty
  exact ⟨d, rest, time, hdate, hjoint,
    afterClock?_of_parts hhour hfirst hminute hlast hsecond hnanos⟩

theorem plainMidnight?_date {c : Char} {i : Instant} (h : plainMidnight? c s = some i) :
    ∃ d, plainDate? c s = some (d, []) := by
  unfold plainMidnight? at h
  obtain ⟨⟨d, rest⟩, hdate, h⟩ := Option.bind_eq_some_iff.mp h
  obtain ⟨hempty, -⟩ := Option.ite_none_right_eq_some.mp h
  exact ⟨d, List.isEmpty_iff.mp hempty ▸ hdate⟩

end Parts

/-! ### The mail form -/

section Mail

variable {s rest : List Char}

def opensYear (c : Char) : Bool := c.isDigit || c == '-' || c == '+'

theorem toLower_of_opensYear {c : Char} (h : opensYear c = true) : c.toLower = c := by
  simp only [opensYear, Bool.or_eq_true, beq_iff_eq] at h
  rcases h with (hdigit | rfl) | rfl
  · exact toLower_of_isDigit hdigit
  · rfl
  · rfl

theorem opensYear_of_plainYear? {year : ℤ} (h : plainYear? s = some (year, rest)) :
    ∃ c tail, trimStart s = c :: tail ∧ opensYear c = true := by
  unfold plainYear? at h
  split at h
  · rename_i tail heq
    exact ⟨'-', tail, heq, rfl⟩
  · rename_i tail heq
    exact ⟨'+', tail, heq, rfl⟩
  · obtain ⟨⟨n, rest'⟩, hnumber, -⟩ := Option.map_eq_some_iff.mp h
    obtain ⟨c, hc, hdigit⟩ := head?_of_number? (by decide) hnumber
    obtain ⟨tail, htail⟩ := List.head?_eq_some_iff.mp hc
    exact ⟨c, tail, htail, by simp [opensYear, hdigit]⟩

/-- No day of the week begins like a year. -/
theorem name?_weekdayNames_of_opensYear {c : Char} (h : opensYear c = true) (tail : List Char) :
    name? weekdayNames (c :: tail) = none := by
  have hnames : ∀ n ∈ weekdayNames, (n.toList.map Char.toLower).head?.any opensYear = false := by
    decide
  unfold name?
  rw [Option.map_eq_none_iff, List.findIdx?_eq_none_iff]
  intro n hn
  rw [beq_eq_false_iff_ne]
  intro heq
  have hhead := hnames n hn
  rw [heq, List.take_succ_cons, List.map_cons, toLower_of_opensYear h, List.head?_cons,
    Option.any_some, h] at hhead
  cases hhead

theorem isBlank_of_blanks? (h : blanks? s = some rest) :
    ∃ c tail, s = c :: tail ∧ isBlank c = true := by
  unfold blanks? at h
  obtain ⟨hlength, -⟩ := Option.ite_none_right_eq_some.mp h
  cases s with
  | nil => exact absurd hlength (Nat.lt_irrefl 0)
  | cons c tail =>
    refine ⟨c, tail, rfl, ?_⟩
    by_contra hblank
    have htrim : trimStart (c :: tail) = c :: tail := List.dropWhile_cons_of_neg hblank
    rw [htrim] at hlength
    exact absurd hlength (Nat.lt_irrefl _)

/-- In the mail form a blank stands where the other forms have a separator: a day of the week cannot
stand where a year is read, so the text begins with the day. -/
theorem isBlank_of_mailForm? {i : Instant} {c : Char} (h : mailForm? s = some i)
    (hc : separator? s = some c) : isBlank c = true := by
  have htrim : trimStart (trimStart s) = trimStart s := List.dropWhile_idempotent _ _
  unfold mailForm? at h
  obtain ⟨⟨dayOfWeek, s₁⟩, hweekday, h⟩ := Option.bind_eq_some_iff.mp h
  obtain ⟨⟨day, s₂⟩, hday, h⟩ := Option.bind_eq_some_iff.mp h
  obtain ⟨s₃, hblanks, -⟩ := Option.bind_eq_some_iff.mp h
  obtain ⟨⟨year, afterYear⟩, hyear, -⟩ := Option.bind_eq_some_iff.mp hc
  obtain ⟨d, tail, htail, hd⟩ := opensYear_of_plainYear? hyear
  have hnone : name? weekdayNames (trimStart s) = none :=
    htail ▸ name?_weekdayNames_of_opensYear hd tail
  unfold optionalWeekday? at hweekday
  rw [hnone] at hweekday
  obtain ⟨-, rfl⟩ := Prod.mk.inj (Option.some.inj hweekday)
  rw [htrim] at hday
  obtain ⟨b, tail', rfl, hblank⟩ := isBlank_of_blanks? hblanks
  have hdigit : b.isDigit = false := by
    rw [Bool.eq_false_iff]
    intro hdigit
    cases (not_isBlank_of_isDigit hdigit).symm.trans hblank
  obtain rfl := Option.some.inj ((separator?_of_number? hdigit hday).symm.trans hc)
  exact hblank

end Mail

/-! ### Telling the form -/

inductive Form where
  | internet
  | mail
  | joinedByT
  | joinedByBlanks
  | dashed
  | slashed
deriving DecidableEq

namespace Form

def reader : Form → List Char → Option Instant
  | internet => internetForm?
  | mail => mailForm?
  | joinedByT => plainDateTime? (char? 'T')
  | joinedByBlanks => plainDateTime? (some ∘ trimStart)
  | dashed => plainMidnight? '-'
  | slashed => plainMidnight? '/'

def all : List Form := [internet, mail, joinedByT, joinedByBlanks, dashed, slashed]

theorem forms_eq : forms = all.map reader := rfl

def ofRest : List Char → Form
  | [] => dashed
  | 'T' :: rest => if afterClock? rest = some [] then joinedByT else internet
  | rest => if afterClock? (trimStart rest) = some [] then joinedByBlanks else internet

theorem ofRest_of_ne {c : Char} (hc : c ≠ 'T') (rest : List Char) : ofRest (c :: rest) =
    if afterClock? (trimStart (c :: rest)) = some [] then joinedByBlanks else internet := by
  unfold ofRest
  split
  · rename_i heq
    cases heq
  · rename_i heq
    exact absurd (List.cons.inj heq).1 hc
  · rfl

/-- The only form that a text can have. -/
def ofText (s : List Char) : Form :=
  if separator? s = some '/' then slashed
  else if separator? s = some '-' then (plainDate? '-' s).elim internet fun r => ofRest r.2
  else mail

section Accepted

variable {s : List Char}

theorem ofText_of_dashes {d : Date} {rest : List Char} (h : plainDate? '-' s = some (d, rest)) :
    ofText s = ofRest rest := by
  have hseparator := separator?_of_plainDate? h
  unfold ofText
  rw [if_neg (by rw [hseparator]; decide), if_pos hseparator, h, Option.elim_some]

/-- A text that a reader accepts has the form of this reader. -/
theorem ofText_of_reader {f : Form} {i : Instant} (h : f.reader s = some i) : ofText s = f := by
  cases f with
  | internet =>
    obtain ⟨d, c, rest, hdate, hjoint, htime⟩ := internetForm?_date h
    obtain ⟨htrim, after, hclock, hafter⟩ := internetTime?_clock htime
    have hoffset : afterClock? rest ≠ some [] := fun hend =>
      hafter (Option.some.inj (hclock.symm.trans hend))
    rw [ofText_of_dashes hdate]
    rcases hjoint with rfl | rfl | rfl
    · exact if_neg hoffset
    · rw [ofRest_of_ne (by decide)]
      exact if_neg nofun
    · have hblank : trimStart (' ' :: rest) = rest := htrim
      rw [ofRest_of_ne (by decide), hblank, if_neg hoffset]
  | mail =>
    have hblank : ∀ c, separator? s = some c → isBlank c = true := fun c => isBlank_of_mailForm? h
    unfold ofText
    rw [if_neg fun hc => absurd (hblank _ hc) (by decide),
      if_neg fun hc => absurd (hblank _ hc) (by decide)]
  | joinedByT =>
    obtain ⟨d, rest, time, hdate, hjoint, hclock⟩ := plainDateTime?_clock h
    rw [ofText_of_dashes hdate, char?_eq_some_iff.mp hjoint]
    exact if_pos hclock
  | joinedByBlanks =>
    obtain ⟨d, rest, time, hdate, hjoint, hclock⟩ := plainDateTime?_clock h
    obtain rfl := Option.some.inj hjoint
    rw [ofText_of_dashes hdate]
    cases rest with
    | nil => cases hclock
    | cons c rest =>
      have hc : c ≠ 'T' := by
        rintro rfl
        cases hclock
      rw [ofRest_of_ne hc, if_pos hclock]
  | dashed =>
    obtain ⟨d, hdate⟩ := plainMidnight?_date h
    rw [ofText_of_dashes hdate]
    rfl
  | slashed =>
    obtain ⟨d, hdate⟩ := plainMidnight?_date h
    unfold ofText
    rw [if_pos (separator?_of_plainDate? hdate)]

/-- A form that accepts a text is the one that its marks name. -/
theorem eq_reader_of_mem_forms {form : List Char → Option Instant} {i : Instant}
    (hform : form ∈ forms) (h : form s = some i) : form = (ofText s).reader := by
  rw [forms_eq] at hform
  obtain ⟨f, -, rfl⟩ := List.mem_map.mp hform
  rw [ofText_of_reader h]

/-- No two of the forms accept the same text. -/
theorem countP_forms_le_one (s : List Char) :
    (forms.countP fun form => (form s).isSome) ≤ 1 := by
  have hreader : ∀ f ∈ all, (f.reader s).isSome = true → (f == ofText s) = true := by
    intro f _ h
    obtain ⟨i, hi⟩ := Option.isSome_iff_exists.mp h
    rw [ofText_of_reader hi, beq_self_eq_true]
  calc (forms.countP fun form => (form s).isSome)
      = all.countP fun f => (f.reader s).isSome := by
        rw [forms_eq, List.countP_map]
        rfl
    _ ≤ all.count (ofText s) := List.countP_mono_left hreader
    _ ≤ 1 := List.nodup_iff_count.mp (by decide) _

/-- The first form that accepts a text, in whatever order they are tried, is the one it has. -/
theorem findSome?_of_perm {order : List (List Char → Option Instant)} (h : order.Perm forms)
    (s : List Char) : order.findSome? (fun form => form s) = (ofText s).reader s := by
  have hfound : ∀ i, order.findSome? (fun form => form s) = some i →
      (ofText s).reader s = some i := by
    intro i hi
    obtain ⟨form, hform, hread⟩ := List.exists_of_findSome?_eq_some hi
    rwa [eq_reader_of_mem_forms (h.mem_iff.mp hform) hread] at hread
  apply Option.ext
  intro i
  refine ⟨hfound i, fun hi => ?_⟩
  have hmem : (ofText s).reader ∈ order := by
    rw [h.mem_iff, forms_eq]
    exact List.mem_map_of_mem (by cases ofText s <;> decide)
  have hsome : (order.findSome? fun form => form s).isSome = true :=
    List.findSome?_isSome_iff.mpr ⟨_, hmem, Option.isSome_iff_exists.mpr ⟨i, hi⟩⟩
  obtain ⟨j, hj⟩ := Option.isSome_iff_exists.mp hsome
  rw [hj, ← hi, hfound j hj]

end Accepted

end Form

end Time

open Time (Instant forms)

/-- Of the six forms of dates at most one accepts a text. So a text is read as the instant that it
has in any of them, in whatever order they are tried, and blanks around it do not matter. -/
theorem date_forms_exclusive :
    (∀ s : String, (forms.countP fun form => (form (trimChars s.toList)).isSome) ≤ 1) ∧
    (∀ (s : String) (i : Instant), (Value.string s).toDate? = some i ↔
      ∃ form ∈ forms, form (trimChars s.toList) = some i) ∧
    (∀ (s : String) (order : List (List Char → Option Instant)), order.Perm forms →
      order.findSome? (fun form => form (trimChars s.toList)) = (Value.string s).toDate?) ∧
    ∀ s t : String, Padded s.toList t.toList →
      (Value.string t).toDate? = (Value.string s).toDate? := by
  have hread (s : String) : (Value.string s).toDate? =
      (Time.Form.ofText (trimChars s.toList)).reader (trimChars s.toList) :=
    Time.Form.findSome?_of_perm (List.Perm.refl _) _
  refine ⟨fun s => Time.Form.countP_forms_le_one _, fun s i => ⟨?_, ?_⟩, ?_, ?_⟩
  · exact List.exists_of_findSome?_eq_some
  · rintro ⟨form, hform, h⟩
    rw [hread, ← Time.Form.eq_reader_of_mem_forms hform h, h]
  · intro s order horder
    rw [hread, Time.Form.findSome?_of_perm horder]
  · intro s t hpadded
    rw [hread, hread, trimChars_of_padded hpadded]

/-- A text whose year, month and day are shorter than in the Internet form, with the forms tried in
the opposite order and with an ideographic space behind it. -/
theorem date_forms_exclusive_of_reverse :
    (forms.reverse.findSome? fun form => form (trimChars "17-4-5 1:02:3.5".toList)) =
      (Value.string "17-4-5 1:02:3.5").toDate? ∧
    (Value.string "17-4-5 1:02:3.5\u3000").toDate? =
      some { seconds := -61622549877, nanos := 500000000 } := by
  obtain ⟨-, -, horder, hpadded⟩ := date_forms_exclusive
  have hblank : ∀ c ∈ ['\u3000'], isBlank c = true := List.forall_mem_singleton.mpr rfl
  have hbehind : Padded "17-4-5 1:02:3.5".toList "17-4-5 1:02:3.5\u3000".toList :=
    ⟨[], ['\u3000'], nofun, hblank, by decide +kernel⟩
  refine ⟨horder _ _ (List.reverse_perm _), ?_⟩
  rw [hpadded _ _ hbehind]
  decide +kernel

end FieldRules
