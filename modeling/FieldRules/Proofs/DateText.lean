import FieldRules.Proofs.IntText
import FieldRules.Proofs.NumberReading
import FieldRules.Time.Reader
import FieldRules.Time.Text
import Mathlib.Tactic.IntervalCases

/-!
Reading back the written forms of an instant. Numbers are written with as many digits as the reader
takes, so that each part of a text ends where the next one begins; a fraction ends before the `Z`.
Main statements: `ofText?_internet` and `ofText?_mail`.
-/
namespace FieldRules.Time

open Text

/-! ### Numbers -/

section Digits

variable {least most : ℕ} {run rest : List Char}

/-- A run of digits is read whole if the reader stops after it or something else follows. -/
theorem digits?_append (hrun : ∀ c ∈ run, c.isDigit = true) (hleast : least ≤ run.length)
    (hmost : run.length ≤ most)
    (hend : run.length = most ∨ ∀ c, rest.head? = some c → c.isDigit = false) :
    digits? least most (run ++ rest) = some (run, rest) := by
  have hnone : (rest.take (most - run.length)).takeWhile Char.isDigit = [] := by
    rcases hend with rfl | hend
    · rw [Nat.sub_self, List.take_zero, List.takeWhile_nil]
    · cases rest with
      | nil => rw [List.take_nil, List.takeWhile_nil]
      | cons c rest =>
        cases most - run.length with
        | zero => rfl
        | succ n =>
          rw [List.take_succ_cons, List.takeWhile_cons_of_neg (by simp [hend c rfl])]
  have htake : ((run ++ rest).take most).takeWhile Char.isDigit = run := by
    rw [List.take_append, List.take_of_length_le hmost, List.takeWhile_append_of_pos hrun, hnone,
      List.append_nil]
  unfold digits?
  dsimp only
  rw [htake, if_neg (Nat.not_lt.mpr hleast), List.drop_left]

end Digits

section Padded

variable {width n : ℕ}

theorem isDigit_of_mem_padded {c : Char} (h : c ∈ padded width n) : c.isDigit = true := by
  rcases List.mem_append.mp h with h | h
  · exact isDigit_of_mem_zeros h
  · exact (isDigits_toDigits n).2 c h

theorem ofDigitChars_padded : Nat.ofDigitChars 10 (padded width n) 0 = n := by
  unfold padded
  dsimp only
  rw [Nat.ofDigitChars_append, Nat.ofDigitChars_replicate_zero, Nat.mul_zero, ofDigitChars_toDigits]

theorem length_padded (hwidth : 0 < width) (hn : n < 10 ^ width) :
    (padded width n).length = width := by
  have hlength := (Nat.length_toDigits_le_iff (by decide) hwidth).mpr hn
  unfold padded
  dsimp only
  rw [List.length_append, List.length_replicate]
  omega

theorem number?_padded {least : ℕ} (hwidth : 0 < width) (hleast : least ≤ width)
    (hn : n < 10 ^ width) (rest : List Char) :
    number? least width (padded width n ++ rest) = some (n, rest) := by
  have hlength := length_padded hwidth hn
  unfold number?
  rw [digits?_append (fun c => isDigit_of_mem_padded) (hlength.symm ▸ hleast) hlength.le
    (Or.inl hlength), Option.map_some, ofDigitChars_padded]

/-- A fraction is read in nanoseconds, however many of its nine digits are written. -/
theorem fraction?_padded (hwidth : 0 < width) (hmost : width ≤ 9) (hn : n < 10 ^ width)
    {rest : List Char} (hrest : ∀ c, rest.head? = some c → c.isDigit = false) :
    fraction? (padded width n ++ rest) = some (n * 10 ^ (9 - width), rest) := by
  have hlength := length_padded hwidth hn
  unfold fraction?
  rw [digits?_append (fun c => isDigit_of_mem_padded) (by omega) (by omega) (Or.inr hrest),
    Option.map_some, ofDigitChars_padded, hlength, dropWhile_of_head hrest]
  rfl

end Padded

/-- The fraction is written with as few groups of digits as it needs, and read with all nine. -/
theorem optionalFraction?_fractionText {nanos : ℕ} (h : nanos < 10 ^ 9) {c : Char}
    (hdigit : c.isDigit = false) (hpoint : c ≠ '.') (rest : List Char) :
    optionalFraction? (fractionText nanos ++ c :: rest) = some (nanos, c :: rest) := by
  have hrest : ∀ d, (c :: rest).head? = some d → d.isDigit = false := by
    rintro d hd
    obtain rfl := Option.some.inj hd
    exact hdigit
  unfold fractionText
  split
  · rename_i hzero
    rw [hzero, List.nil_append]
    unfold optionalFraction?
    split
    · rename_i heq
      exact absurd (List.cons.inj heq).1 hpoint
    · rfl
  · split
    · rename_i hmillis
      have hwhole : nanos / 1000000 * 10 ^ (9 - 3) = nanos :=
        Nat.div_mul_cancel (Nat.dvd_of_mod_eq_zero hmillis)
      change fraction? (padded 3 (nanos / 1000000) ++ c :: rest) = _
      rw [fraction?_padded (by decide) (by decide) (by omega) hrest, hwhole]
    · split
      · rename_i hmicros
        have hwhole : nanos / 1000 * 10 ^ (9 - 6) = nanos :=
          Nat.div_mul_cancel (Nat.dvd_of_mod_eq_zero hmicros)
        change fraction? (padded 6 (nanos / 1000) ++ c :: rest) = _
        rw [fraction?_padded (by decide) (by decide) (by omega) hrest, hwhole]
      · change fraction? (padded 9 nanos ++ c :: rest) = _
        rw [fraction?_padded (by decide) (by decide) h hrest, Nat.sub_self, Nat.pow_zero,
          Nat.mul_one]

/-! ### The Internet form -/

theorem bind_of_some {α β : Type} {o : Option α} {a : α} (h : o = some a) (f : α → Option β) :
    o.bind f = f a := by
  rw [h, Option.bind_some]

theorem char?_cons (c : Char) (rest : List Char) : char? c (c :: rest) = some rest := if_pos rfl

namespace Civil

/-- Each part fits in the digits that it is written with. -/
structure Fits (c : Civil) : Prop where
  year : 0 ≤ c.date.year ∧ c.date.year ≤ 9999
  month : 1 ≤ c.date.month ∧ c.date.month ≤ 12
  day : c.date.day < 100
  hour : c.hour < 100
  minute : c.minute < 100
  second : c.second < 100
  nanos : c.nanos < 10 ^ 9

def clock (c : Civil) : List Char :=
  padded 2 c.hour ++ ':' :: padded 2 c.minute ++ ':' :: padded 2 c.second

def internet (c : Civil) : List Char :=
  yearText c.date.year ++ '-' :: padded 2 c.date.month ++ '-' :: padded 2 c.date.day ++ 'T' ::
    c.clock ++ fractionText c.nanos ++ ['Z']

def mail (c : Civil) : List Char :=
  (weekdayNames.getD (weekday c.date.toDays) "").toList ++ ',' :: ' ' ::
    padded 2 c.date.day ++ ' ' :: (monthNames.getD (c.date.month - 1) "").toList ++
    ' ' :: yearText c.date.year ++ ' ' :: c.clock ++ " GMT".toList

/-- The Internet form has to begin with a digit. -/
theorem internetForm?_of_not_isDigit {s : List Char}
    (h : ∀ c, s.head? = some c → c.isDigit = false) : internetForm? s = none := by
  have hnone : number? 4 4 s = none := by
    cases s with
    | nil => rfl
    | cons c s =>
      unfold number? digits?
      rw [List.take_succ_cons, List.takeWhile_cons_of_neg (by simp [h c rfl])]
      rfl
  unfold internetForm?
  rw [hnone]
  rfl

variable {c : Civil} (h : c.Fits)
include h

theorem Fits.yearText_eq : yearText c.date.year = padded 4 c.date.year.toNat := by
  unfold yearText
  rw [if_pos h.year]

/-- The parts are read one after another, each with what follows it as its rest. -/
theorem internetForm?_internet : internetForm? c.internet = c.toInstant? 0 := by
  obtain ⟨hyear, hmonth, hday, hhour, hminute, hsecond, hnanos⟩ := id h
  have hcast : ((c.date.year.toNat : ℕ) : ℤ) = c.date.year := Int.toNat_of_nonneg hyear.1
  have htext : c.internet = padded 4 c.date.year.toNat ++ '-' :: (padded 2 c.date.month ++
      '-' :: (padded 2 c.date.day ++ 'T' :: (padded 2 c.hour ++ ':' :: (padded 2 c.minute ++
        ':' :: (padded 2 c.second ++ (fractionText c.nanos ++ ['Z'])))))) := by
    unfold internet clock
    rw [h.yearText_eq]
    simp only [List.append_assoc, List.cons_append]
  rw [htext]
  refine (bind_of_some (number?_padded (by decide) (by decide) (by omega) _) _).trans ?_
  refine (bind_of_some (char?_cons '-' _) _).trans ?_
  refine (bind_of_some (number?_padded (by decide) (by decide) (by omega) _) _).trans ?_
  refine (bind_of_some (char?_cons '-' _) _).trans ?_
  refine (bind_of_some (number?_padded (by decide) (by decide) (by omega) _) _).trans ?_
  refine (bind_of_some (number?_padded (by decide) (by decide) (by omega) _) _).trans ?_
  refine (bind_of_some (char?_cons ':' _) _).trans ?_
  refine (bind_of_some (number?_padded (by decide) (by decide) (by omega) _) _).trans ?_
  refine (bind_of_some (char?_cons ':' _) _).trans ?_
  refine (bind_of_some (number?_padded (by decide) (by decide) (by omega) _) _).trans ?_
  refine (bind_of_some (optionalFraction?_fractionText hnanos (by decide) (by decide) _) _).trans ?_
  exact congrArg (fun year => toInstant? ⟨⟨year, _, _⟩, _, _, _, _⟩ 0) hcast

end Civil

/-! ### The mail form -/

theorem weekday_lt (days : ℤ) : weekday days < 7 := by
  unfold weekday
  omega

theorem optionalWeekday?_name {day : ℕ} (h : day < 7) (rest : List Char) :
    optionalWeekday? ((weekdayNames.getD day "").toList ++ ',' :: rest) =
      some (some day, rest) := by
  interval_cases day <;> rfl

theorem name?_monthNames {month : ℕ} (h : month < 12) (rest : List Char) :
    name? monthNames ((monthNames.getD month "").toList ++ rest) = some (month, rest) := by
  interval_cases month <;> rfl

/-- Where no blank begins the text, there is none to skip. -/
theorem blanks?_cons {s : List Char} (h : ∀ c, s.head? = some c → isBlank c = false) :
    blanks? (' ' :: s) = some s := by
  have htrim : trimStart (' ' :: s) = s := trimStart_of_head h
  unfold blanks?
  rw [htrim, if_pos (by simp)]

theorem head?_padded {width n : ℕ} (hwidth : 0 < width) (hn : n < 10 ^ width) (rest : List Char) :
    ∀ c, (padded width n ++ rest).head? = some c → isBlank c = false := by
  intro c hc
  have hlength := length_padded hwidth hn
  rw [List.head?_append_of_ne_nil _ (List.ne_nil_of_length_pos (by omega))] at hc
  exact not_isBlank_of_isDigit (isDigit_of_mem_padded (List.mem_of_head? hc))

theorem number?_trimStart_padded {least width n : ℕ} (hwidth : 0 < width) (hleast : least ≤ width)
    (hn : n < 10 ^ width) (rest : List Char) :
    number? least width (trimStart (padded width n ++ rest)) = some (n, rest) := by
  rw [trimStart_of_head (head?_padded hwidth hn rest), number?_padded hwidth hleast hn]

theorem head?_monthNames {month : ℕ} (h : month < 12) (rest : List Char) :
    ∀ c, ((monthNames.getD month "").toList ++ rest).head? = some c → isBlank c = false := by
  interval_cases month <;> (rintro c ⟨⟩; decide)

theorem head?_weekdayNames {day : ℕ} (h : day < 7) (rest : List Char) :
    ∀ c, ((weekdayNames.getD day "").toList ++ rest).head? = some c →
      isBlank c = false ∧ c.isDigit = false := by
  interval_cases day <;> (rintro c ⟨⟩; decide)

theorem optionalWeekday?_trimStart {day : ℕ} (h : day < 7) (rest : List Char) :
    optionalWeekday? (trimStart ((weekdayNames.getD day "").toList ++ ',' :: rest)) =
      some (some day, rest) := by
  rw [trimStart_of_head fun c hc => (head?_weekdayNames h _ c hc).1, optionalWeekday?_name h]

theorem mailYear_padded {year : ℕ} (h : year < 10 ^ 4) : mailYear (padded 4 year) = year := by
  unfold mailYear
  rw [length_padded (by decide) h, ofDigitChars_padded]
  rfl

namespace Civil

variable {c : Civil} (h : c.Fits)
include h

/-- Here blanks stand between the parts, and the year takes all digits there are. -/
theorem mailForm?_mail : mailForm? c.mail = { c with nanos := 0 }.toInstant? 0 := by
  obtain ⟨hyear, hmonth, hday, hhour, hminute, hsecond, hnanos⟩ := id h
  have hcast : ((c.date.year.toNat : ℕ) : ℤ) = c.date.year := Int.toNat_of_nonneg hyear.1
  have htext : c.mail = (weekdayNames.getD (weekday c.date.toDays) "").toList ++ ',' :: ' ' ::
      (padded 2 c.date.day ++ ' ' :: ((monthNames.getD (c.date.month - 1) "").toList ++
        ' ' :: (padded 4 c.date.year.toNat ++ ' ' :: (padded 2 c.hour ++ ':' ::
          (padded 2 c.minute ++ ':' :: (padded 2 c.second ++ ' ' :: "GMT".toList)))))) := by
    unfold mail clock
    rw [h.yearText_eq]
    simp only [List.append_assoc, List.cons_append]
    rfl
  have hyearLength : (padded 4 c.date.year.toNat).length = 4 :=
    length_padded (by decide) (by omega)
  have hdate : (⟨mailYear (padded 4 c.date.year.toNat), c.date.month - 1 + 1, c.date.day⟩ : Date) =
      c.date := by
    rw [mailYear_padded (by omega), hcast, Nat.sub_add_cancel hmonth.1]
  rw [htext]
  refine (bind_of_some (optionalWeekday?_trimStart (weekday_lt _) _) _).trans ?_
  refine (bind_of_some (number?_trimStart_padded (by decide) (by decide) (by omega) _) _).trans ?_
  refine (bind_of_some (blanks?_cons (head?_monthNames (by omega) _)) _).trans ?_
  refine (bind_of_some (name?_monthNames (by omega) _) _).trans ?_
  refine (bind_of_some (blanks?_cons (head?_padded (by decide) (by omega) _)) _).trans ?_
  refine (bind_of_some (digits?_append (fun _ => isDigit_of_mem_padded) (by omega)
    (by simp only [List.length_cons, List.length_append]; omega)
    (Or.inr (by rintro d ⟨⟩; decide))) _).trans ?_
  refine (bind_of_some (blanks?_cons (head?_padded (by decide) (by omega) _)) _).trans ?_
  refine (bind_of_some (number?_padded (by decide) (by decide) (by omega) _) _).trans ?_
  refine (bind_of_some (char?_cons ':' _) _).trans ?_
  refine (bind_of_some (number?_trimStart_padded (by decide) (by decide) (by omega) _) _).trans ?_
  refine (bind_of_some (number?_padded (by decide) (by decide) (by omega) _) _).trans ?_
  refine (bind_of_some (blanks?_cons (by rintro d ⟨⟩; decide)) _).trans ?_
  change (if (true && (weekday (Date.toDays _) == weekday c.date.toDays)) = true
    then toInstant? ⟨_, _, _, _, _⟩ 0 else none) = _
  rw [hdate, beq_self_eq_true, Bool.and_self, if_pos rfl]

/-! ### Whole texts -/

/-- No other form takes the text of the Internet form from it. -/
theorem ofText?_internet {i : Instant} (hi : c.toInstant? 0 = some i) :
    Instant.ofText? (String.ofList c.internet) = some i := by
  have hyear := h.year
  have htrim : trimChars c.internet = c.internet := by
    apply trimChars_of_ends
    · unfold internet
      rw [h.yearText_eq]
      simp only [List.append_assoc]
      exact head?_padded (by decide) (by omega) _
    · intro d hd
      unfold internet at hd
      rw [List.getLast?_concat] at hd
      obtain rfl := Option.some.inj hd
      decide
  unfold Instant.ofText? forms
  rw [String.toList_ofList, htrim, List.findSome?_cons, internetForm?_internet h, hi]

theorem ofText?_mail {i : Instant} (hi : { c with nanos := 0 }.toInstant? 0 = some i) :
    Instant.ofText? (String.ofList c.mail) = some i := by
  have hhead : ∀ d, c.mail.head? = some d → isBlank d = false ∧ d.isDigit = false := by
    unfold mail
    simp only [List.append_assoc]
    exact head?_weekdayNames (weekday_lt _) _
  have htrim : trimChars c.mail = c.mail := by
    apply trimChars_of_ends
    · exact fun d hd => (hhead d hd).1
    · intro d hd
      unfold mail at hd
      rw [List.getLast?_append] at hd
      obtain rfl := Option.some.inj hd
      decide
  unfold Instant.ofText? forms
  rw [String.toList_ofList, htrim, List.findSome?_cons,
    internetForm?_of_not_isDigit fun d hd => (hhead d hd).2]
  dsimp only
  rw [List.findSome?_cons, mailForm?_mail h, hi]

end Civil

end FieldRules.Time
