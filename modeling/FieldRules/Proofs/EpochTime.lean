import FieldRules.Proofs.Misconfiguration
import FieldRules.Proofs.StrictEquality
import FieldRules.Proofs.WholeNumber

/-!
Instants and the numbers of their milliseconds. An instant of whole milliseconds, outside leap
seconds, is that of exactly one integer, and the integers that have one are all below 2⁵³ in size,
so that doubles hold them exactly. A number is read as the instant of its whole part, cut off toward
zero; an instant is written as the number of its milliseconds, rounded toward the past. Main
statements: `ofMillis?_eq_some_iff` and `number_date_conversion`.
-/
namespace FieldRules

namespace Time.Instant

def WholeMillis (i : Instant) : Prop := i.nanos % 1000000 = 0

def withNanos (i : Instant) (nanos : ℕ) (h : nanos ≤ i.nanos) : Instant :=
  { i with
    nanos
    nanos_lt := h.trans_lt i.nanos_lt
    leap := fun hle => i.leap (hle.trans h) }

def floorMillis (i : Instant) : Instant :=
  i.withNanos (i.nanos / 1000000 * 1000000) (Nat.div_mul_le_self _ _)

/-- The last instant of whole milliseconds that is not after `i`. -/
def IsFloor (i j : Instant) : Prop :=
  j.WholeMillis ∧ i.lt j = false ∧ ∀ k : Instant, k.WholeMillis → i.lt k = false → j.lt k = false

theorem lt_iff (i j : Instant) :
    i.lt j = true ↔ i.seconds < j.seconds ∨ i.seconds = j.seconds ∧ i.nanos < j.nanos := by
  unfold lt
  simp

theorem lt_eq_false_iff (i j : Instant) :
    i.lt j = false ↔ j.seconds < i.seconds ∨ i.seconds = j.seconds ∧ j.nanos ≤ i.nanos := by
  rw [← Bool.not_eq_true, lt_iff]
  omega

theorem isFloor_floorMillis (i : Instant) : i.IsFloor i.floorMillis := by
  refine ⟨Nat.mul_mod_left _ _, ?_, ?_⟩
  · rw [lt_eq_false_iff]
    exact Or.inr ⟨rfl, Nat.div_mul_le_self _ _⟩
  · intro k hk hle
    unfold WholeMillis at hk
    rw [lt_eq_false_iff] at hle ⊢
    unfold floorMillis withNanos
    dsimp only
    omega

/-- The instants that integers stand for are those of whole milliseconds outside leap seconds; in a
leap second the milliseconds run over into the next second. -/
theorem ofMillis?_eq_some_iff (n : ℤ) (i : Instant) :
    ofMillis? n = some i ↔ i.nanos < nanosPerSecond ∧ i.WholeMillis ∧ i.millis = n := by
  unfold ofMillis? WholeMillis millis nanosPerSecond
  rw [inRange?_eq_some_iff]
  omega

/-- Milliseconds drop what an instant has beyond them. -/
theorem ofMillis?_millis {i : Instant} (h : i.nanos < nanosPerSecond) :
    ofMillis? i.millis = some i.floorMillis := by
  have hnanos : i.nanos / 1000000 * 1000000 / 1000000 = i.nanos / 1000000 :=
    Nat.mul_div_cancel _ (by decide)
  rw [ofMillis?_eq_some_iff]
  refine ⟨(Nat.div_mul_le_self _ _).trans_lt h, (isFloor_floorMillis i).1, ?_⟩
  unfold millis floorMillis withNanos
  dsimp only
  rw [hnanos]

/-- Before 1970, too, a part of a millisecond is dropped toward the past. -/
example : ofMillis? (millis { seconds := -1, nanos := 999999999 }) =
    some { seconds := -1, nanos := 999000000 } := by decide

theorem ofMillis?_millis_of_whole {i : Instant} (h : i.nanos < nanosPerSecond)
    (hwhole : i.WholeMillis) : ofMillis? i.millis = some i :=
  (ofMillis?_eq_some_iff _ i).mpr ⟨h, hwhole, rfl⟩

/-- Instants of milliseconds are ordered as the integers are. -/
theorem lt_iff_of_ofMillis? {m n : ℤ} {i j : Instant} (hi : ofMillis? m = some i)
    (hj : ofMillis? n = some j) : i.lt j = true ↔ m < n := by
  obtain ⟨hnanosI, hwholeI, rfl⟩ := (ofMillis?_eq_some_iff m i).mp hi
  obtain ⟨hnanosJ, hwholeJ, rfl⟩ := (ofMillis?_eq_some_iff n j).mp hj
  unfold nanosPerSecond at hnanosI hnanosJ
  unfold WholeMillis at hwholeI hwholeJ
  rw [lt_iff]
  unfold millis
  omega

/-- The integers that have an instant are doubles. -/
theorem natAbs_lt_of_isSome {n : ℤ} (h : (ofMillis? n).isSome = true) : n.natAbs < 2 ^ 53 := by
  have hrange := (Builtin.ofMillis?_isSome_iff n).mp h
  unfold earliestMillis latestMillis earliestSecond latestSecond at hrange
  omega

/-- Every number of milliseconds that an instant has is a double itself. -/
theorem natAbs_millis_lt (i : Instant) : i.millis.natAbs < 2 ^ 53 := by
  have hearliest := i.earliest
  have hlatest := i.latest
  have hnanos := i.nanos_lt
  unfold earliestSecond at hearliest
  unfold latestSecond at hlatest
  unfold nanosPerSecond at hnanos
  unfold millis
  omega

end Time.Instant

def saturate (n : ℤ) : ℤ := max Int64.minValue.toInt (min n Int64.maxValue.toInt)

/-- The range of milliseconds lies well within 64 bits. -/
theorem millis_within_int64 :
    Int64.minValue.toInt < earliestMillis ∧ latestMillis < Int64.maxValue.toInt := by decide

/-- All that saturation changes is outside the range, and stays outside. -/
theorem ofMillis?_saturate (n : ℤ) :
    Time.Instant.ofMillis? (saturate n) = Time.Instant.ofMillis? n := by
  by_cases hfits : Int64.minValue.toInt ≤ n ∧ n ≤ Int64.maxValue.toInt
  · unfold saturate
    rw [min_eq_left hfits.2, max_eq_right hfits.1]
  · have hnone (m : ℤ) (hm : ¬ (earliestMillis ≤ m ∧ m ≤ latestMillis)) :
        Time.Instant.ofMillis? m = none := by
      rw [← Option.not_isSome_iff_eq_none, Builtin.ofMillis?_isSome_iff]
      exact hm
    obtain ⟨hmin, hmax⟩ := millis_within_int64
    rw [hnone, hnone]
    · omega
    · unfold saturate
      omega

namespace Value

/-- A number is read as a date by its whole part, since the cast to 64 bits changes no number in
range. -/
theorem toDate?_number {d : Double} (h : d.isFinite = true) :
    (number d).toDate? = Time.Instant.ofMillis? d.wholePart := by
  change d.truncate?.bind Time.Instant.ofMillis? = _
  rw [Double.truncate?_eq h, Option.bind_some]

/-- A number is equal to a date only if it is the integer of its milliseconds. -/
theorem looseEq_date_number (i : Time.Instant) {d : Double} (hd : d.isFinite = true) :
    (date i).looseEq (number d) = true ↔ d.IsInt i.millis := by
  obtain ⟨hfinite, hunits⟩ := Double.isInt_ofInt i.natAbs_millis_lt
  change dateEqNumber i (number d) = true ↔ _
  unfold dateEqNumber
  rw [toNumber?_number hd]
  dsimp only
  rw [Double.eq_iff_signedUnits hd hfinite, hunits]
  exact (and_iff_right hd).symm

theorem looseEq_date_ofInt (i : Time.Instant) {n : ℤ} (hn : n.natAbs < 2 ^ 53) :
    (date i).looseEq (number (.ofInt n)) = true ↔ i.millis = n := by
  have hint := Double.isInt_ofInt hn
  rw [looseEq_date_number i hint.1]
  constructor
  · intro h
    exact h.unique hint
  · intro h
    rwa [h]

end Value

open Time (Instant)

/-- A number has a date exactly if its whole part is in the range of milliseconds, where a cast to
64 bits, however far beyond it the number lies, makes no difference; the date has that many
milliseconds, and the number is equal to it only if it has no fraction. Back, the milliseconds of a
date are read as the date without its part of a millisecond; so dates of whole milliseconds may as
well be compared by their numbers, or one by its number. -/
theorem number_date_conversion :
    (∀ d : Double, d.isFinite = true →
      ((Value.number d).toDate?.isSome = true ↔
        earliestMillis ≤ d.wholePart ∧ d.wholePart ≤ latestMillis) ∧
      (Value.number d).toDate? = Instant.ofMillis? (saturate d.wholePart) ∧
      ∀ i : Instant, (Value.number d).toDate? = some i →
        i.millis = d.wholePart ∧
          ((Value.date i).looseEq (.number d) = true ↔ ∃ n, d.IsInt n)) ∧
    (∀ i : Instant, i.nanos < Time.nanosPerSecond →
      ∃ j, (Value.number (.ofInt i.millis)).toDate? = some j ∧ i.IsFloor j) ∧
    (∀ i j : Instant, i.nanos < Time.nanosPerSecond → i.WholeMillis →
      j.nanos < Time.nanosPerSecond → j.WholeMillis →
      (i = j ↔ i.millis = j.millis) ∧
      (i = j ↔ (Value.date i).looseEq (.date j) = true) ∧
      (i = j ↔ (Double.ofInt i.millis).eq (.ofInt j.millis) = true) ∧
      (i = j ↔ (Value.date i).looseEq (.number (.ofInt j.millis)) = true) ∧
      (i = j ↔ (Value.number (.ofInt i.millis)).looseEq (.date j) = true)) := by
  refine ⟨?_, ?_, ?_⟩
  · intro d hd
    rw [Value.toDate?_number hd]
    refine ⟨Builtin.ofMillis?_isSome_iff _, (ofMillis?_saturate _).symm, fun i hi => ?_⟩
    obtain ⟨-, -, hmillis⟩ := (Instant.ofMillis?_eq_some_iff _ i).mp hi
    refine ⟨hmillis, ?_⟩
    rw [Value.looseEq_date_number i hd]
    constructor
    · exact fun h => ⟨_, h⟩
    · rintro ⟨n, hn⟩
      rw [hmillis, hn.wholePart_eq]
      exact hn
  · intro i hi
    have hint := Double.isInt_ofInt i.natAbs_millis_lt
    refine ⟨i.floorMillis, ?_, Instant.isFloor_floorMillis i⟩
    rw [Value.toDate?_number hint.1, hint.wholePart_eq, Instant.ofMillis?_millis hi]
  · intro i j hi hwholeI hj hwholeJ
    have hintI := Double.isInt_ofInt i.natAbs_millis_lt
    have hintJ := Double.isInt_ofInt j.natAbs_millis_lt
    have hinj : i = j ↔ i.millis = j.millis := by
      rw [← Option.some.injEq, ← Instant.ofMillis?_millis_of_whole hi hwholeI,
        Instant.ofMillis?_eq_some_iff]
      exact ⟨fun h => h.2.2.symm, fun h => ⟨hj, hwholeJ, h.symm⟩⟩
    refine ⟨hinj, ?_, ?_, ?_, ?_⟩
    · exact beq_iff_eq.symm
    · rw [hinj, hintI.eq_iff hintJ]
    · rw [hinj, Value.looseEq_date_ofInt i j.natAbs_millis_lt]
    · rw [hinj, Value.looseEq_comm, Value.looseEq_date_ofInt j i.natAbs_millis_lt]
      exact eq_comm

/-- Half a millisecond before 1970 stands for the last whole millisecond before it. -/
theorem number_date_conversion_before_1970 :
    let i : Instant := { seconds := -1, nanos := 999500000 }
    i.nanos < Time.nanosPerSecond ∧
      ∃ j, (Value.number (.ofInt i.millis)).toDate? = some j ∧ i.IsFloor j := by
  intro i
  have hnanos : i.nanos < Time.nanosPerSecond := by decide
  exact ⟨hnanos, number_date_conversion.2.1 i hnanos⟩

end FieldRules
