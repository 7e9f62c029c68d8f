import FieldRules.Proofs.JsonOrder
import FieldRules.Proofs.ScaledReading

/-!
Values all of whose numbers are finite, at any depth. Those made of JSON are such: a JSON value
holds integers of 64 bits and finite doubles, since the reader refuses a number that is too large,
and neither dividing by a power of ten nor rounding makes one infinite. Main statements:
`Json.proper_of_ofText?` and `Value.hasFiniteNumbers_ofJson`.
-/
namespace FieldRules

open Json (NumberText absorb)

namespace Double

/-! ### Numbers that are read -/

theorem isFinite_ofUnits {units : ℕ} (negative : Bool) (h : Representable units) :
    (ofUnits negative units).isFinite = true := by
  rw [ofUnits_eq negative h]
  rfl

theorem isFinite_ofInt {n : ℤ} (h : n.natAbs ≤ 10 ^ 308) : (ofInt n).isFinite = true :=
  isFinite_ofUnits _ (representable_wholeUnits h)

theorem isFinite_negate {d : Double} (h : d.isFinite = true) : d.negate.isFinite = true := by
  cases d with
  | finite => rfl
  | nan | infinite => cases h

/-- The double of a power of ten is not far below one. -/
theorem unitsPerOne_le_ten_pow (n : ℕ) : unitsPerOne ≤ 2 * wholeUnits (10 ^ n) := by
  have hnear := (near_ten_pow n).1
  have hone : (1 : ℚ) ≤ 10 ^ n := one_le_pow₀ (by norm_num)
  have hunits := unitsPerOne_posQ
  have hhalf : 1 / 2 ≤ shrink ^ 1 := by
    unfold shrink
    norm_num
  have hscaled : (unitsPerOne : ℚ) ≤ 10 ^ n * unitsPerOne := le_mul_of_one_le_left hunits.le hone
  have hshrunk := mul_le_mul_of_nonneg_right hhalf (hunits.le.trans hscaled)
  have hle : (unitsPerOne : ℚ) ≤ 2 * wholeUnits (10 ^ n) := by linarith
  exact_mod_cast hle

/-- Rounding does not go past a power of two. -/
theorem roundUnits_le_of_lt {num den k : ℕ} (hden : 0 < den) (h : num < 2 ^ (k + 1) * den) :
    roundUnits num den ≤ 2 ^ (k + 1) := by
  have hdiv := (Nat.div_lt_iff_lt_mul hden).mpr h
  have hlog : (num / den).log2 + 1 ≤ k + 1 := by
    rcases Nat.eq_zero_or_pos (num / den) with hzero | hpos
    · rw [hzero]
      exact Nat.succ_le_succ (Nat.zero_le k)
    · exact (Nat.log2_lt (Nat.pos_iff_ne_zero.mp hpos)).mpr hdiv
  exact (roundUnits_le_pow hden).trans (Nat.pow_le_pow_right (by decide) hlog)

/-- A quotient by a power of ten has at most two binary places more than the number. -/
theorem dividedUnits_lt {a k : ℕ} (h : a < 2 ^ k) (n : ℕ) : dividedUnits a n < 2 ^ (k + 2) := by
  have hten : 0 < wholeUnits (10 ^ n) := wholeUnits_pos (Nat.pow_pos (by decide))
  have hone := unitsPerOne_pos
  have hle := unitsPerOne_le_ten_pow n
  have hround {m : ℕ} := @roundUnits_le_of_lt (a * unitsPerOne) _ m hten
  unfold dividedUnits
  generalize unitsPerOne = one at hround hone hle ⊢
  have hlt : a * one < 2 ^ (k + 1) * wholeUnits (10 ^ n) := by
    calc
      a * one < 2 ^ k * one := Nat.mul_lt_mul_of_pos_right h hone
      _ ≤ 2 ^ k * (2 * wholeUnits (10 ^ n)) := Nat.mul_le_mul_left _ hle
      _ = 2 ^ (k + 1) * wholeUnits (10 ^ n) := by rw [← Nat.mul_assoc, ← Nat.pow_succ]
  exact (hround hlt).trans_lt (Nat.pow_lt_pow_right (by decide) (by omega))

theorem wholeUnits_lt {n k : ℕ} (h : n < 2 ^ k) : wholeUnits n < 2 ^ (k + 1075) := by
  unfold wholeUnits unitsPerOne
  generalize hbits : 1074 = bits
  obtain ⟨low, rfl⟩ := Nat.exists_eq_add_one_of_ne_zero (show bits ≠ 0 by omega)
  have hlt : n * Nat.pow 2 (low + 1) < 2 ^ (k + low + 1) * 1 := by
    rw [Nat.mul_one, Nat.add_assoc, Nat.pow_add]
    exact Nat.mul_lt_mul_of_pos_right h (Nat.pow_pos (by decide))
  exact (roundUnits_le_of_lt Nat.one_pos hlt).trans_lt
    (Nat.pow_lt_pow_right (by decide) (by omega))

theorem representable_dividedUnits_of_lt {a k : ℕ} (h : a < 2 ^ k) (hk : k + 2 ≤ 2098) (n : ℕ) :
    Representable (dividedUnits a n) := by
  refine representable_of_log2_lt (wholeUnits_pos (Nat.pow_pos (by decide))) (log2_lt_of_lt ?_)
  rw [pow_mul_widestGap]
  generalize 2098 = top at hk ⊢
  exact (dividedUnits_lt h n).trans_le (Nat.pow_le_pow_right (by decide) hk)

/-- Scaling stays among the finite numbers, as each round adds at most two binary places. -/
theorem isFinite_scaled? {rounds a k : ℕ} (ha : Representable a) (hlt : a < 2 ^ k)
    (hk : k + 2 * (rounds + 1) ≤ 2098) {exponent : ℤ} {d : Double}
    (h : Json.scaled? rounds (ofUnits false a) exponent = some d) : d.isFinite = true := by
  have hbase : (ofUnits false a).isFinite = true := isFinite_ofUnits false ha
  have hdivided (n : ℕ) : Representable (dividedUnits a n) :=
    representable_dividedUnits_of_lt hlt (by omega) n
  by_cases hneg : 0 ≤ exponent
  · unfold Json.scaled? at h
    rw [if_pos hneg] at h
    split at h
    · simp only [Option.ite_none_right_eq_some, Option.some.injEq] at h
      exact h.2 ▸ h.1
    · simp only [Option.ite_none_right_eq_some, Option.some.injEq] at h
      exact h.2 ▸ hbase
  · by_cases hsmall : -308 ≤ exponent
    · obtain ⟨n, hn⟩ := Int.eq_ofNat_of_zero_le (show 0 ≤ -exponent by omega)
      unfold Json.scaled? at h
      rw [if_neg hneg, if_pos hsmall, hn, div_ofDecimal ha (by omega)] at h
      obtain rfl := Option.some.inj h
      exact isFinite_ofUnits false (hdivided n)
    · unfold Json.scaled? at h
      rw [if_neg hneg, if_neg hsmall] at h
      cases rounds with
      | zero =>
        obtain rfl := Option.some.inj h
        exact hbase
      | succ rounds =>
        simp only at h
        rw [show (308 : ℤ) = (308 : ℕ) from rfl, div_ofDecimal ha (Nat.le_refl 308)] at h
        exact isFinite_scaled? (hdivided 308) (dividedUnits_lt hlt 308) (by omega) h

/-- The digits that are taken fit in 64 bits. -/
theorem absorb_lt {number : ℕ} (h : number < UInt64.size) (digits : List Char) :
    (absorb number digits).1 < UInt64.size := by
  induction digits generalizing number with
  | nil => exact h
  | cons d digits ih =>
    unfold absorb
    dsimp only
    split
    · rename_i hnext
      exact ih hnext
    · exact h

/-- A number that is too large for a double is not read as infinite, but not read at all. -/
theorem isFinite_of_toDouble? {n : NumberText} {d : Double} (h : n.toDouble? = some d) :
    d.isFinite = true := by
  unfold NumberText.toDouble? at h
  dsimp only at h
  obtain ⟨e, he, rfl⟩ := Option.map_eq_some_iff.mp h
  have hwhole := absorb_lt (show 0 < UInt64.size by decide) n.whole
  have hdigits := absorb_lt hwhole (n.fraction.getD [])
  have hfinite : e.isFinite = true := by
    rw [ofNat_eq] at he
    exact isFinite_scaled? (representable_digits (d := ⟨_, 0⟩) hdigits)
      (wholeUnits_lt (k := 64) hdigits) (by decide) he
  split
  · exact isFinite_negate hfinite
  · exact hfinite

end Double

namespace Json

/-- Integers of 64 bits and finite doubles only. -/
inductive Proper : Json → Prop
  | null : Proper .null
  | bool {b : Bool} : Proper (.bool b)
  | integer {n : ℤ} (low : Int64.minValue.toInt ≤ n) (high : n < UInt64.size) :
    Proper (.integer n)
  | double {d : Double} (finite : d.isFinite = true) : Proper (.double d)
  | string {s : String} : Proper (.string s)
  | array {items : List Json} (items_proper : ∀ item ∈ items, Proper item) : Proper (.array items)
  | object {members : List (String × Json)} (members_proper : ∀ m ∈ members, Proper m.2) :
    Proper (.object members)

theorem proper_of_toJson?_number {n : NumberText} {j : Json} (h : n.toJson? = some j) :
    j.Proper := by
  have hdouble {d : Option Double} (hd : ∀ e, d = some e → e.isFinite = true)
      (h : d.map Json.double = some j) : j.Proper := by
    obtain ⟨e, he, rfl⟩ := Option.map_eq_some_iff.mp h
    exact .double (hd e he)
  have hread := hdouble fun e => Double.isFinite_of_toDouble? (n := n)
  have hlow : Int64.minValue.toInt ≤ 0 := by decide
  have hhigh : (0 : ℤ) < UInt64.size := by decide
  unfold NumberText.toJson? at h
  dsimp only at h
  split at h
  · exact hread h
  · split at h
    · split at h
      · obtain rfl := Option.some.inj h
        exact .double (by decide)
      · split at h
        · rename_i hfits
          obtain rfl := Option.some.inj h
          exact .integer hfits (by omega)
        · exact hread h
    · split at h
      · rename_i hfits
        obtain rfl := Option.some.inj h
        exact .integer (by omega) (Int.ofNat_lt.mpr hfits)
      · exact hread h

/-- Whatever is read from a text has finite numbers. -/
theorem proper_of_ofText? {s : String} {j : Json} (h : ofText? s = some j) : j.Proper := by
  obtain ⟨d, -, hread⟩ := Option.bind_eq_some_iff.mp h
  exact read_induct .null (fun _ => .bool) proper_of_toJson?_number (fun _ => .string)
    (fun _ => .array) (fun _ => .object) hread

end Json

/-! ### Values -/

namespace Value

mutual

def numbers : Value → List Double
  | .number d => [d]
  | .array items => itemNumbers items
  | .object fields => fieldNumbers fields
  | _ => []

def itemNumbers : List Value → List Double
  | [] => []
  | item :: rest => item.numbers ++ itemNumbers rest

def fieldNumbers : List (String × Value) → List Double
  | [] => []
  | (_, value) :: rest => value.numbers ++ fieldNumbers rest

end

theorem itemNumbers_eq_flatMap (items : List Value) :
    itemNumbers items = items.flatMap numbers :=
  eq_flatMap_of_cons rfl (fun _ _ => rfl) items

theorem fieldNumbers_eq_flatMap (fields : List (String × Value)) :
    fieldNumbers fields = fields.flatMap fun f => f.2.numbers :=
  eq_flatMap_of_cons rfl (fun _ _ => rfl) fields

def HasFiniteNumbers (v : Value) : Prop := ∀ d ∈ v.numbers, d.isFinite = true

theorem hasFiniteNumbers_number (d : Double) :
    (number d).HasFiniteNumbers ↔ d.isFinite = true := List.forall_mem_singleton

theorem hasFiniteNumbers_array (items : List Value) :
    (array items).HasFiniteNumbers ↔ ∀ item ∈ items, item.HasFiniteNumbers := by
  unfold HasFiniteNumbers
  rw [numbers, itemNumbers_eq_flatMap]
  exact List.forall_mem_flatMap

theorem hasFiniteNumbers_object (fields : List (String × Value)) :
    (object fields).HasFiniteNumbers ↔ ∀ f ∈ fields, f.2.HasFiniteNumbers := by
  unfold HasFiniteNumbers
  rw [numbers, fieldNumbers_eq_flatMap]
  exact List.forall_mem_flatMap

/-- Whatever is read from JSON has finite numbers only. -/
theorem hasFiniteNumbers_ofJson {j : Json} (h : j.Proper) : (ofJson j).HasFiniteNumbers := by
  induction h with
  | null => exact List.forall_mem_nil _
  | bool => exact List.forall_mem_nil _
  | @integer n low high =>
    have hlow : Int64.minValue.toInt = -2 ^ 63 := rfl
    rw [ofJson, hasFiniteNumbers_number]
    refine Double.isFinite_ofInt (le_trans ?_ (Double.uint64_size_le_ten_pow (by decide)))
    unfold UInt64.size at high ⊢
    omega
  | double finite => exact (hasFiniteNumbers_number _).mpr finite
  | string => exact List.forall_mem_nil _
  | array _ ih =>
    rw [ofJson, hasFiniteNumbers_array, ofJsonItems_eq_map, List.forall_mem_map]
    exact ih
  | object _ ih =>
    rw [ofJson, hasFiniteNumbers_object, ofJsonMembers_eq_map, List.forall_mem_map]
    exact ih

end Value

/-- Each value of a record that is made of a JSON object is made of one of its members. -/
theorem Record.hasFiniteNumbers_ofJson? {j : Json} (h : j.Proper) {record : Record}
    (hrecord : ofJson? j = some record) {key : String} {v : Value}
    (hv : record.find? key = some v) : v.HasFiniteNumbers := by
  have hfields := Value.hasFiniteNumbers_ofJson h
  cases j with
  | object members =>
    obtain rfl := Option.some.inj hrecord
    rw [Value.ofJson, Value.hasFiniteNumbers_object] at hfields
    exact hfields (key, v) (Dict.mem_of_mem_ofList ((Dict.mem_entries_iff _ key v).mpr hv))
  | null | bool | integer | double | string | array => cases hrecord

end FieldRules
