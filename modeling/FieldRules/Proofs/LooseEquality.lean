import FieldRules.Value.Equality

/-!
The loose equality of values. It is symmetric, however deep the values are nested, though it is no
equivalence: `nan` is not equal to itself, and a number may be equal to two strings that differ.
What has content is not equal to what is empty. Main statements: `Value.looseEq_comm` and
`Value.looseEq_of_isEmpty`.
-/
namespace FieldRules

namespace Double

protected theorem eq_comm (a b : Double) : a.eq b = b.eq a := by
  cases a with
  | nan => cases b <;> rfl
  | infinite s =>
    cases b with
    | infinite t => exact Bool.beq_comm
    | nan | finite => rfl
  | finite s m hm =>
    cases b with
    | finite t n hn => exact Bool.beq_comm
    | nan | infinite => rfl

end Double

namespace Value

mutual

/-- Strict equality is symmetric; the proof follows its recursion over both values. -/
theorem strictEq_comm : ∀ a b : Value, a.strictEq b = b.strictEq a
  | .null, b => by cases b <;> rfl
  | .bool p, b => by
    cases b with
    | bool q => exact Bool.beq_comm
    | _ => rfl
  | .number m, b => by
    cases b with
    | number n => exact Double.eq_comm m n
    | _ => rfl
  | .string s, b => by
    cases b with
    | string t => exact Bool.beq_comm
    | _ => rfl
  | .array xs, b => by
    cases b with
    | array ys => exact strictEqItems_comm xs ys
    | _ => rfl
  | .object fs, b => by
    cases b with
    | object gs => exact strictEqFields_comm fs gs
    | _ => rfl
  | .date d, b => by
    cases b with
    | date e => exact Bool.beq_comm
    | _ => rfl

theorem strictEqItems_comm : ∀ xs ys, strictEqItems xs ys = strictEqItems ys xs
  | [], ys => by cases ys <;> rfl
  | x :: xs, [] => rfl
  | x :: xs, y :: ys => by
    rw [strictEqItems, strictEqItems, strictEq_comm x y, strictEqItems_comm xs ys]

theorem strictEqFields_comm : ∀ fs gs, strictEqFields fs gs = strictEqFields gs fs
  | [], gs => by cases gs <;> rfl
  | (j, x) :: fs, [] => rfl
  | (j, x) :: fs, (k, y) :: gs => by
    rw [strictEqFields, strictEqFields, strictEq_comm x y, strictEqFields_comm fs gs,
      Bool.beq_comm (a := j)]

end

theorem numbersEq_comm (a b : Value) : a.numbersEq b = b.numbersEq a := by
  unfold numbersEq
  cases a.toNumber? with
  | none => cases b.toNumber? <;> rfl
  | some m =>
    cases b.toNumber? with
    | none => rfl
    | some n => exact Double.eq_comm m n

mutual

/-- A date is compared with other kinds in one way, on whichever side it stands; so are null, arrays
and objects. Only the scalars that are left are compared by their numbers. -/
theorem looseEq_comm : ∀ a b : Value, a.looseEq b = b.looseEq a
  | .null, b => by cases b <;> rfl
  | .bool p, b => by
    cases b with
    | bool q => exact Bool.beq_comm
    | number | string => exact numbersEq_comm _ _
    | _ => rfl
  | .number m, b => by
    cases b with
    | bool | number | string => exact numbersEq_comm _ _
    | _ => rfl
  | .string s, b => by
    cases b with
    | string t => exact Bool.beq_comm
    | bool | number => exact numbersEq_comm _ _
    | _ => rfl
  | .array xs, b => by
    cases b with
    | array ys => exact looseEqItems_comm xs ys
    | _ => rfl
  | .object fs, b => by
    cases b with
    | object gs => exact strictEqFields_comm fs gs
    | _ => rfl
  | .date d, b => by
    cases b with
    | date e => exact Bool.beq_comm
    | _ => rfl

theorem looseEqItems_comm : ∀ xs ys, looseEqItems xs ys = looseEqItems ys xs
  | [], ys => by cases ys <;> rfl
  | x :: xs, [] => rfl
  | x :: xs, y :: ys => by
    rw [looseEqItems, looseEqItems, looseEq_comm x y, looseEqItems_comm xs ys]

end

theorem isEmpty_iff (v : Value) : v.isEmpty = true ↔ v = .null ∨ v = .string "" := by
  cases v <;> simp [isEmpty]

/-- The empty string has no reading as a number, so that nothing but itself is equal to it. -/
theorem looseEq_of_isEmpty {v w : Value} (hv : v.isEmpty = false) (hw : w.isEmpty = true) :
    v.looseEq w = false := by
  have hblank : ∀ u : Value, u.numbersEq (.string "") = false := by
    intro u
    unfold numbersEq
    cases u.toNumber? <;> rfl
  rcases w.isEmpty_iff.mp hw with rfl | rfl
  · cases v with
    | null => cases hv
    | _ => rfl
  · cases v with
    | null => cases hv
    | bool p => exact hblank (.bool p)
    | number n => exact hblank (.number n)
    | string s =>
      rw [looseEq, beq_eq_false_iff_ne]
      intro hs
      subst hs
      cases hv
    | _ => rfl

end Value

end FieldRules
