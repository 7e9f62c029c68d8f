import FieldRules.Proofs.Footprint
import FieldRules.Proofs.StrictEquality
import FieldRules.Proofs.TruthValue
import Mathlib.Data.Option.Basic

/-!
Values that comparing cannot tell apart. A number that stands for a truth value equals one or zero,
and wherever loose equality asks for the reading of a value, the truth value reads as the same
number. So each is equal to all that the other is equal to, and putting the truth value in the
number's place changes no comparison, neither of this field nor of another. Main statement:
`normalization_invisible`.
-/
namespace FieldRules

namespace Double

/-- Equal numbers are equal to the same numbers. -/
theorem eq_congr {a b : Double} (h : a.eq b = true) (c : Double) : a.eq c = b.eq c := by
  cases a with
  | nan => cases h
  | infinite s =>
    cases b with
    | nan | finite => cases h
    | infinite t =>
      obtain rfl : s = t := beq_iff_eq.mp h
      rfl
  | finite s m hm =>
    have hunits := signedUnits_eq_of_eq h
    cases b with
    | nan | infinite => cases h
    | finite t n hn =>
      cases c with
      | nan | infinite => rfl
      | finite => exact congrArg (· == signedUnits _) hunits

theorem eq_ofBool (s t : Bool) : (ofBool s).eq (ofBool t) = (s == t) := by
  cases s <;> cases t <;> decide +kernel

end Double

namespace Value

def Interchangeable (v w : Value) : Prop := ∀ t, v.looseEq t = w.looseEq t

namespace Interchangeable

variable {v w v' w' : Value}

theorem refl (v : Value) : v.Interchangeable v := fun _ => rfl

theorem symm (h : v.Interchangeable w) : w.Interchangeable v := fun t => (h t).symm

/-- Loose equality does not tell interchangeable values apart, on either side. -/
theorem looseEq_congr (hv : v.Interchangeable v') (hw : w.Interchangeable w') :
    v.looseEq w = v'.looseEq w' := by
  rw [hv w, looseEq_comm v' w, hw v', looseEq_comm w' v']

/-- An empty value is equal to itself, and to nothing with content. -/
theorem isEmpty_of_isEmpty (h : v.Interchangeable w) (hv : v.isEmpty = true) :
    w.isEmpty = true := by
  have hself : v.looseEq v = true := by
    rcases v.isEmpty_iff.mp hv with rfl | rfl <;> rfl
  rw [h v] at hself
  rw [← Bool.not_eq_false]
  intro hw
  rw [looseEq_of_isEmpty hw hv] at hself
  cases hself

theorem isEmpty_eq (h : v.Interchangeable w) : v.isEmpty = w.isEmpty := by
  rw [Bool.eq_iff_iff]
  exact ⟨h.isEmpty_of_isEmpty, h.symm.isEmpty_of_isEmpty⟩

end Interchangeable

section Readings

variable {v w : Value} {m n : Double} (hv : v.toNumber? = some m) (hw : w.toNumber? = some n)
  (h : m.eq n = true)
include hv hw h

theorem numbersEq_congr (t : Value) : v.numbersEq t = w.numbersEq t := by
  unfold numbersEq
  rw [hv, hw]
  cases t.toNumber? with
  | none => rfl
  | some k => exact Double.eq_congr h k

theorem dateEqNumber_congr (date : Time.Instant) : dateEqNumber date v = dateEqNumber date w := by
  unfold dateEqNumber
  rw [hv, hw]
  exact Double.eq_congr h _

end Readings

/-- Two truth values are compared directly, all other pairs in which a number or a truth value
occurs by their readings or not at all. -/
theorem StandsFor.interchangeable {d : Double} {t : Bool} (h : (Value.number d).StandsFor t) :
    (Value.number d).Interchangeable (.bool t) := by
  cases h with
  | @number _ n _ reading equal =>
    have hbool : (Value.bool t).toNumber? = some (.ofBool t) := rfl
    intro u
    cases u with
    | null | array | object => rfl
    | number e => exact numbersEq_congr reading hbool equal (.number e)
    | string s => exact numbersEq_congr reading hbool equal (.string s)
    | date i => exact dateEqNumber_congr reading hbool equal i
    | bool b =>
      calc
        (Value.number d).looseEq (.bool b) = (Value.bool t).numbersEq (.bool b) :=
          numbersEq_congr reading hbool equal (.bool b)
        _ = (t == b) := Double.eq_ofBool t b
        _ = (Value.bool t).looseEq (.bool b) := rfl

end Value

/-! ### Records -/

def ComparesAlike (first second : Record) (key : String) : Prop :=
  Option.Rel Value.Interchangeable (first.find? key) (second.find? key)

theorem ComparesAlike.of_find?_eq {first second : Record} {key : String}
    (h : first.find? key = second.find? key) : ComparesAlike first second key := by
  unfold ComparesAlike
  rw [h]
  cases second.find? key with
  | none => exact .none
  | some v => exact .some (.refl v)

namespace Builtin

variable {first second : Record} {field : String}

theorem content?_of_comparesAlike (h : ComparesAlike first second field) :
    Option.Rel Value.Interchangeable (Focus.mk first field).content?
      (Focus.mk second field).content? := by
  unfold ComparesAlike at h
  unfold Focus.content? Focus.value?
  generalize first.find? field = v?, second.find? field = w? at h ⊢
  cases h with
  | none => exact .none
  | some hvw =>
    rw [Option.filter_some, Option.filter_some, hvw.isEmpty_eq]
    split
    · exact .some hvw
    · exact .none

theorem comparison?_of_comparesAlike {other : String} (hfield : ComparesAlike first second field)
    (hother : ComparesAlike first second other) :
    comparison? ⟨first, field⟩ other = comparison? ⟨second, field⟩ other := by
  have hcontent := content?_of_comparesAlike hfield
  unfold ComparesAlike at hother
  unfold comparison?
  generalize (Focus.mk first field).content? = v?, (Focus.mk second field).content? = w?
    at hcontent ⊢
  generalize first.find? other = target?, second.find? other = target'? at hother ⊢
  cases hcontent with
  | none => rfl
  | some hvw =>
    cases hother with
    | none => rfl
    | some htarget => exact congrArg some (hvw.looseEq_congr htarget)

end Builtin

def Call.IsComparison (c : Call) : Prop :=
  ∃ b ∈ Builtin.comparisons, b.name = RuleToken.nameOf c.token

namespace Catalogue

open Builtin

/-- A comparison reads its own field and the one that it names. -/
theorem verdict?_of_comparesAlike {first second : Record} {c : Call} (hc : c.IsComparison)
    (h : ∀ key, key = c.field ∨ c.Compares key → ComparesAlike first second key) :
    (builtins.step first c).verdict? = (builtins.step second c).verdict? := by
  obtain ⟨b, hb, hname⟩ := hc
  unfold step
  simp only [judge?_builtins, (ofName?_eq_some_iff _ b).mpr hname, Option.map_some]
  refine congrArg some (check_congr_of_comparison hb fun other hother => ?_)
  exact comparison?_of_comparesAlike (h c.field (Or.inl rfl))
    (h other (Or.inr ⟨b, hb, hname, hother⟩))

/-- Where the record of the start has a number, whatever calls leave there compares alike. -/
theorem comparesAlike_settle (record : Record) (calls : List Call) {key : String} {d : Double}
    (hnumber : record.find? key = some (.number d)) :
    ComparesAlike record (builtins.settle record calls) key := by
  have hfind := find?_settle_builtins record calls key
  split at hfind
  · rw [find?_normalized, if_pos rfl] at hfind
    cases htruth : truth? record key with
    | none =>
      rw [htruth] at hfind
      exact .of_find?_eq hfind.symm
    | some t =>
      obtain ⟨v, hv, -, hstands⟩ := (truth?_eq_some_iff record key t).mp htruth
      obtain rfl := Option.some.inj (hnumber.symm.trans hv)
      rw [htruth] at hfind
      unfold ComparesAlike
      rw [hfind, hnumber]
      exact .some hstands.interchangeable
  · exact .of_find?_eq hfind.symm

end Catalogue

open Builtin Catalogue

/-- The truth value that the check for truth values puts in a number's place is equal to the same
values as the number, on either side, and every comparison comes out the same on the record with the
one and with the other. In a run, too, a comparison comes out as it would if any of the numbers that
the steps before it replaced still stood in the record. -/
theorem normalization_invisible :
    (∀ (record : Record) (field : String) (args : List String) (d : Double) (value : Value),
      record.find? field = some (.number d) →
      bool.validator.check ⟨record, field⟩ args = .ok (.replace value) →
        (∃ t, value = .bool t) ∧
        (∀ u : Value, (Value.number d).looseEq u = value.looseEq u ∧
          u.looseEq (.number d) = u.looseEq value) ∧
        ∀ c : Call, c.IsComparison →
          (builtins.step (record.insert field value) c).verdict? =
            (builtins.step record c).verdict?) ∧
    (∀ (record : Record) (calls : List Call), ∀ s ∈ builtins.trace record calls,
      s.call.IsComparison → ∀ other : Record,
        (∀ key, key = s.call.field ∨ s.call.Compares key →
          other.find? key = s.record.find? key ∨
            (∃ d, record.find? key = some (.number d)) ∧ other.find? key = record.find? key) →
        (builtins.step other s.call).verdict? = s.verdict?) := by
  constructor
  · intro record field args d value hnumber hcheck
    obtain ⟨t, htruth, rfl⟩ := (checkBool_eq_replace_iff record field args value).mp hcheck
    obtain ⟨v, hv, -, hstands⟩ := (truth?_eq_some_iff record field t).mp htruth
    obtain rfl := Option.some.inj (hnumber.symm.trans hv)
    have halike := hstands.interchangeable
    refine ⟨⟨t, rfl⟩, fun u => ⟨halike u, (Value.Interchangeable.refl u).looseEq_congr halike⟩, ?_⟩
    intro c hc
    refine verdict?_of_comparesAlike hc fun key _ => ?_
    by_cases hkey : key = field
    · subst hkey
      unfold ComparesAlike
      rw [Dict.find?_insert_self, hnumber]
      exact .some halike.symm
    · refine .of_find?_eq ?_
      rw [Dict.find?_insert, if_neg hkey]
  · intro record calls s hs hc other hother
    obtain ⟨first, hfirst⟩ := exists_settle_of_mem_trace hs
    rw [eq_step_of_mem_trace hs]
    refine verdict?_of_comparesAlike hc fun key hkey => ?_
    rcases hother key hkey with hsame | ⟨⟨d, hnumber⟩, hstart⟩
    · exact .of_find?_eq hsame
    · have halike := comparesAlike_settle record first hnumber
      unfold ComparesAlike at halike ⊢
      rw [hstart, hfirst]
      exact halike

/-- A one is replaced, and the text of a number is equal to it as it is to what takes its place. -/
theorem normalization_invisible_of_one :
    bool.validator.check ⟨.ofList [("f", .number .one)], "f"⟩ [] = .ok (.replace (.bool true)) ∧
      (Value.number .one).looseEq (.string "1.0") = (Value.bool true).looseEq (.string "1.0") := by
  have hnumber : Dict.find? (.ofList [("f", .number .one)]) "f" = some (Value.number .one) := rfl
  have hfinite : Double.one.isFinite = true := by decide +kernel
  have hone : Double.ofBool true = .one := if_pos rfl
  have hequal : Double.one.eq (.ofBool true) = true := by
    rw [← hone, Double.eq_ofBool]
    rfl
  have htruth : truth? (.ofList [("f", .number .one)]) "f" = some true :=
    (truth?_eq_some_iff _ _ _).mpr
      ⟨.number .one, hnumber, rfl, .number (Value.toNumber?_number hfinite) hequal⟩
  have hcheck : bool.validator.check ⟨.ofList [("f", .number .one)], "f"⟩ [] =
      .ok (.replace (.bool true)) := by
    rw [show bool.validator.check = checkBool from rfl, checkBool_eq_replace_iff]
    exact ⟨true, htruth, rfl⟩
  exact ⟨hcheck, ((normalization_invisible.1 _ "f" [] .one _ hnumber hcheck).2.1 _).1⟩

end FieldRules
