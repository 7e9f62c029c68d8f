import FieldRules.Proofs.Builtins
import FieldRules.Proofs.IntText
import FieldRules.Proofs.Run

/-!
Wrong rules of the built-in validators. Whether a token is wrong, and how, can be seen from its text
and the policy alone: no check looks at the record before its arguments. Hence an error of a run is
that of the first wrong token, and every record gets it, whatever its fields hold and whatever was
put in their place before. Main statement: `validate_error_iff_misconfigured`.
-/
namespace FieldRules

def earliestMillis : Int := Time.earliestSecond * 1000
def latestMillis : Int := Time.latestSecond * 1000 + 999

/-- A bound of a date that is neither blank nor a 64-bit integer in the range of milliseconds. -/
def BadBound (arg : String) : Prop :=
  Text.trim arg ≠ "" ∧ ¬ ∃ n, IntText (Text.trim arg).toList n ∧
    (Int64.minValue.toInt ≤ n ∧ n ≤ Int64.maxValue.toInt) ∧ earliestMillis ≤ n ∧ n ≤ latestMillis

namespace Builtin

def Lacks (args : List String) (i : Nat) : Prop := ∀ arg, args[i]? = some arg → arg = ""

/-- What can be wrong with the arguments of a built-in. -/
inductive Fault : Builtin → List String → RuleError → Prop
  | missingField {b : Builtin} {args : List String}
      (kind : b ∈ [requiredWith, requiredWithout, sameAs, different]) (lacks : Lacks args 0) :
      Fault b args (.missingArgument b.name "fieldname")
  | missingPattern {args : List String} (lacks : Lacks args 0) :
      Fault regex args (.missingArgument "regex" "pattern")
  | badPattern {args : List String} {source : String} {fault : Pattern.Fault}
      (given : args[0]? = some source) (nonempty : source ≠ "")
      (uncompilable : Pattern.compile source = .error fault) :
      Fault regex args (.invalidPattern source fault)
  | badAfter {args : List String} {arg : String} (given : args[0]? = some arg)
      (bad : BadBound arg) : Fault date args (.invalidDateBound "after" (Text.trim arg))
  | badBefore {args : List String} {arg : String}
      (after : ∀ first, args[0]? = some first → ¬ BadBound first)
      (given : args[1]? = some arg) (bad : BadBound arg) :
      Fault date args (.invalidDateBound "before" (Text.trim arg))

end Builtin

/-- A token that is wrong under a policy, and the error that says how. -/
inductive Misconfigured (policy : Policy) : Call → RuleError → Prop
  | unknown {c : Call} (unregistered : ∀ b : Builtin, b.name ≠ RuleToken.nameOf c.token)
      (strict : policy = .error) :
      Misconfigured policy c (.unknownValidator (RuleToken.nameOf c.token) c.field)
  | fault {c : Call} {b : Builtin} {err : RuleError} (called : b.name = RuleToken.nameOf c.token)
      (wrong : b.Fault (b.arguments c.token) err) : Misconfigured policy c err

namespace Builtin

theorem argument?_eq_none_iff (args : List String) (i : Nat) :
    argument? args i = none ↔ Lacks args i := by
  unfold argument? Lacks
  cases args[i]? with
  | none => simp
  | some arg => simp [Option.filter_eq_none_iff]

theorem argument?_eq_some_iff (args : List String) (i : Nat) (arg : String) :
    argument? args i = some arg ↔ args[i]? = some arg ∧ arg ≠ "" := by
  unfold argument?
  rw [Option.filter_eq_some_iff]
  simp

/-- Seconds bound milliseconds, whose remainder is not negative. -/
theorem ofMillis?_isSome_iff (n : Int) :
    (Time.Instant.ofMillis? n).isSome = true ↔ earliestMillis ≤ n ∧ n ≤ latestMillis := by
  have hrange : (Time.earliestSecond ≤ n / 1000 ∧ n / 1000 ≤ Time.latestSecond) ↔
      earliestMillis ≤ n ∧ n ≤ latestMillis := by
    unfold earliestMillis latestMillis
    omega
  rw [← hrange]
  exact Time.Instant.inRange?_isSome_iff

/-- A bound that is not blank is bad exactly if no instant can be made of it. -/
theorem badBound_iff (arg : String) :
    BadBound arg ↔ Text.trim arg ≠ "" ∧
      (readInt? (Text.trim arg).toList).bind Time.Instant.ofMillis? = none := by
  unfold BadBound
  refine and_congr_right fun _ => ?_
  rw [Option.bind_eq_none_iff, not_exists]
  refine forall_congr' fun n => ?_
  have hread := readInt?_eq_some_iff (Text.trim arg).toList n
  have hmillis := ofMillis?_isSome_iff n
  constructor
  · intro hnot hsome
    obtain ⟨htext, hfits⟩ := hread.mp hsome
    rw [← Option.not_isSome_iff_eq_none, hmillis]
    exact fun hrange => hnot ⟨htext, hfits, hrange⟩
  · rintro hnone ⟨htext, hfits, hrange⟩
    have hsome := hmillis.mpr hrange
    rw [hnone (hread.mpr ⟨htext, hfits⟩)] at hsome
    cases hsome

/-- A bound is rejected exactly if it is bad, with the name that it goes by. -/
theorem dateBound_eq_error_iff (args : List String) (i : Nat) (name : String) (err : RuleError) :
    dateBound args i name = .error err ↔
      ∃ arg, args[i]? = some arg ∧ BadBound arg ∧ err = .invalidDateBound name (Text.trim arg) := by
  unfold dateBound
  cases args[i]? with
  | none => simp
  | some arg =>
    simp only [Option.map_some, Option.some.injEq, exists_eq_left', badBound_iff]
    by_cases hblank : Text.trim arg = ""
    · simp [hblank]
    · have hnonempty : (Text.trim arg).isEmpty = false := by simpa using hblank
      cases hdate : (readInt? (Text.trim arg).toList).bind Time.Instant.ofMillis? with
      | some date => simp [hnonempty]
      | none => simp [hnonempty, hblank, eq_comm]

/-- Either a bound is wrong, for whatever field, or both are right. -/
theorem checkDate_error_or_bounds (args : List String) :
    (∃ err, ∀ f, checkDate f args = .error err) ∨ ∃ least greatest,
      dateBound args 0 "after" = .ok least ∧ dateBound args 1 "before" = .ok greatest := by
  cases hleast : dateBound args 0 "after" with
  | error err =>
    refine Or.inl ⟨err, fun f => ?_⟩
    unfold checkDate
    rw [hleast]
    rfl
  | ok least =>
    cases hgreatest : dateBound args 1 "before" with
    | error err =>
      refine Or.inl ⟨err, fun f => ?_⟩
      unfold checkDate
      rw [hleast, hgreatest]
      rfl
    | ok greatest => exact Or.inr ⟨least, greatest, rfl, rfl⟩

/-- The first bound is looked at before the second, and both before the record. -/
theorem checkDate_eq_error_iff_bounds (f : Focus) (args : List String) (err : RuleError) :
    checkDate f args = .error err ↔ dateBound args 0 "after" = .error err ∨
      (∃ least, dateBound args 0 "after" = .ok least) ∧
        dateBound args 1 "before" = .error err := by
  unfold checkDate
  cases dateBound args 0 "after" with
  | error first => simp [bind, Except.bind]
  | ok least => cases dateBound args 1 "before" <;> simp [bind, Except.bind, pure, Except.pure]

theorem exists_dateBound_iff (args : List String) (i : Nat) (name : String) :
    (∃ bound, dateBound args i name = .ok bound) ↔
      ∀ arg, args[i]? = some arg → ¬ BadBound arg := by
  have herror := dateBound_eq_error_iff args i name
  constructor
  · rintro ⟨bound, hbound⟩ arg hgiven hbad
    have herr := (herror _).mpr ⟨arg, hgiven, hbad, rfl⟩
    cases hbound.symm.trans herr
  · intro hgood
    cases hbound : dateBound args i name with
    | ok bound => exact ⟨bound, rfl⟩
    | error err =>
      obtain ⟨arg, hgiven, hbad, -⟩ := (herror err).mp hbound
      exact absurd hbad (hgood arg hgiven)

theorem fault_date_iff (args : List String) (err : RuleError) : Fault date args err ↔
    (∃ arg, args[0]? = some arg ∧ BadBound arg ∧
      err = .invalidDateBound "after" (Text.trim arg)) ∨
    (∀ first, args[0]? = some first → ¬ BadBound first) ∧ ∃ arg, args[1]? = some arg ∧
      BadBound arg ∧ err = .invalidDateBound "before" (Text.trim arg) := by
  constructor
  · intro h
    cases h with
    | missingField kind => simp at kind
    | badAfter given bad => exact Or.inl ⟨_, given, bad, rfl⟩
    | badBefore after given bad => exact Or.inr ⟨after, _, given, bad, rfl⟩
  · rintro (⟨arg, given, bad, rfl⟩ | ⟨after, arg, given, bad, rfl⟩)
    · exact .badAfter given bad
    · exact .badBefore after given bad

theorem checkDate_eq_error_iff (f : Focus) (args : List String) (err : RuleError) :
    checkDate f args = .error err ↔ Fault date args err := by
  rw [checkDate_eq_error_iff_bounds, fault_date_iff, exists_dateBound_iff,
    dateBound_eq_error_iff, dateBound_eq_error_iff]

theorem checkRegex_eq_error_iff (f : Focus) (args : List String) (err : RuleError) :
    checkRegex f args = .error err ↔ Fault regex args err := by
  unfold checkRegex
  cases harg : argument? args 0 with
  | none =>
    have hlacks := (argument?_eq_none_iff args 0).mp harg
    constructor
    · intro h
      cases Except.error.inj h
      exact .missingPattern hlacks
    · intro h
      cases h with
      | missingField kind => simp at kind
      | missingPattern => rfl
      | badPattern given nonempty => exact absurd (hlacks _ given) nonempty
  | some source =>
    obtain ⟨hgiven, hne⟩ := (argument?_eq_some_iff args 0 source).mp harg
    constructor
    · intro h
      cases hcompile : Pattern.compile source with
      | ok p => simp [hcompile] at h
      | error fault =>
        simp only [hcompile, Except.error.injEq] at h
        exact h ▸ .badPattern hgiven hne hcompile
    · intro h
      cases h with
      | missingField kind => simp at kind
      | missingPattern lacks => exact absurd (lacks source hgiven) hne
      | badPattern given nonempty uncompilable =>
        rw [hgiven] at given
        cases given
        simp [uncompilable]

/-- The validators that name another field have nothing else that can be wrong. -/
theorem fault_iff_of_field {b : Builtin}
    (h : b ∈ [requiredWith, requiredWithout, sameAs, different]) (args : List String)
    (err : RuleError) :
    Fault b args err ↔ argument? args 0 = none ∧ err = .missingArgument b.name "fieldname" := by
  rw [argument?_eq_none_iff]
  constructor
  · intro hfault
    cases hfault with
    | missingField _ lacks => exact ⟨lacks, rfl⟩
    | missingPattern | badPattern | badAfter | badBefore => simp at h
  · rintro ⟨lacks, rfl⟩
    exact .missingField h lacks

theorem named_eq_error_iff {validator : String} {judge : String → Verdict} (args : List String)
    (err : RuleError) :
    (match argument? args 0 with
      | none => .error (.missingArgument validator "fieldname")
      | some other => .ok (judge other) : Except RuleError Verdict) = .error err ↔
      argument? args 0 = none ∧ err = .missingArgument validator "fieldname" := by
  cases argument? args 0 with
  | none =>
    rw [Except.error.injEq]
    exact ⟨fun h => ⟨rfl, h.symm⟩, fun h => h.2.symm⟩
  | some other => exact ⟨nofun, nofun⟩

theorem not_fault {b : Builtin}
    (h : b ∉ [requiredWith, requiredWithout, sameAs, different, regex, date])
    (args : List String) (err : RuleError) : ¬ Fault b args err := by
  intro hfault
  cases hfault <;> simp_all

/-- A check errs exactly if its arguments are wrong, whatever the record. -/
theorem check_eq_error_iff (b : Builtin) (f : Focus) (args : List String) (err : RuleError) :
    b.validator.check f args = .error err ↔ Fault b args err := by
  cases b with
  | regex => exact checkRegex_eq_error_iff f args err
  | date => exact checkDate_eq_error_iff f args err
  | required | array | num | url | email | bool =>
    exact iff_of_false nofun (not_fault (by decide) args err)
  | requiredWith | requiredWithout | sameAs | different =>
    rw [fault_iff_of_field (by decide)]
    exact named_eq_error_iff args err

end Builtin

namespace Catalogue

/-- A step over the built-ins errs exactly if its token is wrong. -/
theorem error?_step_builtins_iff (policy : Policy) (record : Record) (c : Call)
    (err : RuleError) :
    (builtins.step record c).error? policy = some err ↔ Misconfigured policy c err := by
  unfold Step.error? step
  simp only
  cases hverdict : builtins.judge? ⟨record, c.field⟩ c.token with
  | none =>
    have hunknown := (judge?_builtins_eq_none_iff _ _).mp hverdict
    simp only [Option.ite_none_right_eq_some, Option.some.injEq]
    constructor
    · rintro ⟨hstrict, rfl⟩
      exact .unknown hunknown hstrict
    · intro h
      cases h with
      | unknown _ hstrict => exact ⟨hstrict, rfl⟩
      | fault called => exact absurd called (hunknown _)
  | some verdict =>
    obtain ⟨b, hb, hcheck⟩ := (judge?_builtins_eq_some_iff _ _ _).mp hverdict
    have hfault := Builtin.check_eq_error_iff b ⟨record, c.field⟩ (b.arguments c.token) err
    have hiff : Misconfigured policy c err ↔ verdict = .error err := by
      rw [← hcheck, hfault]
      constructor
      · intro h
        cases h with
        | unknown unregistered => exact absurd hb (unregistered b)
        | fault called wrong => exact Builtin.name_injective (called.trans hb.symm) ▸ wrong
      · exact .fault hb
    rw [hiff]
    cases verdict <;> simp

/-- The error of a call, if it has one; the record that it finds does not matter. -/
def fault? (policy : Policy) (c : Call) : Option RuleError :=
  (builtins.step .empty c).error? policy

/-- A call has an error exactly if it is misconfigured, by that error. -/
theorem fault?_eq_some_iff (policy : Policy) (c : Call) (err : RuleError) :
    fault? policy c = some err ↔ Misconfigured policy c err :=
  error?_step_builtins_iff policy .empty c err

theorem fault?_eq_none_iff (policy : Policy) (c : Call) :
    fault? policy c = none ↔ ∀ err, ¬ Misconfigured policy c err := by
  rw [Option.eq_none_iff_forall_ne_some]
  exact forall_congr' fun err => not_congr (fault?_eq_some_iff policy c err)

/-- The record that a call finds does not matter to its error. -/
theorem error?_step_builtins (policy : Policy) (record : Record) (c : Call) :
    (builtins.step record c).error? policy = fault? policy c := by
  apply Option.ext
  intro err
  rw [error?_step_builtins_iff, fault?_eq_some_iff]

/-- The first error of a trace is that of the first wrong call. -/
theorem findSome?_error?_trace (policy : Policy) (record : Record) (calls : List Call) :
    (builtins.trace record calls).findSome? (Step.error? policy) =
      calls.findSome? (fault? policy) := by
  induction calls generalizing record with
  | nil => rfl
  | cons c rest ih =>
    rw [trace, List.findSome?_cons, List.findSome?_cons, error?_step_builtins, ih]

end Catalogue

theorem Engine.firstError?_builtins (policy : Policy) (record : Record) (rules : RuleSet) :
    firstError? ⟨.builtins, policy⟩ record rules =
      rules.calls.findSome? (Catalogue.fault? policy) :=
  Catalogue.findSome?_error?_trace policy record rules.calls

/-- Over the built-ins validation ends in an error if and only if a token is misconfigured, and then
with the error of the first one. So all records fare alike. -/
theorem validate_error_iff_misconfigured (policy : Policy) (rules : RuleSet) (record : Record) :
    (∀ err, (Engine.validate ⟨.builtins, policy⟩ record rules).result = .error err ↔
      ∃ before c after, rules.calls = before ++ c :: after ∧
        (∀ b ∈ before, ∀ e, ¬ Misconfigured policy b e) ∧ Misconfigured policy c err) ∧
    ((∃ err, (Engine.validate ⟨.builtins, policy⟩ record rules).result = .error err) ↔
      ∃ c ∈ rules.calls, ∃ err, Misconfigured policy c err) ∧
    (∀ other err, (Engine.validate ⟨.builtins, policy⟩ other rules).result = .error err ↔
      (Engine.validate ⟨.builtins, policy⟩ record rules).result = .error err) := by
  have hfirst : ∀ r err, (Engine.validate ⟨.builtins, policy⟩ r rules).result = .error err ↔
      rules.calls.findSome? (Catalogue.fault? policy) = some err := by
    intro r err
    rw [Engine.validate_error_iff]
    unfold Engine.firstError? Engine.steps
    rw [Catalogue.findSome?_error?_trace]
  refine ⟨?_, ?_, ?_⟩
  · intro err
    rw [hfirst, List.findSome?_eq_some_iff]
    simp only [Catalogue.fault?_eq_some_iff, Catalogue.fault?_eq_none_iff]
    refine exists_congr fun before => exists_congr fun c => exists_congr fun after => ?_
    exact and_congr_right fun _ => and_comm
  · simp only [hfirst, ← Catalogue.fault?_eq_some_iff]
    constructor
    · rintro ⟨err, herr⟩
      obtain ⟨c, hc, hfault⟩ := List.exists_of_findSome?_eq_some herr
      exact ⟨c, hc, err, hfault⟩
    · rintro ⟨c, hc, err, hfault⟩
      rw [← Option.isSome_iff_exists, List.findSome?_isSome_iff]
      exact ⟨c, hc, Option.isSome_of_eq_some hfault⟩
  · intro other err
    rw [hfirst, hfirst]

end FieldRules
