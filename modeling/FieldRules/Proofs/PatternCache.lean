import FieldRules.Builtin.PatternCache
import FieldRules.Proofs.Builtins

/-!
The compiled patterns do not show. Whatever checks came before, one after another or at the same
time, a source is kept only with the pattern that it compiles to; so each check comes to what it
would come to if nothing were kept. After checks that came one after another the sources kept are
those that were asked for and have a pattern. Main statement: `transparency`.
-/
namespace FieldRules

open Pattern

namespace PatternCache

def Faithful (c : PatternCache) : Prop := ∀ source p, c.find? source = some p →
  compile source = .ok p

section Fetching

variable {c : PatternCache} {source : String} {p : Pattern Atom} {fault : Pattern.Fault}

theorem fetch_of_kept (h : c.find? source = some p) : c.fetch source = .ok (p, false) := by
  rw [fetch, h]

theorem fetch_of_compiles (h : c.find? source = none) (hp : compile source = .ok p) :
    c.fetch source = .ok (p, true) := by
  rw [fetch, h]
  simp only [hp]

theorem fetch_of_fault (h : c.find? source = none) (hf : compile source = .error fault) :
    c.fetch source = .error (.invalidPattern source fault) := by
  rw [fetch, h]
  simp only [hf]

/-- A new pattern is the one that its source compiles to. -/
theorem compile_of_fetch (h : c.fetch source = .ok (p, true)) : compile source = .ok p := by
  cases hfind : c.find? source with
  | some q => simp [fetch_of_kept hfind] at h
  | none =>
    cases hcompile : compile source with
    | error fault => simp [fetch_of_fault hfind hcompile] at h
    | ok q =>
      rw [fetch_of_compiles hfind hcompile] at h
      cases h
      rfl

end Fetching

theorem find?_add (c : PatternCache) (source : String) (p : Pattern Atom) (s : String) :
    (c.add source p).find? s = if s = source then some p else c.find? s :=
  Dict.find?_insert c.patterns source p s

theorem faithful_empty : empty.Faithful := fun source p h => by cases h

theorem Faithful.add {c : PatternCache} (hc : c.Faithful) {source : String} {p : Pattern Atom}
    (h : compile source = .ok p) : (c.add source p).Faithful := by
  intro s q hq
  rw [find?_add] at hq
  split at hq
  · rename_i hs
    cases hq
    rw [hs, h]
  · exact hc s q hq

/-- From a faithful cache comes what compiling gives. -/
theorem Faithful.compiled_fst {c : PatternCache} (hc : c.Faithful) (source : String) :
    (c.compiled source).1 = (compile source).mapError (RuleError.invalidPattern source) := by
  unfold compiled
  cases hfind : c.find? source with
  | some p =>
    rw [fetch_of_kept hfind, hc source p hfind]
    rfl
  | none =>
    cases hcompile : compile source with
    | error fault =>
      rw [fetch_of_fault hfind hcompile]
      rfl
    | ok p =>
      rw [fetch_of_compiles hfind hcompile]
      rfl

/-- Nothing is lost or changed, and the source is kept if it has a pattern. -/
theorem find?_compiled_snd (c : PatternCache) (source s : String) :
    (c.compiled source).2.find? s =
      (c.find? s).or (if s = source then (compile s).toOption else none) := by
  unfold compiled
  cases hfind : c.find? source with
  | some p =>
    rw [fetch_of_kept hfind]
    by_cases hs : s = source
    · simp [hs, hfind]
    · simp [hs]
  | none =>
    cases hcompile : compile source with
    | error fault =>
      rw [fetch_of_fault hfind hcompile]
      by_cases hs : s = source
      · simp [hs, hcompile, Except.toOption]
      · simp [hs]
    | ok p =>
      rw [fetch_of_compiles hfind hcompile]
      simp only [if_true, find?_add]
      by_cases hs : s = source
      · simp [hs, hfind, hcompile, Except.toOption]
      · simp [hs]

/-- Only a fault in the pattern is an error, and leaves the cache as it was. -/
theorem compiled_snd_of_error {c : PatternCache} {source : String} {err : RuleError}
    (h : (c.compiled source).1 = .error err) : (c.compiled source).2 = c := by
  unfold compiled at h ⊢
  cases hfetch : c.fetch source with
  | error err' => rfl
  | ok fetched =>
    rw [hfetch] at h
    cases h

end PatternCache

namespace RegexCheck

def outcome (check : RegexCheck) : Except RuleError Verdict :=
  Builtin.regex.validator.check check.focus check.args

theorem outcome_of_source {check : RegexCheck} {source : String}
    (h : check.source? = some source) : check.outcome =
      ((compile source).mapError (RuleError.invalidPattern source)).map (check.judge source) := by
  have hsource : argument? check.args 0 = some source := h
  change Builtin.checkRegex check.focus check.args = _
  rw [Builtin.checkRegex, hsource]
  simp only
  cases compile source <;> rfl

theorem outcome_of_no_source {check : RegexCheck} (h : check.source? = none) :
    check.outcome = .error (.missingArgument "regex" "pattern") := by
  have hsource : argument? check.args 0 = none := h
  change Builtin.checkRegex check.focus check.args = _
  rw [Builtin.checkRegex, hsource]

end RegexCheck

namespace PatternCache

def outcomes : PatternCache → List RegexCheck → List (Except RuleError Verdict)
  | _, [] => []
  | c, k :: rest => (c.check k).1 :: outcomes (c.check k).2 rest

def after (c : PatternCache) (history : List RegexCheck) : PatternCache :=
  history.foldl (fun c k => (c.check k).2) c

theorem check_of_source {k : RegexCheck} {source : String} (h : k.source? = some source)
    (c : PatternCache) :
    c.check k = ((c.compiled source).1.map (k.judge source), (c.compiled source).2) := by
  rw [check, h]

theorem check_of_no_source {k : RegexCheck} (h : k.source? = none) (c : PatternCache) :
    c.check k = (.error (.missingArgument "regex" "pattern"), c) := by
  rw [check, h]

/-- A check through a faithful cache comes to what it does without one. -/
theorem Faithful.check_fst {c : PatternCache} (hc : c.Faithful) (k : RegexCheck) :
    (c.check k).1 = k.outcome := by
  cases hsource : k.source? with
  | none => rw [check_of_no_source hsource, RegexCheck.outcome_of_no_source hsource]
  | some source =>
    rw [check_of_source hsource, RegexCheck.outcome_of_source hsource, hc.compiled_fst]

theorem check_snd_of_error {c : PatternCache} {k : RegexCheck} {err : RuleError}
    (h : (c.check k).1 = .error err) : (c.check k).2 = c := by
  cases hsource : k.source? with
  | none => rw [check_of_no_source hsource]
  | some source =>
    rw [check_of_source hsource] at h ⊢
    cases hcompiled : (c.compiled source).1 with
    | error fault => exact compiled_snd_of_error hcompiled
    | ok p =>
      rw [hcompiled] at h
      cases h

/-- A check adds at most the pattern of its own source, if that compiles. -/
theorem find?_check_snd (c : PatternCache) (k : RegexCheck) (s : String) :
    (c.check k).2.find? s =
      (c.find? s).or (if k.source? = some s then (compile s).toOption else none) := by
  cases hsource : k.source? with
  | none => simp [check_of_no_source hsource]
  | some source =>
    rw [check_of_source hsource, find?_compiled_snd]
    simp only [Option.some.injEq, eq_comm]

/-- The induction is on the checks: what is kept before them stays, and each adds its source. -/
theorem find?_after (c : PatternCache) (history : List RegexCheck) (s : String) :
    (c.after history).find? s = (c.find? s).or
      (if some s ∈ history.map RegexCheck.source? then (compile s).toOption else none) := by
  induction history generalizing c with
  | nil => simp [after]
  | cons k rest ih =>
    rw [show c.after (k :: rest) = (c.check k).2.after rest from rfl, ih, find?_check_snd,
      Option.or_assoc]
    by_cases hk : k.source? = some s
    · rw [if_pos hk, if_pos (List.mem_map.mpr ⟨k, List.mem_cons_self, hk⟩)]
      split
      · rw [Option.or_self]
      · rw [Option.or_none]
    · simp [hk, Ne.symm hk]

/-- A source with a fault is not kept. -/
example : (empty.after [⟨⟨.empty, "f"⟩, ["("]⟩, ⟨⟨.empty, "f"⟩, ["ab"]⟩]).patterns.keys =
    ["ab"] := by decide

/-- What the cache holds does not show in a check, nor in a token by which an engine calls one. -/
structure Transparent (c : PatternCache) : Prop where
  compile_eq : ∀ source p, c.find? source = some p → compile source = .ok p
  find?_of_fault : ∀ source fault, compile source = .error fault → c.find? source = none
  check_eq_fresh : ∀ k, (c.check k).1 = (empty.check k).1
  check_eq : ∀ k, (c.check k).1 = k.outcome
  judge?_eq : ∀ (catalogue : Catalogue) (f : Focus) (token : String),
    catalogue.find? (RuleToken.nameOf token) = some Builtin.regex.validator →
      catalogue.judge? f token = some (c.check ⟨f, Builtin.regex.arguments token⟩).1
  unchanged : ∀ k err, (c.check k).1 = .error err → (c.check k).2 = c

/-- All that a check shows follows from the patterns being right. -/
theorem Faithful.transparent {c : PatternCache} (hc : c.Faithful) : c.Transparent where
  compile_eq := hc
  find?_of_fault source fault hfault := by
    rw [Option.eq_none_iff_forall_ne_some]
    intro p hp
    rw [hc source p hp] at hfault
    cases hfault
  check_eq_fresh k := (hc.check_fst k).trans (faithful_empty.check_fst k).symm
  check_eq := hc.check_fst
  judge?_eq catalogue f token hcalled := by
    rw [hc.check_fst, Catalogue.judge?_eq_some_iff]
    exact ⟨Builtin.regex.validator, hcalled, rfl⟩
  unchanged k err := check_snd_of_error

end PatternCache

namespace PatternProcess

structure Sound (s : PatternProcess) : Prop where
  cache : s.cache.Faithful
  pending : ∀ e ∈ s.pending, compile e.1 = .ok e.2

theorem sound_start : start.Sound := ⟨PatternCache.faithful_empty, fun e he => by cases he⟩

/-- Others may have added patterns since a check looked, but its own is right all the same. -/
theorem Sound.after {s : PatternProcess} (hs : s.Sound) (a : PatternAccess) :
    (s.after a).Sound := by
  cases a with
  | look source =>
    unfold PatternProcess.after
    simp only
    split
    · rename_i p hfetch
      refine ⟨hs.cache, fun e he => ?_⟩
      rcases List.mem_append.mp he with he | he
      · exact hs.pending e he
      · rw [List.mem_singleton.mp he]
        exact PatternCache.compile_of_fetch hfetch
    · exact hs
  | add place =>
    unfold PatternProcess.after
    simp only
    split
    · rename_i source p hplace
      have hcompile := hs.pending _ (List.mem_of_getElem? hplace)
      exact ⟨hs.cache.add hcompile, fun e he => hs.pending e (List.mem_of_mem_eraseIdx he)⟩
    · exact hs

/-- By induction on the accesses, in whatever order the threads take turns. -/
theorem Sound.run {s : PatternProcess} (hs : s.Sound) (accesses : List PatternAccess) :
    (s.run accesses).Sound := by
  induction accesses generalizing s with
  | nil => exact hs
  | cons a rest ih => exact ih (hs.after a)

theorem run_append (s : PatternProcess) (first second : List PatternAccess) :
    s.run (first ++ second) = (s.run first).run second :=
  List.foldl_append

/-- A check that nothing interrupts. -/
theorem exists_run_check (c : PatternCache) (k : RegexCheck) :
    ∃ accesses, run ⟨c, []⟩ accesses = ⟨(c.check k).2, []⟩ := by
  cases hsource : k.source? with
  | none => exact ⟨[], by rw [PatternCache.check_of_no_source hsource]; rfl⟩
  | some source =>
    refine ⟨[.look source, .add 0], ?_⟩
    rw [PatternCache.check_of_source hsource]
    unfold PatternCache.compiled run
    simp only [List.foldl_cons, List.foldl_nil, PatternProcess.after]
    cases c.fetch source with
    | error err => rfl
    | ok fetched =>
      obtain ⟨p, isNew⟩ := fetched
      cases isNew <;> rfl

/-- Checks one after another are among those that may interrupt each other. -/
theorem exists_run_after (c : PatternCache) (history : List RegexCheck) :
    ∃ accesses, run ⟨c, []⟩ accesses = ⟨c.after history, []⟩ := by
  induction history generalizing c with
  | nil => exact ⟨[], rfl⟩
  | cons k rest ih =>
    obtain ⟨first, hfirst⟩ := exists_run_check c k
    obtain ⟨second, hsecond⟩ := ih (c.check k).2
    refine ⟨first ++ second, ?_⟩
    rw [run_append, hfirst, hsecond]
    rfl

end PatternProcess

namespace PatternCache

theorem Faithful.after {c : PatternCache} (hc : c.Faithful) (history : List RegexCheck) :
    (c.after history).Faithful := by
  obtain ⟨accesses, hrun⟩ := PatternProcess.exists_run_after c history
  have hsound : PatternProcess.Sound ⟨c, []⟩ := ⟨hc, fun e he => by cases he⟩
  have hafter := (hsound.run accesses).cache
  rwa [hrun] at hafter

theorem Faithful.outcomes_eq {c : PatternCache} (hc : c.Faithful) (history : List RegexCheck) :
    c.outcomes history = history.map RegexCheck.outcome := by
  induction history generalizing c with
  | nil => rfl
  | cons k rest ih =>
    have hnext : (c.check k).2.Faithful := hc.after [k]
    rw [outcomes, ih hnext, hc.check_fst, List.map_cons]

/-- After checks the cache has the patterns that were asked for and compile. -/
theorem find?_after_empty_iff (history : List RegexCheck) (source : String) (p : Pattern Atom) :
    (empty.after history).find? source = some p ↔
      compile source = .ok p ∧ ∃ k ∈ history, k.source? = some source := by
  rw [find?_after, show empty.find? source = none from rfl, Option.none_or]
  by_cases hasked : ∃ k ∈ history, k.source? = some source
  · rw [if_pos (List.mem_map.mpr hasked)]
    cases compile source with
    | error fault => simp [Except.toOption]
    | ok q => simp [Except.toOption, hasked]
  · rw [if_neg fun hmem => hasked (List.mem_map.mp hmem)]
    simp [hasked]

/-- In every state that a process reaches, with checks at the same time or one after another, what
it keeps does not show. Checks one after another come to what each comes to alone, and the sources
kept after them are those that were asked for and have a pattern. -/
theorem transparency :
    (∀ accesses, (PatternProcess.start.run accesses).cache.Transparent) ∧
    ∀ history, (empty.after history).Transparent ∧
      empty.outcomes history = history.map RegexCheck.outcome ∧
      ∀ source p, (empty.after history).find? source = some p ↔
        compile source = .ok p ∧ ∃ k ∈ history, k.source? = some source :=
  ⟨fun accesses => (PatternProcess.sound_start.run accesses).cache.transparent,
    fun history => ⟨(faithful_empty.after history).transparent,
      faithful_empty.outcomes_eq history, find?_after_empty_iff history⟩⟩

end PatternCache

end FieldRules
