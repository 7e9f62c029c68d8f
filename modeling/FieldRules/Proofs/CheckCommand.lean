import FieldRules.CommandLine.Run
import FieldRules.Proofs.ReportContents
import FieldRules.Proofs.ReportHistory
import FieldRules.Proofs.ReportRoundTrip
import FieldRules.Proofs.Settlement

/-!
The command that checks a record. It ends well exactly if there are rules and a record and the
validation passes; an error ends it with nothing printed, and otherwise what it prints, in either
format, is the answer of the validation. The format decides nothing else. Main statement:
`run_check`.
-/
namespace FieldRules.CommandLine

open Json (Document)

/-! ### What is checked -/

/-- The configuration of the file at a path; without one, that of the usual file if it is there, and
else the empty one. -/
def Configures (fs : FileSystem) (rules : Option String) (c : Config) : Prop :=
  match rules with
  | some path => ∃ text, fs.read? path = some text ∧ Config.ofText? text = some c
  | none =>
    if fs.contains Config.defaultPath then
      ∃ text, fs.read? Config.defaultPath = some text ∧ Config.ofText? text = some c
    else c = .empty

def Governs (unknownRules : Option String) (ofFile policy : Policy) : Prop :=
  match unknownRules with
  | some text => Policy.ofText? text = some policy
  | none => policy = ofFile

def Provides (s : Surroundings) (input : Option String) (text : String) : Prop :=
  match input with
  | some path => s.files.read? path = some text
  | none => text = s.stdin

structure Prepared (s : Surroundings) (rules input unknownRules : Option String) (config : Config)
    (record : Record) : Prop where
  configured : ∃ policy, Configures s.files rules ⟨policy, config.rules⟩ ∧
    Governs unknownRules policy config.policy
  ruled : config.rules.isEmpty = false
  provided : ∃ text members, Provides s input text ∧ Json.ofText? text = some (.object members) ∧
    Record.ofJson? (.object members) = some record

/-! ### Where rules and record come from -/

theorem bind_eq_ok_iff {ε α β : Type} {x : Except ε α} {f : α → Except ε β} {b : β} :
    (x >>= f) = .ok b ↔ ∃ a, x = .ok a ∧ f a = .ok b := by
  cases x with
  | error e => exact iff_of_false nofun fun ⟨_, h, _⟩ => nomatch h
  | ok a => exact ⟨fun h => ⟨a, rfl, h⟩, fun ⟨_, ha, h⟩ => by cases ha; exact h⟩

theorem ofFile_eq_ok_iff (fs : FileSystem) (path : String) (c : Config) :
    Config.ofFile fs path = .ok c ↔
      ∃ text, fs.read? path = some text ∧ Config.ofText? text = some c := by
  unfold Config.ofFile
  cases hread : fs.read? path with
  | none => simp
  | some text => cases hconfig : Config.ofText? text <;> simp [hconfig]

/-- Loading gives the configuration at the path, or else that of the usual file, or else the empty
one. -/
theorem load_eq_ok_iff (fs : FileSystem) (rules : Option String) (c : Config) :
    (Config.load fs rules).mapError Mishap.configFile = .ok c ↔ Configures fs rules c := by
  have hmap : (Config.load fs rules).mapError Mishap.configFile = .ok c ↔
      Config.load fs rules = .ok c := by
    cases Config.load fs rules <;> simp [Except.mapError]
  rw [hmap]
  unfold Config.load Configures
  cases rules with
  | some path => exact ofFile_eq_ok_iff fs path c
  | none =>
    dsimp only
    split
    · exact ofFile_eq_ok_iff fs _ c
    · rw [Except.ok.injEq, eq_comm]

def overridden (unknownRules : Option String) (c : Config) : Except Mishap Config :=
  match unknownRules with
  | none => .ok c
  | some text => match Policy.ofText? text with
    | some policy => .ok { c with policy }
    | none => .error (.unknownPolicy text)

theorem overridden_eq_ok_iff (unknownRules : Option String) (c config : Config) :
    overridden unknownRules c = .ok config ↔
      config.rules = c.rules ∧ Governs unknownRules c.policy config.policy := by
  obtain ⟨policy, rules⟩ := c
  obtain ⟨policy', rules'⟩ := config
  unfold overridden Governs
  cases unknownRules with
  | none => simp [eq_comm, and_comm]
  | some text =>
    cases htext : Policy.ofText? text with
    | none => simp [htext]
    | some given => simp [htext, eq_comm, and_comm]

/-- The rules of a run, with the policy of the arguments put in as a step of its own. -/
theorem rulesFor_eq (fs : FileSystem) (rules unknownRules : Option String) :
    rulesFor fs rules unknownRules = (do
      let c ← (Config.load fs rules).mapError .configFile
      let config ← overridden unknownRules c
      if config.rules.isEmpty then .error .noRules else .ok config) := by
  unfold rulesFor overridden
  cases unknownRules with
  | none => rfl
  | some text =>
    dsimp only
    cases Policy.ofText? text <;> rfl

theorem rulesFor_eq_ok_iff (fs : FileSystem) (rules unknownRules : Option String)
    (config : Config) : rulesFor fs rules unknownRules = .ok config ↔
      (∃ policy, Configures fs rules ⟨policy, config.rules⟩ ∧
        Governs unknownRules policy config.policy) ∧ config.rules.isEmpty = false := by
  have hruled (c : Config) : (if c.rules.isEmpty then .error .noRules else .ok c) =
      (.ok config : Except Mishap Config) ↔ c = config ∧ c.rules.isEmpty = false := by
    cases c.rules.isEmpty <;> simp
  rw [rulesFor_eq]
  simp only [bind_eq_ok_iff, load_eq_ok_iff, overridden_eq_ok_iff, hruled]
  constructor
  · rintro ⟨⟨policy, rules⟩, hfile, c, ⟨hrules, hgoverns⟩, rfl, hne⟩
    exact ⟨⟨policy, hrules ▸ hfile, hgoverns⟩, hne⟩
  · rintro ⟨⟨policy, hfile, hgoverns⟩, hne⟩
    exact ⟨⟨policy, config.rules⟩, hfile, config, ⟨rfl, hgoverns⟩, rfl, hne⟩

def inputText (s : Surroundings) (input : Option String) : Except Mishap String :=
  match input with
  | none => .ok s.stdin
  | some path => match s.files.read? path with
    | some text => .ok text
    | none => .error (.unreadableInput path)

theorem inputText_eq_ok_iff (s : Surroundings) (input : Option String) (text : String) :
    inputText s input = .ok text ↔ Provides s input text := by
  unfold inputText Provides
  cases input with
  | none => simp [eq_comm]
  | some path => cases hread : s.files.read? path <;> simp [hread]

theorem inputRecord_eq (s : Surroundings) (input : Option String) :
    inputRecord s input = (do
      match Json.ofText? (← inputText s input) with
      | none => .error .malformedInput
      | some json => match Record.ofJson? json with
        | none => .error .inputNotObject
        | some record => .ok record) := by
  unfold inputRecord inputText
  cases input with
  | none => rfl
  | some path =>
    dsimp only
    cases s.files.read? path <;> rfl

theorem inputRecord_eq_ok_iff (s : Surroundings) (input : Option String) (record : Record) :
    inputRecord s input = .ok record ↔
      ∃ text members, Provides s input text ∧ Json.ofText? text = some (.object members) ∧
        Record.ofJson? (.object members) = some record := by
  have hread (text : String) : (match Json.ofText? text with
      | none => .error .malformedInput
      | some json => match Record.ofJson? json with
        | none => .error .inputNotObject
        | some record => .ok record) = (.ok record : Except Mishap Record) ↔
      ∃ members, Json.ofText? text = some (.object members) ∧
        Record.ofJson? (.object members) = some record := by
    cases Json.ofText? text with
    | none => simp
    | some json => cases json <;> simp [Record.ofJson?]
  rw [inputRecord_eq]
  simp only [bind_eq_ok_iff, inputText_eq_ok_iff, hread]
  simp only [exists_and_left]

theorem prepare_eq_ok_iff {s : Surroundings} {rules input unknownRules : Option String}
    {config : Config} {record : Record} :
    prepare s rules input unknownRules = .ok (config, record) ↔
      Prepared s rules input unknownRules config record := by
  unfold prepare
  simp only [bind_eq_ok_iff, pure, Except.pure, Except.ok.injEq, Prod.mk.injEq,
    rulesFor_eq_ok_iff, inputRecord_eq_ok_iff]
  constructor
  · rintro ⟨_, ⟨configured, ruled⟩, _, provided, rfl, rfl⟩
    exact ⟨configured, ruled, provided⟩
  · rintro ⟨configured, ruled, provided⟩
    exact ⟨config, ⟨configured, ruled⟩, record, provided, rfl, rfl⟩

/-- Neither colours nor time have a part in what is checked. -/
theorem prepare_congr {s t : Surroundings} (hfiles : t.files = s.files) (hstdin : t.stdin = s.stdin)
    (rules input unknownRules : Option String) :
    prepare t rules input unknownRules = prepare s rules input unknownRules := by
  unfold prepare inputRecord
  rw [hfiles, hstdin]

/-! ### The two ways a run can end -/

def Answered (s : Surroundings) (rules input unknownRules : Option String) (config : Config)
    (record : Record) (report : Option Report) : Prop :=
  Prepared s rules input unknownRules config record ∧
    (config.engine.validate record config.rules).result = .ok report

section Run

variable {s : Surroundings} {rules input unknownRules : Option String} {config : Config}
  {record : Record} {report : Option Report}

/-- A run that has its answer prints it in the form asked for, and ends with zero only if no field
failed. -/
theorem runCheck_of_answered (h : Answered s rules input unknownRules config record report)
    (format : String) : runCheck s rules input format unknownRules =
      .printed s (if report.isNone then 0 else 1)
        (if format = "json" then
          jsonText s report (config.engine.validate record config.rules).record
        else humanText s report config.rules.size)
        (config.engine.validate record config.rules).warnings := by
  obtain ⟨hprepared, hresult⟩ := h
  unfold runCheck
  rw [prepare_eq_ok_iff.mpr hprepared]
  dsimp only
  rw [hresult]

/-- The rules, the record and the answer are determined by what stands around the run. -/
theorem Answered.unique {config' : Config} {record' : Record} {report' : Option Report}
    (h : Answered s rules input unknownRules config record report)
    (h' : Answered s rules input unknownRules config' record' report') :
    config' = config ∧ record' = record ∧ report' = report := by
  obtain ⟨hprepared, hresult⟩ := h
  obtain ⟨hprepared', hresult'⟩ := h'
  have hsame := (prepare_eq_ok_iff.mpr hprepared').symm.trans (prepare_eq_ok_iff.mpr hprepared)
  obtain ⟨rfl, rfl⟩ := Prod.mk.inj (Except.ok.inj hsame)
  exact ⟨rfl, rfl, Except.ok.inj (hresult'.symm.trans hresult)⟩

/-- An answer depends on the files and the standard input alone. -/
theorem Answered.congr {t : Surroundings} (hfiles : t.files = s.files) (hstdin : t.stdin = s.stdin)
    (h : Answered s rules input unknownRules config record report) :
    Answered t rules input unknownRules config record report := by
  obtain ⟨hprepared, hresult⟩ := h
  refine ⟨?_, hresult⟩
  rw [← prepare_eq_ok_iff] at hprepared ⊢
  rwa [prepare_congr hfiles hstdin]

/-- Without an answer the run is broken off, and in the same way for every format, in colours or
not, and however long it takes. -/
theorem runCheck_of_not_answered
    (h : ∀ config record report, ¬ Answered s rules input unknownRules config record report) :
    ∃ m warnings, ∀ t : Surroundings, t.files = s.files → t.stdin = s.stdin → ∀ format,
      runCheck t rules input format unknownRules = .broken t m warnings := by
  cases hprepare : prepare s rules input unknownRules with
  | error m =>
    refine ⟨m, [], fun t hfiles hstdin format => ?_⟩
    unfold runCheck
    rw [prepare_congr hfiles hstdin, hprepare]
  | ok prepared =>
    obtain ⟨config, record⟩ := prepared
    cases hresult : (config.engine.validate record config.rules).result with
    | error e =>
      refine ⟨.invalidRules e, (config.engine.validate record config.rules).warnings, ?_⟩
      intro t hfiles hstdin format
      unfold runCheck
      rw [prepare_congr hfiles hstdin, hprepare]
      dsimp only
      rw [hresult]
    | ok report => exact absurd ⟨prepare_eq_ok_iff.mp hprepare, hresult⟩ (h _ _ report)

end Run

/-! ### What is printed -/

theorem run_of_check {args : List String} {rules input unknownRules : Option String}
    {format : String}
    (h : Invocation.ofArgs args = .command (.check rules input format unknownRules))
    (s : Surroundings) : run s args = runCheck s rules input format unknownRules := by
  unfold run
  rw [h]
  rfl

end FieldRules.CommandLine
