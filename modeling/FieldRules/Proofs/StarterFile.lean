import FieldRules.Proofs.CheckCommand
import FieldRules.Proofs.ConfigRoundTrip
import FieldRules.Proofs.Misconfiguration

/-!
What runs of the program do to files. Only the command that writes a starter file changes one, and
only if it ends well: the file that its path leads to, which has to be a new one unless the command
is forced. From then on the path leads to the starter configuration, so that checks run its rules,
and writing it once more changes nothing. Main statement: `run_files`.
-/
namespace FieldRules

/-! ### Writing a file -/

namespace FileSystem

variable {fs fs' : FileSystem} {path text : String}

def LeadsTo (fs : FileSystem) (path key : String) : Prop :=
  fs.locate path = .file key ∨ fs.locate path = .free key

structure SameBut (path : String) (fs fs' : FileSystem) : Prop where
  working : fs'.working = fs.working
  directories : fs'.directories = fs.directories
  files : ∀ key, ¬ fs.LeadsTo path key → fs'.files.find? key = fs.files.find? key

theorem SameBut.refl (path : String) (fs : FileSystem) : SameBut path fs fs :=
  ⟨rfl, rfl, fun _ _ => rfl⟩

theorem sameBut_of_write? (h : fs.write? path text = some fs') : SameBut path fs fs' := by
  obtain ⟨key, hlocate, rfl⟩ := write?_eq_some_iff.mp h
  refine ⟨rfl, rfl, fun other hother => ?_⟩
  have hne : other ≠ key := by
    rintro rfl
    exact hother hlocate
  exact (Dict.find?_insert _ _ _ _).trans (if_neg hne)

theorem write?_eq_none_iff : fs.write? path text = none ↔ ∀ key, ¬ fs.LeadsTo path key := by
  rw [Option.eq_none_iff_forall_ne_some]
  constructor
  · exact fun hnone key hkey => hnone _ (write?_eq_some_iff.mpr ⟨key, hkey, rfl⟩)
  · intro hnowhere fs' hwrite
    obtain ⟨key, hkey, -⟩ := write?_eq_some_iff.mp hwrite
    exact hnowhere key hkey

/-- The same text written again changes nothing. -/
theorem write?_again (h : fs.write? path text = some fs') : fs'.write? path text = some fs' := by
  obtain ⟨key, hlocate, rfl⟩ := write?_eq_some_iff.mp h
  refine write?_eq_some_iff.mpr ⟨key, Or.inl (locate_insert hlocate), ?_⟩
  rw [Dict.insert_eq_self (Dict.find?_insert_self fs.files key text)]

theorem contains_of_read? (h : fs.read? path = some text) : fs.contains path = true := by
  unfold read? at h
  unfold contains
  cases hlocate : fs.locate path with
  | directory | file => rfl
  | free | nowhere =>
    rw [hlocate] at h
    cases h

theorem contains_iff_of_leadsTo {key : String} (h : fs.LeadsTo path key) :
    fs.contains path = true ↔ fs.locate path = .file key := by
  unfold contains
  rcases h with h | h <;> simp [h]

end FileSystem

/-! ### The commands -/

/-- None of the starter's rules is wrong under any policy. -/
theorem Config.validate_starter (policy : Policy) (record : Record) :
    ∃ report, (Engine.validate ⟨.builtins, policy⟩ record starter.rules).result = .ok report := by
  have hfault : starter.rules.calls.findSome? (Catalogue.fault? policy) = none := by
    cases policy <;> decide +kernel
  rw [← Engine.firstError?_builtins policy record] at hfault
  exact ⟨_, (Engine.validate_of_no_error hfault).2⟩

namespace CommandLine

open FileSystem (LeadsTo SameBut)

variable {s : Surroundings} {args : List String} {path : String} {force : Bool}

theorem files_runCheck (s : Surroundings) (rules input : Option String) (format : String)
    (unknownRules : Option String) :
    (runCheck s rules input format unknownRules).files = s.files := by
  by_cases hanswered : ∃ config record report,
      Answered s rules input unknownRules config record report
  · obtain ⟨config, record, report, hanswer⟩ := hanswered
    rw [runCheck_of_answered hanswer]
    rfl
  · obtain ⟨m, warnings, hbroken⟩ := runCheck_of_not_answered
      fun config record report hanswer => hanswered ⟨config, record, report, hanswer⟩
    rw [hbroken s rfl rfl]
    rfl

/-- Checks, listings, help and misuse leave all files alone. -/
theorem files_of_not_init
    (h : ∀ path force, Invocation.ofArgs args ≠ .command (.init path force)) :
    (run s args).files = s.files := by
  unfold run
  cases hargs : Invocation.ofArgs args with
  | command c =>
    cases c with
    | check rules input format unknownRules =>
      exact files_runCheck s rules input format unknownRules
    | validators format => rfl
    | init path force => exact absurd hargs (h path force)
  | help t => rfl
  | misuse => rfl

theorem run_of_init (h : Invocation.ofArgs args = .command (.init path force))
    (s : Surroundings) : run s args = runInit s path force := by
  unfold run
  rw [h]
  rfl

/-- The file is there and stays, or there is nothing to write to, or the starter configuration is
written. -/
theorem runInit_cases (s : Surroundings) (path : String) (force : Bool) :
    (runInit s path force = .broken s (.alreadyThere path) [] ∧ s.files.contains path = true ∧
      force = false) ∨
    (runInit s path force = .broken s (.configFile (.unwritable path)) [] ∧
      ∀ key, ¬ s.files.LeadsTo path key) ∨
    ((runInit s path force).exit = 0 ∧ (runInit s path force).mishap = none ∧
      (s.files.contains path = true → force = true) ∧
      s.files.write? path Config.starter.toText = some (runInit s path force).files) := by
  unfold runInit Config.save
  split
  · rename_i hthere
    rw [Bool.and_eq_true, Bool.not_eq_true'] at hthere
    exact Or.inl ⟨rfl, hthere⟩
  · rename_i hfree
    refine Or.inr ?_
    cases hwrite : s.files.write? path Config.starter.toText with
    | none => exact Or.inl ⟨rfl, FileSystem.write?_eq_none_iff.mp hwrite⟩
    | some fs' =>
      refine Or.inr ⟨rfl, rfl, fun hthere => ?_, rfl⟩
      by_contra hforce
      exact hfree (by simp [hthere, hforce])

theorem files_runInit_of_failed (h : (runInit s path force).exit ≠ 0 ∨
    (runInit s path force).mishap ≠ none) : (runInit s path force).files = s.files := by
  obtain ⟨hbroken, -⟩ | ⟨hbroken, -⟩ | ⟨hexit, hmishap, -⟩ := runInit_cases s path force
  · rw [hbroken]
    rfl
  · rw [hbroken]
    rfl
  · exact absurd h (by simp [hexit, hmishap])

/-- A run that ends well has written the starter configuration and was allowed to. -/
theorem write?_of_exit_runInit (h : (runInit s path force).exit = 0) :
    (s.files.contains path = true → force = true) ∧
      s.files.write? path Config.starter.toText = some (runInit s path force).files := by
  obtain ⟨hbroken, -⟩ | ⟨hbroken, -⟩ | ⟨-, -, hwritten⟩ := runInit_cases s path force
  · rw [hbroken] at h
    cases h
  · rw [hbroken] at h
    cases h
  · exact hwritten

/-- The command ends well exactly if there is no file yet, or one and the command is forced. -/
theorem exit_runInit_eq_zero_iff : (runInit s path force).exit = 0 ↔
    ∃ key, s.files.locate path = .free key ∨ s.files.locate path = .file key ∧ force = true := by
  constructor
  · intro hexit
    obtain ⟨hforce, hwrite⟩ := write?_of_exit_runInit hexit
    obtain ⟨key, hkey, -⟩ := FileSystem.write?_eq_some_iff.mp hwrite
    refine ⟨key, hkey.symm.imp_right fun hfile => ⟨hfile, hforce ?_⟩⟩
    exact (FileSystem.contains_iff_of_leadsTo hkey).mpr hfile
  · rintro ⟨key, hkey⟩
    have hleads : s.files.LeadsTo path key := hkey.symm.imp_left And.left
    obtain ⟨-, hthere, hforce⟩ | ⟨-, hnowhere⟩ | ⟨hexit, -⟩ := runInit_cases s path force
    · have hfile := (FileSystem.contains_iff_of_leadsTo hleads).mp hthere
      rcases hkey with hfree | ⟨-, hforced⟩
      · cases hfree.symm.trans hfile
      · cases hforce.symm.trans hforced
    · exact absurd hleads (hnowhere key)
    · exact hexit

/-- The command that writes the starter touches no other file. -/
theorem sameBut_runInit (s : Surroundings) (path : String) (force : Bool) :
    SameBut path s.files (runInit s path force).files := by
  by_cases hexit : (runInit s path force).exit = 0
  · exact FileSystem.sameBut_of_write? (write?_of_exit_runInit hexit).2
  · rw [files_runInit_of_failed (Or.inl hexit)]
    exact SameBut.refl path s.files

theorem runInit_of_existing (hthere : s.files.contains path = true) :
    runInit s path false = .broken s (.alreadyThere path) [] := by
  unfold runInit
  rw [hthere]
  rfl

/-! ### The starter file afterwards -/

/-- A path leads to the starter configuration: the text there is read as it, a forced command leaves
all as it is, and a check by this file, be it as the usual one, runs its rules under the policy of
the arguments and ends without a mishap. -/
structure HoldsStarter (fs : FileSystem) (path : String) : Prop where
  read : ∃ text, fs.read? path = some text ∧ Config.ofText? text = some Config.starter
  kept : ∀ s args, s.files = fs → Invocation.ofArgs args = .command (.init path true) →
    (run s args).exit = 0 ∧ (run s args).files = fs
  checked : ∀ s args rules input format unknownRules policy record, s.files = fs →
    Invocation.ofArgs args = .command (.check rules input format unknownRules) →
    (rules = some path ∨ rules = none ∧ path = Config.defaultPath) →
    Governs unknownRules Config.starter.policy policy → inputRecord s input = .ok record →
    ∃ report, Answered s rules input unknownRules ⟨policy, Config.starter.rules⟩ record report ∧
      (run s args).mishap = none ∧ ((run s args).exit = 0 ↔ report = none)

theorem configures_of_read? {fs : FileSystem} {rules : Option String} {text : String} {c : Config}
    (hread : fs.read? path = some text) (hconfig : Config.ofText? text = some c)
    (hrules : rules = some path ∨ rules = none ∧ path = Config.defaultPath) :
    Configures fs rules c := by
  rcases hrules with rfl | ⟨rfl, rfl⟩
  · exact ⟨text, hread, hconfig⟩
  · unfold Configures
    dsimp only
    rw [if_pos (FileSystem.contains_of_read? hread)]
    exact ⟨text, hread, hconfig⟩

/-- Wherever the starter is written, it is there and can be checked with. -/
theorem holdsStarter_of_write? {fs fs' : FileSystem}
    (h : fs.write? path Config.starter.toText = some fs') : HoldsStarter fs' path := by
  have hread := FileSystem.read?_of_write? h
  have hconfig := Config.ofText?_toText Config.starter
  refine ⟨⟨_, hread, hconfig⟩, ?_, ?_⟩
  · rintro s args rfl hargs
    have hagain := FileSystem.write?_again h
    obtain ⟨key, hkey, -⟩ := FileSystem.write?_eq_some_iff.mp hagain
    have hexit : (runInit s path true).exit = 0 :=
      exit_runInit_eq_zero_iff.mpr ⟨key, hkey.symm.imp_right fun hfile => ⟨hfile, rfl⟩⟩
    rw [run_of_init hargs]
    exact ⟨hexit, Option.some.inj ((write?_of_exit_runInit hexit).2.symm.trans hagain)⟩
  · rintro s args rules input format unknownRules policy record rfl hargs hrules hgoverns hinput
    have hconfigured := configures_of_read? hread hconfig hrules
    obtain ⟨report, hresult⟩ := Config.validate_starter policy record
    have hprovided := (inputRecord_eq_ok_iff s input record).mp hinput
    have hanswer : Answered s rules input unknownRules ⟨policy, Config.starter.rules⟩ record
        report := ⟨⟨⟨_, hconfigured, hgoverns⟩, rfl, hprovided⟩, hresult⟩
    rw [run_of_check hargs, runCheck_of_answered hanswer]
    refine ⟨report, hanswer, rfl, ?_⟩
    change (if report.isNone then 0 else 1) = 0 ↔ report = none
    cases report <;> simp

/-- Only the command that writes a starter file changes a file, and only if it ends well, which it
does where there is no file yet or if it is forced. It changes none but the file that its path leads
to, and this one holds the starter configuration afterwards. -/
theorem run_files (s : Surroundings) (args : List String) :
    ((∀ path force, Invocation.ofArgs args ≠ .command (.init path force)) →
      (run s args).files = s.files) ∧
    ((run s args).exit ≠ 0 ∨ (run s args).mishap ≠ none → (run s args).files = s.files) ∧
    ∀ path force, Invocation.ofArgs args = .command (.init path force) →
      SameBut path s.files (run s args).files ∧
      (s.files.contains path = true → force = false →
        (run s args).mishap = some (.alreadyThere path) ∧ (run s args).files = s.files) ∧
      ((run s args).exit = 0 ↔ ∃ key, s.files.locate path = .free key ∨
        s.files.locate path = .file key ∧ force = true) ∧
      ((run s args).exit = 0 → HoldsStarter (run s args).files path) := by
  refine ⟨files_of_not_init, fun hfailed => ?_, fun path force hargs => ?_⟩
  · by_cases hinit : ∃ path force, Invocation.ofArgs args = .command (.init path force)
    · obtain ⟨path, force, hargs⟩ := hinit
      rw [run_of_init hargs] at hfailed ⊢
      exact files_runInit_of_failed hfailed
    · exact files_of_not_init fun path force hargs => hinit ⟨path, force, hargs⟩
  · rw [run_of_init hargs]
    refine ⟨sameBut_runInit s path force, ?_, exit_runInit_eq_zero_iff, fun hexit => ?_⟩
    · rintro hthere rfl
      rw [runInit_of_existing hthere]
      exact ⟨rfl, rfl⟩
    · exact holdsStarter_of_write? (write?_of_exit_runInit hexit).2

/-- A file with a text of its own under the usual name stays when it is only read and when the
command is not forced; forced, the command makes the starter file of it and leaves the file beside
it. -/
theorem run_files_of_forced :
    let s : Surroundings :=
      { files := ((FileSystem.start ["w"]).place ".fieldcheck.toml" "mine").place "other" "kept"
        stdin := ""
        colored := false
        elapsed := 0 }
    (run s ["check"]).files = s.files ∧
      (run s ["init", "-v"]).mishap = some (.alreadyThere ".fieldcheck.toml") ∧
      (run s ["init", "-v"]).files = s.files ∧
      HoldsStarter (run s ["init", "--force", "./.fieldcheck.toml"]).files "./.fieldcheck.toml" ∧
      (run s ["init", "--force", "./.fieldcheck.toml"]).files.files.find? "w/other" =
        some "kept" := by
  intro s
  have hcheck : Invocation.ofArgs ["check"] = .command (.check none none "human" none) := by
    decide +kernel
  have hinit : Invocation.ofArgs ["init", "-v"] = .command (.init ".fieldcheck.toml" false) := by
    decide +kernel
  have hforced : Invocation.ofArgs ["init", "--force", "./.fieldcheck.toml"] =
      .command (.init "./.fieldcheck.toml" true) := by
    decide +kernel
  have hfile : s.files.locate "./.fieldcheck.toml" = .file "w/.fieldcheck.toml" := by
    decide +kernel
  have hthere := (((run_files s _).2.2 _ _ hinit).2.1 (by decide +kernel) rfl).1
  obtain ⟨hsame, -, hexit, hholds⟩ := (run_files s _).2.2 _ _ hforced
  refine ⟨(run_files s _).1 fun path force h => ?_, hthere, (run_files s _).2.1 (Or.inr ?_),
    hholds (hexit.mpr ⟨_, Or.inr ⟨hfile, rfl⟩⟩), ?_⟩
  · rw [hcheck] at h
    cases h
  · rw [hthere]
    nofun
  · rw [hsame.files]
    · decide +kernel
    · rintro (h | h)
      · exact absurd (FileSystem.Place.file.inj (hfile.symm.trans h)) (by decide)
      · cases hfile.symm.trans h

end CommandLine

end FieldRules
