import FieldRules.Config.File
import FieldRules.Proofs.Dict
import FieldRules.Proofs.TomlDocument

/-!
Configurations survive being written and read. The text of a configuration consists of two sections,
and each of them is read back as the table that it was written from. A file that was written is
found again at the same path, since writing makes no directory out of what was none and the file
itself is no directory. Main statement: `round_trip`.
-/
namespace FieldRules

namespace FileSystem

variable {fs : FileSystem} {key text : String}

/-- A file lies in no directory of its own name. -/
theorem not_isPrefixOf_self (name : String) :
    (name ++ "/").toList.isPrefixOf name.toList = false := by
  rw [Bool.eq_false_iff]
  intro h
  have hle := (List.isPrefixOf_iff_prefix.mp h).length_le
  rw [String.toList_append, List.length_append] at hle
  exact absurd hle (by simp)

/-- With one more file, a directory is what was one and what the file lies in. -/
theorem isDirectory_insert (names : List String) :
    isDirectory { fs with files := fs.files.insert key text } names =
      (fs.isDirectory names || (joined names ++ "/").toList.isPrefixOf key.toList) := by
  have hany (p : String → Bool) : (fs.files.insert key text).keys.any p =
      (fs.files.keys.any p || p key) := by
    rw [Bool.eq_iff_iff]
    simp [List.any_eq_true, Dict.mem_keys_insert, or_and_right, exists_or]
  unfold isDirectory
  simp only
  rw [hany, Bool.or_assoc, Bool.or_assoc, Bool.or_assoc]

/-- A path that leads to a file, or to where one can be made, leads to the file that is put
there. -/
theorem walk_insert {directory rest : List String}
    (h : fs.walk directory rest = .file key ∨ fs.walk directory rest = .free key) :
    walk { fs with files := fs.files.insert key text } directory rest = .file key := by
  induction rest generalizing directory with
  | nil => simp [walk] at h
  | cons name rest ih =>
    unfold walk at h ⊢
    by_cases hstay : name = "" ∨ name = "."
    · rw [if_pos hstay] at h ⊢
      exact ih h
    by_cases hup : name = ".."
    · rw [if_neg hstay, if_pos hup] at h ⊢
      exact ih h
    rw [if_neg hstay, if_neg hup] at h ⊢
    simp only [isDirectory_insert] at h ⊢
    by_cases hdirectory : fs.isDirectory (directory ++ [name])
    · rw [if_pos hdirectory] at h
      rw [if_pos (by simp [hdirectory])]
      exact ih h
    · rw [if_neg hdirectory] at h
      by_cases hrest : rest ≠ []
      · simp [hrest] at h
      · -- The path ends here, so the new file is that of this very name.
        have hkey : joined (directory ++ [name]) = key := by
          rw [if_neg hrest] at h
          split at h
          · simpa using h
          split at h
          · simpa using h
          · simp at h
        have hprefix := not_isPrefixOf_self key
        rw [hkey, hprefix, Bool.or_false, if_neg hdirectory, if_neg hrest]
        simp [Dict.contains]

theorem locate_insert {path : String}
    (h : fs.locate path = .file key ∨ fs.locate path = .free key) :
    locate { fs with files := fs.files.insert key text } path = .file key := by
  unfold locate at h ⊢
  by_cases hpath : path = ""
  · simp [hpath] at h
  · rw [if_neg hpath] at h ⊢
    exact walk_insert h

/-- A write succeeds exactly if the path leads to a file or to a free place, and puts the text
there. -/
theorem write?_eq_some_iff {fs' : FileSystem} {path : String} :
    fs.write? path text = some fs' ↔ ∃ key, (fs.locate path = .file key ∨
      fs.locate path = .free key) ∧ fs' = { fs with files := fs.files.insert key text } := by
  unfold write?
  cases fs.locate path <;> simp [eq_comm]

/-- What was written is found under the same path. -/
theorem read?_of_write? {fs' : FileSystem} {path : String}
    (h : fs.write? path text = some fs') : fs'.read? path = some text := by
  obtain ⟨key, hlocate, rfl⟩ := write?_eq_some_iff.mp h
  rw [read?, locate_insert hlocate]
  exact Dict.find?_insert_self fs.files key text

end FileSystem

namespace Config

open Toml

def engineTable (c : Config) : Toml.Table := ⟨.header, [("unknown_rules", .string c.policy.name)]⟩

def rulesTable (c : Config) : Toml.Table :=
  ⟨.header, c.rules.entries.map fun e => (e.1, .array (e.2.map .string))⟩

def engineOnly (c : Config) : Toml.Table := ⟨.header, [("engine", c.engineTable.toToml)]⟩

/-- The table that the text of a configuration is read as. -/
def toTable (c : Config) : Toml.Table := c.engineOnly.add "rules" c.rulesTable.toToml

/-- The text consists of two sections with an empty line between them. -/
theorem toChars_eq (c : Config) : c.toChars =
    headerText "engine" ++ entryText "unknown_rules" (stringText c.policy.name.toList) ++
      (['\n'] ++ (headerText "rules" ++
        c.rules.entries.flatMap fun e => entryText e.1 (arrayText e.2))) := by
  have hengine : "[engine]\n".toList = headerText "engine" := by decide
  have hrules : "\n[rules]\n".toList = ['\n'] ++ headerText "rules" := by decide
  rw [← List.append_assoc ['\n'], ← hrules, ← hengine, ← List.append_assoc]
  rfl

theorem leads_engine (c : Config) : Building.start.Leads
    (headerText "engine" ++ entryText "unknown_rules" (stringText c.policy.name.toList))
    ⟨⟨.header, []⟩, c.engineTable, some (false, ([], "engine"))⟩ := by
  have h : Building.start.Leads
      (headerText "engine" ++ [("unknown_rules", c.policy.name)].flatMap fun e =>
        entryText e.1 (stringText e.2.toList))
      ⟨⟨.header, []⟩, c.engineTable, some (false, ([], "engine"))⟩ :=
    Building.leads_section written_stringText [("unknown_rules", c.policy.name)]
      (List.pairwise_singleton _ _) rfl rfl
  rwa [List.flatMap_singleton] at h

theorem leads_rules (c : Config) :
    Building.Leads ⟨⟨.header, []⟩, c.engineTable, some (false, ([], "engine"))⟩
      (headerText "rules" ++ c.rules.entries.flatMap fun e => entryText e.1 (arrayText e.2))
      ⟨c.engineOnly, c.rulesTable, some (false, ([], "rules"))⟩ :=
  Building.leads_section written_arrayText c.rules.entries c.rules.nodup_keys
    (Building.close?_section rfl) rfl

theorem ofChars?_toChars (c : Config) : Toml.ofChars? c.toChars = some c.toTable := by
  have hdocument := c.leads_engine.trans ((Building.leads_lineFeed _).trans c.leads_rules)
  rw [toChars_eq, Building.ofChars?_of_leads hdocument]
  · exact Building.close?_section rfl
  · change some '[' ≠ some '\ufeff'
    decide

theorem enginePolicy?_engineTable (c : Config) :
    enginePolicy? c.engineTable.toToml = some c.policy := by
  change policyOf? false (.string c.policy.name) = some c.policy
  cases c.policy <;> rfl

theorem tokens?_array (tokens : List String) :
    tokens? (.array (tokens.map .string)) = some tokens := by
  change (tokens.map Toml.string).mapM string? = some tokens
  rw [List.mapM_map]
  exact List.mapM_pure.trans (by simp)

theorem rulesOf?_rulesTable (c : Config) : rulesOf? c.rulesTable.toToml = some c.rules := by
  have hentries : c.rulesTable.entries.mapM (fun e => (tokens? e.2).map (e.1, ·)) =
      some c.rules.entries := by
    rw [rulesTable, List.mapM_map]
    simp only [Function.comp_def, tokens?_array, Option.map_some]
    exact List.mapM_pure.trans (by simp)
  rw [Toml.Table.toToml, rulesOf?, hentries, Option.map_some, Dict.ofList_entries]

/-- No policy and no rule is lost between a configuration and its tables. -/
theorem ofTable?_toTable (c : Config) : ofTable? c.toTable = some c := by
  have hengine : c.toTable.find? "engine" = some c.engineTable.toToml := rfl
  have hrules : c.toTable.find? "rules" = some c.rulesTable.toToml := rfl
  rw [ofTable?, hengine, hrules]
  simp only [enginePolicy?_engineTable, rulesOf?_rulesTable]
  rfl

theorem ofText?_toText (c : Config) : ofText? c.toText = some c := by
  rw [ofText?, toText, String.toList_ofList, ofChars?_toChars, Option.bind_some,
    ofTable?_toTable]

/-- A configuration is read back from its text. Saving fails only where there is nothing to write
to, and loading from where it was saved gives it again. -/
theorem round_trip (c : Config) :
    ofText? c.toText = some c ∧
    ∀ (fs : FileSystem) (path : String),
      (∃ fs', c.save fs path = .ok fs' ∧ load fs' (some path) = .ok c) ∨
      (c.save fs path = .error (.unwritable path) ∧
        (fs.locate path = .directory ∨ fs.locate path = .nowhere)) := by
  refine ⟨ofText?_toText c, fun fs path => ?_⟩
  unfold save
  cases hwrite : fs.write? path c.toText with
  | some fs' =>
    refine Or.inl ⟨fs', rfl, ?_⟩
    simp only [load, ofFile, FileSystem.read?_of_write? hwrite, ofText?_toText]
  | none =>
    refine Or.inr ⟨rfl, ?_⟩
    unfold FileSystem.write? at hwrite
    cases hlocate : fs.locate path with
    | directory => exact Or.inl rfl
    | nowhere => exact Or.inr rfl
    | file key | free key =>
      rw [hlocate] at hwrite
      cases hwrite

end Config

end FieldRules
