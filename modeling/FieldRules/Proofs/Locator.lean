import FieldRules.Proofs.CharSet
import FieldRules.Proofs.PatternLanguage
import FieldRules.Proofs.TextRules

/-!
The locators that the validator `url` accepts: a scheme, `://` and a text without blanks. What looks
like credentials, a port or a path is such text itself, so that the parts of the pattern for them
change nothing. Main statement: `checkUrl_accepts`.
-/
namespace FieldRules

open Pattern

namespace Address

/-- A text of the form `scheme://rest`, with something in the rest and no blank. -/
def IsLocator (text : List Char) : Prop :=
  ∃ scheme ∈ ["ftp", "rtmp", "git", "http", "https"], ∃ rest : List Char,
    rest ≠ [] ∧ (∀ c ∈ rest, Text.isBlank c = false) ∧ text = scheme.toList ++ "://".toList ++ rest

/-- The pattern without its parts for credentials, a port and a path. -/
def bareUrl : Pattern Atom :=
  seqAll [border .textStart, altAll (schemes.map exactly), exactly "://",
    plus (chars CharSet.space.complement), border .textEnd]

theorem mem_language_exactly (s : String) (w : List Char) :
    w ∈ (exactly s).language ↔ w = s.toList := by
  unfold exactly
  rw [language_seqAll]
  generalize s.toList = l
  induction l generalizing w with
  | nil => rfl
  | cons c rest ih =>
    rw [List.map_cons, List.map_cons, List.prod_cons, Language.mem_mul]
    simp only [mem_language_chars, CharSet.contains_singleton, ih]
    constructor
    · intro ⟨u, ⟨d, hd, hu⟩, v, hv, huv⟩
      subst hd hu hv
      exact huv.symm
    · intro hw
      exact ⟨[c], ⟨c, rfl, rfl⟩, rest, rfl, hw.symm⟩

theorem mem_language_schemes (w : List Char) :
    w ∈ (altAll (schemes.map exactly)).language ↔
      ∃ scheme ∈ ["ftp", "rtmp", "git", "http", "https"], w = scheme.toList := by
  rw [mem_language_altAll (by decide)]
  simp only [List.mem_map, exists_exists_and_eq_and, mem_language_exactly, schemes]

/-- The pattern's class of what is no white space leaves out blanks and nothing else. -/
theorem contains_complement_space (c : Char) :
    CharSet.space.complement.contains c = true ↔ Text.isBlank c = false := by
  rw [CharSet.contains_complement (by decide), Bool.not_eq_true']
  rfl

section Parts

theorem onlyUses_exactly {s : String} (hs : s.toList.all (!Text.isBlank ·) = true) :
    (exactly s).OnlyUses fun c => Text.isBlank c = false := by
  refine onlyUses_seqAll fun p hp => ?_
  obtain ⟨c, hc, rfl⟩ := List.mem_map.mp hp
  intro d hd
  rw [(CharSet.contains_singleton c d).mp hd, ← Bool.not_eq_true']
  exact List.all_eq_true.mp hs c hc

theorem not_isBlank_of_word (c : Char) (hc : CharSet.word.contains c = true) :
    Text.isBlank c = false := by
  have hdisjoint : CharSet.word.Disjoint CharSet.space := by decide +kernel
  exact hdisjoint.not_contains hc

/-- Credentials, a port and a path hold no blanks, and neither does what stands between them. -/
theorem credentials_onlyUses : credentials.OnlyUses fun c => Text.isBlank c = false :=
  ⟨not_isBlank_of_word, onlyUses_exactly (by decide), not_isBlank_of_word,
    onlyUses_exactly (by decide)⟩

theorem port_onlyUses : port.OnlyUses fun c => Text.isBlank c = false := by
  have hdisjoint : CharSet.Disjoint ⟨[(0x30, 0x39)]⟩ CharSet.space := by decide
  exact ⟨onlyUses_exactly (by decide), fun c hc => hdisjoint.not_contains hc⟩

theorem path_onlyUses : path.OnlyUses fun c => Text.isBlank c = false := by
  have hdisjoint : pathChar.Disjoint CharSet.space := by decide +kernel
  exact ⟨onlyUses_exactly (by decide), onlyUses_exactly (by decide),
    fun c hc => hdisjoint.not_contains hc⟩

theorem not_isBlank_of_optional {p : Pattern Atom}
    (hp : p.OnlyUses fun c => Text.isBlank c = false) {w : List Char}
    (hw : w ∈ (optional p).language) : ∀ c ∈ w, Text.isBlank c = false :=
  OnlyUses.of_mem_language (p := optional p) hp hw

end Parts

theorem occursIn_bareUrl_iff (text : List Char) :
    bareUrl.occursIn text = true ↔ IsLocator text := by
  have hwhole := occursIn_whole [altAll (schemes.map exactly), exactly "://",
    plus (chars CharSet.space.complement)] (by decide) text
  refine hwhole.trans ?_
  simp only [List.map_cons, List.map_nil, List.prod_cons, List.prod_nil, mul_one,
    Language.mem_mul, mem_language_schemes, mem_language_exactly, mem_language_plus_chars,
    contains_complement_space]
  constructor
  · intro ⟨a, ⟨scheme, hscheme, ha⟩, u, ⟨b, hb, rest, ⟨hrest, hblank⟩, hu⟩, htext⟩
    subst ha hb hu
    exact ⟨scheme, hscheme, rest, hrest, hblank, by rw [← htext, List.append_assoc]⟩
  · intro ⟨scheme, hscheme, rest, hrest, hblank, htext⟩
    exact ⟨_, ⟨scheme, hscheme, rfl⟩, _, ⟨_, rfl, rest, ⟨hrest, hblank⟩, rfl⟩,
      by rw [htext, List.append_assoc]⟩

/-- The optional parts add nothing: what they match is among what the rest may be anyway. -/
theorem occursIn_url_iff (text : List Char) : url.occursIn text = true ↔ IsLocator text := by
  have hwhole := occursIn_whole [altAll (schemes.map exactly), exactly "://",
    optional credentials, plus (chars CharSet.space.complement), optional port, optional path]
    (by decide) text
  refine hwhole.trans ?_
  simp only [List.map_cons, List.map_nil, List.prod_cons, List.prod_nil, mul_one,
    Language.mem_mul, mem_language_schemes, mem_language_exactly, mem_language_plus_chars,
    contains_complement_space]
  constructor
  · intro ⟨a, ⟨scheme, hscheme, ha⟩, u, ⟨b, hb, t, ⟨c, hc, v, ⟨d, ⟨hd, hdblank⟩, w,
      ⟨e, he, f, hf, hw⟩, hv⟩, ht⟩, hu⟩, htext⟩
    subst ha hb hw hv ht hu
    refine ⟨scheme, hscheme, c ++ (d ++ (e ++ f)), by simp [hd], ?_, by simp [← htext]⟩
    intro x hx
    simp only [List.mem_append] at hx
    rcases hx with hx | hx | hx | hx
    · exact not_isBlank_of_optional credentials_onlyUses hc x hx
    · exact hdblank x hx
    · exact not_isBlank_of_optional port_onlyUses he x hx
    · exact not_isBlank_of_optional path_onlyUses hf x hx
  · intro ⟨scheme, hscheme, rest, hrest, hblank, htext⟩
    have hnone : ∀ p : Pattern Atom, [] ∈ (optional p).language :=
      fun p => mem_language_optional.mpr (Or.inl rfl)
    exact ⟨_, ⟨scheme, hscheme, rfl⟩, _, ⟨_, rfl, _, ⟨[], hnone _, _,
      ⟨rest, ⟨hrest, hblank⟩, _, ⟨[], hnone _, [], hnone _, rfl⟩, rfl⟩, rfl⟩, rfl⟩, by simp [htext]⟩

theorem IsLocator.not_isBlank {text : List Char} (h : IsLocator text) :
    ∀ c ∈ text, Text.isBlank c = false := by
  obtain ⟨scheme, hscheme, rest, -, hblank, rfl⟩ := h
  have hfixed : (["ftp", "rtmp", "git", "http", "https"].all fun scheme =>
      (scheme.toList ++ "://".toList).all (!Text.isBlank ·)) = true := by decide
  intro c hc
  rcases List.mem_append.mp hc with hc | hc
  · rw [← Bool.not_eq_true']
    exact List.all_eq_true.mp (List.all_eq_true.mp hfixed scheme hscheme) c hc
  · exact hblank c hc

theorem IsLocator.colon_mem {text : List Char} (h : IsLocator text) : ':' ∈ text := by
  obtain ⟨scheme, -, rest, -, -, rfl⟩ := h
  simp

end Address

open Address Builtin

/-- The validator `url` lets pass what is empty and locators, and finds fault with all else. -/
theorem checkUrl_accepts (f : Focus) (args : List String) :
    (checkUrl f args = .ok .pass ↔
      f.isEmpty = true ∨ ∃ s, f.value? = some (.string s) ∧ IsLocator s.toList) ∧
    (checkUrl f args = .ok .pass ∨
      checkUrl f args = .ok (.fail s!"Field `{f.field}` must be a valid URL.")) ∧
    (∀ s, f.value? = some (.string s) → checkUrl f args = .ok .pass →
      ∀ c ∈ s.toList, Text.isBlank c = false) ∧
    (∀ text, url.occursIn text = bareUrl.occursIn text) := by
  have hneeded : ∀ text, url.occursIn text = true → ':' ∈ text :=
    fun text h => ((occursIn_url_iff text).mp h).colon_mem
  have hpass : checkUrl f args = .ok .pass ↔
      f.isEmpty = true ∨ ∃ s, f.value? = some (.string s) ∧ IsLocator s.toList := by
    simp only [checkUrl, Except.ok.injEq, judgeText_eq_pass_iff _ _ _ (by decide) hneeded,
      occursIn_url_iff]
  refine ⟨hpass, ?_, ?_, ?_⟩
  · rcases judgeText_cases url f s!"Field `{f.field}` must be a valid URL." with h | h
    · exact Or.inl (congrArg Except.ok h)
    · exact Or.inr (congrArg Except.ok h)
  · intro s hs hcheck
    rcases hpass.mp hcheck with hempty | ⟨t, ht, hlocator⟩
    · rcases f.isEmpty_iff.mp hempty with h | h | h
      all_goals
        rw [hs] at h
        cases h
      simp
    · obtain rfl : s = t := by simpa [hs] using ht
      exact hlocator.not_isBlank
  · intro text
    rw [Bool.eq_iff_iff, occursIn_url_iff, occursIn_bareUrl_iff]

end FieldRules
