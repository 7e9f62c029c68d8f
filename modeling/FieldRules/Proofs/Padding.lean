import FieldRules.Text.Blank
import Mathlib.Data.List.TakeWhile

/-!
Blanks around a text. Trimming takes off all of them and nothing else, so that texts which differ in
the blanks around them are trimmed to the same text, and trimming twice is trimming once. A text
that neither starts nor ends with a blank is left alone. Main statement: `trimChars_of_padded`.
-/
namespace FieldRules.Text

def Padded (s t : List Char) : Prop :=
  ∃ before after, (∀ c ∈ before, isBlank c = true) ∧ (∀ c ∈ after, isBlank c = true) ∧
    t = before ++ s ++ after

theorem Padded.eq_nil {s : List Char} (h : Padded s []) : s = [] := by
  obtain ⟨before, after, -, -, hnil⟩ := h
  exact (List.append_eq_nil_iff.mp (List.append_eq_nil_iff.mp hnil.symm).1).2

theorem trimEnd_append {after : List Char} (h : ∀ c ∈ after, isBlank c = true) (s : List Char) :
    trimEnd (s ++ after) = trimEnd s := by
  unfold trimEnd
  rw [List.reverse_append, List.dropWhile_append_of_pos fun c hc => h c (List.mem_reverse.mp hc)]

/-- More blanks around a text make no difference once they are trimmed. -/
theorem trimChars_of_padded {s t : List Char} (h : Padded s t) : trimChars t = trimChars s := by
  obtain ⟨before, after, hbefore, hafter, rfl⟩ := h
  unfold trimChars
  have hstart : trimStart (before ++ s ++ after) = trimStart (s ++ after) := by
    unfold trimStart
    rw [List.append_assoc, List.dropWhile_append_of_pos hbefore]
  rw [hstart]
  unfold trimStart
  rw [List.dropWhile_append]
  split
  · -- The text is blank throughout, so that trimming its start takes all of it.
    rename_i hblank
    rw [List.isEmpty_iff.mp hblank, List.dropWhile_eq_nil_iff.mpr hafter]
  · exact trimEnd_append hafter _

theorem padded_trimEnd (s : List Char) :
    ∃ after, (∀ c ∈ after, isBlank c = true) ∧ s = trimEnd s ++ after := by
  refine ⟨(s.reverse.takeWhile isBlank).reverse, ?_, ?_⟩
  · intro c hc
    exact List.mem_takeWhile_imp (List.mem_reverse.mp hc)
  · unfold trimEnd
    rw [← List.reverse_append, List.takeWhile_append_dropWhile, List.reverse_reverse]

/-- Trimming takes away blanks at the ends and nothing else. -/
theorem padded_trimChars (s : List Char) : Padded (trimChars s) s := by
  obtain ⟨after, hafter, hsplit⟩ := padded_trimEnd (trimStart s)
  refine ⟨s.takeWhile isBlank, after, fun c hc => List.mem_takeWhile_imp hc, hafter, ?_⟩
  have hwhole : s = s.takeWhile isBlank ++ trimStart s := List.takeWhile_append_dropWhile.symm
  unfold trimChars
  rw [List.append_assoc, ← hsplit]
  exact hwhole

theorem trimChars_trimChars (s : List Char) : trimChars (trimChars s) = trimChars s :=
  (trimChars_of_padded (padded_trimChars s)).symm

theorem dropWhile_of_head {p : Char → Bool} {s : List Char}
    (h : ∀ c, s.head? = some c → p c = false) : s.dropWhile p = s := by
  cases s with
  | nil => rfl
  | cons c s => exact List.dropWhile_cons_of_neg (by simp [h c rfl])

theorem trimStart_of_head {s : List Char} (h : ∀ c, s.head? = some c → isBlank c = false) :
    trimStart s = s :=
  dropWhile_of_head h

/-- There is nothing to trim off a text with no blanks at its ends. -/
theorem trimChars_of_ends {s : List Char} (hhead : ∀ c, s.head? = some c → isBlank c = false)
    (hlast : ∀ c, s.getLast? = some c → isBlank c = false) : trimChars s = s := by
  have hreverse : trimStart s.reverse = s.reverse := by
    apply trimStart_of_head
    rwa [List.head?_reverse]
  unfold trimChars
  rw [trimStart_of_head hhead]
  change (trimStart s.reverse).reverse = s
  rw [hreverse, List.reverse_reverse]

/-- There is nothing to trim off a text without blanks. -/
theorem trimChars_of_not_isBlank {s : List Char} (h : ∀ c ∈ s, isBlank c = false) :
    trimChars s = s :=
  trimChars_of_ends (fun c hc => h c (List.mem_of_head? hc))
    fun c hc => h c (List.mem_of_getLast? hc)

end FieldRules.Text
