import FieldRules.Builtin.Interval
import FieldRules.Proofs.TextRules

/-!
Intervals as sets. An interval contains what no end of it excludes, so it is what its two ends allow
on their own, and moving an end outward or taking it away loses nothing. A check that holds a
reading of a field's value against an interval passes exactly if the field is empty or has a reading
that the interval contains. Main statement: `Interval.judge_eq_pass_iff`.
-/
namespace FieldRules.Builtin.Interval

variable {α : Type}

theorem least_of_breach? {lt : α → α → Bool} {i : Interval α} {a least : α}
    (h : i.breach? lt a = some (.below least)) : i.least = some least := by
  unfold breach? at h
  rcases Option.or_eq_some_iff.mp h with hbelow | ⟨-, habove⟩
  · obtain ⟨l, hl, heq⟩ := Option.map_eq_some_iff.mp hbelow
    cases heq
    exact (Option.filter_eq_some_iff.mp hl).1
  · obtain ⟨g, -, heq⟩ := Option.map_eq_some_iff.mp habove
    cases heq

theorem greatest_of_breach? {lt : α → α → Bool} {i : Interval α} {a greatest : α}
    (h : i.breach? lt a = some (.above greatest)) : i.greatest = some greatest := by
  unfold breach? at h
  rcases Option.or_eq_some_iff.mp h with hbelow | ⟨-, habove⟩
  · obtain ⟨l, -, heq⟩ := Option.map_eq_some_iff.mp hbelow
    cases heq
  · obtain ⟨g, hg, heq⟩ := Option.map_eq_some_iff.mp habove
    cases heq
    exact (Option.filter_eq_some_iff.mp hg).1

section Order

variable [LE α]

structure Contains (i : Interval α) (a : α) : Prop where
  least_le : ∀ least ∈ i.least, least ≤ a
  le_greatest : ∀ greatest ∈ i.greatest, a ≤ greatest

/-- No end of `j` lies further in than that of `i`. -/
structure Within (i j : Interval α) : Prop where
  least : ∀ outer ∈ j.least, ∃ inner ∈ i.least, outer ≤ inner
  greatest : ∀ outer ∈ j.greatest, ∃ inner ∈ i.greatest, inner ≤ outer

theorem contains_iff_both {least greatest : Option α} {a : α} :
    Contains ⟨least, greatest⟩ a ↔ Contains ⟨least, none⟩ a ∧ Contains ⟨none, greatest⟩ a := by
  constructor
  · intro h
    exact ⟨⟨h.least_le, nofun⟩, ⟨nofun, h.le_greatest⟩⟩
  · intro ⟨hleast, hgreatest⟩
    exact ⟨hleast.least_le, hgreatest.le_greatest⟩

theorem Within.contains [IsTrans α (· ≤ ·)] {i j : Interval α} (h : i.Within j) {a : α}
    (ha : i.Contains a) : j.Contains a := by
  constructor
  · intro outer houter
    obtain ⟨inner, hinner, hle⟩ := h.least outer houter
    exact IsTrans.trans _ _ _ hle (ha.least_le inner hinner)
  · intro outer houter
    obtain ⟨inner, hinner, hle⟩ := h.greatest outer houter
    exact IsTrans.trans _ _ _ (ha.le_greatest inner hinner) hle

/-- Where the order is total, an element is beyond an end exactly if it is not on the inner side. -/
theorem breach?_eq_none_iff {lt : α → α → Bool} {i : Interval α} {a : α}
    (hleast : ∀ least ∈ i.least, lt a least = false ↔ least ≤ a)
    (hgreatest : ∀ greatest ∈ i.greatest, lt greatest a = false ↔ a ≤ greatest) :
    i.breach? lt a = none ↔ i.Contains a := by
  unfold breach?
  rw [Option.or_eq_none_iff, Option.map_eq_none_iff, Option.map_eq_none_iff,
    Option.filter_eq_none_iff, Option.filter_eq_none_iff]
  constructor
  · intro ⟨hbelow, habove⟩
    exact ⟨fun least h => (hleast least h).mp (by simpa using hbelow least h),
      fun greatest h => (hgreatest greatest h).mp (by simpa using habove greatest h)⟩
  · intro h
    exact ⟨fun least hl => by simpa using (hleast least hl).mpr (h.least_le least hl),
      fun greatest hg => by simpa using (hgreatest greatest hg).mpr (h.le_greatest greatest hg)⟩

end Order

section Preorder

variable [Preorder α] {i : Interval α}

/-- Nothing is in an interval whose ends have crossed. -/
theorem not_contains_of_crossed {least greatest : α} (hleast : least ∈ i.least)
    (hgreatest : greatest ∈ i.greatest) (hcrossed : greatest < least) (a : α) :
    ¬ i.Contains a := by
  intro h
  have hle : least ≤ greatest := (h.least_le least hleast).trans (h.le_greatest greatest hgreatest)
  exact hcrossed.not_ge hle

/-- Both ends belong to an interval, unless they have crossed. -/
theorem contains_of_end (hordered : ∀ least ∈ i.least, ∀ greatest ∈ i.greatest, least ≤ greatest)
    {a : α} (h : a ∈ i.least ∨ a ∈ i.greatest) : i.Contains a := by
  rcases h with h | h
  · refine ⟨fun least hleast => ?_, hordered a h⟩
    exact (Option.mem_unique hleast h).le
  · refine ⟨fun least hleast => hordered least hleast a h, fun greatest hgreatest => ?_⟩
    exact (Option.mem_unique h hgreatest).le

end Preorder

def Admits [LE α] (i : Interval α) (read? : Value → Option α) (f : Focus) : Prop :=
  f.isEmpty = true ∨ ∃ v a, f.value? = some v ∧ read? v = some a ∧ i.Contains a

section Admits

variable [LE α] {read? : Value → Option α} {f : Focus}

theorem Within.admits [IsTrans α (· ≤ ·)] {i j : Interval α} (h : i.Within j)
    (hi : i.Admits read? f) : j.Admits read? f := by
  rcases hi with hempty | ⟨v, a, hvalue, hread, ha⟩
  · exact Or.inl hempty
  · exact Or.inr ⟨v, a, hvalue, hread, h.contains ha⟩

theorem admits_iff_both {least greatest : Option α} :
    Admits ⟨least, greatest⟩ read? f ↔
      Admits ⟨least, none⟩ read? f ∧ Admits ⟨none, greatest⟩ read? f := by
  constructor
  · rintro (hempty | ⟨v, a, hvalue, hread, ha⟩)
    · exact ⟨Or.inl hempty, Or.inl hempty⟩
    · obtain ⟨hleast, hgreatest⟩ := contains_iff_both.mp ha
      exact ⟨Or.inr ⟨v, a, hvalue, hread, hleast⟩, Or.inr ⟨v, a, hvalue, hread, hgreatest⟩⟩
  · rintro ⟨hempty | ⟨v, a, hvalue, hread, hleast⟩, hempty | ⟨w, b, hvalue', hread', hgreatest⟩⟩
    · exact Or.inl hempty
    · exact Or.inl hempty
    · exact Or.inl hempty
    · -- Both halves speak of the one reading that the field's value has.
      obtain rfl := Option.some.inj (hvalue.symm.trans hvalue')
      obtain rfl := Option.some.inj (hread.symm.trans hread')
      exact Or.inr ⟨v, a, hvalue, hread, contains_iff_both.mpr ⟨hleast, hgreatest⟩⟩

end Admits

def judge (f : Focus) (read? : Value → Option α) (unread : String) (lt : α → α → Bool)
    (i : Interval α) (verdict : Option (Breach α) → Verdict) : Verdict :=
  match f.content? with
  | none => .pass
  | some v => match read? v with
    | none => .fail unread
    | some a => verdict (i.breach? lt a)

section Judge

variable {f : Focus} {read? : Value → Option α} {unread : String} {lt : α → α → Bool}
  {i : Interval α} {verdict : Option (Breach α) → Verdict}

theorem judge_cases (hverdict : ∀ breach, verdict breach = .pass ∨
      ∃ message, verdict breach = .fail message) :
    judge f read? unread lt i verdict = .pass ∨
      ∃ message, judge f read? unread lt i verdict = .fail message := by
  unfold judge
  split
  · exact Or.inl rfl
  · split
    · exact Or.inr ⟨unread, rfl⟩
    · exact hverdict _

/-- A verdict depends on the field's reading alone. -/
theorem judge_congr {g : Focus} (h : f.content?.map read? = g.content?.map read?) :
    judge f read? unread lt i verdict = judge g read? unread lt i verdict := by
  unfold judge
  cases hf : f.content? with
  | none =>
    rw [hf, Option.map_none, eq_comm, Option.map_eq_none_iff] at h
    rw [h]
  | some v =>
    rw [hf, Option.map_some, eq_comm, Option.map_eq_some_iff] at h
    obtain ⟨w, hg, hread⟩ := h
    rw [hg]
    dsimp only
    rw [hread]

/-- A field passes exactly if the interval admits it. -/
theorem judge_eq_pass_iff [LE α] (hverdict : ∀ breach, verdict breach = .pass ↔ breach = none)
    (hlt : ∀ v a, read? v = some a →
      (∀ least ∈ i.least, lt a least = false ↔ least ≤ a) ∧
        ∀ greatest ∈ i.greatest, lt greatest a = false ↔ a ≤ greatest) :
    judge f read? unread lt i verdict = .pass ↔ i.Admits read? f := by
  unfold judge Admits
  cases hcontent : f.content? with
  | none => exact iff_of_true rfl (Or.inl (f.content?_eq_none_iff.mp hcontent))
  | some v =>
    obtain ⟨hvalue, hempty⟩ := (f.content?_eq_some_iff v).mp hcontent
    rw [hvalue, hempty]
    simp only [Bool.false_eq_true, false_or, Option.some.injEq, exists_and_left, exists_eq_left']
    cases hread : read? v with
    | none => simp
    | some a =>
      obtain ⟨hleast, hgreatest⟩ := hlt v a hread
      simp only [Option.some.injEq, exists_eq_left', hverdict,
        breach?_eq_none_iff hleast hgreatest]

end Judge

end FieldRules.Builtin.Interval
