import FieldRules.CharSet
import Mathlib.Data.List.Basic

/-!
Membership in sets of characters. Sorting ranges and joining those that meet keeps what they cover
and leaves gaps between them, so that the ranges of the gaps cover just what is left. Main
statement: `contains_complement`.
-/
namespace FieldRules.CharSet

def Covers (ranges : List (Nat × Nat)) (code : Nat) : Prop :=
  ∃ r ∈ ranges, r.1 ≤ code ∧ code ≤ r.2

def Ascending (ranges : List (Nat × Nat)) : Prop := ranges.Pairwise fun r s => r.1 ≤ s.1

def Apart (ranges : List (Nat × Nat)) : Prop := ranges.Pairwise fun r s => r.2 < s.1

def Proper (ranges : List (Nat × Nat)) : Prop := ∀ r ∈ ranges, r.1 ≤ r.2

instance (ranges : List (Nat × Nat)) : Decidable (Proper ranges) :=
  inferInstanceAs (Decidable (∀ r ∈ ranges, r.1 ≤ r.2))

theorem not_covers_nil (code : Nat) : ¬ Covers [] code := by simp [Covers]

theorem covers_cons (first last : Nat) (l : List (Nat × Nat)) (code : Nat) :
    Covers ((first, last) :: l) code ↔ (first ≤ code ∧ code ≤ last) ∨ Covers l code := by
  simp [Covers]

theorem contains_iff (s : CharSet) (c : Char) :
    s.contains c = true ↔ Covers s.ranges c.toNat := by
  simp [contains, containsCode, Covers]

theorem contains_singleton (c d : Char) : (singleton c).contains d = true ↔ d = c := by
  rw [contains_iff, ← Char.toNat_inj]
  simp only [singleton, covers_cons, not_covers_nil, or_false]
  omega

def Disjoint (s t : CharSet) : Prop :=
  ∀ r ∈ s.ranges, ∀ q ∈ t.ranges, r.2 < q.1 ∨ q.2 < r.1

instance (s t : CharSet) : Decidable (s.Disjoint t) :=
  inferInstanceAs (Decidable (∀ r ∈ s.ranges, ∀ q ∈ t.ranges, r.2 < q.1 ∨ q.2 < r.1))

theorem Disjoint.not_contains {s t : CharSet} (h : s.Disjoint t) {c : Char}
    (hc : s.contains c = true) : t.contains c = false := by
  rw [← Bool.not_eq_true, contains_iff]
  obtain ⟨r, hr, hfirst, hlast⟩ := (contains_iff s c).mp hc
  intro ⟨q, hq, hstart, hend⟩
  have hapart := h r hr q hq
  omega

theorem toNat_le_lastCode (c : Char) : c.toNat ≤ lastCode := by
  have hvalid : c.toNat < 0xD800 ∨ 0xDFFF < c.toNat ∧ c.toNat < 0x110000 := c.valid
  unfold lastCode
  omega

section Join

variable {l : List (Nat × Nat)} {first last : Nat}

theorem covers_joinInto (hfirst : ∀ r ∈ l, first ≤ r.1) (hl : Ascending l) (code : Nat) :
    Covers (joinInto first last l) code ↔ (first ≤ code ∧ code ≤ last) ∨ Covers l code := by
  induction l generalizing first last with
  | nil => simp [joinInto, Covers]
  | cons head rest ih =>
    obtain ⟨a, b⟩ := head
    have ha : first ≤ a := hfirst (a, b) (List.mem_cons_self ..)
    obtain ⟨hafter, hrest⟩ := List.pairwise_cons.mp hl
    rw [joinInto, covers_cons]
    split
    · rename_i hmeet
      rw [ih (fun r hr => Nat.le_trans ha (hafter r hr)) hrest, ← or_assoc]
      refine or_congr_left ?_
      omega
    · rw [covers_cons, ih hafter hrest]

/-- Joining keeps where the ranges start, and leaves a gap behind each that is not joined. -/
theorem joinInto_apart (hfirst : ∀ r ∈ l, first ≤ r.1) (hl : Ascending l) :
    (∀ r ∈ joinInto first last l, first ≤ r.1) ∧ Apart (joinInto first last l) := by
  induction l generalizing first last with
  | nil => simp [joinInto, Apart]
  | cons head rest ih =>
    obtain ⟨a, b⟩ := head
    have ha : first ≤ a := hfirst (a, b) (List.mem_cons_self ..)
    obtain ⟨hafter, hrest⟩ := List.pairwise_cons.mp hl
    rw [joinInto]
    split
    · exact ih (fun r hr => Nat.le_trans ha (hafter r hr)) hrest
    · rename_i hgap
      have hjoined : (∀ r ∈ joinInto a b rest, a ≤ r.1) ∧ Apart (joinInto a b rest) :=
        ih hafter hrest
      obtain ⟨hstart, hapart⟩ := hjoined
      constructor
      · intro r hr
        rcases List.mem_cons.mp hr with rfl | hr
        · exact Nat.le_refl _
        · exact Nat.le_trans ha (hstart r hr)
      · refine List.pairwise_cons.mpr ⟨fun r hr => ?_, hapart⟩
        have hr := hstart r hr
        omega

theorem joinInto_proper (hrange : first ≤ last) (hl : Proper l) :
    Proper (joinInto first last l) := by
  induction l generalizing first last with
  | nil => simpa [joinInto, Proper] using hrange
  | cons head rest ih =>
    obtain ⟨a, b⟩ := head
    have hab : a ≤ b := hl (a, b) (List.mem_cons_self ..)
    have hrest : Proper rest := fun r hr => hl r (List.mem_cons_of_mem _ hr)
    rw [joinInto]
    split
    · exact ih (by omega) hrest
    · intro r hr
      rcases List.mem_cons.mp hr with rfl | hr
      · exact hrange
      · exact ih hab hrest r hr

end Join

section Joined

variable {l : List (Nat × Nat)}

/-- Joining ranges changes nothing about the codes that they cover. -/
theorem covers_joined (hl : Ascending l) (code : Nat) : Covers (joined l) code ↔ Covers l code := by
  cases l with
  | nil => rfl
  | cons head rest =>
    obtain ⟨hfirst, hrest⟩ := List.pairwise_cons.mp hl
    exact (covers_joinInto hfirst hrest code).trans (covers_cons ..).symm

theorem joined_apart (hl : Ascending l) : Apart (joined l) := by
  cases l with
  | nil => exact List.Pairwise.nil
  | cons head rest =>
    obtain ⟨hfirst, hrest⟩ := List.pairwise_cons.mp hl
    exact (joinInto_apart hfirst hrest).2

theorem joined_proper (hl : Proper l) : Proper (joined l) := by
  cases l with
  | nil => exact hl
  | cons head rest =>
    exact joinInto_proper (hl head (List.mem_cons_self ..))
      fun r hr => hl r (List.mem_cons_of_mem _ hr)

end Joined

theorem ascending_mergeSort (l : List (Nat × Nat)) :
    Ascending (l.mergeSort fun r t => r.1 ≤ t.1) := by
  refine (List.pairwise_mergeSort ?_ ?_ l).imp of_decide_eq_true
  · intro a b c hab hbc
    rw [decide_eq_true_eq] at hab hbc ⊢
    exact Nat.le_trans hab hbc
  · intro a b
    rw [Bool.or_eq_true, decide_eq_true_eq, decide_eq_true_eq]
    exact Nat.le_total a.1 b.1

/-- The gaps from `start` on cover what the ranges from there on leave out. -/
theorem covers_gapsFrom {l : List (Nat × Nat)} {start code : Nat} (hstart : ∀ r ∈ l, start ≤ r.1)
    (hl : Apart l) (hproper : Proper l) (hcode : code ≤ lastCode) :
    Covers (gapsFrom start l) code ↔ start ≤ code ∧ ¬ Covers l code := by
  induction l generalizing start with
  | nil =>
    rw [gapsFrom]
    split
    · simp [covers_cons, not_covers_nil, hcode]
    · rename_i hbeyond
      simp only [not_covers_nil, not_false_eq_true, and_true, false_iff]
      omega
  | cons head rest ih =>
    obtain ⟨a, b⟩ := head
    have ha : start ≤ a := hstart (a, b) (List.mem_cons_self ..)
    have hab : a ≤ b := hproper (a, b) (List.mem_cons_self ..)
    obtain ⟨hafter, hrest⟩ := List.pairwise_cons.mp hl
    have hbelow : Covers rest code → b < code := by
      intro ⟨r, hr, hcovers⟩
      have hr := hafter r hr
      omega
    have hgaps : Covers (gapsFrom (b + 1) rest) code ↔ b + 1 ≤ code ∧ ¬ Covers rest code :=
      ih (fun r hr => hafter r hr) hrest (fun r hr => hproper r (List.mem_cons_of_mem _ hr))
    rw [gapsFrom]
    split
    · rw [covers_cons, covers_cons, hgaps]
      grind
    · rw [covers_cons, hgaps]
      grind

/-- The complement holds the characters that the set does not hold. -/
theorem contains_complement {s : CharSet} (hs : Proper s.ranges) (c : Char) :
    s.complement.contains c = !s.contains c := by
  have hascending := ascending_mergeSort s.ranges
  have hproper : Proper (s.ranges.mergeSort fun r t => r.1 ≤ t.1) := by
    intro r hr
    exact hs r (List.mem_mergeSort.mp hr)
  have hsame : Covers (s.ranges.mergeSort fun r t => r.1 ≤ t.1) c.toNat ↔
      Covers s.ranges c.toNat := by
    simp only [Covers, List.mem_mergeSort]
  have hgaps : Covers s.complement.ranges c.toNat ↔ ¬ Covers s.ranges c.toNat := by
    unfold complement ofRanges
    rw [covers_gapsFrom (fun r _ => Nat.zero_le _) (joined_apart hascending)
      (joined_proper hproper) (toNat_le_lastCode c), covers_joined hascending, hsame]
    simp
  rw [Bool.eq_iff_iff, Bool.not_eq_true', ← Bool.not_eq_true, contains_iff, contains_iff, hgaps]

end FieldRules.CharSet
