import FieldRules.Pattern.Search
import Mathlib.Data.Nat.Bitwise
import Mathlib.Tactic.Common

/-!
What a search finds. A pattern leads from a position of a text to another one: an atom to the next
position or to the same, a sequence by way of a third position, a repetition in an allowed number of
rounds. The set that a search computes is that of the positions to which the pattern leads from the
set it starts with; an unlimited repetition needs no more rounds than the text has characters. Main
statements: `images_ends` and `occursIn_iff`.
-/
namespace FieldRules.Pattern

def before? (text : List Char) : Nat → Option Char
  | 0 => none
  | i + 1 => text[i]?

def Atom.Spans (text : List Char) : Atom → Nat → Nat → Prop
  | .char s, i, j => j = i + 1 ∧ ∃ c, text[i]? = some c ∧ s.contains c = true
  | .look l, i, j => j = i ∧ i ≤ text.length ∧ l.holds (before? text i) text[i]? = true

def Rounds (R : Nat → Nat → Prop) : Nat → Nat → Nat → Prop
  | 0, i, j => i = j
  | n + 1, i, k => ∃ j, R i j ∧ Rounds R n j k

/-- How often a repetition may go round; a limit below the least number counts as that number. -/
def Allows (least : Nat) (most : Option Nat) (n : Nat) : Prop :=
  least ≤ n ∧ ∀ m ∈ most, n ≤ max least m

/-- The pattern leads from one position of the text to the other. -/
def Spans (text : List Char) : Pattern Atom → Nat → Nat → Prop
  | empty, i, j => i = j
  | atom a, i, j => a.Spans text i j
  | seq p q, i, k => ∃ j, Spans text p i j ∧ Spans text q j k
  | alt p q, i, j => Spans text p i j ∨ Spans text q i j
  | repeated least most p, i, j => ∃ n, Allows least most n ∧ Rounds (Spans text p) n i j
  | capture p, i, j => Spans text p i j

section Rounds

variable {R : Nat → Nat → Prop} {size : Nat}

theorem rounds_add (m n i k : Nat) :
    Rounds R (m + n) i k ↔ ∃ j, Rounds R m i j ∧ Rounds R n j k := by
  induction m generalizing i with
  | zero => simp [Rounds]
  | succ m ih =>
    rw [Nat.succ_add]
    simp only [Rounds, ih]
    constructor
    · intro ⟨h, hstep, j, hfirst, hrest⟩
      exact ⟨j, ⟨h, hstep, hfirst⟩, hrest⟩
    · intro ⟨j, ⟨h, hstep, hfirst⟩, hrest⟩
      exact ⟨h, hstep, j, hfirst, hrest⟩

def Advances (size : Nat) (R : Nat → Nat → Prop) : Prop :=
  ∀ i j, R i j → i ≤ j ∧ (i = j ∨ j ≤ size)

theorem Advances.rounds (hR : Advances size R) (n : Nat) : Advances size (Rounds R n) := by
  induction n with
  | zero =>
    intro i j h
    obtain rfl : i = j := h
    omega
  | succ n ih =>
    intro i k ⟨j, hstep, hrest⟩
    have hfirst := hR i j hstep
    have hlater := ih j k hrest
    omega

/-- Rounds that stay in place can be left out. -/
theorem Advances.exists_rounds_le (hR : Advances size R) {n i k : Nat} (h : Rounds R n i k) :
    ∃ m, m ≤ k - i ∧ Rounds R m i k := by
  induction n generalizing i with
  | zero => exact ⟨0, by omega, h⟩
  | succ n ih =>
    obtain ⟨j, hstep, hrest⟩ := h
    obtain ⟨m, hm, hshort⟩ := ih hrest
    by_cases hstay : i = j
    · subst hstay
      exact ⟨m, hm, hshort⟩
    · have hfirst := hR i j hstep
      have hlater := hR.rounds n j k hrest
      exact ⟨m + 1, by omega, j, hstep, hshort⟩

end Rounds

/-- By induction on the pattern, a match never leads back nor beyond the text. -/
theorem advances_spans (text : List Char) (p : Pattern Atom) :
    Advances text.length (p.Spans text) := by
  induction p with
  | empty =>
    intro i j h
    obtain rfl : i = j := h
    omega
  | atom a =>
    intro i j h
    cases a with
    | char s =>
      obtain ⟨rfl, c, hc, -⟩ := h
      obtain ⟨hlt, -⟩ := List.getElem?_eq_some_iff.mp hc
      omega
    | look l =>
      obtain ⟨rfl, -⟩ := h
      omega
  | seq p q ihp ihq =>
    intro i k ⟨j, hp, hq⟩
    have hfirst := ihp i j hp
    have hlater := ihq j k hq
    omega
  | alt p q ihp ihq =>
    intro i j h
    rcases h with h | h
    · exact ihp i j h
    · exact ihq i j h
  | repeated least most p ih =>
    intro i j ⟨n, _, h⟩
    exact ih.rounds n i j h
  | capture p ih => exact ih

/-- The function takes a set of positions to the set of those that the relation leads to. -/
def Images (f : Nat → Nat) (R : Nat → Nat → Prop) : Prop :=
  ∀ s j, (f s).testBit j = true ↔ ∃ i, s.testBit i = true ∧ R i j

namespace Images

variable {f g : Nat → Nat} {R S : Nat → Nat → Prop}

theorem comp (hf : Images f R) (hg : Images g S) :
    Images (fun s => g (f s)) fun i k => ∃ j, R i j ∧ S j k := by
  intro s k
  refine (hg (f s) k).trans ?_
  constructor
  · intro ⟨j, hj, hjk⟩
    obtain ⟨i, hi, hij⟩ := (hf s j).mp hj
    exact ⟨i, hi, j, hij, hjk⟩
  · intro ⟨i, hi, j, hij, hjk⟩
    exact ⟨j, (hf s j).mpr ⟨i, hi, hij⟩, hjk⟩

theorem union (hf : Images f R) (hg : Images g S) :
    Images (fun s => f s ||| g s) fun i j => R i j ∨ S i j := by
  intro s j
  rw [Nat.testBit_or, Bool.or_eq_true, hf s j, hg s j, ← exists_or]
  simp only [and_or_left]

theorem congr (hf : Images f R) (h : ∀ i j, R i j ↔ S i j) : Images f S := by
  intro s j
  simp only [hf s j, h]

/-- A set that the relation does not leave. -/
theorem mem_of_rounds (hf : Images f R) {s : Nat}
    (hs : ∀ j, (f s).testBit j = true → s.testBit j = true) {n i j : Nat}
    (hi : s.testBit i = true) (h : Rounds R n i j) : s.testBit j = true := by
  induction n generalizing i with
  | zero =>
    obtain rfl : i = j := h
    exact hi
  | succ n ih =>
    obtain ⟨k, hstep, hrest⟩ := h
    exact ih (hs k ((hf s k).mpr ⟨i, hi, hstep⟩)) hrest

/-- A set that the function does not enlarge is reached from within it in any number of rounds. -/
theorem exists_rounds (hf : Images f R) {s : Nat} (hs : f s = s) (n : Nat) {j : Nat}
    (hj : s.testBit j = true) : ∃ i, s.testBit i = true ∧ Rounds R n i j := by
  induction n with
  | zero => exact ⟨j, hj, rfl⟩
  | succ n ih =>
    obtain ⟨k, hk, hrest⟩ := ih
    rw [← hs] at hk
    obtain ⟨i, hi, hstep⟩ := (hf s k).mp hk
    exact ⟨i, hi, k, hstep, hrest⟩

theorem times (hf : Images f R) (n : Nat) : Images (Pattern.times f n) (Rounds R n) := by
  induction n with
  | zero =>
    intro s j
    simp [Pattern.times, Rounds]
  | succ n ih =>
    intro s j
    rw [Pattern.times]
    split
    · rename_i hfix
      constructor
      · exact hf.exists_rounds hfix (n + 1)
      · intro ⟨i, hi, h⟩
        exact hf.mem_of_rounds (fun k hk => hfix ▸ hk) hi h
    · exact hf.comp ih s j

theorem within (hf : Images f R) (n : Nat) :
    Images (Pattern.within f n) fun i j => ∃ m, m ≤ n ∧ Rounds R m i j := by
  induction n with
  | zero =>
    intro s j
    simp [Pattern.within, Rounds]
  | succ n ih =>
    intro s j
    rw [Pattern.within]
    split
    · rename_i hfix
      constructor
      · intro hj
        exact ⟨j, hj, 0, Nat.zero_le _, rfl⟩
      · intro ⟨i, hi, m, _, h⟩
        refine hf.mem_of_rounds (fun k hk => ?_) hi h
        rw [← hfix, Nat.testBit_or, hk, Bool.or_true]
    · rw [ih (s ||| f s) j]
      simp only [Nat.testBit_or, Bool.or_eq_true]
      constructor
      · intro ⟨i, hi, m, hm, h⟩
        rcases hi with hi | hi
        · exact ⟨i, hi, m, by omega, h⟩
        · obtain ⟨k, hk, hstep⟩ := (hf s i).mp hi
          exact ⟨k, hk, m + 1, by omega, i, hstep, h⟩
      · intro ⟨i, hi, m, hm, h⟩
        cases m with
        | zero => exact ⟨i, Or.inl hi, 0, Nat.zero_le _, h⟩
        | succ m =>
          obtain ⟨k, hstep, hrest⟩ := h
          exact ⟨k, Or.inr ((hf s k).mpr ⟨i, hi, hstep⟩), m, by omega, hrest⟩

end Images

theorem testBit_places {α : Type} (p : α → Bool) (l : List α) (i : Nat) :
    (places p l).testBit i = true ↔ ∃ a, l[i]? = some a ∧ p a = true := by
  induction l generalizing i with
  | nil => simp [places]
  | cons a rest ih =>
    cases i with
    | zero =>
      rw [Nat.testBit_zero, places]
      cases h : p a <;> simp [h]
    | succ i =>
      have hhalf : places p (a :: rest) / 2 = places p rest := by
        rw [places]
        split <;> omega
      rw [Nat.testBit_succ, hhalf, ih, List.getElem?_cons_succ]

theorem getElem?_lefts (text : List Char) (i : Nat) (left : Option Char) :
    (none :: text.map some)[i]? = some left ↔ i ≤ text.length ∧ left = before? text i := by
  cases i with
  | zero => simp [before?, eq_comm]
  | succ i =>
    rw [List.getElem?_cons_succ, List.getElem?_map, Option.map_eq_some_iff, before?]
    constructor
    · intro ⟨c, hc, h⟩
      obtain ⟨hlt, -⟩ := List.getElem?_eq_some_iff.mp hc
      exact ⟨hlt, h ▸ hc.symm⟩
    · intro ⟨hlt, h⟩
      exact ⟨text[i], List.getElem?_eq_getElem hlt, h ▸ (List.getElem?_eq_getElem hlt).symm⟩

theorem getElem?_rights (text : List Char) (i : Nat) (right : Option Char) :
    (text.map some ++ [none])[i]? = some right ↔ i ≤ text.length ∧ right = text[i]? := by
  rw [List.getElem?_append, List.length_map]
  split
  · rename_i hlt
    rw [List.getElem?_map, List.getElem?_eq_getElem hlt]
    simp only [Option.map_some, Option.some.injEq]
    exact ⟨fun h => ⟨by omega, h.symm⟩, fun h => h.2.symm⟩
  · rename_i hge
    rw [List.getElem?_eq_none (l := text) (by omega), List.getElem?_singleton]
    split
    · simp only [Option.some.injEq]
      exact ⟨fun h => ⟨by omega, h.symm⟩, fun h => h.2.symm⟩
    · simp only [reduceCtorEq, false_iff]
      omega

/-- A border is told by the characters on its two sides. -/
theorem getElem?_borders (text : List Char) (i : Nat) (b : Option Char × Option Char) :
    (borders text)[i]? = some b ↔ i ≤ text.length ∧ b = (before? text i, text[i]?) := by
  obtain ⟨left, right⟩ := b
  unfold borders
  rw [List.getElem?_zip_eq_some, getElem?_lefts, getElem?_rights, Prod.mk.injEq]
  tauto

theorem images_atom (text : List Char) (a : Atom) : Images (a.gate text).pass (a.Spans text) := by
  intro s j
  cases a with
  | char set =>
    simp only [Atom.gate, Gate.pass, Nat.testBit_shiftLeft, Nat.testBit_and, Bool.and_eq_true,
      decide_eq_true_eq, testBit_places, Atom.Spans]
    constructor
    · intro ⟨hj, hs, hc⟩
      exact ⟨j - 1, hs, by omega, hc⟩
    · intro ⟨i, hs, hj, hc⟩
      subst hj
      exact ⟨by omega, hs, hc⟩
  | look l =>
    simp only [Atom.gate, Gate.pass, Nat.shiftLeft_zero, Nat.testBit_and, Bool.and_eq_true,
      testBit_places, getElem?_borders, Atom.Spans]
    constructor
    · intro ⟨hs, b, ⟨hj, hb⟩, hl⟩
      subst hb
      exact ⟨j, hs, rfl, hj, hl⟩
    · intro ⟨i, hs, hij, hi, hl⟩
      subst hij
      exact ⟨hs, _, ⟨hi, rfl⟩, hl⟩

/-- The rounds that a search makes reach what the allowed numbers of rounds reach. -/
theorem exists_rounds_iff_allows {R : Nat → Nat → Prop} {size : Nat} (hR : Advances size R)
    (least : Nat) (most : Option Nat) (i k : Nat) :
    (∃ j, Rounds R least i j ∧ ∃ m, m ≤ (match most with
        | some most => most - least
        | none => size) ∧ Rounds R m j k) ↔
      ∃ n, Allows least most n ∧ Rounds R n i k := by
  constructor
  · intro ⟨j, hleast, m, hm, hmore⟩
    refine ⟨least + m, ⟨by omega, fun most hmost => ?_⟩, (rounds_add ..).mpr ⟨j, hleast, hmore⟩⟩
    obtain rfl := Option.mem_def.mp hmost
    dsimp only at hm
    omega
  · intro ⟨n, ⟨hle, hmost⟩, h⟩
    obtain ⟨m, rfl⟩ := Nat.exists_eq_add_of_le hle
    obtain ⟨j, hleast, hmore⟩ := (rounds_add ..).mp h
    refine ⟨j, hleast, ?_⟩
    cases most with
    | some most =>
      have hlimit := hmost most rfl
      exact ⟨m, by dsimp only; omega, hmore⟩
    | none =>
      obtain ⟨m', hm', hshort⟩ := hR.exists_rounds_le hmore
      have hrange := hR.rounds m j k hmore
      exact ⟨m', by dsimp only; omega, hshort⟩

/-- A search finds where the pattern leads to. -/
theorem images_ends (text : List Char) (p : Pattern Atom) :
    Images (ends text.length (p.map (Atom.gate text))) (p.Spans text) := by
  induction p with
  | empty =>
    intro s j
    simp [map, ends, Spans]
  | atom a => exact images_atom text a
  | seq p q ihp ihq => exact ihp.comp ihq
  | alt p q ihp ihq => exact ihp.union ihq
  | repeated least most p ih =>
    exact ((ih.times least).comp (ih.within _)).congr
      (exists_rounds_iff_allows (advances_spans text p) least most)
  | capture p ih => exact ih

/-- A pattern occurs in a text if it leads from one of its positions to any other. -/
theorem occursIn_iff (p : Pattern Atom) (text : List Char) :
    p.occursIn text = true ↔ ∃ i j, i ≤ text.length ∧ p.Spans text i j := by
  have heverywhere : ∀ i, (everywhere text.length).testBit i = true ↔ i ≤ text.length := by
    intro i
    have hbit := Nat.testBit_two_pow_sub_one (text.length + 1) i
    change (everywhere text.length).testBit i = _ at hbit
    rw [hbit, decide_eq_true_eq]
    omega
  have hends := images_ends text p (everywhere text.length)
  unfold occursIn
  rw [bne_iff_ne]
  constructor
  · intro hfound
    obtain ⟨j, hj⟩ := Nat.exists_testBit_of_ne_zero hfound
    obtain ⟨i, hi, hspans⟩ := (hends j).mp hj
    exact ⟨i, j, (heverywhere i).mp hi, hspans⟩
  · intro ⟨i, j, hi, hspans⟩ hnone
    have hj := (hends j).mpr ⟨i, (heverywhere i).mpr hi, hspans⟩
    rw [hnone, Nat.zero_testBit] at hj
    cases hj

end FieldRules.Pattern
