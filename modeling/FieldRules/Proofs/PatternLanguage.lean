import FieldRules.Proofs.PatternSearch
import Mathlib.Computability.Language

/-!
The languages of patterns. A pattern without conditions on borders leads from a position to another
one just if the characters in between are one of its words. So a pattern of such parts, with the
start and the end of the text around them, occurs in the words of the product of their languages and
in no other text. Main statements: `spans_eq_reads` and `occursIn_whole`.
-/
namespace FieldRules.Pattern

open scoped Computability

/-- Without conditions on borders. -/
def Plain : Pattern Atom → Prop
  | empty => True
  | atom (.char _) => True
  | atom (.look _) => False
  | seq p q | alt p q => p.Plain ∧ q.Plain
  | repeated _ _ p | capture p => p.Plain

instance decidablePlain : (p : Pattern Atom) → Decidable p.Plain
  | empty => isTrue trivial
  | atom (.char _) => isTrue trivial
  | atom (.look _) => isFalse id
  | seq p q | alt p q =>
    haveI := decidablePlain p
    haveI := decidablePlain q
    inferInstanceAs (Decidable (p.Plain ∧ q.Plain))
  | repeated _ _ p | capture p => decidablePlain p

def language : Pattern Atom → Language Char
  | empty => 1
  | atom (.char s) => {w | ∃ c, s.contains c = true ∧ w = [c]}
  | atom (.look _) => 0
  | seq p q => p.language * q.language
  | alt p q => p.language + q.language
  | repeated least most p => {w | ∃ n, Allows least most n ∧ w ∈ p.language ^ n}
  | capture p => p.language

/-- A word of the language stands between the two positions. -/
def Reads (text : List Char) (L : Language Char) (i j : Nat) : Prop :=
  ∃ w ∈ L, w <+: text.drop i ∧ j = i + w.length

section Reads

variable (text : List Char) (L M : Language Char) (i j k : Nat)

theorem reads_one : Reads text 1 i j ↔ i = j := by
  simp [Reads, Language.mem_one, eq_comm]

theorem reads_add : Reads text (L + M) i j ↔ Reads text L i j ∨ Reads text M i j := by
  simp only [Reads, Language.mem_add, or_and_right, exists_or]

theorem reads_mul : Reads text (L * M) i k ↔ ∃ j, Reads text L i j ∧ Reads text M j k := by
  have hsplit : ∀ u v : List Char, u ++ v <+: text.drop i ↔
      u <+: text.drop i ∧ v <+: text.drop (i + u.length) := by
    intro u v
    constructor
    · intro h
      have hu := (List.prefix_append u v).trans h
      refine ⟨hu, ?_⟩
      rw [← List.prefix_iff_eq_append.mp hu, List.prefix_append_right_inj, List.drop_drop] at h
      exact h
    · intro ⟨hu, hv⟩
      rw [← List.prefix_iff_eq_append.mp hu, List.prefix_append_right_inj, List.drop_drop]
      exact hv
  constructor
  · intro ⟨w, hw, hprefix, hk⟩
    obtain ⟨u, hu, v, hv, rfl⟩ := Language.mem_mul.mp hw
    obtain ⟨hfirst, hrest⟩ := (hsplit u v).mp hprefix
    rw [List.length_append] at hk
    exact ⟨i + u.length, ⟨u, hu, hfirst, rfl⟩, v, hv, hrest, by omega⟩
  · intro ⟨j, ⟨u, hu, hfirst, hj⟩, v, hv, hrest, hk⟩
    subst hj
    refine ⟨u ++ v, Language.append_mem_mul hu hv, (hsplit u v).mpr ⟨hfirst, hrest⟩, ?_⟩
    rw [List.length_append]
    omega

theorem reads_pow (n : Nat) : Reads text (L ^ n) i k ↔ Rounds (Reads text L) n i k := by
  induction n generalizing i with
  | zero => rw [pow_zero, reads_one, Rounds]
  | succ n ih =>
    rw [pow_succ', reads_mul, Rounds]
    simp only [ih]

theorem reads_char (s : CharSet) : Reads text {w | ∃ c, s.contains c = true ∧ w = [c]} i j ↔
    (Atom.char s).Spans text i j := by
  have hfirst : ∀ c, [c] <+: text.drop i ↔ text[i]? = some c := by
    intro c
    rw [← List.head?_drop]
    cases text.drop i with
    | nil => simp
    | cons d rest => simp [eq_comm]
  constructor
  · intro ⟨w, ⟨c, hs, hw⟩, hprefix, hj⟩
    subst hw
    exact ⟨hj, c, (hfirst c).mp hprefix, hs⟩
  · intro ⟨hj, c, hc, hs⟩
    exact ⟨[c], ⟨c, hs, rfl⟩, (hfirst c).mpr hc, hj⟩

theorem reads_repeated (least : Nat) (most : Option Nat) :
    Reads text {w | ∃ n, Allows least most n ∧ w ∈ L ^ n} i k ↔
      ∃ n, Allows least most n ∧ Rounds (Reads text L) n i k := by
  simp only [← reads_pow]
  constructor
  · intro ⟨w, ⟨n, hn, hw⟩, hread⟩
    exact ⟨n, hn, w, hw, hread⟩
  · intro ⟨n, hn, w, hw, hread⟩
    exact ⟨w, ⟨n, hn, hw⟩, hread⟩

/-- The word that reaches from one end of the text to the other is the text. -/
theorem reads_whole : Reads text L 0 text.length ↔ text ∈ L := by
  constructor
  · intro ⟨w, hw, hprefix, hlength⟩
    rw [List.drop_zero] at hprefix
    rw [Nat.zero_add] at hlength
    exact hprefix.eq_of_length hlength.symm ▸ hw
  · intro h
    exact ⟨text, h, List.prefix_refl _, (Nat.zero_add _).symm⟩

end Reads

/-- A pattern without borders leads from one position to another exactly over the words of its
language. -/
theorem spans_eq_reads {p : Pattern Atom} (hp : p.Plain) (text : List Char) :
    p.Spans text = Reads text p.language := by
  induction p with
  | empty =>
    funext i j
    exact propext (reads_one text i j).symm
  | atom a =>
    funext i j
    cases a with
    | look l => cases hp
    | char s => exact propext (reads_char text i j s).symm
  | seq p q ihp ihq =>
    funext i k
    rw [language, Spans, ihp hp.1, ihq hp.2]
    exact propext (reads_mul ..).symm
  | alt p q ihp ihq =>
    funext i j
    rw [language, Spans, ihp hp.1, ihq hp.2]
    exact propext (reads_add ..).symm
  | repeated least most p ih =>
    funext i k
    rw [language, Spans, ih hp]
    exact propext (reads_repeated ..).symm
  | capture p ih => exact ih hp

section Parts

variable {p : Pattern Atom} {w : List Char}

theorem mem_language_chars (s : CharSet) :
    w ∈ (chars s).language ↔ ∃ c, s.contains c = true ∧ w = [c] := Iff.rfl

theorem mem_language_seq (q : Pattern Atom) :
    w ∈ (seq p q).language ↔ ∃ u ∈ p.language, ∃ v ∈ q.language, u ++ v = w := Language.mem_mul

theorem mem_language_alt (q : Pattern Atom) :
    w ∈ (alt p q).language ↔ w ∈ p.language ∨ w ∈ q.language := Iff.rfl

/-- A word of a repetition falls into words of the pattern, as many as the limits allow. -/
theorem mem_language_repeated (least : Nat) (most : Option Nat) :
    w ∈ (repeated least most p).language ↔
      ∃ ws : List (List Char), Allows least most ws.length ∧ (∀ v ∈ ws, v ∈ p.language) ∧
        w = ws.flatten := by
  constructor
  · intro ⟨n, hn, hw⟩
    obtain ⟨ws, hflat, hlength, hall⟩ := Language.mem_pow.mp hw
    exact ⟨ws, hlength ▸ hn, hall, hflat⟩
  · intro ⟨ws, hallows, hall, hflat⟩
    exact ⟨ws.length, hallows, Language.mem_pow.mpr ⟨ws, hflat, rfl, hall⟩⟩

theorem mem_language_optional : w ∈ (optional p).language ↔ w = [] ∨ w ∈ p.language := by
  rw [optional, mem_language_repeated]
  constructor
  · intro ⟨ws, ⟨_, hmost⟩, hall, hflat⟩
    have hlength : ws.length ≤ 1 := hmost 1 rfl
    match ws, hlength with
    | [], _ => exact Or.inl hflat
    | [v], _ =>
      rw [List.flatten_singleton] at hflat
      exact Or.inr (hflat ▸ hall v (List.mem_singleton_self v))
  · intro h
    rcases h with rfl | h
    · exact ⟨[], ⟨by decide, by simp⟩, by simp, rfl⟩
    · exact ⟨[w], ⟨by simp, by simp⟩, by simpa using h, by simp⟩

theorem mem_language_star :
    w ∈ (star p).language ↔ ∃ ws : List (List Char), (∀ v ∈ ws, v ∈ p.language) ∧
      w = ws.flatten := by
  rw [star, mem_language_repeated]
  simp [Allows]

theorem mem_language_plus :
    w ∈ (plus p).language ↔ ∃ ws : List (List Char), ws ≠ [] ∧ (∀ v ∈ ws, v ∈ p.language) ∧
      w = ws.flatten := by
  rw [plus, mem_language_repeated]
  simp [Allows, Nat.one_le_iff_ne_zero]

theorem mem_language_star_chars (s : CharSet) :
    w ∈ (star (chars s)).language ↔ ∀ c ∈ w, s.contains c = true := by
  rw [mem_language_star]
  constructor
  · intro ⟨ws, hall, hflat⟩ c hc
    subst hflat
    obtain ⟨v, hv, hcv⟩ := List.mem_flatten.mp hc
    obtain ⟨d, hd, rfl⟩ := (mem_language_chars s).mp (hall v hv)
    exact List.mem_singleton.mp hcv ▸ hd
  · intro h
    refine ⟨w.map fun c => [c], ?_, by simp [← List.flatMap_def]⟩
    intro v hv
    obtain ⟨c, hc, rfl⟩ := List.mem_map.mp hv
    exact ⟨c, h c hc, rfl⟩

/-- The words of at least one round are the words that are made of at least one. -/
theorem mem_language_plus_iff_star (hp : [] ∉ p.language) :
    w ∈ (plus p).language ↔ w ≠ [] ∧ w ∈ (star p).language := by
  rw [mem_language_plus, mem_language_star]
  constructor
  · intro ⟨ws, hne, hall, hflat⟩
    refine ⟨fun hw => ?_, ws, hall, hflat⟩
    obtain ⟨v, hv⟩ := List.exists_mem_of_ne_nil ws hne
    have hnil := List.flatten_eq_nil_iff.mp (hflat.symm.trans hw) v hv
    exact hp (hnil ▸ hall v hv)
  · intro ⟨hw, ws, hall, hflat⟩
    refine ⟨ws, fun hne => hw ?_, hall, hflat⟩
    rw [hflat, hne, List.flatten_nil]

theorem mem_language_plus_chars (s : CharSet) :
    w ∈ (plus (chars s)).language ↔ w ≠ [] ∧ ∀ c ∈ w, s.contains c = true := by
  rw [mem_language_plus_iff_star, mem_language_star_chars]
  intro ⟨c, _, h⟩
  cases h

end Parts

theorem language_seqAll (ps : List (Pattern Atom)) :
    (seqAll ps).language = (ps.map language).prod := by
  induction ps with
  | nil => rfl
  | cons p rest ih =>
    cases rest with
    | nil => simp [seqAll]
    | cons q rest =>
      change p.language * (seqAll (q :: rest)).language = _
      rw [ih, ← List.prod_cons, ← List.map_cons]

theorem mem_language_altAll {ps : List (Pattern Atom)} (hps : ps ≠ []) (w : List Char) :
    w ∈ (altAll ps).language ↔ ∃ p ∈ ps, w ∈ p.language := by
  induction ps with
  | nil => exact absurd rfl hps
  | cons p rest ih =>
    cases rest with
    | nil => simp [altAll]
    | cons q rest =>
      change w ∈ p.language ∨ w ∈ (altAll (q :: rest)).language ↔ _
      rw [ih (List.cons_ne_nil q rest)]
      simp

def OnlyUses (P : Char → Prop) : Pattern Atom → Prop
  | empty => True
  | atom (.char s) => ∀ c, s.contains c = true → P c
  | atom (.look _) => True
  | seq p q | alt p q => p.OnlyUses P ∧ q.OnlyUses P
  | repeated _ _ p | capture p => p.OnlyUses P

theorem onlyUses_seqAll {P : Char → Prop} {ps : List (Pattern Atom)}
    (hps : ∀ p ∈ ps, p.OnlyUses P) : (seqAll ps).OnlyUses P := by
  induction ps with
  | nil => trivial
  | cons p rest ih =>
    have hp := hps p (List.mem_cons_self ..)
    cases rest with
    | nil => exact hp
    | cons q rest => exact ⟨hp, ih fun r hr => hps r (List.mem_cons_of_mem _ hr)⟩

theorem OnlyUses.of_mem_language {P : Char → Prop} {p : Pattern Atom} (hp : p.OnlyUses P)
    {w : List Char} (hw : w ∈ p.language) : ∀ c ∈ w, P c := by
  induction p generalizing w with
  | empty =>
    rw [(Language.mem_one w).mp hw]
    simp
  | atom a =>
    cases a with
    | look l => cases hw
    | char s =>
      obtain ⟨d, hd, rfl⟩ := hw
      intro c hc
      obtain rfl := List.mem_singleton.mp hc
      exact hp c hd
  | seq p q ihp ihq =>
    obtain ⟨u, hu, v, hv, rfl⟩ := (mem_language_seq q).mp hw
    intro c hc
    rcases List.mem_append.mp hc with hc | hc
    · exact ihp hp.1 hu c hc
    · exact ihq hp.2 hv c hc
  | alt p q ihp ihq =>
    rcases (mem_language_alt q).mp hw with hw | hw
    · exact ihp hp.1 hw
    · exact ihq hp.2 hw
  | repeated least most p ih =>
    obtain ⟨ws, -, hall, rfl⟩ := (mem_language_repeated least most).mp hw
    intro c hc
    obtain ⟨v, hv, hcv⟩ := List.mem_flatten.mp hc
    exact ih hp (hall v hv) c hcv
  | capture p ih => exact ih hp hw

section Whole

variable {text : List Char}

theorem spans_textStart (i j : Nat) : (border .textStart).Spans text i j ↔ i = 0 ∧ j = 0 := by
  simp only [border, Spans, Atom.Spans, Look.holds, Option.isNone_iff_eq_none]
  constructor
  · intro h
    obtain ⟨hj, hi, hbefore⟩ := h
    cases i with
    | zero => exact ⟨rfl, hj⟩
    | succ i =>
      rw [before?, List.getElem?_eq_none_iff] at hbefore
      omega
  · intro h
    obtain ⟨hi, hj⟩ := h
    subst hi hj
    exact ⟨rfl, Nat.zero_le _, rfl⟩

theorem spans_textEnd (i j : Nat) :
    (border .textEnd).Spans text i j ↔ i = text.length ∧ j = text.length := by
  simp only [border, Spans, Atom.Spans, Look.holds, Option.isNone_iff_eq_none,
    List.getElem?_eq_none_iff]
  omega

theorem spans_seqAll_cons (p : Pattern Atom) (ps : List (Pattern Atom)) (i k : Nat) :
    (seqAll (p :: ps)).Spans text i k ↔ ∃ j, p.Spans text i j ∧ (seqAll ps).Spans text j k := by
  cases ps with
  | nil => simp [seqAll, Spans]
  | cons q rest => rfl

/-- Before the end of the text a sequence reads all that is left. -/
theorem spans_seqAll_textEnd {ps : List (Pattern Atom)} (hps : ∀ p ∈ ps, p.Plain) (i j : Nat) :
    (seqAll (ps ++ [border .textEnd])).Spans text i j ↔
      Reads text (ps.map language).prod i text.length ∧ j = text.length := by
  induction ps generalizing i with
  | nil =>
    rw [List.map_nil, List.prod_nil, reads_one]
    exact spans_textEnd i j
  | cons p rest ih =>
    have hrest : ∀ q ∈ rest, q.Plain := fun q hq => hps q (List.mem_cons_of_mem _ hq)
    rw [List.cons_append, spans_seqAll_cons, spans_eq_reads (hps p (List.mem_cons_self ..)),
      List.map_cons, List.prod_cons, reads_mul]
    simp only [ih hrest, exists_and_right, ← and_assoc]

/-- From the start of a text to its end, a pattern reads the whole text. -/
theorem occursIn_whole (ps : List (Pattern Atom)) (hps : ∀ p ∈ ps, p.Plain) (text : List Char) :
    (seqAll (border .textStart :: (ps ++ [border .textEnd]))).occursIn text = true ↔
      text ∈ (ps.map language).prod := by
  rw [occursIn_iff, ← reads_whole]
  simp only [spans_seqAll_cons, spans_textStart, spans_seqAll_textEnd hps]
  constructor
  · intro ⟨i, j, _, k, ⟨_, hk⟩, hreads, _⟩
    exact hk ▸ hreads
  · intro hreads
    exact ⟨0, text.length, Nat.zero_le _, 0, ⟨rfl, rfl⟩, hreads, rfl⟩

end Whole

end FieldRules.Pattern
