import FieldRules.Proofs.CharSet
import FieldRules.Proofs.PatternLanguage
import FieldRules.Proofs.TextRules

/-!
The addresses that the validator `email` accepts: words with points between them or a quoted string,
the last at sign, and a domain. Since labels may hold points themselves, any number of labels is as
good as one, and a domain is two names with a point between them. Main statement:
`checkEmail_accepts`.
-/
namespace FieldRules

open Pattern

namespace Address

def IsWide (c : Char) : Prop :=
  (0xA0 ≤ c.toNat ∧ c.toNat ≤ 0xD7FF) ∨ (0xF900 ≤ c.toNat ∧ c.toNat ≤ 0xFDCF) ∨
    (0xFDF0 ≤ c.toNat ∧ c.toNat ≤ 0xFFEF)

def IsLetter (c : Char) : Prop := c.isAlpha = true ∨ IsWide c

def IsLetterOrDigit (c : Char) : Prop := IsLetter c ∨ c.isDigit = true

def IsInner (c : Char) : Prop := IsLetterOrDigit c ∨ c ∈ "-._~".toList

def IsWordChar (c : Char) : Prop :=
  IsLetterOrDigit c ∨ c ∈ "!#$%&'*+-/=?^_`\x7b|\x7d~".toList

def IsQuotedChar (c : Char) : Prop :=
  (c.toNat ≤ 0x7F ∧ c ∉ ['\x00', '\t', '\n', '\r', ' ', '"', '\\']) ∨ IsWide c

def IsEscapedChar (c : Char) : Prop := (c.toNat ≤ 0x7F ∧ c ∉ ['\x00', '\n']) ∨ IsWide c

def IsBlanks (s : List Char) : Prop := ∀ c ∈ s, c = ' ' ∨ c = '\t'

/-- Blanks, or a line break with blanks behind it and perhaps before it. -/
inductive IsFolding : List Char → Prop
  | blanks {s : List Char} (some_blank : s ≠ []) (all_blank : IsBlanks s) : IsFolding s
  | broken {before s : List Char} (blank_before : IsBlanks before) (some_blank : s ≠ [])
      (all_blank : IsBlanks s) : IsFolding (before ++ '\r' :: '\n' :: s)

inductive IsQuotedItem : List Char → Prop
  | plain {c : Char} (allowed : IsQuotedChar c) : IsQuotedItem [c]
  | escaped {c : Char} (allowed : IsEscapedChar c) : IsQuotedItem ['\\', c]

/-- Items, with folding allowed before each of them and after the last. -/
inductive IsQuotedBody : List Char → Prop
  | finish {fold : List Char} (folding : fold = [] ∨ IsFolding fold) : IsQuotedBody fold
  | item {fold item rest : List Char} (folding : fold = [] ∨ IsFolding fold)
      (one : IsQuotedItem item) (more : IsQuotedBody rest) : IsQuotedBody (fold ++ item ++ rest)

def IsQuotedString (s : List Char) : Prop := ∃ body, IsQuotedBody body ∧ s = '"' :: body ++ ['"']

def IsDottedWords (s : List Char) : Prop :=
  ∃ words : List (List Char), words ≠ [] ∧ (∀ w ∈ words, w ≠ [] ∧ ∀ c ∈ w, IsWordChar c) ∧
    s = ['.'].intercalate words

structure IsName (Ends : Char → Prop) (s : List Char) : Prop where
  inner : ∀ c ∈ s, IsInner c
  first : ∃ c, s.head? = some c ∧ Ends c
  last : ∃ c, s.getLast? = some c ∧ Ends c

/-- Two names with a point between them, and perhaps a final point. -/
def IsDomain (s : List Char) : Prop :=
  ∃ a b, IsName IsLetterOrDigit a ∧ IsName IsLetter b ∧
    (s = a ++ '.' :: b ∨ s = a ++ '.' :: b ++ ['.'])

/-- An address; its at sign is the last one in the text. -/
def IsMailbox (s : List Char) : Prop :=
  ∃ name domain, (IsDottedWords name ∨ IsQuotedString name) ∧ IsDomain domain ∧ '@' ∉ domain ∧
    s = name ++ '@' :: domain

/-! ### Characters -/

theorem mem_iff_toNat (c : Char) (l : List Char) : c ∈ l ↔ c.toNat ∈ l.map Char.toNat := by
  simp [Char.toNat_inj]

theorem contains_letter_iff (c : Char) : letter.contains c = true ↔ IsLetter c := by
  rw [CharSet.contains_iff, IsLetter, isAlpha_iff_toNat, IsWide]
  simp only [letter, wideRanges, List.cons_append, List.nil_append, CharSet.covers_cons,
    CharSet.not_covers_nil, or_false]
  omega

theorem contains_letterOrDigit_iff (c : Char) :
    letterOrDigit.contains c = true ↔ IsLetterOrDigit c := by
  rw [CharSet.contains_iff, IsLetterOrDigit, IsLetter, isAlpha_iff_toNat, IsWide]
  simp only [Char.isDigit_iff_toNat, Char.reduceToNat, letterOrDigit, wideRanges, List.cons_append,
    List.nil_append, CharSet.covers_cons, CharSet.not_covers_nil, or_false]
  omega

theorem contains_labelInner_iff (c : Char) : labelInner.contains c = true ↔ IsInner c := by
  have hlist : c ∈ "-._~".toList ↔ c.toNat ∈ [0x2D, 0x2E, 0x5F, 0x7E] := mem_iff_toNat c _
  rw [CharSet.contains_iff, IsInner, ← contains_letterOrDigit_iff, CharSet.contains_iff, hlist]
  simp only [labelInner, letterOrDigit, wideRanges, List.cons_append, List.nil_append,
    CharSet.covers_cons, CharSet.not_covers_nil, List.mem_cons, List.not_mem_nil, or_false]
  omega

theorem contains_wordChar_iff (c : Char) : wordChar.contains c = true ↔ IsWordChar c := by
  have hlist : c ∈ "!#$%&'*+-/=?^_`\x7b|\x7d~".toList ↔ c.toNat ∈ [0x21, 0x23, 0x24, 0x25, 0x26,
      0x27, 0x2A, 0x2B, 0x2D, 0x2F, 0x3D, 0x3F, 0x5E, 0x5F, 0x60, 0x7B, 0x7C, 0x7D, 0x7E] :=
    mem_iff_toNat c _
  rw [CharSet.contains_iff, IsWordChar, ← contains_letterOrDigit_iff, CharSet.contains_iff, hlist]
  simp only [wordChar, letterOrDigit, wideRanges, List.cons_append, List.nil_append,
    CharSet.covers_cons, CharSet.not_covers_nil, List.mem_cons, List.not_mem_nil, or_false]
  omega

theorem contains_quotedChar_iff (c : Char) : quotedChar.contains c = true ↔ IsQuotedChar c := by
  have hlist : c ∈ ['\x00', '\t', '\n', '\r', ' ', '"', '\\'] ↔
      c.toNat ∈ [0, 0x9, 0xA, 0xD, 0x20, 0x22, 0x5C] := mem_iff_toNat c _
  rw [CharSet.contains_iff, IsQuotedChar, IsWide, hlist]
  simp only [quotedChar, wideRanges, List.cons_append, List.nil_append, CharSet.covers_cons,
    CharSet.not_covers_nil, List.mem_cons, List.not_mem_nil, or_false]
  omega

theorem contains_escapedChar_iff (c : Char) :
    escapedChar.contains c = true ↔ IsEscapedChar c := by
  have hlist : c ∈ ['\x00', '\n'] ↔ c.toNat ∈ [0, 0xA] := mem_iff_toNat c _
  rw [CharSet.contains_iff, IsEscapedChar, IsWide, hlist]
  simp only [escapedChar, wideRanges, List.cons_append, List.nil_append, CharSet.covers_cons,
    CharSet.not_covers_nil, List.mem_cons, List.not_mem_nil, or_false]
  omega

theorem contains_blank_iff (c : Char) : blank.contains c = true ↔ c = ' ' ∨ c = '\t' := by
  rw [CharSet.contains_iff, ← Char.toNat_inj, ← Char.toNat_inj]
  simp only [blank, CharSet.covers_cons, CharSet.not_covers_nil, or_false, Char.reduceToNat]
  omega

theorem mem_language_char (c : Char) (w : List Char) : w ∈ (char c).language ↔ w = [c] := by
  rw [char, mem_language_chars]
  simp only [CharSet.contains_singleton, exists_eq_left]

/-! ### Words before the at sign -/

theorem isBlanks_iff (w : List Char) : w ∈ (star (chars blank)).language ↔ IsBlanks w := by
  rw [mem_language_star_chars]
  simp only [contains_blank_iff, IsBlanks]

theorem mem_language_foldingSpace (w : List Char) :
    w ∈ foldingSpace.language ↔ w = [] ∨ IsFolding w := by
  have hblanks : ∀ s, s ∈ (plus (chars blank)).language ↔ s ≠ [] ∧ IsBlanks s := by
    intro s
    rw [mem_language_plus_chars]
    simp only [contains_blank_iff, IsBlanks]
  have hbreak : ∀ s, s ∈ (seqAll [star (chars blank), char '\r', char '\n']).language ↔
      ∃ before, IsBlanks before ∧ s = before ++ ['\r', '\n'] := by
    intro s
    rw [language_seqAll]
    simp only [List.map_cons, List.map_nil, List.prod_cons, List.prod_nil, mul_one,
      Language.mem_mul, isBlanks_iff, mem_language_char]
    constructor
    · intro ⟨before, hbefore, u, ⟨r, hr, n, hn, hu⟩, hs⟩
      subst hr hn hu
      exact ⟨before, hbefore, hs.symm⟩
    · intro ⟨before, hbefore, hs⟩
      exact ⟨before, hbefore, _, ⟨_, rfl, _, rfl, rfl⟩, hs.symm⟩
  rw [foldingSpace, mem_language_optional, mem_language_seq]
  simp only [mem_language_optional, hbreak, hblanks]
  refine or_congr_right ?_
  constructor
  · intro ⟨u, hu, s, ⟨hs, hall⟩, hw⟩
    subst hw
    rcases hu with hu | ⟨before, hbefore, hu⟩
    · subst hu
      exact .blanks hs hall
    · subst hu
      rw [List.append_assoc]
      exact .broken hbefore hs hall
  · intro h
    cases h with
    | blanks hs hall => exact ⟨[], Or.inl rfl, w, ⟨hs, hall⟩, rfl⟩
    | @broken before s hbefore hs hall =>
      exact ⟨_, Or.inr ⟨before, hbefore, rfl⟩, s, ⟨hs, hall⟩, by simp⟩

theorem mem_language_quotedItem (w : List Char) : w ∈ quotedItem.language ↔ IsQuotedItem w := by
  rw [quotedItem, mem_language_alt, mem_language_seq]
  simp only [mem_language_chars, mem_language_char, contains_quotedChar_iff,
    contains_escapedChar_iff]
  constructor
  · intro h
    rcases h with ⟨c, hc, hw⟩ | ⟨u, hu, v, ⟨c, hc, hv⟩, hw⟩
    · subst hw
      exact .plain hc
    · subst hu hv hw
      exact .escaped hc
  · intro h
    cases h with
    | plain hc => exact Or.inl ⟨_, hc, rfl⟩
    | escaped hc => exact Or.inr ⟨_, rfl, _, ⟨_, hc, rfl⟩, rfl⟩

/-- By induction on the items of the one side and of the other. -/
theorem isQuotedBody_iff (w : List Char) :
    (∃ items ∈ (star (seq foldingSpace quotedItem)).language, ∃ fold ∈ foldingSpace.language,
      items ++ fold = w) ↔ IsQuotedBody w := by
  simp only [mem_language_star, mem_language_seq, mem_language_foldingSpace,
    mem_language_quotedItem]
  constructor
  · intro ⟨items, ⟨parts, hparts, hitems⟩, fold, hfold, hw⟩
    subst hitems hw
    induction parts with
    | nil => exact .finish hfold
    | cons part rest ih =>
      obtain ⟨before, hbefore, item, hitem, hpart⟩ := hparts part (List.mem_cons_self ..)
      have hrest := ih fun v hv => hparts v (List.mem_cons_of_mem _ hv)
      rw [List.flatten_cons, ← hpart, List.append_assoc (before ++ item)]
      exact .item hbefore hitem hrest
  · intro h
    induction h with
    | @finish fold hfold => exact ⟨[], ⟨[], by simp, rfl⟩, fold, hfold, rfl⟩
    | @item before item rest hbefore hitem _ ih =>
      obtain ⟨items, ⟨parts, hparts, hitems⟩, fold, hfold, hrest⟩ := ih
      subst hitems hrest
      refine ⟨_, ⟨(before ++ item) :: parts, ?_, rfl⟩, fold, hfold, by simp⟩
      intro v hv
      rcases List.mem_cons.mp hv with rfl | hv
      · exact ⟨before, hbefore, item, hitem, rfl⟩
      · exact hparts v hv

theorem mem_language_quotedString (w : List Char) :
    w ∈ quotedString.language ↔ IsQuotedString w := by
  rw [quotedString, language_seqAll]
  simp only [List.map_cons, List.map_nil, List.prod_cons, List.prod_nil, mul_one]
  rw [← mul_assoc (star _).language]
  simp only [Language.mem_mul, mem_language_char, isQuotedBody_iff, IsQuotedString]
  constructor
  · intro ⟨q, hq, t, ⟨body, hbody, r, hr, ht⟩, hw⟩
    subst hq hr ht
    exact ⟨body, hbody, hw.symm⟩
  · intro ⟨body, hbody, hw⟩
    exact ⟨_, rfl, _, ⟨body, hbody, _, rfl, rfl⟩, hw.symm⟩

theorem intercalate_eq_append (sep : Char) (first : List Char) (rest : List (List Char)) :
    [sep].intercalate (first :: rest) = first ++ (rest.map (sep :: ·)).flatten := by
  induction rest generalizing first with
  | nil => simp
  | cons second rest ih =>
    rw [List.intercalate_cons_cons, ih, List.map_cons, List.flatten_cons]
    simp

theorem mem_language_dottedWords (w : List Char) :
    w ∈ dottedWords.language ↔ IsDottedWords w := by
  have hword : ∀ s, s ∈ (plus (chars wordChar)).language ↔ s ≠ [] ∧ ∀ c ∈ s, IsWordChar c := by
    intro s
    rw [mem_language_plus_chars]
    simp only [contains_wordChar_iff]
  rw [dottedWords, mem_language_seq]
  simp only [mem_language_star, mem_language_seq, mem_language_char, hword, IsDottedWords]
  constructor
  · intro ⟨first, hfirst, t, ⟨parts, hparts, ht⟩, hw⟩
    subst ht hw
    have hpointed : parts.map (('.' :: ·) ∘ List.tail) = parts := by
      rw [List.map_congr_left (g := id), List.map_id]
      intro v hv
      obtain ⟨_, rfl, s, _, rfl⟩ := hparts v hv
      rfl
    refine ⟨first :: parts.map List.tail, List.cons_ne_nil _ _, ?_, ?_⟩
    · intro s hs
      rcases List.mem_cons.mp hs with rfl | hs
      · exact hfirst
      · obtain ⟨v, hv, rfl⟩ := List.mem_map.mp hs
        obtain ⟨_, rfl, s, hword, rfl⟩ := hparts v hv
        exact hword
    · rw [intercalate_eq_append, List.map_map, hpointed]
  · intro ⟨words, hne, hwords, hw⟩
    cases words with
    | nil => exact absurd rfl hne
    | cons first rest =>
      rw [intercalate_eq_append] at hw
      refine ⟨first, hwords first (List.mem_cons_self ..), _, ⟨rest.map ('.' :: ·), ?_, rfl⟩,
        hw.symm⟩
      intro v hv
      obtain ⟨s, hs, rfl⟩ := List.mem_map.mp hv
      exact ⟨_, rfl, s, hwords s (List.mem_cons_of_mem _ hs), rfl⟩

/-! ### Domains -/

theorem isInner_of_letterOrDigit {c : Char} (h : IsLetterOrDigit c) : IsInner c := Or.inl h

theorem isInner_of_letter {c : Char} (h : IsLetter c) : IsInner c := Or.inl (Or.inl h)

theorem isInner_point : IsInner '.' := Or.inr (by decide)

theorem not_isInner_at : ¬IsInner '@' := by
  rw [← contains_labelInner_iff]
  decide

/-- A label has inner characters throughout, and at its ends those that may stand there. -/
theorem mem_language_label {ends : CharSet} {Ends : Char → Prop}
    (hends : ∀ c, ends.contains c = true ↔ Ends c) (hinner : ∀ c, Ends c → IsInner c)
    (w : List Char) : w ∈ (label ends).language ↔ IsName Ends w := by
  have hlong : w ∈ (seqAll [chars ends, star (chars labelInner), chars ends]).language ↔
      ∃ a, Ends a ∧ ∃ mid, (∀ c ∈ mid, IsInner c) ∧ ∃ b, Ends b ∧ w = a :: (mid ++ [b]) := by
    rw [language_seqAll]
    simp only [List.map_cons, List.map_nil, List.prod_cons, List.prod_nil, mul_one,
      Language.mem_mul, mem_language_chars, mem_language_star_chars, hends,
      contains_labelInner_iff]
    constructor
    · intro ⟨_, ⟨a, ha, rfl⟩, _, ⟨mid, hmid, _, ⟨b, hb, rfl⟩, rfl⟩, hw⟩
      exact ⟨a, ha, mid, hmid, b, hb, hw.symm⟩
    · intro ⟨a, ha, mid, hmid, b, hb, hw⟩
      exact ⟨[a], ⟨a, ha, rfl⟩, _, ⟨mid, hmid, _, ⟨b, hb, rfl⟩, rfl⟩, hw.symm⟩
  rw [label, mem_language_alt, hlong, mem_language_chars]
  simp only [hends]
  constructor
  · intro h
    rcases h with ⟨c, hc, rfl⟩ | ⟨a, ha, mid, hmid, b, hb, rfl⟩
    · exact ⟨by simpa using hinner c hc, ⟨c, rfl, hc⟩, ⟨c, rfl, hc⟩⟩
    · refine ⟨?_, ⟨a, rfl, ha⟩, ⟨b, by rw [List.getLast?_cons]; simp, hb⟩⟩
      intro c hc
      simp only [List.mem_cons, List.mem_append, List.not_mem_nil, or_false] at hc
      rcases hc with rfl | hc | rfl
      · exact hinner c ha
      · exact hmid c hc
      · exact hinner c hb
  · intro ⟨hall, ⟨a, hfirst, ha⟩, b, hlast, hb⟩
    cases w with
    | nil => cases hfirst
    | cons first rest =>
      obtain rfl := Option.some.inj hfirst
      rcases List.eq_nil_or_concat rest with rfl | ⟨mid, last, rfl⟩
      · exact Or.inl ⟨first, ha, rfl⟩
      · obtain rfl : last = b := by simpa [List.getLast?_cons] using hlast
        exact Or.inr ⟨first, ha, mid, fun c hc => hall c (by simp [hc]), last, hb, by simp⟩

/-- Names with a point between them are a name. -/
theorem IsName.join {Ends : Char → Prop} {a b : List Char} (ha : IsName Ends a)
    (hb : IsName Ends b) : IsName Ends (a ++ '.' :: b) where
  inner := by
    intro c hc
    rcases List.mem_append.mp hc with hc | hc
    · exact ha.inner c hc
    · rcases List.mem_cons.mp hc with rfl | hc
      · exact isInner_point
      · exact hb.inner c hc
  first := by
    obtain ⟨c, hfirst, hc⟩ := ha.first
    exact ⟨c, by rw [List.head?_append, hfirst, Option.some_or], hc⟩
  last := by
    obtain ⟨c, hlast, hc⟩ := hb.last
    exact ⟨c, by simp [List.getLast?_append, List.getLast?_cons, hlast], hc⟩

/-- So any number of labels, each with a point behind it, is one name with a point behind it. -/
theorem mem_language_labels (w : List Char) :
    w ∈ (plus (seq (label letterOrDigit) (char '.'))).language ↔
      ∃ a, IsName IsLetterOrDigit a ∧ w = a ++ ['.'] := by
  have hlabel : ∀ v, v ∈ (seq (label letterOrDigit) (char '.')).language ↔
      ∃ a, IsName IsLetterOrDigit a ∧ v = a ++ ['.'] := by
    intro v
    rw [mem_language_seq]
    simp only [mem_language_char, exists_eq_left,
      mem_language_label contains_letterOrDigit_iff fun _ => isInner_of_letterOrDigit, eq_comm]
  rw [mem_language_plus]
  simp only [hlabel]
  constructor
  · intro ⟨parts, hne, hparts, hw⟩
    subst hw
    induction parts with
    | nil => exact absurd rfl hne
    | cons part rest ih =>
      obtain ⟨a, ha, hpart⟩ := hparts part (List.mem_cons_self ..)
      rcases eq_or_ne rest [] with rfl | hrest
      · exact ⟨a, ha, by simpa using hpart⟩
      · obtain ⟨b, hb, hflat⟩ := ih hrest fun v hv => hparts v (List.mem_cons_of_mem _ hv)
        exact ⟨_, ha.join hb, by rw [List.flatten_cons, hpart, hflat]; simp⟩
  · intro h
    exact ⟨[w], List.cons_ne_nil _ _, by simpa using h, by simp⟩

theorem IsName.at_not_mem {Ends : Char → Prop} {s : List Char} (h : IsName Ends s) : '@' ∉ s :=
  fun hmem => not_isInner_at (h.inner '@' hmem)

theorem IsDomain.at_not_mem {s : List Char} (h : IsDomain s) : '@' ∉ s := by
  obtain ⟨a, b, ha, hb, rfl | rfl⟩ := h
  all_goals simp [ha.at_not_mem, hb.at_not_mem]

/-- The pattern's many labels come to two names: the point before the last label splits them. -/
theorem mem_language_domain (w : List Char) :
    (∃ u ∈ (plus (seq (label letterOrDigit) (char '.'))).language,
      ∃ v, (∃ b ∈ (label letter).language, ∃ e ∈ (optional (char '.')).language, b ++ e = v) ∧
        u ++ v = w) ↔ IsDomain w := by
  simp only [mem_language_labels, mem_language_optional, mem_language_char,
    mem_language_label contains_letter_iff fun _ => isInner_of_letter]
  constructor
  · intro ⟨u, ⟨a, ha, hu⟩, v, ⟨b, hb, e, he, hv⟩, hw⟩
    subst hu hv hw
    refine ⟨a, b, ha, hb, he.imp ?_ ?_⟩
    all_goals
      intro he
      subst he
      simp
  · intro ⟨a, b, ha, hb, hw⟩
    rcases hw with rfl | rfl
    · exact ⟨_, ⟨a, ha, rfl⟩, _, ⟨b, hb, [], Or.inl rfl, rfl⟩, by simp⟩
    · exact ⟨_, ⟨a, ha, rfl⟩, _, ⟨b, hb, ['.'], Or.inr rfl, rfl⟩, by simp⟩

/-- The pattern occurs in a text exactly if the text as a whole is a mailbox. -/
theorem occursIn_email_iff (text : List Char) : email.occursIn text = true ↔ IsMailbox text := by
  have hwhole := occursIn_whole [alt dottedWords quotedString, char '@',
    plus (seq (label letterOrDigit) (char '.')), label letter, optional (char '.')]
    (by decide) text
  refine hwhole.trans ?_
  simp only [List.map_cons, List.map_nil, List.prod_cons, List.prod_nil, mul_one,
    Language.mem_mul, mem_language_alt, mem_language_dottedWords, mem_language_quotedString,
    mem_language_char, mem_language_domain]
  constructor
  · intro ⟨name, hname, t, ⟨sign, hsign, domain, hdomain, ht⟩, htext⟩
    subst hsign ht
    exact ⟨name, domain, hname, hdomain, hdomain.at_not_mem, htext.symm⟩
  · intro ⟨name, domain, hname, hdomain, _, htext⟩
    exact ⟨name, hname, _, ⟨_, rfl, domain, hdomain, rfl⟩, htext.symm⟩

end Address

open Address Builtin

/-- The validator `email` lets pass what is empty and addresses, and finds fault with all else. -/
theorem checkEmail_accepts (f : Focus) (args : List String) :
    (checkEmail f args = .ok .pass ↔
      f.isEmpty = true ∨ ∃ s, f.value? = some (.string s) ∧ IsMailbox s.toList) ∧
    (checkEmail f args = .ok .pass ∨
      checkEmail f args = .ok (.fail s!"Field `{f.field}` must be a valid email address.")) := by
  have hneeded : ∀ text, email.occursIn text = true → '@' ∈ text := by
    intro text h
    obtain ⟨name, domain, _, _, _, rfl⟩ := (occursIn_email_iff text).mp h
    simp
  constructor
  · simp only [checkEmail, Except.ok.injEq, judgeText_eq_pass_iff _ _ _ (by decide) hneeded,
      occursIn_email_iff]
  · rcases judgeText_cases email f s!"Field `{f.field}` must be a valid email address." with h | h
    · exact Or.inl (congrArg Except.ok h)
    · exact Or.inr (congrArg Except.ok h)

end FieldRules
