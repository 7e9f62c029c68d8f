import FieldRules.Json.Reader
import FieldRules.Json.Writer
import Mathlib.Data.Char

/-!
Written tokens of JSON are read back. `Reads` says which tokens a text holds, and each lemma puts
one more token, or spaces, in front of a text. A string is read as one piece for each of its
characters, and the pieces give the string again. The digits of a number are read as far as they go,
so what follows a number must not go on with it. Main statements: `reads_quoted` and `reads_number`.
-/
namespace FieldRules.Json

/-! ### Token sequences -/

def Reads (s : List Char) (tokens : List Token) : Prop :=
  ∀ fuel, s.length ≤ fuel → tokensWithin fuel s = some tokens

theorem tokens?_of_reads {s : List Char} {tokens : List Token} (h : Reads s tokens) :
    tokens? s = some tokens := h s.length (Nat.le_refl _)

theorem reads_nil : Reads [] [] := by
  intro fuel _
  cases fuel <;> rfl

theorem tokensWithin_space {c : Char} (hc : isSpace c = true) (s : List Char) (fuel : Nat) :
    tokensWithin fuel (c :: s) = tokensWithin fuel s := by
  have hdrop : (c :: s).dropWhile isSpace = s.dropWhile isSpace := List.dropWhile_cons_of_pos hc
  rw [tokensWithin.eq_def, tokensWithin.eq_def fuel s]
  simp only [hdrop]

theorem reads_spaces {spaces s : List Char} {tokens : List Token}
    (hspaces : ∀ c ∈ spaces, isSpace c = true) (h : Reads s tokens) :
    Reads (spaces ++ s) tokens := by
  intro fuel hfuel
  induction spaces with
  | nil => exact h fuel hfuel
  | cons c spaces ih =>
    rw [List.cons_append, tokensWithin_space (hspaces c List.mem_cons_self)]
    refine ih (fun d hd => hspaces d (List.mem_cons_of_mem c hd)) ?_
    rw [List.cons_append, List.length_cons] at hfuel
    omega

/-- Reading goes on behind the first token. -/
theorem reads_token {c : Char} {s rest : List Char} {t : Token} {tokens : List Token}
    (hc : isSpace c = false) (htoken : token? (c :: s) = some (t, rest))
    (hlength : rest.length ≤ s.length) (h : Reads rest tokens) : Reads (c :: s) (t :: tokens) := by
  intro fuel hfuel
  rw [List.length_cons] at hfuel
  obtain ⟨fuel, rfl⟩ := Nat.exists_eq_succ_of_ne_zero (Nat.ne_of_gt (Nat.zero_lt_of_lt hfuel))
  have hdrop : (c :: s).dropWhile isSpace = c :: s := List.dropWhile_cons_of_neg (by simp [hc])
  have hrest : tokensWithin fuel rest = some tokens := h fuel (by omega)
  rw [tokensWithin.eq_def]
  simp only [hdrop, htoken, Option.bind_some, hrest, Option.map_some]

def marks : List (Char × Token) :=
  [('{', .leftBrace), ('}', .rightBrace), ('[', .leftBracket), (']', .rightBracket), (',', .comma),
   (':', .colon)]

theorem reads_mark {c : Char} {t : Token} (hmark : (c, t) ∈ marks) {s : List Char}
    {tokens : List Token} (h : Reads s tokens) : Reads (c :: s) (t :: tokens) := by
  simp only [marks, List.mem_cons, Prod.mk.injEq, List.not_mem_nil, or_false] at hmark
  rcases hmark with ⟨rfl, rfl⟩ | ⟨rfl, rfl⟩ | ⟨rfl, rfl⟩ | ⟨rfl, rfl⟩ | ⟨rfl, rfl⟩ | ⟨rfl, rfl⟩
  all_goals exact reads_token (by decide) rfl (Nat.le_refl _) h

theorem reads_null {s : List Char} {tokens : List Token} (h : Reads s tokens) :
    Reads ("null".toList ++ s) (.null :: tokens) :=
  reads_token (by decide) rfl (by simp; omega) h

theorem reads_bool (b : Bool) {s : List Char} {tokens : List Token} (h : Reads s tokens) :
    Reads ((if b then "true" else "false").toList ++ s) (.bool b :: tokens) := by
  cases b with
  | true => exact reads_token (by decide) rfl (by simp; omega) h
  | false => exact reads_token (by decide) rfl (by simp; omega) h

/-! ### Strings -/

def pieceOf (c : Char) : Piece :=
  if (shortEscapes.lookup c).isNone ∧ c < ' ' then .unit c.toNat else .char c

def piecesOf (s : String) : List Piece := s.toList.map pieceOf

theorem stringBody?_unit {a b c d : Char} {code : Nat} (h : hexNumber? [a, b, c, d] = some code)
    (s : List Char) : stringBody? ('\\' :: 'u' :: a :: b :: c :: d :: s) =
      (stringBody? s).map fun r => (.unit code :: r.1, r.2) := by
  rw [stringBody?, h, Option.bind_some]

theorem stringBody?_escape {e c : Char} (hletter : e ≠ 'u') (h : escapes.lookup e = some c)
    (s : List Char) : stringBody? ('\\' :: e :: s) =
      (stringBody? s).map fun r => (.char c :: r.1, r.2) := by
  rw [stringBody?]
  · rw [h, Option.bind_some]
  · intro _ _ _ _ _ heq
    exact absurd heq hletter

theorem stringBody?_char {c : Char} (hquote : c ≠ '"') (hslash : c ≠ '\\') (hc : ¬ c < ' ')
    (s : List Char) : stringBody? (c :: s) =
      (stringBody? s).map fun r => (.char c :: r.1, r.2) := by
  have hplain : ¬ (decide (c < ' ') || c == '\\') = true := by simp [hc, hslash]
  rw [stringBody?]
  · rw [if_neg hplain]
  · exact hquote
  · intro _ _ _ _ _ heq
    exact absurd heq hslash
  · intro _ _ heq
    exact absurd heq hslash

/-- The reader knows each short escape of the writer. -/
theorem shortEscapes_known : ∀ p ∈ shortEscapes, p.2 ≠ 'u' ∧ escapes.lookup p.2 = some p.1 := by
  decide

theorem hexNumber?_hexDigits : ∀ n < 32,
    (hexDigits 4 n).length = 4 ∧ hexNumber? (hexDigits 4 n) = some n := by
  decide

theorem stringBody?_escaped (c : Char) (s : List Char) :
    stringBody? (escaped c ++ s) = (stringBody? s).map fun r => (pieceOf c :: r.1, r.2) := by
  unfold escaped pieceOf
  cases hshort : shortEscapes.lookup c with
  | some e =>
    obtain ⟨before, after, hsplit, -⟩ := List.lookup_eq_some_iff.mp hshort
    have hmem : (c, e) ∈ shortEscapes := hsplit ▸ List.mem_append_cons_self
    obtain ⟨hletter, hknown⟩ := shortEscapes_known _ hmem
    exact stringBody?_escape hletter hknown s
  | none =>
    by_cases hc : c < ' '
    · obtain ⟨hlength, hread⟩ := hexNumber?_hexDigits c.toNat (show c.toNat < 32 from hc)
      simp only [Option.isNone_none, hc, and_self, if_true]
      match hexDigits 4 c.toNat, hlength, hread with
      | [x, y, z, w], _, hread => exact stringBody?_unit hread s
    · have hquote : c ≠ '"' := by
        rintro rfl
        cases hshort
      have hslash : c ≠ '\\' := by
        rintro rfl
        cases hshort
      simp only [hc, and_false, if_false]
      exact stringBody?_char hquote hslash hc s

/-- Between the quotes each character is read back from its escape. -/
theorem stringBody?_body (s rest : List Char) :
    stringBody? (s.flatMap escaped ++ '"' :: rest) = some (s.map pieceOf, rest) := by
  induction s with
  | nil => rfl
  | cons c s ih =>
    rw [List.flatMap_cons, List.append_assoc, stringBody?_escaped, ih]
    rfl

theorem reads_quoted (k : String) {s : List Char} {tokens : List Token} (h : Reads s tokens) :
    Reads (quoted k ++ s) (.string (piecesOf k) :: tokens) := by
  have hquoted : quoted k ++ s = '"' :: (k.toList.flatMap escaped ++ '"' :: s) := by
    simp [quoted]
  have htoken : token? ('"' :: (k.toList.flatMap escaped ++ '"' :: s)) =
      some (.string (piecesOf k), s) := by
    change (stringBody? (k.toList.flatMap escaped ++ '"' :: s)).map _ = _
    rw [stringBody?_body]
    rfl
  rw [hquoted]
  refine reads_token (by decide) htoken ?_ h
  rw [List.length_append, List.length_cons]
  omega

/-- A unit below the surrogates is a character by itself, whatever comes next. -/
theorem charsOf?_unit {code : Nat} (h : code < 0xD800) (rest : List Piece) :
    charsOf? (.unit code :: rest) = (charsOf? rest).map (Char.ofNat code :: ·) := by
  have hhigh : isHighUnit code = false := by
    simp only [isHighUnit, Bool.and_eq_false_iff, decide_eq_false_iff_not]
    omega
  have hlow : isLowUnit code = false := by
    simp only [isLowUnit, Bool.and_eq_false_iff, decide_eq_false_iff_not]
    omega
  cases rest with
  | nil => simp [charsOf?, hhigh, hlow]
  | cons p rest =>
    cases p with
    | char c => simp [charsOf?, hhigh, hlow]
    | unit low => simp [charsOf?, hhigh, hlow]

theorem charsOf?_map_pieceOf (s : List Char) : charsOf? (s.map pieceOf) = some s := by
  induction s with
  | nil => rfl
  | cons c s ih =>
    rw [List.map_cons, pieceOf]
    by_cases hc : (shortEscapes.lookup c).isNone ∧ c < ' '
    · have hcode : c.toNat < 32 := hc.2
      rw [if_pos hc, charsOf?_unit (by omega), ih, Char.ofNat_toNat]
      rfl
    · rw [if_neg hc, charsOf?, ih]
      rfl

/-- The pieces of a text make up that text; no surrogate is among them. -/
theorem stringOf?_piecesOf (s : String) : stringOf? (piecesOf s) = some s := by
  unfold stringOf? piecesOf
  rw [charsOf?_map_pieceOf, Option.map_some, String.ofList_toList]

/-! ### Numbers -/

def IsDigits (s : List Char) : Prop := s ≠ [] ∧ ∀ c ∈ s, c.isDigit = true

/-- A number ends before this text. -/
def Ends (s : List Char) : Prop :=
  ∀ c, s.head? = some c → c.isDigit = false ∧ c ≠ '.' ∧ c ≠ 'e' ∧ c ≠ 'E'

theorem ends_nil : Ends [] := nofun

theorem ends_cons {c : Char} (h : c.isDigit = false ∧ c ≠ '.' ∧ c ≠ 'e' ∧ c ≠ 'E')
    (s : List Char) : Ends (c :: s) := by
  intro d hd
  rw [← Option.some.inj hd]
  exact h

theorem digitRun_append {digits rest : List Char} (h : ∀ c ∈ digits, c.isDigit = true)
    (hrest : ∀ c, rest.head? = some c → c.isDigit = false) :
    digitRun (digits ++ rest) = (digits, rest) := by
  have htake : (digits ++ rest).takeWhile Char.isDigit = digits := by
    rw [List.takeWhile_append_of_pos h]
    cases rest with
    | nil => simp
    | cons c rest => rw [List.takeWhile_cons_of_neg (by simp [hrest c rfl]), List.append_nil]
  have hdrop : (digits ++ rest).dropWhile Char.isDigit = rest := by
    rw [List.dropWhile_append_of_pos h]
    cases rest with
    | nil => rfl
    | cons c rest => rw [List.dropWhile_cons_of_neg (by simp [hrest c rfl])]
  exact Prod.ext htake hdrop

theorem digitRun?_append {digits rest : List Char} (h : IsDigits digits)
    (hrest : ∀ c, rest.head? = some c → c.isDigit = false) :
    digitRun? (digits ++ rest) = some (digits, rest) := by
  have hempty : ¬ digits.isEmpty = true := by simpa using h.1
  unfold digitRun?
  rw [digitRun_append h.2 hrest]
  exact if_neg hempty

theorem optionalFraction?_of_ne {s : List Char} (h : s.head? ≠ some '.') :
    optionalFraction? s = some (none, s) := by
  unfold optionalFraction?
  split
  · exact absurd rfl h
  · rfl

theorem optionalExponent?_of_ends {s : List Char} (h : Ends s) :
    optionalExponent? s = some (none, s) := by
  unfold optionalExponent?
  split
  · exact absurd rfl (h _ rfl).2.2.1
  · exact absurd rfl (h _ rfl).2.2.2
  · rfl

namespace NumberText

def fractionChars (n : NumberText) : List Char :=
  match n.fraction with
  | none => []
  | some digits => '.' :: digits

def exponentChars (n : NumberText) : List Char :=
  match n.exponent with
  | none => []
  | some (negative, digits) => 'e' :: (if negative then '-' else '+') :: digits

def toChars (n : NumberText) : List Char :=
  (if n.negative then ['-'] else []) ++ (n.whole ++ n.fractionChars ++ n.exponentChars)

/-- What a reader takes for a number: digits in each part that is there, and no zero before other
digits of the whole part. -/
structure WellFormed (n : NumberText) : Prop where
  whole : IsDigits n.whole
  alone : n.whole.head? = some '0' → n.whole.length = 1
  fraction : ∀ digits, n.fraction = some digits → IsDigits digits
  exponent : ∀ negative digits, n.exponent = some (negative, digits) → IsDigits digits

variable {n : NumberText} {rest : List Char}

theorem optionalExponent?_exponentChars (h : n.WellFormed) (hrest : Ends rest) :
    optionalExponent? (n.exponentChars ++ rest) = some (n.exponent, rest) := by
  have hdigits := h.exponent
  unfold exponentChars
  cases hexponent : n.exponent with
  | none => exact optionalExponent?_of_ends hrest
  | some e =>
    obtain ⟨negative, digits⟩ := e
    have hrun := digitRun?_append (hdigits negative digits hexponent) fun c hc => (hrest c hc).1
    have hsigned : exponentDigits? ((if negative then '-' else '+') :: (digits ++ rest)) =
        some ((negative, digits), rest) := by
      cases negative with
      | true =>
        change (digitRun? (digits ++ rest)).map _ = _
        rw [hrun]
        rfl
      | false =>
        change (digitRun? (digits ++ rest)).map _ = _
        rw [hrun]
        rfl
    change (exponentDigits? ((if negative then '-' else '+') :: (digits ++ rest))).map _ = _
    rw [hsigned]
    rfl

/-- The exponent begins with no digit and with no point. -/
theorem head?_exponentChars (hrest : Ends rest) {c : Char}
    (hc : (n.exponentChars ++ rest).head? = some c) : c.isDigit = false ∧ c ≠ '.' := by
  unfold exponentChars at hc
  split at hc
  · exact ⟨(hrest c hc).1, (hrest c hc).2.1⟩
  · rw [← Option.some.inj hc]
    decide

theorem optionalFraction?_fractionChars (h : n.WellFormed) (hrest : Ends rest) :
    optionalFraction? (n.fractionChars ++ (n.exponentChars ++ rest)) =
      some (n.fraction, n.exponentChars ++ rest) := by
  have hdigits := h.fraction
  unfold fractionChars
  cases hfraction : n.fraction with
  | none =>
    refine optionalFraction?_of_ne fun hpoint => ?_
    exact (head?_exponentChars hrest hpoint).2 rfl
  | some digits =>
    have hrun := digitRun?_append (hdigits digits hfraction)
      fun c hc => (head?_exponentChars (n := n) hrest hc).1
    change (digitRun? (digits ++ (n.exponentChars ++ rest))).map _ = _
    rw [hrun]
    rfl

theorem head?_fractionChars (hrest : Ends rest) {c : Char}
    (hc : (n.fractionChars ++ (n.exponentChars ++ rest)).head? = some c) :
    c.isDigit = false := by
  unfold fractionChars at hc
  split at hc
  · exact (head?_exponentChars hrest hc).1
  · rw [← Option.some.inj hc]
    decide

/-- The parts of a number are read back where the number ends. -/
theorem numberText?_toChars (h : n.WellFormed) (hrest : Ends rest) :
    numberText? n.negative (n.whole ++ (n.fractionChars ++ (n.exponentChars ++ rest))) =
      some (n, rest) := by
  have hrun := digitRun?_append h.whole fun c hc => head?_fractionChars (n := n) hrest hc
  have halone : ¬ (n.whole.head? = some '0' ∧ 1 < n.whole.length) := by
    rintro ⟨hzero, hlength⟩
    have hone := h.alone hzero
    omega
  have hwhole : whole? (n.whole ++ (n.fractionChars ++ (n.exponentChars ++ rest))) =
      some (n.whole, n.fractionChars ++ (n.exponentChars ++ rest)) := by
    unfold whole?
    rw [hrun, Option.bind_some, if_neg halone]
  unfold numberText?
  simp only [hwhole, optionalFraction?_fractionChars h hrest,
    optionalExponent?_exponentChars h hrest,
    Option.bind_eq_bind, Option.bind_some]

end NumberText

theorem isSpace_of_isDigit {c : Char} (hc : c.isDigit = true) : isSpace c = false := by
  rw [← Bool.not_eq_true]
  intro hspace
  have hcases : ((c = ' ' ∨ c = '\n') ∨ c = '\t') ∨ c = '\r' := by
    simpa only [isSpace, Bool.or_eq_true, beq_iff_eq] using hspace
  rcases hcases with ((rfl | rfl) | rfl) | rfl
  all_goals exact absurd hc (by decide)

theorem token?_of_isDigit {c : Char} (hc : c.isDigit = true) (s : List Char) :
    token? (c :: s) = (numberText? false (c :: s)).map fun r => (.number r.1, r.2) := by
  have hne : ∀ (d : Char) (rest : List Char), d.isDigit = false → c :: s ≠ d :: rest := by
    intro d rest hd heq
    rw [(List.cons.inj heq).1, hd] at hc
    cases hc
  unfold token?
  split
  all_goals first
    | rfl
    | rename_i heq; exact absurd heq (hne _ _ (by decide))

/-- A number is read up to where it ends. -/
theorem reads_number {n : NumberText} (h : n.WellFormed) {s : List Char} {tokens : List Token}
    (hends : Ends s) (hs : Reads s tokens) : Reads (n.toChars ++ s) (.number n :: tokens) := by
  have hnumber := NumberText.numberText?_toChars h hends
  have hlength : s.length ≤ (n.fractionChars ++ (n.exponentChars ++ s)).length := by
    simp only [List.length_append]
    omega
  have hchars : n.toChars ++ s = (if n.negative then ['-'] else []) ++
      (n.whole ++ (n.fractionChars ++ (n.exponentChars ++ s))) := by
    simp [NumberText.toChars]
  rw [hchars]
  generalize n.fractionChars ++ (n.exponentChars ++ s) = tail at hnumber hlength
  cases hnegative : n.negative with
  | true =>
    have hlonger : s.length ≤ (n.whole ++ tail).length := by
      rw [List.length_append]
      omega
    refine reads_token (by decide) ?_ hlonger hs
    change (numberText? true (n.whole ++ tail)).map _ = _
    rw [hnegative] at hnumber
    rw [hnumber]
    rfl
  | false =>
    obtain ⟨c, digits, hwhole⟩ := List.exists_cons_of_ne_nil h.whole.1
    have hc : c.isDigit = true := h.whole.2 c (hwhole ▸ List.mem_cons_self)
    have hlonger : s.length ≤ (digits ++ tail).length := by
      rw [List.length_append]
      omega
    rw [hnegative, hwhole, List.cons_append] at hnumber
    have htoken : token? (c :: (digits ++ tail)) = some (.number n, s) := by
      rw [token?_of_isDigit hc, hnumber]
      rfl
    rw [hwhole]
    exact reads_token (isSpace_of_isDigit hc) htoken hlonger hs

end FieldRules.Json
