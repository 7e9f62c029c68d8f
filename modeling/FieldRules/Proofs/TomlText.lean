import FieldRules.Toml.Document
import FieldRules.Toml.Writer
import Mathlib.Data.Char

/-!
Written strings and keys of TOML are read back. The body of a string is taken apart by the relation
`Body`: quotes of the text that stand as they are, two in a row at most, and groups of characters
that the reader takes for one character. Every body of this kind is read up to its closing quotes,
whatever follows them, and each of the four ways of quoting writes such a body wherever the writer
chooses it. Main statements: `string?_stringText` and `keyPart?_keyText`.
-/
namespace FieldRules.Toml

theorem isPlain_eq_not_isControl (c : Char) : isPlain c = !isControl c := by
  unfold isPlain isControl
  by_cases htab : c = '\t'
  · rw [htab]
    decide
  · have hle : decide (' ' ≤ c) = !decide (c < ' ') := by
      rw [← decide_not, decide_eq_decide, Char.not_lt]
    simp [hle, bne, beq_false_of_ne htab]

theorem lineEnd?_cons_of_ne {c : Char} (hfeed : c ≠ '\n') (hreturn : c ≠ '\r')
    (s : List Char) : lineEnd? (c :: s) = none := by
  unfold lineEnd?
  split
  · rename_i h
    exact absurd (List.cons.inj h).1 hfeed
  · rename_i h
    exact absurd (List.cons.inj h).1 hreturn
  · rfl

/-! ### Characters of a body -/

/-- These characters stand for `c` in quotes: the reader takes them for it. They begin with no
quote, and with a line end only if it is one that they stand for. -/
structure StandsFor (q : Quoting) (code : List Char) (c : Char) : Prop where
  head : ∃ d rest, code = d :: rest ∧ d ≠ q.quote ∧ d ≠ '\r' ∧ (d = '\n' → c = '\n')
  read : ∀ (fuel : Nat) (rest : List Char), bodyWithin? q (fuel + 1) (code ++ rest) =
    (bodyWithin? q fuel rest).map fun r => (c :: r.1, r.2)

theorem not_isPlain_lineFeed : isPlain '\n' = false := by decide

theorem standsFor_self {q : Quoting} {c : Char} (hquote : c ≠ q.quote)
    (hslash : c = '\\' → q.escapes = false) (hc : isPlain c ∨ q.long ∧ c = '\n') :
    StandsFor q [c] c where
  head := by
    refine ⟨c, [], rfl, hquote, ?_, id⟩
    rintro rfl
    revert hc
    simp [isPlain]
  read := by
    intro fuel rest
    have hescape : ¬(decide (c = '\\') && q.escapes) = true := by
      simpa using hslash
    rw [List.singleton_append, bodyWithin?]
    simp only [if_neg hquote, if_neg hescape]
    rcases hc with hplain | ⟨hlong, rfl⟩
    · rw [if_pos hplain]
    · simp [not_isPlain_lineFeed, hlong, lineEnd?]

theorem bodyWithin?_backslash (long : Bool) (fuel : Nat) (rest : List Char) :
    bodyWithin? ⟨'"', long⟩ (fuel + 1) ('\\' :: rest) =
      match if long then foldedLine? rest else none with
      | some rest => bodyWithin? ⟨'"', long⟩ fuel rest
      | none => (escape? rest).bind fun r =>
        (bodyWithin? ⟨'"', long⟩ fuel r.2).map fun t => (r.1 :: t.1, t.2) := rfl

/-- An escape in double quotes. It is no line that is folded, since no blank and no line end stands
after the backslash. -/
theorem standsFor_escape {long : Bool} {e c : Char} {code : List Char}
    (hblank : isBlank e = false) (hline : e ≠ '\n' ∧ e ≠ '\r')
    (hescape : ∀ rest, escape? (e :: code ++ rest) = some (c, rest)) :
    StandsFor ⟨'"', long⟩ ('\\' :: e :: code) c where
  head := ⟨'\\', e :: code, rfl, show '\\' ≠ '"' by decide, by decide, fun h => by cases h⟩
  read := by
    intro fuel rest
    have hfold : (if long then foldedLine? (e :: (code ++ rest)) else none) = none := by
      have hdrop : dropBlanks (e :: (code ++ rest)) = e :: (code ++ rest) :=
        List.dropWhile_cons_of_neg (by simp [hblank])
      rw [foldedLine?, hdrop, lineEnd?_cons_of_ne hline.1 hline.2]
      cases long <;> rfl
    rw [List.cons_append, List.cons_append, bodyWithin?_backslash, hfold, ← List.cons_append,
      hescape]
    rfl

/-- How a character stands in double quotes that is not left as it is for being a quote. -/
def code (lines : Bool) (c : Char) : List Char :=
  if c = '"' then ['\\', '"']
  else if c = '\n' && lines then [c]
  else match shortEscapes.lookup c with
    | some e => ['\\', e]
    | none =>
      if isControl c then '\\' :: 'u' :: (Json.hexDigits 4 c.toNat).map Char.toUpper else [c]

theorem escaped_cons (lines : Bool) (quotes before : Nat) (c : Char) (s : List Char) :
    escaped lines quotes before (c :: s) =
      if c = '"' ∧ before < quotes then '"' :: escaped lines quotes (before + 1) s
      else code lines c ++ escaped lines quotes 0 s := by
  by_cases hc : c = '"'
  · by_cases hbefore : before < quotes
    · simp [escaped, hc, hbefore]
    · simp [escaped, code, hc, hbefore]
  · simp only [escaped, code, hc, false_and, if_false]
    by_cases hline : (decide (c = '\n') && lines) = true
    · simp only [if_pos hline, List.singleton_append]
    · simp only [if_neg hline]
      cases shortEscapes.lookup c with
      | some e => rfl
      | none =>
        by_cases hcontrol : isControl c
        · simp only [if_pos hcontrol, List.cons_append]
        · simp only [if_neg hcontrol, List.singleton_append]

theorem toNat_lt_of_isControl {c : Char} (h : isControl c) : c.toNat < 128 := by
  unfold isControl at h
  rcases Bool.or_eq_true_iff.mp h with hlt | heq
  · have hspace : c < ' ' := of_decide_eq_true (Bool.and_eq_true_iff.mp hlt).1
    exact Nat.lt_trans (show c.toNat < 32 from hspace) (by decide)
  · rw [eq_of_beq heq]
    decide

theorem codeChar?_hexDigits : ∀ n < 128,
    ((Json.hexDigits 4 n).map Char.toUpper).length = 4 ∧
      codeChar? ((Json.hexDigits 4 n).map Char.toUpper) = some (Char.ofNat n) := by
  decide

/-- Every control character has a code that is read as this character. -/
theorem escape?_hexDigits {c : Char} (h : isControl c) (rest : List Char) :
    escape? ('u' :: (Json.hexDigits 4 c.toNat).map Char.toUpper ++ rest) = some (c, rest) := by
  obtain ⟨hlength, hread⟩ := codeChar?_hexDigits c.toNat (toNat_lt_of_isControl h)
  rw [Char.ofNat_toNat] at hread
  match (Json.hexDigits 4 c.toNat).map Char.toUpper, hlength, hread with
  | [a, b, x, y], _, hread =>
    change (codeChar? [a, b, x, y]).map (·, rest) = some (c, rest)
    rw [hread]
    rfl

theorem escape?_of_plainEscapes {c e : Char} (h : plainEscapes.lookup e = some c)
    (rest : List Char) : escape? (e :: rest) = some (c, rest) := by
  have hletter : e ≠ 'u' ∧ e ≠ 'U' := by
    constructor <;> rintro rfl <;> cases h
  unfold escape?
  split
  · rename_i heq
    exact absurd (List.cons.inj heq).1 hletter.1
  · rename_i heq
    exact absurd (List.cons.inj heq).1 hletter.2
  · rename_i heq
    obtain ⟨rfl, rfl⟩ := List.cons.inj heq
    rw [h]
    rfl
  · rename_i heq
    cases heq

/-- The reader knows each short escape of the writer. -/
theorem shortEscapes_known : ∀ p ∈ shortEscapes, plainEscapes.lookup p.2 = some p.1 ∧
    isBlank p.2 = false ∧ p.2 ≠ '\n' ∧ p.2 ≠ '\r' := by
  decide

theorem standsFor_code (lines : Bool) (c : Char) : StandsFor ⟨'"', lines⟩ (code lines c) c := by
  unfold code
  by_cases hquote : c = '"'
  · rw [if_pos hquote, hquote]
    exact standsFor_escape (by decide) (by decide) fun rest => rfl
  · rw [if_neg hquote]
    by_cases hline : (decide (c = '\n') && lines) = true
    · rw [if_pos hline]
      obtain ⟨hc, hlines⟩ := Bool.and_eq_true_iff.mp hline
      have hc : c = '\n' := of_decide_eq_true hc
      exact standsFor_self hquote (fun h => absurd (hc.symm.trans h) (by decide))
        (Or.inr ⟨hlines, hc⟩)
    · rw [if_neg hline]
      cases hshort : shortEscapes.lookup c with
      | some e =>
        obtain ⟨before, after, hsplit, -⟩ := List.lookup_eq_some_iff.mp hshort
        have hmem : (c, e) ∈ shortEscapes := hsplit ▸ List.mem_append_cons_self
        obtain ⟨hknown, hblank, hend⟩ := shortEscapes_known _ hmem
        exact standsFor_escape hblank hend (escape?_of_plainEscapes hknown)
      | none =>
        by_cases hcontrol : isControl c
        · simp only [if_pos hcontrol]
          exact standsFor_escape (by decide) (by decide) (escape?_hexDigits hcontrol)
        · simp only [if_neg hcontrol]
          refine standsFor_self hquote ?_ (Or.inl ?_)
          · rintro rfl
            cases hshort
          · rw [isPlain_eq_not_isControl, Bool.not_eq_true', Bool.not_eq_true] at *
            exact hcontrol

/-! ### Bodies -/

/-- The body `t` stands for the text `s` in quotes, with `before` quotes just before. Up to two
quotes in a row may stand as they are where three of them close. -/
inductive Body (q : Quoting) : Nat → List Char → List Char → Prop
  | nil {before : Nat} : Body q before [] []
  | quote {before : Nat} {s t : List Char} (hlong : q.long) (hbefore : before < 2)
      (rest : Body q (before + 1) s t) : Body q before (q.quote :: s) (q.quote :: t)
  | char {before : Nat} {c : Char} {s code t : List Char} (char : StandsFor q code c)
      (rest : Body q 0 s t) : Body q before (c :: s) (code ++ t)

def Quoting.closing (q : Quoting) : List Char := List.replicate (if q.long then 3 else 1) q.quote

theorem Body.length_le {q : Quoting} {before : Nat} {s t : List Char} (h : Body q before s t) :
    s.length ≤ t.length := by
  induction h with
  | nil => exact Nat.le_refl _
  | quote _ _ _ ih => simpa using ih
  | char hchar _ ih =>
    obtain ⟨d, rest, rfl, -⟩ := hchar.head
    simp only [List.length_cons, List.length_append]
    omega

/-- Either the rest of a body is nothing but quotes, or less than three of them come next. -/
theorem Body.run {q : Quoting} {before : Nat} {s t : List Char} (h : Body q before s t)
    (hbefore : before ≤ 2) :
    (∃ j, before + j ≤ 2 ∧ s = List.replicate j q.quote ∧ t = List.replicate j q.quote) ∨
      ∀ u, before + ((t ++ u).takeWhile (· == q.quote)).length ≤ 2 := by
  induction h with
  | nil => exact Or.inl ⟨0, hbefore, rfl, rfl⟩
  | quote _ hlt _ ih =>
    rcases ih hlt with ⟨j, hj, rfl, rfl⟩ | hrun
    · exact Or.inl ⟨j + 1, by omega, rfl, rfl⟩
    · refine Or.inr fun u => ?_
      have hmore := hrun u
      rw [List.cons_append, List.takeWhile_cons_of_pos (by simp), List.length_cons]
      omega
  | char hchar _ _ =>
    obtain ⟨d, rest, rfl, hd, -⟩ := hchar.head
    refine Or.inr fun u => ?_
    rw [List.cons_append, List.cons_append, List.takeWhile_cons_of_neg (by simpa using hd)]
    exact hbefore

theorem closing?_of_length_le {quote : Char} {s : List Char}
    (h : (s.takeWhile (· == quote)).length ≤ 2) : closing? quote s = none := by
  unfold closing?
  rw [if_neg (by omega)]

theorem closing?_replicate {quote : Char} {j : Nat} (hj : j ≤ 2) {tail : List Char}
    (htail : tail.head? ≠ some quote) :
    closing? quote (List.replicate (j + 3) quote ++ tail) =
      some (List.replicate j quote, tail) := by
  have hnone : tail.takeWhile (· == quote) = [] := by
    cases tail with
    | nil => rfl
    | cons c tail =>
      exact List.takeWhile_cons_of_neg (by simpa using htail)
  have hcount :
      (List.replicate (j + 3) quote ++ tail).takeWhile (· == quote) =
        List.replicate (j + 3) quote := by
    rw [List.takeWhile_append_of_pos (by simp), hnone, List.append_nil]
  unfold closing?
  rw [hcount, List.length_replicate, if_pos (by omega), show min (j + 3 - 3) 2 = j by omega]
  simp only
  rw [List.drop_left' List.length_replicate]

theorem bodyWithin?_quote (q : Quoting) (fuel : Nat) (rest : List Char) :
    bodyWithin? q (fuel + 1) (q.quote :: rest) =
      if q.long then (closing? q.quote (q.quote :: rest)).or
        ((bodyWithin? q fuel rest).map fun r => (q.quote :: r.1, r.2))
      else some ([], rest) := by
  rw [bodyWithin?]
  simp only [if_pos]

/-- A body is read up to its closing quotes. -/
theorem Body.read {q : Quoting} {before : Nat} {s t : List Char} (h : Body q before s t)
    (hbefore : before ≤ 2) {tail : List Char} (htail : tail.head? ≠ some q.quote) {fuel : Nat}
    (hfuel : s.length < fuel) :
    bodyWithin? q fuel (t ++ (q.closing ++ tail)) = some (s, tail) := by
  induction h generalizing fuel with
  | nil =>
    obtain ⟨fuel, rfl⟩ := Nat.exists_eq_succ_of_ne_zero (Nat.ne_of_gt hfuel)
    cases hlong : q.long with
    | false =>
      rw [Quoting.closing, hlong]
      change bodyWithin? q (fuel + 1) (q.quote :: tail) = _
      rw [bodyWithin?_quote, hlong]
      rfl
    | true =>
      have hclosing := closing?_replicate (Nat.zero_le 2) htail
      rw [Quoting.closing, hlong]
      change bodyWithin? q (fuel + 1) (q.quote :: (List.replicate 2 q.quote ++ tail)) = _
      rw [bodyWithin?_quote, hlong, if_pos rfl]
      change (closing? q.quote (List.replicate (0 + 3) q.quote ++ tail)).or _ = _
      rw [hclosing]
      rfl
  | @quote before s t hlong hlt rest ih =>
    obtain ⟨fuel, rfl⟩ := Nat.exists_eq_succ_of_ne_zero (Nat.ne_zero_of_lt hfuel)
    rw [List.cons_append, bodyWithin?_quote, if_pos hlong, ← List.cons_append]
    rcases (Body.quote hlong hlt rest).run hbefore with ⟨j, hj, hs, ht⟩ | hrun
    · -- The quotes reach the closing ones, which are the last three of them.
      rw [hs, ht, Quoting.closing, hlong, if_pos rfl, ← List.append_assoc,
        List.replicate_append_replicate, closing?_replicate (by omega) htail]
      rfl
    · have hnone : closing? q.quote (q.quote :: t ++ (q.closing ++ tail)) = none :=
        closing?_of_length_le (Nat.le_trans (Nat.le_add_left _ _) (hrun _))
      rw [hnone, ih hlt (by simpa using hfuel)]
      rfl
  | char hchar _ ih =>
    obtain ⟨fuel, rfl⟩ := Nat.exists_eq_succ_of_ne_zero (Nat.ne_zero_of_lt hfuel)
    rw [List.append_assoc, hchar.read, ih (Nat.zero_le 2) (by simpa using hfuel)]
    rfl

/-- As many steps as there are characters are enough. -/
theorem Body.read_all {q : Quoting} {s t : List Char} (h : Body q 0 s t) {tail : List Char}
    (htail : tail.head? ≠ some q.quote) :
    bodyWithin? q ((t ++ (q.closing ++ tail)).length + 1) (t ++ (q.closing ++ tail)) =
      some (s, tail) := by
  refine h.read (Nat.zero_le 2) htail ?_
  have hle := h.length_le
  rw [List.length_append]
  omega

/-- A body begins with a line end only if the text does. -/
theorem Body.lineEnd?_eq_none {q : Quoting} {before : Nat} {s t : List Char}
    (h : Body q before s t) (hquote : q.quote ≠ '\n' ∧ q.quote ≠ '\r') (hs : '\n' ∉ s)
    (tail : List Char) : lineEnd? (t ++ (q.closing ++ tail)) = none := by
  cases h with
  | nil =>
    have hclosing : q.closing =
        q.quote :: List.replicate ((if q.long then 3 else 1) - 1) q.quote := by
      unfold Quoting.closing
      split <;> rfl
    rw [hclosing]
    exact lineEnd?_cons_of_ne hquote.1 hquote.2 _
  | quote _ _ _ => exact lineEnd?_cons_of_ne hquote.1 hquote.2 _
  | char hchar _ =>
    obtain ⟨d, rest, rfl, -, hreturn, hfeed⟩ := hchar.head
    refine lineEnd?_cons_of_ne (fun hd => hs ?_) hreturn _
    rw [hfeed hd]
    exact List.mem_cons_self

/-! ### The four ways of quoting -/

/-- Escaping leaves at most as many quotes in a row as may stand in the string. -/
theorem body_escaped {lines : Bool} {quotes : Nat} (hquotes : quotes ≤ 2)
    (hlines : quotes = 0 ∨ lines = true) (before : Nat) (s : List Char) :
    Body ⟨'"', lines⟩ before s (escaped lines quotes before s) := by
  induction s generalizing before with
  | nil => exact .nil
  | cons c s ih =>
    rw [escaped_cons]
    by_cases hquote : c = '"' ∧ before < quotes
    · rw [if_pos hquote, hquote.1]
      have hlines : lines = true := hlines.resolve_left (by omega)
      exact .quote hlines (by omega) (ih (before + 1))
    · rw [if_neg hquote]
      exact .char (standsFor_code lines c) (ih 0)

def runStep (c : Char) (runs : Nat × Nat) (d : Char) : Nat × Nat :=
  if d = c then (max runs.1 (runs.2 + 1), runs.2 + 1) else (runs.1, 0)

theorem longestRun_eq (c : Char) (s : List Char) :
    longestRun c s = (s.foldl (runStep c) (0, 0)).1 := rfl

theorem le_foldl_runStep (c : Char) (s : List Char) (runs : Nat × Nat) :
    runs.1 ≤ (s.foldl (runStep c) runs).1 := by
  induction s generalizing runs with
  | nil => exact Nat.le_refl _
  | cons d s ih =>
    refine Nat.le_trans ?_ (ih (runStep c runs d))
    unfold runStep
    split
    · exact Nat.le_max_left _ _
    · exact Nat.le_refl _

/-- A text stands for itself in single quotes if all its characters may stand there and no run of
single quotes is too long. -/
theorem body_self {lines : Bool} {longest before : Nat} {s : List Char}
    (hs : ∀ c ∈ s, isPlain c ∨ lines ∧ c = '\n')
    (hrun : (s.foldl (runStep '\'') (longest, before)).1 ≤ if lines then 2 else 0) :
    Body ⟨'\'', lines⟩ before s s := by
  induction s generalizing longest before with
  | nil => exact .nil
  | cons c s ih =>
    have hrest := fun d hd => hs d (List.mem_cons_of_mem c hd)
    rw [List.foldl_cons] at hrun
    by_cases hquote : c = '\''
    · have hstep : runStep '\'' (longest, before) c = (max longest (before + 1), before + 1) :=
        if_pos hquote
      rw [hstep] at hrun
      have hle : before + 1 ≤ if lines then 2 else 0 :=
        Nat.le_trans (Nat.le_max_right longest (before + 1))
          (Nat.le_trans (le_foldl_runStep '\'' s (max longest (before + 1), before + 1)) hrun)
      rw [hquote]
      cases lines with
      | false => exact absurd hle (Nat.not_succ_le_zero before)
      | true => exact .quote rfl hle (ih hrest hrun)
    · have hstep : runStep '\'' (longest, before) c = (longest, 0) := if_neg hquote
      rw [hstep] at hrun
      have hself : StandsFor ⟨'\'', lines⟩ [c] c :=
        standsFor_self hquote (fun _ => rfl) (hs c List.mem_cons_self)
      exact .char hself (ih hrest hrun)

theorem longestRun_of_not_mem {c : Char} {s : List Char} (h : c ∉ s) : longestRun c s = 0 := by
  rw [longestRun_eq]
  induction s with
  | nil => rfl
  | cons d s ih =>
    rw [List.mem_cons, not_or] at h
    rw [List.foldl_cons, show runStep c (0, 0) d = (0, 0) from if_neg (Ne.symm h.1)]
    exact ih h.2

theorem body_inDoubleQuotes (s : List Char) : Body ⟨'"', false⟩ 0 s (escaped false 0 0 s) :=
  body_escaped (Nat.zero_le 2) (Or.inl rfl) 0 s

theorem body_inSingleQuotes {s : List Char} (hs : ∀ c ∈ s, isPlain c)
    (hrun : longestRun '\'' s = 0) : Body ⟨'\'', false⟩ 0 s s :=
  body_self (fun c hc => Or.inl (hs c hc)) (Nat.le_of_eq hrun)

/-- No text on one line begins with three quotes. -/
theorem Body.ne_quotes {quote : Char} {s t : List Char} (h : Body ⟨quote, false⟩ 0 s t)
    {tail : List Char} (htail : tail.head? ≠ some quote) (rest : List Char) :
    t ++ quote :: tail ≠ quote :: quote :: rest := by
  intro heq
  cases h with
  | nil =>
    obtain ⟨-, rfl⟩ := List.cons.inj heq
    exact htail rfl
  | quote hlong => cases hlong
  | char hchar _ =>
    obtain ⟨d, code, rfl, hd, -⟩ := hchar.head
    exact hd (List.cons.inj heq).1

theorem string?_short {quote : Char} (hquote : quote = '"' ∨ quote = '\'') {s t : List Char}
    (h : Body ⟨quote, false⟩ 0 s t) {tail : List Char} (htail : tail.head? ≠ some quote) :
    string? (quote :: (t ++ quote :: tail)) = some (s, tail) := by
  have hne := h.ne_quotes htail
  have hread : bodyWithin? ⟨quote, false⟩ ((t ++ quote :: tail).length + 1) (t ++ quote :: tail) =
      some (s, tail) := h.read_all htail
  rcases hquote with rfl | rfl
  · unfold string?
    split
    · rename_i heq
      exact absurd (List.cons.inj heq).2 (hne _)
    · rename_i heq
      cases (List.cons.inj heq).1
    · rename_i heq
      rw [← (List.cons.inj heq).2]
      exact hread
    · rename_i heq
      cases (List.cons.inj heq).1
    · rename_i hdouble _
      exact absurd rfl (hdouble _)
  · unfold string?
    split
    · rename_i heq
      cases (List.cons.inj heq).1
    · rename_i heq
      exact absurd (List.cons.inj heq).2 (hne _)
    · rename_i heq
      cases (List.cons.inj heq).1
    · rename_i heq
      rw [← (List.cons.inj heq).2]
      exact hread
    · rename_i hsingle
      exact absurd rfl (hsingle _)

theorem string?_long {quote : Char} (hquote : quote = '"' ∨ quote = '\'') {s t : List Char}
    (h : Body ⟨quote, true⟩ 0 s t) {tail : List Char} (htail : tail.head? ≠ some quote) :
    string? (List.replicate 3 quote ++ openingLine s ++ t ++ List.replicate 3 quote ++ tail) =
      some (s, tail) := by
  have hopening : (lineEnd? (openingLine s ++ (t ++ (List.replicate 3 quote ++ tail)))).getD
      (openingLine s ++ (t ++ (List.replicate 3 quote ++ tail))) =
        t ++ (List.replicate 3 quote ++ tail) := by
    by_cases hs : '\n' ∈ s
    · have hopening : openingLine s = ['\n'] := if_pos (List.contains_iff_mem.mpr hs)
      rw [hopening]
      rfl
    · have hopening : openingLine s = [] := if_neg (by simpa using hs)
      have hend := h.lineEnd?_eq_none (by rcases hquote with rfl | rfl <;> decide) hs tail
      rw [hopening, List.nil_append]
      exact congrArg (Option.getD · _) hend
  have hread : bodyWithin? ⟨quote, true⟩ ((t ++ (List.replicate 3 quote ++ tail)).length + 1)
      (t ++ (List.replicate 3 quote ++ tail)) = some (s, tail) := h.read_all htail
  rw [← hopening] at hread
  simp only [List.append_assoc]
  rcases hquote with rfl | rfl <;> exact hread

section Quoted

variable {s tail : List Char}

theorem string?_inDoubleQuotes (htail : tail.head? ≠ some '"') :
    string? (inDoubleQuotes s ++ tail) = some (s, tail) := by
  have h := string?_short (Or.inl rfl) (body_inDoubleQuotes s) htail
  simpa [inDoubleQuotes] using h

theorem string?_inSingleQuotes (hs : ∀ c ∈ s, isPlain c) (hrun : longestRun '\'' s = 0)
    (htail : tail.head? ≠ some '\'') : string? (inSingleQuotes s ++ tail) = some (s, tail) := by
  have h := string?_short (Or.inr rfl) (body_inSingleQuotes hs hrun) htail
  simpa [inSingleQuotes] using h

theorem string?_inLongDoubleQuotes (htail : tail.head? ≠ some '"') :
    string? (inLongDoubleQuotes s ++ tail) = some (s, tail) :=
  string?_long (Or.inl rfl) (body_escaped (Nat.le_refl 2) (Or.inr rfl) 0 s) htail

theorem string?_inLongSingleQuotes (hs : ∀ c ∈ s, isPlain c ∨ c = '\n')
    (hrun : longestRun '\'' s ≤ 2) (htail : tail.head? ≠ some '\'') :
    string? (inLongSingleQuotes s ++ tail) = some (s, tail) := by
  have hbody : Body ⟨'\'', true⟩ 0 s s :=
    body_self (fun c hc => (hs c hc).imp_right fun hline => ⟨rfl, hline⟩) hrun
  exact string?_long (Or.inr rfl) hbody htail

end Quoted

theorem isPlain_of_not_needsCode {s : List Char} (h : s.any needsCode = false) :
    ∀ c ∈ s, isPlain c ∨ c = '\n' := by
  intro c hc
  have hneeds : needsCode c = false := by
    simpa using List.any_eq_false.mp h c hc
  unfold needsCode at hneeds
  rw [isPlain_eq_not_isControl]
  by_cases hline : c = '\n'
  · exact Or.inr hline
  · refine Or.inl ?_
    simpa [hline] using hneeds

/-- Every string is read back from its text, whatever follows but a quote. -/
theorem string?_stringText (s : List Char) {tail : List Char}
    (hdouble : tail.head? ≠ some '"') (hsingle : tail.head? ≠ some '\'') :
    string? (stringText s ++ tail) = some (s, tail) := by
  unfold stringText
  simp only
  split
  · exact string?_inDoubleQuotes hdouble
  split
  · rename_i hchoice
    simp only [Bool.and_eq_true, Bool.not_eq_true', beq_iff_eq] at hchoice
    obtain ⟨⟨hcoded, hrun⟩, hline⟩ := hchoice
    refine string?_inSingleQuotes (fun c hc => ?_) hrun hsingle
    refine (isPlain_of_not_needsCode hcoded c hc).resolve_right ?_
    rintro rfl
    have hmem := List.contains_iff_mem.mpr hc
    rw [hline] at hmem
    cases hmem
  split
  · exact string?_inLongDoubleQuotes hdouble
  split
  · rename_i hchoice
    simp only [Bool.and_eq_true, Bool.not_eq_true', decide_eq_true_eq] at hchoice
    exact string?_inLongSingleQuotes (isPlain_of_not_needsCode hchoice.1) hchoice.2 hsingle
  split
  · exact string?_inLongDoubleQuotes hdouble
  · exact string?_inDoubleQuotes hdouble

/-- A quote that ends the text stands just before the three that close it. -/
example : stringText ['\'', '"'] = ['"', '"', '"', '\'', '"', '"', '"', '"'] := by decide

theorem stringText_head (s : List Char) :
    ∃ c rest, stringText s = c :: rest ∧ (c = '"' ∨ c = '\'') := by
  unfold stringText
  simp only
  split
  · exact ⟨_, _, rfl, Or.inl rfl⟩
  split
  · exact ⟨_, _, rfl, Or.inr rfl⟩
  split
  · exact ⟨_, _, rfl, Or.inl rfl⟩
  split
  · exact ⟨_, _, rfl, Or.inr rfl⟩
  split <;> exact ⟨_, _, rfl, Or.inl rfl⟩

/-! ### Keys -/

section KeyPart

variable {s tail : List Char}

theorem keyPart?_inDoubleQuotes (htail : tail.head? ≠ some '"') :
    keyPart? (inDoubleQuotes s ++ tail) = some (s, tail) := by
  rw [inDoubleQuotes, List.cons_append, List.cons_append, List.append_assoc]
  exact (body_inDoubleQuotes s).read_all htail

theorem keyPart?_inSingleQuotes (hs : ∀ c ∈ s, isPlain c) (hrun : longestRun '\'' s = 0)
    (htail : tail.head? ≠ some '\'') :
    keyPart? (inSingleQuotes s ++ tail) = some (s, tail) := by
  rw [inSingleQuotes, List.cons_append, List.cons_append, List.append_assoc]
  exact (body_inSingleQuotes hs hrun).read_all htail

theorem keyPart?_bare (hs : ∀ c ∈ s, isBareKeyChar c) (hne : s ≠ []) {c : Char}
    (hc : isBareKeyChar c = false) : keyPart? (s ++ c :: tail) = some (s, c :: tail) := by
  obtain ⟨d, rest, rfl⟩ := List.exists_cons_of_ne_nil hne
  have hd := hs d List.mem_cons_self
  have htake : (d :: rest ++ c :: tail).takeWhile isBareKeyChar = d :: rest := by
    rw [List.takeWhile_append_of_pos hs, List.takeWhile_cons_of_neg (by simp [hc]),
      List.append_nil]
  have hdrop : (d :: rest ++ c :: tail).dropWhile isBareKeyChar = c :: tail := by
    rw [List.dropWhile_append_of_pos hs, List.dropWhile_cons_of_neg (by simp [hc])]
  unfold keyPart?
  split
  · rename_i heq
    rw [(List.cons.inj heq).1] at hd
    cases hd
  · rename_i heq
    rw [(List.cons.inj heq).1] at hd
    cases hd
  · rw [htake, hdrop]
    rfl

end KeyPart

/-- Every part of a key is read back from its text, if what follows cannot belong to it. -/
theorem keyPart?_keyText (s : List Char) {c : Char} (tail : List Char)
    (hbare : isBareKeyChar c = false) (hdouble : c ≠ '"') (hsingle : c ≠ '\'') :
    keyPart? (keyText s ++ c :: tail) = some (s, c :: tail) := by
  have hdouble : (c :: tail).head? ≠ some '"' := by simpa using hdouble
  have hsingle : (c :: tail).head? ≠ some '\'' := by simpa using hsingle
  unfold keyText
  simp only
  split
  · rename_i hchoice
    simp only [Bool.and_eq_true, Bool.not_eq_true', List.isEmpty_eq_false_iff,
      List.all_eq_true] at hchoice
    exact keyPart?_bare hchoice.2 hchoice.1 hbare
  split
  · exact keyPart?_inDoubleQuotes hdouble
  split
  · rename_i hchoice
    simp only [Bool.and_eq_true, Bool.not_eq_true'] at hchoice
    obtain ⟨hcoded, hquote⟩ := hchoice
    refine keyPart?_inSingleQuotes (fun c hc => ?_) (longestRun_of_not_mem ?_) hsingle
    · rw [isPlain_eq_not_isControl]
      simpa using List.any_eq_false.mp hcoded c hc
    · simpa using hquote
  · exact keyPart?_inDoubleQuotes hdouble

/-- The text of a key begins with a quote or with a character of bare keys. -/
theorem keyText_head (s : List Char) :
    ∃ c rest, keyText s = c :: rest ∧ (c = '"' ∨ c = '\'' ∨ isBareKeyChar c) := by
  unfold keyText
  simp only
  split
  · rename_i hchoice
    simp only [Bool.and_eq_true, Bool.not_eq_true', List.isEmpty_eq_false_iff,
      List.all_eq_true] at hchoice
    obtain ⟨c, rest, rfl⟩ := List.exists_cons_of_ne_nil hchoice.1
    exact ⟨c, rest, rfl, Or.inr (Or.inr (hchoice.2 c List.mem_cons_self))⟩
  split
  · exact ⟨_, _, rfl, Or.inl rfl⟩
  split
  · exact ⟨_, _, rfl, Or.inr (Or.inl rfl)⟩
  · exact ⟨_, _, rfl, Or.inl rfl⟩

end FieldRules.Toml
