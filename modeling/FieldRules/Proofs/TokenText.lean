import FieldRules.Proofs.Builtins

/-!
Rule tokens and their texts. Reading a token cuts its text at the first colons: the pieces joined by
colons are the text again, there are as many as there are colons and as the limit allows, and only
the last one that the limit allows holds colons itself. So writing undoes reading unless arguments
are not taken at all, and reading undoes writing for just the tokens that can be read. Main
statement: `text_codec`.
-/
namespace FieldRules

namespace RuleToken

/-- A text without colons is one piece. -/
theorem pieces_of_free {s : List Char} (h : ':' ∉ s) (n : Nat) : pieces (n + 1) s = [s] := by
  cases n with
  | zero => rw [pieces]
  | succ n =>
    induction s with
    | nil => rw [pieces]
    | cons c rest ih =>
      rw [List.mem_cons, not_or] at h
      simp [pieces, Ne.symm h.1, ih h.2]

/-- A colon after a text without colons ends the first piece. -/
theorem pieces_append_colon {p : List Char} (h : ':' ∉ p) (n : Nat) (s : List Char) :
    pieces (n + 2) (p ++ ':' :: s) = p :: pieces (n + 1) s := by
  induction p with
  | nil => simp [pieces]
  | cons c p ih =>
    rw [List.mem_cons, not_or] at h
    simp [pieces, Ne.symm h.1, ih h.2]

/-- Induction along the cuts: a text is one piece where the limit is reached or no colon is left,
and otherwise it is cut at its first colon. -/
theorem pieces_induct {motive : Nat → List Char → Prop}
    (whole : ∀ n s, n = 0 ∨ ':' ∉ s → pieces (n + 1) s = [s] → motive n s)
    (cut : ∀ n p rest, ':' ∉ p → pieces (n + 2) (p ++ ':' :: rest) = p :: pieces (n + 1) rest →
      motive n rest → motive (n + 1) (p ++ ':' :: rest)) (n : Nat) (s : List Char) :
    motive n s := by
  induction n generalizing s with
  | zero => exact whole 0 s (Or.inl rfl) (by rw [pieces])
  | succ n ih =>
    by_cases h : ':' ∈ s
    · obtain ⟨p, rest, rfl, hp⟩ := List.eq_append_cons_of_mem h
      exact cut n p rest hp (pieces_append_colon hp n rest) (ih rest)
    · exact whole (n + 1) s (Or.inr h) (pieces_of_free h (n + 1))

theorem pieces_ne_nil (n : Nat) (s : List Char) : pieces (n + 1) s ≠ [] := by
  induction n, s using pieces_induct with
  | whole n s _ hpieces | cut n p rest _ hpieces =>
    rw [hpieces]
    exact List.cons_ne_nil _ _

/-- Nothing is lost by cutting. -/
theorem intercalate_pieces (n : Nat) (s : List Char) :
    [':'].intercalate (pieces (n + 1) s) = s := by
  induction n, s using pieces_induct with
  | whole n s _ hpieces => rw [hpieces, List.intercalate_singleton]
  | cut n p rest _ hpieces ih =>
    rw [hpieces, List.intercalate_cons_of_ne_nil (pieces_ne_nil n rest), ih, List.append_assoc,
      List.singleton_append]

theorem length_pieces (n : Nat) (s : List Char) :
    (pieces (n + 1) s).length = min (s.count ':' + 1) (n + 1) := by
  induction n, s using pieces_induct with
  | whole n s hwhole hpieces =>
    rw [hpieces, List.length_singleton]
    rcases hwhole with rfl | hfree
    · omega
    · rw [List.count_eq_zero.mpr hfree]
      omega
  | cut n p rest hp hpieces ih =>
    rw [hpieces, List.length_cons, ih, List.count_append, List.count_cons_self,
      List.count_eq_zero.mpr hp]
    omega

/-- Only the last piece that the limit allows may hold colons, and only if there are too many. -/
theorem not_mem_piece {n : Nat} {s : List Char} {i : Nat} {piece : List Char}
    (h : (pieces (n + 1) s)[i]? = some piece) (hlast : i = n → s.count ':' ≤ n) :
    ':' ∉ piece := by
  induction n, s using pieces_induct generalizing i with
  | whole n s hwhole hpieces =>
    obtain ⟨rfl, rfl⟩ : i = 0 ∧ s = piece := by
      rw [hpieces] at h
      simpa [List.getElem?_singleton] using h
    rcases hwhole with rfl | hfree
    · exact List.count_eq_zero.mp (Nat.le_zero.mp (hlast rfl))
    · exact hfree
  | cut n p rest hp hpieces ih =>
    rw [hpieces] at h
    cases i with
    | zero =>
      obtain rfl : p = piece := by simpa using h
      exact hp
    | succ i =>
      refine ih (by simpa using h) fun hi => ?_
      have hcount := hlast (by rw [hi])
      rw [List.count_append, List.count_cons_self] at hcount
      omega

/-- Pieces that were joined are found again, be it that the last one that the limit allows holds
colons. -/
theorem pieces_intercalate {l : List (List Char)} {n : Nat} (hne : l ≠ [])
    (hlength : l.length ≤ n + 1)
    (hfree : ∀ i p, l[i]? = some p → ':' ∈ p → i = n) :
    pieces (n + 1) ([':'].intercalate l) = l := by
  induction l generalizing n with
  | nil => exact absurd rfl hne
  | cons p l ih =>
    cases n with
    | zero =>
      have hl : l = [] := List.length_eq_zero_iff.mp (by simpa using hlength)
      rw [hl, List.intercalate_singleton, pieces]
    | succ n =>
      have hp : ':' ∉ p := fun hmem => by
        have h := hfree 0 p rfl hmem
        omega
      by_cases hl : l = []
      · rw [hl, List.intercalate_singleton, pieces_of_free hp]
      · have hrest := ih (n := n) hl (by simpa using hlength) fun i q hq hmem => by
          have h := hfree (i + 1) q (by rw [List.getElem?_cons_succ, hq]) hmem
          omega
        rw [List.intercalate_cons_of_ne_nil hl, List.append_assoc, List.singleton_append,
          pieces_append_colon hp, hrest]

theorem length_le_length_intercalate (l : List (List Char)) :
    l.length ≤ ([':'].intercalate l).length + 1 := by
  induction l with
  | nil => exact Nat.zero_le _
  | cons p l ih =>
    by_cases hl : l = []
    · rw [hl]
      exact Nat.le_add_left _ _
    · rw [List.intercalate_cons_of_ne_nil hl, List.length_cons, List.length_append,
        List.length_append, List.length_singleton]
      omega

/-- The arguments that a text is cut into make it up again, unless none is taken. -/
theorem intercalate_arguments {maxArgs : Option Nat} (h : maxArgs ≠ some 0) (s : List Char) :
    [':'].intercalate (arguments maxArgs s) = s := by
  match maxArgs, h with
  | none, _ => exact intercalate_pieces s.length s
  | some (n + 1), _ => exact intercalate_pieces n s

theorem arguments_zero (s : List Char) : arguments (some 0) s = [] := by
  simp [arguments, pieces]

theorem length_arguments_none (s : List Char) :
    (arguments none s).length = s.count ':' + 1 := by
  have hcount : s.count ':' ≤ s.length := List.count_le_length
  have hlength := length_pieces s.length s
  change (pieces (s.length + 1) s).length = _
  omega

theorem length_arguments_some (n : Nat) (s : List Char) :
    (arguments (some n) s).length = min (s.count ':' + 1) n := by
  cases n with
  | zero => rw [arguments_zero, Nat.min_zero, List.length_nil]
  | succ n => exact length_pieces n s

/-- An argument that holds a colon is the last one that the limit allows. -/
theorem eq_some_of_mem_argument {maxArgs : Option Nat} {s : List Char} {i : Nat}
    {argument : List Char} (h : (arguments maxArgs s)[i]? = some argument)
    (hmem : ':' ∈ argument) : maxArgs = some (i + 1) := by
  match maxArgs with
  | none =>
    exact absurd hmem (not_mem_piece h fun _ => List.count_le_length)
  | some 0 =>
    rw [arguments_zero] at h
    cases h
  | some (n + 1) =>
    by_cases hi : i = n
    · rw [hi]
    · exact absurd hmem (not_mem_piece h fun he => absurd he hi)

/-- Arguments are cut where they were joined if none has a colon but the last that is allowed. -/
theorem arguments_intercalate {maxArgs : Option Nat} {l : List (List Char)} (hne : l ≠ [])
    (hlength : ∀ n, maxArgs = some n → l.length ≤ n)
    (hfree : ∀ i p, l[i]? = some p → ':' ∈ p → maxArgs = some (i + 1)) :
    arguments maxArgs ([':'].intercalate l) = l := by
  match maxArgs with
  | none =>
    exact pieces_intercalate hne (length_le_length_intercalate l) fun i p hp hmem =>
      absurd (hfree i p hp hmem) nofun
  | some 0 =>
    exact absurd (List.length_eq_zero_iff.mp (Nat.le_zero.mp (hlength 0 rfl))) hne
  | some (n + 1) =>
    refine pieces_intercalate hne (hlength (n + 1) rfl) fun i p hp hmem => ?_
    have h := Option.some.inj (hfree i p hp hmem)
    omega

theorem splitColon_of_free {s : List Char} (h : ':' ∉ s) : splitColon s = (s, none) := by
  have hdrop : s.dropWhile (· != ':') = [] := by
    rw [List.dropWhile_eq_nil_iff]
    intro c hc
    exact bne_iff_ne.mpr fun he => h (he ▸ hc)
  unfold splitColon
  rw [hdrop]

theorem splitColon_append {name : List Char} (h : ':' ∉ name) (rest : List Char) :
    splitColon (name ++ ':' :: rest) = (name, some rest) := by
  have hname : ∀ c ∈ name, (c != ':') = true := fun c hc => bne_iff_ne.mpr fun he => h (he ▸ hc)
  unfold splitColon
  rw [List.dropWhile_append_of_pos hname, List.takeWhile_append_of_pos hname]
  simp

theorem ofText_of_free (maxArgs : Option Nat) {name : String} (h : ':' ∉ name.toList) :
    ofText maxArgs name = ⟨name, []⟩ := by
  unfold ofText
  rw [splitColon_of_free h]
  simp

theorem ofText_append (maxArgs : Option Nat) {name : String} (h : ':' ∉ name.toList)
    (rest : String) : ofText maxArgs (name ++ ":" ++ rest) =
      ⟨name, (arguments maxArgs rest.toList).map String.ofList⟩ := by
  have htext : (name ++ ":" ++ rest).toList = name.toList ++ ':' :: rest.toList := by
    simp [String.toList_append]
  unfold ofText
  rw [htext, splitColon_append h]
  simp

/-- Every text is a name, or a name with a colon and a text behind it. -/
theorem exists_name (s : String) : ∃ name : String, ':' ∉ name.toList ∧
    (s = name ∨ ∃ rest, s = name ++ ":" ++ rest) := by
  by_cases h : ':' ∈ s.toList
  · obtain ⟨name, rest, hs, hname⟩ := List.eq_append_cons_of_mem h
    refine ⟨String.ofList name, by rwa [String.toList_ofList], Or.inr ⟨String.ofList rest, ?_⟩⟩
    apply String.toList_injective
    simp [hs]
  · exact ⟨s, h, Or.inl rfl⟩

theorem toText_of_args {name : String} {args : List String} (h : args ≠ []) :
    toText ⟨name, args⟩ = name ++ ":" ++ ":".intercalate args := by
  have hfold : ∀ (l : List String) (a s : String),
      (a :: l).foldl (fun s arg => s ++ ":" ++ arg) s = s ++ ":" ++ ":".intercalate (a :: l) := by
    intro l
    induction l with
    | nil =>
      intro a s
      rw [String.intercalate_singleton]
      rfl
    | cons b l ih =>
      intro a s
      rw [List.foldl_cons, ih, String.intercalate_cons_cons]
      simp only [String.append_assoc]
  obtain ⟨a, l, rfl⟩ := List.exists_cons_of_ne_nil h
  exact hfold l a name

theorem intercalate_ofList (l : List (List Char)) :
    ":".intercalate (l.map String.ofList) = String.ofList ([':'].intercalate l) := by
  apply String.toList_injective
  simp [Function.comp_def]

/-- What makes a token readable for a validator that takes at most `maxArgs` arguments: the name
ends at the first colon, there are not too many arguments, and none holds a colon but the last one
that the limit allows. -/
structure Fits (maxArgs : Option Nat) (t : RuleToken) : Prop where
  name_free : ':' ∉ t.name.toList
  length_le : ∀ n, maxArgs = some n → t.args.length ≤ n
  last_of_mem : ∀ (i : Nat) (arg : String),
    t.args[i]? = some arg → ':' ∈ arg.toList → maxArgs = some (i + 1)

theorem fits_ofText (maxArgs : Option Nat) (s : String) : (ofText maxArgs s).Fits maxArgs := by
  obtain ⟨name, hname, rfl | ⟨rest, rfl⟩⟩ := exists_name s
  · rw [ofText_of_free maxArgs hname]
    exact ⟨hname, fun n _ => Nat.zero_le n, nofun⟩
  · rw [ofText_append maxArgs hname]
    refine ⟨hname, ?_, ?_⟩
    · rintro n rfl
      rw [List.length_map, length_arguments_some]
      exact Nat.min_le_right _ _
    · intro i arg harg hmem
      rw [List.getElem?_map, Option.map_eq_some_iff] at harg
      obtain ⟨argument, hargument, rfl⟩ := harg
      rw [String.toList_ofList] at hmem
      exact eq_some_of_mem_argument hargument hmem

/-- Reading undoes writing for just the tokens that can be read. -/
theorem ofText_toText_iff (maxArgs : Option Nat) (t : RuleToken) :
    ofText maxArgs t.toText = t ↔ t.Fits maxArgs := by
  constructor
  · intro h
    rw [← h]
    exact fits_ofText maxArgs t.toText
  · obtain ⟨name, args⟩ := t
    intro h
    by_cases hargs : args = []
    · rw [hargs]
      exact ofText_of_free maxArgs h.name_free
    · have hchars : (":".intercalate args).toList = [':'].intercalate (args.map String.toList) :=
        String.toList_intercalate
      have hread : arguments maxArgs ([':'].intercalate (args.map String.toList)) =
          args.map String.toList := by
        apply arguments_intercalate
        · simpa using hargs
        · simpa using h.length_le
        · intro i p hp hmem
          rw [List.getElem?_map, Option.map_eq_some_iff] at hp
          obtain ⟨arg, harg, rfl⟩ := hp
          exact h.last_of_mem i arg harg hmem
      rw [toText_of_args hargs, ofText_append maxArgs h.name_free, hchars, hread]
      simp [Function.comp_def]

/-- Writing undoes reading where arguments are taken. -/
theorem toText_ofText {maxArgs : Option Nat} (h : maxArgs ≠ some 0) (s : String) :
    (ofText maxArgs s).toText = s := by
  obtain ⟨name, hname, rfl | ⟨rest, rfl⟩⟩ := exists_name s
  · rw [ofText_of_free maxArgs hname]
    rfl
  · have hjoin := intercalate_arguments h rest.toList
    have hargs : arguments maxArgs rest.toList ≠ [] := by
      match maxArgs, h with
      | none, _ => exact pieces_ne_nil _ _
      | some (n + 1), _ => exact pieces_ne_nil _ _
    rw [ofText_append maxArgs hname, toText_of_args (by simpa using hargs), intercalate_ofList,
      hjoin, String.ofList_toList]

end RuleToken

namespace Catalogue

open RuleToken

/-- A token is judged by the validator of its name, which is given just its arguments. -/
theorem judge?_toText {c : Catalogue} {t : RuleToken} {v : Validator}
    (hv : c.find? t.name = some v) (ht : t.Fits v.maxArgs) (f : Focus) :
    c.judge? f t.toText = some (v.check f t.args) := by
  have hread := (ofText_toText_iff v.maxArgs t).mpr ht
  have hname : nameOf t.toText = t.name := congrArg RuleToken.name hread
  rw [judge?_eq_some_iff]
  exact ⟨v, by rw [hname, hv], by rw [hread]⟩

end Catalogue

namespace RuleToken

/-- Reading a token cuts its text at colons without losing anything, as often as the limit allows;
writing is the inverse. In a run the validator of a token gets the arguments that were written, and
a pattern all of its colons. -/
theorem text_codec :
    (∀ (maxArgs : Option Nat) (name : String), ':' ∉ name.toList →
      ofText maxArgs name = ⟨name, []⟩) ∧
    (∀ (maxArgs : Option Nat) (name rest : String), ':' ∉ name.toList →
      (ofText maxArgs (name ++ ":" ++ rest)).name = name ∧
      (maxArgs = some 0 → (ofText maxArgs (name ++ ":" ++ rest)).args = []) ∧
      (maxArgs ≠ some 0 → ":".intercalate (ofText maxArgs (name ++ ":" ++ rest)).args = rest) ∧
      (maxArgs = none →
        (ofText maxArgs (name ++ ":" ++ rest)).args.length = 1 + rest.toList.count ':') ∧
      (∀ n, maxArgs = some n →
        (ofText maxArgs (name ++ ":" ++ rest)).args.length = min (1 + rest.toList.count ':') n) ∧
      (∀ (i : Nat) (arg : String), (ofText maxArgs (name ++ ":" ++ rest)).args[i]? = some arg →
        ':' ∈ arg.toList → maxArgs = some (i + 1))) ∧
    (∀ (maxArgs : Option Nat) (s : String), maxArgs ≠ some 0 → (ofText maxArgs s).toText = s) ∧
    (∀ (maxArgs : Option Nat) (t : RuleToken),
      ofText maxArgs t.toText = t ↔ t.Fits maxArgs) ∧
    (∀ (e : Engine) (t : RuleToken) (v : Validator), e.catalogue.find? t.name = some v →
      t.Fits v.maxArgs → ∀ (field : String) (record : Record) (rest : List String),
        e.evaluate field record (t.toText :: rest) =
          match v.check ⟨record, field⟩ t.args with
          | .error err => ⟨record, [], .error err⟩
          | .ok .pass => e.evaluate field record rest
          | .ok (.fail message) =>
            (e.evaluate field record rest).map (⟨t.name, message⟩ :: ·)
          | .ok (.replace value) => e.evaluate field (record.insert field value) rest) ∧
    (∀ (f : Focus) (pattern : String),
      Catalogue.builtins.judge? f ("regex:" ++ pattern) =
        some (Builtin.checkRegex f [pattern])) := by
  refine ⟨fun maxArgs name => ofText_of_free maxArgs, ?_, fun maxArgs s h => toText_ofText h s,
    ofText_toText_iff, ?_, ?_⟩
  · intro maxArgs name rest hname
    have hfits := fits_ofText maxArgs (name ++ ":" ++ rest)
    rw [ofText_append maxArgs hname] at hfits ⊢
    refine ⟨rfl, ?_, ?_, ?_, ?_, hfits.last_of_mem⟩
    · rintro rfl
      simp only
      rw [arguments_zero, List.map_nil]
    · intro h
      simp only
      rw [intercalate_ofList, intercalate_arguments h, String.ofList_toList]
    · rintro rfl
      simp only
      rw [List.length_map, length_arguments_none, Nat.add_comm]
    · rintro n rfl
      simp only
      rw [List.length_map, length_arguments_some, Nat.add_comm]
  · intro e t v hv ht field record rest
    have hread := (ofText_toText_iff v.maxArgs t).mpr ht
    have hname : nameOf t.toText = t.name := congrArg RuleToken.name hread
    rw [Engine.evaluate, Catalogue.judge?_toText hv ht, hname]
    cases v.check ⟨record, field⟩ t.args with
    | error err => rfl
    | ok verdict => cases verdict <;> rfl
  · intro f pattern
    have hfind : Catalogue.builtins.find? "regex" = some Builtin.regex.validator := by
      rw [Catalogue.find?_builtins]
      rfl
    have hfits : Fits Builtin.regex.validator.maxArgs ⟨"regex", [pattern]⟩ := by
      refine ⟨show ':' ∉ "regex".toList by decide, ?_, ?_⟩
      · intro n hn
        exact Nat.le_of_eq (Option.some.inj hn)
      · intro i arg harg _
        obtain ⟨rfl, -⟩ : i = 0 ∧ _ := by simpa [List.getElem?_singleton] using harg
        rfl
    exact Catalogue.judge?_toText hfind hfits f

/-- With one colon more than the limit allows, the last argument keeps it. -/
example : ofText (some 2) "date:1:2:3" = ⟨"date", ["1", "2:3"]⟩ := by decide

end RuleToken

end FieldRules
