import FieldRules.Proofs.TomlText

/-!
Written tables of TOML are read back. An array of strings is read item by item; a section, which is
a header with the entries of its table, is read line by line. `Leads` says what a piece of a
document does to the document under construction whatever comes after it, so that pieces can be put
together. Main statements: `value?_arrayText` and `leads_section`.
-/
namespace FieldRules.Toml

/-! ### Spaces -/

def isSolid (c : Char) : Bool := !isBlank c && c != '#' && c != '\n' && c != '\r'

theorem isSolid_iff (c : Char) :
    isSolid c ↔ isBlank c = false ∧ c ≠ '#' ∧ c ≠ '\n' ∧ c ≠ '\r' := by
  simp [isSolid, and_assoc]

section Spaces

variable {c : Char} (hc : isSolid c) (s : List Char)
include hc

theorem dropBlanks_of_isSolid : dropBlanks (c :: s) = c :: s :=
  List.dropWhile_cons_of_neg (by simp [((isSolid_iff c).mp hc).1])

theorem dropComment_of_isSolid : dropComment (c :: s) = c :: s := by
  unfold dropComment
  split
  · rename_i heq
    exact absurd (List.cons.inj heq).1 ((isSolid_iff c).mp hc).2.1
  · rfl

theorem lineEnd?_of_isSolid : lineEnd? (c :: s) = none :=
  lineEnd?_cons_of_ne ((isSolid_iff c).mp hc).2.2.1 ((isSolid_iff c).mp hc).2.2.2 s

theorem dropSpacesWithin_blanks {blanks : List Char} (hblanks : ∀ b ∈ blanks, isBlank b)
    (fuel : Nat) : dropSpacesWithin (fuel + 1) (blanks ++ c :: s) = c :: s := by
  have hdrop : dropComment (dropBlanks (blanks ++ c :: s)) = c :: s := by
    rw [dropBlanks, List.dropWhile_append_of_pos hblanks]
    exact (congrArg dropComment (dropBlanks_of_isSolid hc s)).trans (dropComment_of_isSolid hc s)
  unfold dropSpacesWithin
  simp only
  rw [hdrop, lineEnd?_of_isSolid hc]

theorem dropSpaces_of_isSolid : dropSpaces (c :: s) = c :: s :=
  dropSpacesWithin_blanks hc s (fun _ h => absurd h List.not_mem_nil) _

theorem dropSpaces_line (blanks : List Char) (hblanks : ∀ b ∈ blanks, isBlank b) :
    dropSpaces ('\n' :: (blanks ++ c :: s)) = c :: s :=
  dropSpacesWithin_blanks hc s hblanks _

end Spaces

/-! ### Values -/

theorem isSolid_of_quote {c : Char} (h : c = '"' ∨ c = '\'') : isSolid c := by
  rcases h with rfl | rfl <;> decide

def itemLine (item : String) : List Char :=
  "\n    ".toList ++ stringText item.toList ++ [',']

theorem dropSpaces_itemLine (item : String) (tail : List Char) :
    dropSpaces (itemLine item ++ tail) = stringText item.toList ++ ',' :: tail := by
  obtain ⟨c, rest, htext, hc⟩ := stringText_head item.toList
  have hline : itemLine item ++ tail =
      '\n' :: ([' ', ' ', ' ', ' '] ++ c :: (rest ++ ',' :: tail)) := by
    unfold itemLine
    simp [htext]
  rw [hline, htext]
  exact dropSpaces_line (isSolid_of_quote hc) _ [' ', ' ', ' ', ' '] (by simp [isBlank])

theorem length_le_length_itemLines (items : List String) :
    2 * items.length ≤ (items.flatMap itemLine).length := by
  induction items with
  | nil => exact Nat.le_refl _
  | cons item items ih =>
    have hline : (itemLine item).length = (stringText item.toList).length + 6 := by
      unfold itemLine
      simp
    rw [List.flatMap_cons, List.length_append, List.length_cons]
    omega

namespace ValueReading

theorem value?_stringText (stack : List Open) (s : List Char) {tail : List Char}
    (hdouble : tail.head? ≠ some '"') (hsingle : tail.head? ≠ some '\'') :
    value? stack (stringText s ++ tail) =
      some ⟨.more (.string (String.ofList s)), stack, tail⟩ := by
  have hread := string?_stringText s hdouble hsingle
  obtain ⟨c, rest, htext, hc⟩ := stringText_head s
  rw [htext, List.cons_append] at hread ⊢
  rcases hc with rfl | rfl
  · change ((string? ('"' :: (rest ++ tail))).map _).map _ = _
    rw [hread]
    rfl
  · change ((string? ('\'' :: (rest ++ tail))).map _).map _ = _
    rw [hread]
    rfl

theorem step?_string {s rest tail : List Char} (hdrop : dropSpaces rest = stringText s ++ tail)
    (hdouble : tail.head? ≠ some '"') (hsingle : tail.head? ≠ some '\'')
    (items : List Toml) (stack : List Open) :
    step? ⟨.item, .array items :: stack, rest⟩ =
      some ⟨.more (.string (String.ofList s)), .array items :: stack, tail⟩ := by
  unfold step?
  simp only
  rw [hdrop, ← value?_stringText (.array items :: stack) s hdouble hsingle]
  obtain ⟨c, rest, htext, hc⟩ := stringText_head s
  rw [htext, List.cons_append]
  split
  · rename_i heq
    rw [(List.cons.inj heq).1] at hc
    exact absurd hc (by decide)
  · rfl

theorem step?_close {rest tail : List Char} (hdrop : dropSpaces rest = ']' :: tail)
    (items : List Toml) (stack : List Open) :
    step? ⟨.item, .array items :: stack, rest⟩ =
      some ⟨.more (.array items.reverse), stack, tail⟩ := by
  simp only [step?, hdrop]

theorem step?_comma (v : Toml) (items : List Toml) (stack : List Open) (rest : List Char) :
    step? ⟨.more v, .array items :: stack, ',' :: rest⟩ =
      some ⟨.item, .array (v :: items) :: stack, rest⟩ := by
  simp only [step?, dropSpaces_of_isSolid (show isSolid ',' by decide)]

theorem step?_last (v : Toml) (items : List Toml) (stack : List Open) (rest : List Char) :
    step? ⟨.more v, .array items :: stack, ']' :: rest⟩ =
      some ⟨.more (.array (v :: items).reverse), stack, rest⟩ := by
  simp only [step?, dropSpaces_of_isSolid (show isSolid ']' by decide)]

theorem runWithin?_done (fuel : Nat) (v : Toml) (rest : List Char) :
    runWithin? fuel ⟨.more v, [], rest⟩ = some (v, rest) := by
  cases fuel <;> rfl

/-- Each item takes two steps, one to read it and one for the comma. -/
theorem runWithin?_itemLines (items : List String) (before : List Toml) (tail : List Char)
    {fuel : Nat} (hfuel : 2 * items.length < fuel) :
    runWithin? fuel ⟨.item, [.array before], items.flatMap itemLine ++ '\n' :: ']' :: tail⟩ =
      some (.array (before.reverse ++ items.map .string), tail) := by
  induction items generalizing before fuel with
  | nil =>
    obtain ⟨fuel, rfl⟩ := Nat.exists_eq_succ_of_ne_zero (Nat.ne_zero_of_lt hfuel)
    have hdrop : dropSpaces ('\n' :: ']' :: tail) = ']' :: tail :=
      dropSpaces_line (by decide) tail [] nofun
    change (step? ⟨.item, [.array before], '\n' :: ']' :: tail⟩).bind (runWithin? fuel) = _
    rw [step?_close hdrop, Option.bind_some, runWithin?_done, List.map_nil, List.append_nil]
  | cons item items ih =>
    rw [List.length_cons] at hfuel
    obtain ⟨fuel, rfl⟩ := Nat.exists_eq_add_of_le (show 2 ≤ fuel by omega)
    rw [List.flatMap_cons, List.append_assoc, Nat.add_comm]
    change (step? ⟨.item, [.array before], _⟩).bind (runWithin? (fuel + 1)) = _
    rw [step?_string (dropSpaces_itemLine item _) (by simp) (by simp), Option.bind_some]
    change (step? ⟨.more _, [.array before], _⟩).bind (runWithin? fuel) = _
    rw [step?_comma, Option.bind_some, ih _ (by omega)]
    simp

end ValueReading

theorem value?_open (s : List Char) : value? ('[' :: s) =
    ValueReading.runWithin? (s.length + 1) ⟨.item, [.array []], s⟩ := rfl

/-- An array of strings is read back from its text. -/
theorem value?_arrayText (items : List String) (tail : List Char) :
    value? (arrayText items ++ tail) = some (.array (items.map .string), tail) := by
  match items with
  | [] =>
    have hdrop := dropSpaces_of_isSolid (show isSolid ']' by decide) tail
    rw [show arrayText [] ++ tail = '[' :: ']' :: tail from rfl, value?_open]
    change (ValueReading.step? ⟨.item, [.array []], ']' :: tail⟩).bind _ = _
    rw [ValueReading.step?_close hdrop, Option.bind_some, ValueReading.runWithin?_done]
    rfl
  | [item] =>
    have htext : arrayText [item] ++ tail = '[' :: (stringText item.toList ++ ']' :: tail) := by
      simp [arrayText]
    have hdrop : dropSpaces (stringText item.toList ++ ']' :: tail) =
        stringText item.toList ++ ']' :: tail := by
      obtain ⟨c, rest, hitem, hc⟩ := stringText_head item.toList
      rw [hitem]
      exact dropSpaces_of_isSolid (isSolid_of_quote hc) _
    rw [htext, value?_open, List.length_append, List.length_cons]
    change (ValueReading.step? ⟨.item, [.array []], _⟩).bind _ = _
    rw [ValueReading.step?_string hdrop (by simp) (by simp), Option.bind_some]
    change (ValueReading.step? ⟨.more _, [.array []], _⟩).bind _ = _
    rw [ValueReading.step?_last, Option.bind_some, ValueReading.runWithin?_done,
      String.ofList_toList]
    rfl
  | first :: second :: items =>
    have htext : arrayText (first :: second :: items) ++ tail =
        '[' :: ((first :: second :: items).flatMap itemLine ++ '\n' :: ']' :: tail) := by
      simp only [arrayText, List.cons_append, List.append_assoc]
      rfl
    have hlength := length_le_length_itemLines (first :: second :: items)
    rw [htext, value?_open, ValueReading.runWithin?_itemLines]
    · rfl
    · rw [List.length_append]
      omega

/-- How a value is written: its text begins with no space, and it is read back from it at the end of
a line. -/
structure Written (text : List Char) (v : Toml) : Prop where
  head : ∃ c rest, text = c :: rest ∧ isSolid c
  read : ∀ tail, value? (text ++ '\n' :: tail) = some (v, '\n' :: tail)

theorem written_arrayText (items : List String) :
    Written (arrayText items) (.array (items.map .string)) where
  head := by
    match items with
    | [] | [_] | _ :: _ :: _ => exact ⟨'[', _, rfl, by decide⟩
  read tail := value?_arrayText items ('\n' :: tail)

theorem written_stringText (s : String) : Written (stringText s.toList) (.string s) where
  head := by
    obtain ⟨c, rest, htext, hc⟩ := stringText_head s.toList
    exact ⟨c, rest, htext, isSolid_of_quote hc⟩
  read tail := by
    change (ValueReading.value? [] (stringText s.toList ++ '\n' :: tail)).bind _ = _
    rw [ValueReading.value?_stringText [] s.toList (by simp) (by simp), Option.bind_some,
      ValueReading.runWithin?_done, String.ofList_toList]

/-! ### Lines -/

theorem isSolid_of_isBareKeyChar {c : Char} (h : isBareKeyChar c) : isSolid c := by
  rw [isSolid_iff]
  refine ⟨?_, ?_, ?_, ?_⟩
  · rw [Bool.eq_false_iff]
    intro hblank
    rcases Bool.or_eq_true_iff.mp hblank with heq | heq <;> rw [eq_of_beq heq] at h <;> cases h
  all_goals rintro rfl; cases h

theorem isSolid_of_key {c : Char} (h : c = '"' ∨ c = '\'' ∨ isBareKeyChar c) :
    isSolid c ∧ c ≠ '[' := by
  rcases h with rfl | rfl | h
  · decide
  · decide
  · exact ⟨isSolid_of_isBareKeyChar h, by rintro rfl; cases h⟩

/-- A key of one part is read back from its text. -/
theorem key?_keyText (key : String) {c : Char} (tail : List Char)
    (hbare : isBareKeyChar c = false) (hdouble : c ≠ '"') (hsingle : c ≠ '\'')
    (hpoint : (dropBlanks (c :: tail)).head? ≠ some '.') :
    key? (keyText key.toList ++ c :: tail) = some (([], key), dropBlanks (c :: tail)) := by
  have hpart := keyPart?_keyText key.toList tail hbare hdouble hsingle
  have hdrop : dropBlanks (keyText key.toList ++ c :: tail) = keyText key.toList ++ c :: tail := by
    obtain ⟨d, rest, htext, hd⟩ := keyText_head key.toList
    rw [htext]
    exact dropBlanks_of_isSolid (isSolid_of_key hd).1 _
  have hparts : keyPartsWithin? (depthLimit - 1) (keyText key.toList ++ c :: tail) =
      some ([key], dropBlanks (c :: tail)) := by
    change (keyPart? (dropBlanks (keyText key.toList ++ c :: tail))).bind _ = _
    rw [hdrop, hpart, Option.bind_some]
    simp only
    split
    · rename_i heq
      rw [heq] at hpoint
      exact absurd rfl hpoint
    · rw [String.ofList_toList]
  rw [key?, hparts]
  rfl

/-- A line that is neither empty nor a header is an entry. -/
theorem line?_of_isSolid {c : Char} (hsolid : isSolid c) (hbracket : c ≠ '[') (s : List Char) :
    line? (c :: s) = (do
      let (key, rest) ← entryKey? (c :: s)
      let (value, rest) ← value? rest
      (endLine? rest).map (.entry key value, ·)) := by
  unfold line?
  rw [dropBlanks_of_isSolid hsolid]
  split
  · rename_i heq
    cases heq
  · rename_i heq
    exact absurd (List.cons.inj heq).1 ((isSolid_iff c).mp hsolid).2.1
  · rename_i heq
    exact absurd (List.cons.inj heq).1 hbracket
  · rename_i heq
    exact absurd (List.cons.inj heq).1 hbracket
  · rw [lineEnd?_of_isSolid hsolid]

theorem endLine?_lineFeed (tail : List Char) : endLine? ('\n' :: tail) = some tail := rfl

/-- The line of an entry is read back. -/
theorem line?_entryText (key : String) {text : List Char} {v : Toml} (h : Written text v)
    (tail : List Char) :
    line? (entryText key text ++ tail) = some (.entry ([], key) v, tail) := by
  obtain ⟨c, rest, htext, hc⟩ := h.head
  have hkey : entryKey? (keyText key.toList ++ ' ' :: '=' :: ' ' :: (text ++ '\n' :: tail)) =
      some (([], key), text ++ '\n' :: tail) := by
    have hblank : dropBlanks (' ' :: '=' :: ' ' :: (text ++ '\n' :: tail)) =
        '=' :: ' ' :: (text ++ '\n' :: tail) := rfl
    have hvalue : dropBlanks (' ' :: (text ++ '\n' :: tail)) = text ++ '\n' :: tail := by
      rw [htext]
      exact dropBlanks_of_isSolid hc _
    rw [entryKey?, key?_keyText key _ (by decide) (by decide) (by decide) (by rw [hblank]; simp),
      hblank]
    simp only
    rw [hvalue]
  have hline : entryText key text ++ tail =
      keyText key.toList ++ ' ' :: '=' :: ' ' :: (text ++ '\n' :: tail) := by
    simp [entryText]
  obtain ⟨d, others, hhead, hd⟩ := keyText_head key.toList
  obtain ⟨hsolid, hbracket⟩ := isSolid_of_key hd
  rw [hline]
  rw [hhead, List.cons_append] at hkey ⊢
  rw [line?_of_isSolid hsolid hbracket, hkey]
  simp only [Option.bind_eq_bind, Option.bind_some, h.read, endLine?_lineFeed, Option.map_some]

def headerText (name : String) : List Char := '[' :: keyText name.toList ++ [']', '\n']

theorem line?_headerText (name : String) (tail : List Char) :
    line? (headerText name ++ tail) = some (.header ([], name), tail) := by
  have hblank : dropBlanks (']' :: '\n' :: tail) = ']' :: '\n' :: tail := rfl
  have hkey := key?_keyText name ('\n' :: tail) (c := ']') (by decide) (by decide) (by decide)
    (by rw [hblank]; simp)
  have hline : headerText name ++ tail = '[' :: (keyText name.toList ++ ']' :: '\n' :: tail) := by
    simp [headerText]
  obtain ⟨d, others, hhead, hd⟩ := keyText_head name.toList
  rw [hline]
  rw [hhead, List.cons_append, hblank] at hkey
  rw [hhead, List.cons_append]
  unfold line?
  rw [dropBlanks_of_isSolid (show isSolid '[' by decide)]
  split
  · rename_i heq
    cases heq
  · rename_i heq
    cases (List.cons.inj heq).1
  · rename_i heq
    exact absurd (List.cons.inj (List.cons.inj heq).2).1 (isSolid_of_key hd).2
  · rename_i heq
    rw [← (List.cons.inj heq).2, hkey]
    rfl
  · rename_i hother
    exact absurd rfl (hother _)

/-! ### Documents -/

namespace Building

/-- Reading the text leads from the one document under construction to the other, whatever comes
after the text and with steps enough for that. -/
def Leads (b : Building) (text : List Char) (b' : Building) : Prop :=
  ∀ (fuel : Nat) (rest : List Char), (text ++ rest).length < fuel →
    ∃ fuel', rest.length < fuel' ∧ b.runWithin? fuel (text ++ rest) = b'.runWithin? fuel' rest

theorem Leads.nil (b : Building) : b.Leads [] b := fun fuel _ hfuel => ⟨fuel, hfuel, rfl⟩

theorem Leads.trans {b b' b'' : Building} {text text' : List Char} (h : b.Leads text b')
    (h' : b'.Leads text' b'') : b.Leads (text ++ text') b'' := by
  intro fuel rest hfuel
  rw [List.append_assoc] at hfuel ⊢
  obtain ⟨fuel', hfuel', hrun⟩ := h fuel _ hfuel
  obtain ⟨fuel'', hfuel'', hrun'⟩ := h' fuel' rest hfuel'
  exact ⟨fuel'', hfuel'', hrun.trans hrun'⟩

/-- One line of a document. -/
theorem leads_line {b b' : Building} {line : Line} {text : List Char} (hne : text ≠ [])
    (hline : ∀ rest, Toml.line? (text ++ rest) = some (line, rest)) (hb : b.line? line = some b') :
    b.Leads text b' := by
  intro fuel rest hfuel
  obtain ⟨fuel, rfl⟩ := Nat.exists_eq_succ_of_ne_zero (Nat.ne_zero_of_lt hfuel)
  obtain ⟨c, text, rfl⟩ := List.exists_cons_of_ne_nil hne
  refine ⟨fuel, ?_, ?_⟩
  · rw [List.length_append, List.length_cons] at hfuel
    omega
  · have hread := hline rest
    rw [List.cons_append] at hread ⊢
    rw [runWithin?]
    · rw [hread]
      simp only [Option.bind_eq_bind, Option.bind_some, hb]
    · nofun

/-- A document that leads from the start to `b` is read as the tables of `b`. -/
theorem ofChars?_of_leads {b : Building} {text : List Char} (h : start.Leads text b)
    (hmark : text.head? ≠ some '\ufeff') : ofChars? text = b.close? := by
  obtain ⟨fuel, hfuel, hrun⟩ := h (text.length + 1) [] (by simp)
  rw [List.append_nil] at hrun
  have hend : b.runWithin? fuel [] = some b := by
    cases fuel <;> rfl
  unfold ofChars?
  split
  · exact absurd rfl hmark
  · simp only
    rw [hrun, hend, Option.bind_some]

theorem addAt?_of_new {t : Table} (hform : t.form = .header) {key : String}
    (hnew : key ∉ t.entries.map (·.1)) (v : Toml) :
    t.addAt? ([], key) v = some (t.add key v) := by
  have hfind : t.find? key = none := by
    refine List.lookup_eq_none_iff.mpr fun e he => bne_iff_ne.mpr ?_
    rintro rfl
    exact hnew (List.mem_map_of_mem he)
  simp [Table.addAt?, Table.alterAt?, hform, hfind]

section Sections

variable {α : Type} {text : α → List Char} {value : α → Toml}

/-- Entries of new keys are added to the current table one by one. -/
theorem leads_entries (hwritten : ∀ a, Written (text a) (value a)) (entries : List (String × α))
    {root : Table} {path : Option (Bool × (List String × String))} {before : List (String × Toml)}
    (hnodup : (before.map (·.1) ++ entries.map (·.1)).Nodup) :
    Leads ⟨root, ⟨.header, before⟩, path⟩ (entries.flatMap fun e => entryText e.1 (text e.2))
      ⟨root, ⟨.header, before ++ entries.map fun e => (e.1, value e.2)⟩, path⟩ := by
  induction entries generalizing before with
  | nil =>
    rw [List.map_nil, List.append_nil]
    exact Leads.nil _
  | cons e entries ih =>
    have hnew : e.1 ∉ before.map (·.1) := fun hmem =>
      (List.nodup_append.mp hnodup).2.2 _ hmem _ List.mem_cons_self rfl
    have hrest : ((before ++ [(e.1, value e.2)]).map (·.1) ++ entries.map (·.1)).Nodup := by
      rwa [List.map_append, List.append_assoc]
    have hline : Building.line? ⟨root, ⟨.header, before⟩, path⟩ (.entry ([], e.1) (value e.2)) =
        some ⟨root, ⟨.header, before ++ [(e.1, value e.2)]⟩, path⟩ := by
      unfold Building.line?
      simp only
      rw [addAt?_of_new rfl hnew]
      rfl
    have hfirst := leads_line (by simp [entryText]) (line?_entryText e.1 (hwritten e.2)) hline
    have hall := hfirst.trans (ih hrest)
    rwa [List.append_assoc] at hall

/-- A section puts a new table under its name; it is kept apart until the next header. -/
theorem leads_section (hwritten : ∀ a, Written (text a) (value a)) (entries : List (String × α))
    (hnodup : (entries.map (·.1)).Nodup) {b : Building} {root : Table} {name : String}
    (hclose : b.close? = some root) (hnew : root.find? name = none) :
    b.Leads (headerText name ++ entries.flatMap fun e => entryText e.1 (text e.2))
      ⟨root, ⟨.header, entries.map fun e => (e.1, value e.2)⟩, some (false, ([], name))⟩ := by
  have hopen : b.line? (.header ([], name)) =
      some ⟨root, ⟨.header, []⟩, some (false, ([], name))⟩ := by
    simp [Building.line?, openHeader?, hclose, Table.alterAt?, hnew]
  have hheader := leads_line (by simp [headerText]) (line?_headerText name) hopen
  exact hheader.trans (leads_entries hwritten entries hnodup)

theorem close?_section {root current : Table} {name : String} (hnew : root.find? name = none) :
    close? ⟨root, current, some (false, ([], name))⟩ = some (root.add name current.toToml) := by
  simp [close?, Table.alterAt?, hnew]

theorem leads_lineFeed (b : Building) : b.Leads ['\n'] b :=
  leads_line (by decide) (fun _ => rfl) rfl

end Sections

end Building

end FieldRules.Toml
