import FieldRules.Json.Reader
import FieldRules.Proofs.NumberText

/-!
A written JSON value is read back as one tree, whichever of the two layouts it has. `Tells` says
where a text takes the reading from one state to another whatever comes behind it; the text of a
container is told entry by entry, in the same way for arrays and for objects. Main statements:
`ofChars?_compact` and `ofChars?_pretty`.
-/
namespace FieldRules

/-! ### Functions on lists -/

section

variable {α β : Type} {g : List α → List β}

/-- A function that goes through the entries of a list one by one is a map. -/
theorem eq_map_of_cons {f : α → β} (hnil : g [] = [])
    (hcons : ∀ a l, g (a :: l) = f a :: g l) (l : List α) : g l = l.map f := by
  induction l with
  | nil => exact hnil
  | cons a rest ih => rw [hcons, ih, List.map_cons]

theorem eq_flatMap_of_cons {f : α → List β} (hnil : g [] = [])
    (hcons : ∀ a l, g (a :: l) = f a ++ g l) (l : List α) : g l = l.flatMap f := by
  induction l with
  | nil => exact hnil
  | cons a rest ih => rw [hcons, ih, List.flatMap_cons]

theorem map_eq_self_iff {f : α → α} {l : List α} : l.map f = l ↔ ∀ a ∈ l, f a = a := by
  simpa only [List.map_id_fun, id_eq] using List.map_inj_left (f := f) (g := id) (l := l)

end

namespace Json

/-! ### Induction over values -/

theorem induct {motive : Json → Prop} (null : motive .null) (bool : ∀ b, motive (.bool b))
    (integer : ∀ n, motive (.integer n)) (double : ∀ d, motive (.double d))
    (string : ∀ s, motive (.string s))
    (array : ∀ items, (∀ item ∈ items, motive item) → motive (.array items))
    (object : ∀ members, (∀ m ∈ members, motive m.2) → motive (.object members)) :
    ∀ j, motive j
  | .null => null
  | .bool b => bool b
  | .integer n => integer n
  | .double d => double d
  | .string s => string s
  | .array items => array items fun item h =>
    have := List.sizeOf_lt_of_mem h
    induct null bool integer double string array object item
  | .object members => object members fun m h =>
    have := List.sizeOf_lt_of_mem h
    have : sizeOf m = 1 + sizeOf m.1 + sizeOf m.2 := rfl
    induct null bool integer double string array object m.2
termination_by j => sizeOf j

/-! ### The tree of a value -/

def integerNumber (n : Int) : NumberText := ⟨n < 0, Nat.toDigits 10 n.natAbs, none, none⟩

mutual

def document : Json → Document
  | .null => .null
  | .bool b => .bool b
  | .integer n => .number (integerNumber n)
  | .double d => match d.numberText? with
    | some text => .number text
    | none => .null
  | .string s => .string (piecesOf s)
  | .array items => .array (documents items)
  | .object members => .object (memberDocuments members)

def documents : List Json → List Document
  | [] => []
  | item :: rest => item.document :: documents rest

def memberDocuments : List (String × Json) → List (List Piece × Document)
  | [] => []
  | (key, value) :: rest => (piecesOf key, value.document) :: memberDocuments rest

end

theorem documents_eq_map (items : List Json) : documents items = items.map document :=
  eq_map_of_cons rfl (fun _ _ => rfl) items

theorem memberDocuments_eq_map (members : List (String × Json)) :
    memberDocuments members = members.map fun m => (piecesOf m.1, m.2.document) :=
  eq_map_of_cons rfl (fun _ _ => rfl) members

theorem toChars_integerNumber (n : Int) : (integerNumber n).toChars = integerText n := by
  unfold integerText
  split
  · rename_i hneg
    simp [integerNumber, NumberText.toChars, NumberText.fractionChars, NumberText.exponentChars,
      hneg]
  · rename_i hneg
    simp [integerNumber, NumberText.toChars, NumberText.fractionChars, NumberText.exponentChars,
      hneg]

theorem wellFormed_integerNumber (n : Int) : (integerNumber n).WellFormed := by
  refine ⟨isDigits_toDigits _, fun hzero => ?_, nofun, nofun⟩
  rcases Nat.eq_zero_or_pos n.natAbs with habs | habs
  · simp [integerNumber, habs]
  · exact absurd hzero (head?_toDigits_ne habs)

/-! ### What a text tells -/

theorem ends_append {s t : List Char} (hs : Ends s) (ht : Ends t) : Ends (s ++ t) := by
  cases s with
  | nil => exact ht
  | cons c s => exact ends_cons (hs c rfl) (s ++ t)

theorem ends_spaces {spaces : List Char} (h : ∀ c ∈ spaces, isSpace c = true) : Ends spaces := by
  cases spaces with
  | nil => exact ends_nil
  | cons c spaces =>
    have hc : ((c = ' ' ∨ c = '\n') ∨ c = '\t') ∨ c = '\r' := by
      simpa only [isSpace, Bool.or_eq_true, beq_iff_eq] using h c List.mem_cons_self
    refine ends_cons ?_ spaces
    rcases hc with ((rfl | rfl) | rfl) | rfl
    all_goals decide

theorem ends_mark {c : Char} {t : Token} (hmark : (c, t) ∈ marks) (s : List Char) :
    Ends (c :: s) := by
  have hall : ∀ m ∈ marks, m.1.isDigit = false ∧ m.1 ≠ '.' ∧ m.1 ≠ 'e' ∧ m.1 ≠ 'E' := by decide
  exact ends_cons (hall _ hmark) s

namespace Reading

theorem run?_cons (r : Reading) (t : Token) (tokens : List Token) :
    r.run? (t :: tokens) = (r.step? t).bind (·.run? tokens) := by
  have hnone : tokens.foldl (fun r t => r.bind (step? · t)) none = none := by
    induction tokens with
    | nil => rfl
    | cons t tokens ih => exact ih
  cases hstep : r.step? t with
  | none => simp [run?, hstep, hnone]
  | some next => simp [run?, hstep]

theorem run?_append (r : Reading) (s t : List Token) :
    r.run? (s ++ t) = (r.run? s).bind (·.run? t) := by
  induction s generalizing r with
  | nil => rfl
  | cons token s ih =>
    rw [List.cons_append, run?_cons, run?_cons]
    cases r.step? token with
    | none => rfl
    | some next => exact ih next

theorem step?_key (closing : Bool) (members : List (List Piece × Document)) (stack : List Open)
    (key : List Piece) : step? ⟨.key closing members, stack⟩ (.string key) =
      some ⟨.colon members key, stack⟩ := by
  cases closing <;> rfl

end Reading

/-- Whatever comes behind the text, if a number may end there, the reading goes from `before` to
`after`. -/
def Tells (text : List Char) (before after : Reading) : Prop :=
  ∃ tokens, before.run? tokens = some after ∧
    ∀ rest more, Ends rest → Reads rest more → Reads (text ++ rest) (tokens ++ more)

section Tells

variable {r before after : Reading} {text : List Char}

theorem tells_nil (r : Reading) : Tells [] r r := ⟨[], rfl, fun _ _ _ h => h⟩

/-- One token more in front of a text. -/
theorem tells_token {s : List Char} {t : Token}
    (hreads : ∀ rest more, Reads rest more → Reads (s ++ rest) (t :: more))
    (hstep : r.step? t = some before) (h : Tells text before after) :
    Tells (s ++ text) r after := by
  obtain ⟨tokens, hrun, htext⟩ := h
  refine ⟨t :: tokens, ?_, fun rest more hends hrest => ?_⟩
  · rw [Reading.run?_cons, hstep, Option.bind_some, hrun]
  · rw [List.append_assoc]
    exact hreads _ _ (htext rest more hends hrest)

theorem tells_mark {c : Char} {t : Token} (hmark : (c, t) ∈ marks)
    (hstep : r.step? t = some before) (h : Tells text before after) :
    Tells (c :: text) r after :=
  tells_token (s := [c]) (fun _ _ hrest => reads_mark hmark hrest) hstep h

theorem tells_quoted (k : String) (hstep : r.step? (.string (piecesOf k)) = some before)
    (h : Tells text before after) : Tells (quoted k ++ text) r after :=
  tells_token (fun _ _ hrest => reads_quoted k hrest) hstep h

theorem tells_spaces {spaces : List Char} (hspaces : ∀ c ∈ spaces, isSpace c = true)
    (h : Tells text before after) : Tells (spaces ++ text) before after := by
  obtain ⟨tokens, hrun, htext⟩ := h
  refine ⟨tokens, hrun, fun rest more hends hrest => ?_⟩
  rw [List.append_assoc]
  exact reads_spaces hspaces (htext rest more hends hrest)

/-- One text behind another, if a number of the first may end there. -/
theorem tells_append {s : List Char} (hs : Tells s r before) (hends : Ends text)
    (h : Tells text before after) : Tells (s ++ text) r after := by
  obtain ⟨first, hfirst, hs⟩ := hs
  obtain ⟨second, hsecond, htext⟩ := h
  refine ⟨first ++ second, ?_, fun rest more hrest hreads => ?_⟩
  · rw [Reading.run?_append, hfirst, Option.bind_some, hsecond]
  · rw [List.append_assoc, List.append_assoc]
    exact hs _ _ (ends_append hends hrest) (htext rest more hrest hreads)

theorem tells_number {n : NumberText} (h : n.WellFormed) (closing : Bool) (stack : List Open) :
    Tells n.toChars ⟨.value closing, stack⟩ ⟨.more (.number n), stack⟩ :=
  ⟨[.number n], rfl, fun _ _ hends hrest => reads_number h hends hrest⟩

end Tells

/-! ### Containers -/

def joined : List (List Char) → List Char
  | [] => []
  | [text] => text
  | text :: rest => text ++ ',' :: joined rest

/-- Entries one after another up to the closing mark, for arrays and for objects: `start` is where
an entry begins, `filled` where it ends, with the entries before it. -/
theorem tells_joined {α : Type} (start : Bool → List α → Reading) (filled : α → List α → Reading)
    (done : List α → Reading) {mark : Char} {t : Token} (hmark : (mark, t) ∈ marks)
    (hcomma : ∀ e before, (filled e before).step? .comma = some (start false (e :: before)))
    (hclose : ∀ e before, (filled e before).step? t = some (done (e :: before).reverse))
    {spaces : List Char} (hspaces : ∀ c ∈ spaces, isSpace c = true)
    (entries : List (List Char × α))
    (hentries : ∀ e ∈ entries, ∀ closing before,
      Tells e.1 (start closing before) (filled e.2 before))
    (hne : entries ≠ []) (closing : Bool) (before : List α) :
    Tells (joined (entries.map Prod.fst) ++ (spaces ++ [mark])) (start closing before)
      (done (before.reverse ++ entries.map Prod.snd)) := by
  induction entries generalizing closing before with
  | nil => exact absurd rfl hne
  | cons e entries ih =>
    have hentry := hentries e List.mem_cons_self closing before
    cases entries with
    | nil =>
      have hend : Tells [mark] (filled e.2 before) (done (before.reverse ++ [e.2])) :=
        tells_mark hmark (by rw [hclose, List.reverse_cons]) (tells_nil _)
      exact tells_append hentry (ends_append (ends_spaces hspaces) (ends_mark hmark []))
        (tells_spaces hspaces hend)
    | cons next entries =>
      have hrest := ih (fun f hf => hentries f (List.mem_cons_of_mem e hf)) (List.cons_ne_nil _ _)
        false (e.2 :: before)
      have hcommaMark : (',', Token.comma) ∈ marks := by decide
      have hafter := tells_append hentry (ends_mark hcommaMark _)
        (tells_mark hcommaMark (hcomma e.2 before) hrest)
      simpa [joined] using hafter

section Containers

variable (spaces : List Char) (hspaces : ∀ c ∈ spaces, isSpace c = true) (closing : Bool)
  (stack : List Open)
include hspaces

/-- If each item's text tells its tree, the text of the array tells the array. -/
theorem tells_array (items : List (List Char × Document))
    (hitems : ∀ e ∈ items, ∀ closing stack, Tells e.1 ⟨.value closing, stack⟩ ⟨.more e.2, stack⟩) :
    Tells ('[' :: (joined (items.map Prod.fst) ++ (spaces ++ [']']))) ⟨.value closing, stack⟩
      ⟨.more (.array (items.map Prod.snd)), stack⟩ := by
  have hclose : (']', Token.rightBracket) ∈ marks := by decide
  refine tells_mark (t := .leftBracket) (by decide) rfl ?_
  by_cases hne : items = []
  · have hend : Tells [']'] ⟨.value true, .array [] :: stack⟩ ⟨.more (.array []), stack⟩ :=
      tells_mark hclose rfl (tells_nil _)
    rw [hne, List.map_nil, joined, List.nil_append]
    exact tells_spaces hspaces hend
  · exact tells_joined (fun closing before => ⟨.value closing, .array before :: stack⟩)
      (fun e before => ⟨.more e, .array before :: stack⟩)
      (fun items => ⟨.more (.array items), stack⟩) hclose (fun _ _ => rfl) (fun _ _ => rfl)
      hspaces items (fun e he closing before => hitems e he closing _) hne true []

/-- If each member's text tells its tree behind its key, the text of the object tells the object. -/
theorem tells_object (members : List (List Char × List Piece × Document))
    (hmembers : ∀ e ∈ members, ∀ closing before, Tells e.1 ⟨.key closing before, stack⟩
      ⟨.more e.2.2, .object before e.2.1 :: stack⟩) :
    Tells ('{' :: (joined (members.map Prod.fst) ++ (spaces ++ ['}']))) ⟨.value closing, stack⟩
      ⟨.more (.object (members.map Prod.snd)), stack⟩ := by
  have hclose : ('}', Token.rightBrace) ∈ marks := by decide
  refine tells_mark (t := .leftBrace) (by decide) rfl ?_
  by_cases hne : members = []
  · have hend : Tells ['}'] ⟨.key true [], stack⟩ ⟨.more (.object []), stack⟩ :=
      tells_mark hclose rfl (tells_nil _)
    rw [hne, List.map_nil, joined, List.nil_append]
    exact tells_spaces hspaces hend
  · exact tells_joined (fun closing before => ⟨.key closing before, stack⟩)
      (fun e before => ⟨.more e.2, .object before e.1 :: stack⟩)
      (fun members => ⟨.more (.object members), stack⟩) hclose (fun _ _ => rfl)
      (fun _ _ => rfl) hspaces members hmembers hne true []

end Containers

/-! ### The two layouts -/

/-- A recursion that puts commas between the texts of entries. -/
theorem eq_joined {α : Type} {text : List α → List Char} {entry : α → List Char}
    (hnil : text [] = []) (hone : ∀ e, text [e] = entry e)
    (hmore : ∀ e next rest, text (e :: next :: rest) = entry e ++ ',' :: text (next :: rest))
    (entries : List α) : text entries = joined (entries.map entry) := by
  induction entries with
  | nil => exact hnil
  | cons e entries ih =>
    cases entries with
    | nil => exact hone e
    | cons next rest =>
      rw [hmore, ih]
      rfl

theorem compactItems_eq_joined (items : List Json) :
    compactItems items = joined (items.map compact) :=
  eq_joined rfl (fun _ => rfl) (fun _ _ _ => rfl) items

def compactMember (m : String × Json) : List Char := quoted m.1 ++ ':' :: m.2.compact

theorem compactMembers_eq_joined (members : List (String × Json)) :
    compactMembers members = joined (members.map compactMember) :=
  eq_joined rfl (fun _ => rfl) (fun _ _ _ => rfl) members

def prettyItem (level : Nat) (item : Json) : List Char := lineAt level ++ item.pretty level

theorem prettyItems_eq_joined (level : Nat) (items : List Json) :
    prettyItems level items = joined (items.map (prettyItem level)) :=
  eq_joined rfl (fun _ => rfl) (fun _ _ _ => rfl) items

def prettyMember (level : Nat) (m : String × Json) : List Char :=
  lineAt level ++ (quoted m.1 ++ ':' :: ' ' :: m.2.pretty level)

theorem prettyMembers_eq_joined (level : Nat) (members : List (String × Json)) :
    prettyMembers level members = joined (members.map (prettyMember level)) := by
  apply eq_joined rfl
  · intro m
    exact List.append_assoc ..
  · intro m next rest
    rw [prettyMembers, prettyMember, ← List.append_assoc]
    exact List.cons_ne_nil next rest

theorem isSpace_of_mem_lineAt (level : Nat) : ∀ c ∈ lineAt level, isSpace c = true := by
  intro c hc
  rcases List.mem_cons.mp hc with rfl | hc
  · decide
  · rw [List.eq_of_mem_replicate hc]
    decide

section Scalars

variable (closing : Bool) (stack : List Open)

theorem tells_null : Tells "null".toList ⟨.value closing, stack⟩ ⟨.more .null, stack⟩ := by
  rw [← List.append_nil "null".toList]
  exact tells_token (fun _ _ h => reads_null h) rfl (tells_nil _)

theorem tells_bool (b : Bool) : Tells (if b then "true" else "false").toList
    ⟨.value closing, stack⟩ ⟨.more (.bool b), stack⟩ := by
  rw [← List.append_nil (if b then "true" else "false").toList]
  exact tells_token (fun _ _ h => reads_bool b h) rfl (tells_nil _)

theorem tells_string (s : String) : Tells (quoted s) ⟨.value closing, stack⟩
    ⟨.more (.string (piecesOf s)), stack⟩ := by
  rw [← List.append_nil (quoted s)]
  exact tells_quoted s rfl (tells_nil _)

theorem tells_integer (n : Int) : Tells (integerText n) ⟨.value closing, stack⟩
    ⟨.more (integer n).document, stack⟩ := by
  rw [← toChars_integerNumber]
  exact tells_number (wellFormed_integerNumber n) closing stack

theorem tells_double (d : Double) : Tells (scalarText (double d)) ⟨.value closing, stack⟩
    ⟨.more (double d).document, stack⟩ := by
  unfold scalarText document
  dsimp only
  rw [Double.toJsonChars?_eq]
  cases htext : d.numberText? with
  | none => exact tells_null closing stack
  | some text => exact tells_number (Double.wellFormed_of_numberText? htext) closing stack

end Scalars

theorem tells_compactMember {m : String × Json}
    (h : ∀ closing stack, Tells m.2.compact ⟨.value closing, stack⟩ ⟨.more m.2.document, stack⟩)
    (closing : Bool) (before : List (List Piece × Document)) (stack : List Open) :
    Tells (compactMember m) ⟨.key closing before, stack⟩
      ⟨.more m.2.document, .object before (piecesOf m.1) :: stack⟩ := by
  have hvalue : Tells (':' :: m.2.compact) ⟨.colon before (piecesOf m.1), stack⟩
      ⟨.more m.2.document, .object before (piecesOf m.1) :: stack⟩ :=
    tells_mark (t := .colon) (by decide) rfl (h false _)
  exact tells_quoted m.1 (Reading.step?_key ..) hvalue

/-- By induction on the value, its text on one line tells its tree. -/
theorem tells_compact (j : Json) (closing : Bool) (stack : List Open) :
    Tells j.compact ⟨.value closing, stack⟩ ⟨.more j.document, stack⟩ := by
  induction j using induct generalizing closing stack with
  | null => exact tells_null closing stack
  | bool b => exact tells_bool closing stack b
  | integer n => exact tells_integer closing stack n
  | double d => exact tells_double closing stack d
  | string s => exact tells_string closing stack s
  | array items ih =>
    have hitems := tells_array [] nofun closing stack
      (items.map fun item => (item.compact, item.document)) fun e he closing stack => by
        obtain ⟨item, hitem, rfl⟩ := List.mem_map.mp he
        exact ih item hitem closing stack
    rw [List.map_map, List.map_map] at hitems
    rw [compact, compactItems_eq_joined, document, documents_eq_map]
    exact hitems
  | object members ih =>
    have hmembers := tells_object [] nofun closing stack
      (members.map fun m => (compactMember m, piecesOf m.1, m.2.document))
      fun e he closing before => by
        obtain ⟨m, hm, rfl⟩ := List.mem_map.mp he
        exact tells_compactMember (ih m hm) closing before stack
    rw [List.map_map, List.map_map] at hmembers
    rw [compact, compactMembers_eq_joined, document, memberDocuments_eq_map]
    exact hmembers

theorem tells_prettyMember (level : Nat) {m : String × Json}
    (h : ∀ closing stack, Tells (m.2.pretty level) ⟨.value closing, stack⟩
      ⟨.more m.2.document, stack⟩)
    (closing : Bool) (before : List (List Piece × Document)) (stack : List Open) :
    Tells (prettyMember level m) ⟨.key closing before, stack⟩
      ⟨.more m.2.document, .object before (piecesOf m.1) :: stack⟩ := by
  have hspace : ∀ c ∈ [' '], isSpace c = true := List.forall_mem_singleton.mpr rfl
  have hvalue : Tells (':' :: ' ' :: m.2.pretty level) ⟨.colon before (piecesOf m.1), stack⟩
      ⟨.more m.2.document, .object before (piecesOf m.1) :: stack⟩ :=
    tells_mark (t := .colon) (by decide) rfl (tells_spaces hspace (h false _))
  exact tells_spaces (isSpace_of_mem_lineAt level) (tells_quoted m.1 (Reading.step?_key ..) hvalue)

/-- Line breaks and indentation lie where a reader skips them. -/
theorem tells_pretty (j : Json) (level : Nat) (closing : Bool) (stack : List Open) :
    Tells (j.pretty level) ⟨.value closing, stack⟩ ⟨.more j.document, stack⟩ := by
  induction j using induct generalizing level closing stack with
  | null => exact tells_null closing stack
  | bool b => exact tells_bool closing stack b
  | integer n => exact tells_integer closing stack n
  | double d => exact tells_double closing stack d
  | string s => exact tells_string closing stack s
  | array items ih =>
    have hitems := fun spaces hspaces => tells_array spaces hspaces closing stack
      (items.map fun item => (prettyItem (level + 1) item, item.document))
      fun e he closing stack => by
        obtain ⟨item, hitem, rfl⟩ := List.mem_map.mp he
        exact tells_spaces (isSpace_of_mem_lineAt _) (ih item hitem _ closing stack)
    simp only [List.map_map] at hitems
    rw [document, documents_eq_map]
    cases items with
    | nil => exact hitems [] nofun
    | cons item rest =>
      rw [pretty, prettyItems_eq_joined, List.cons_append, List.cons_append, List.append_assoc]
      · exact hitems (lineAt level) (isSpace_of_mem_lineAt level)
      · exact List.cons_ne_nil item rest
  | object members ih =>
    have hmembers := fun spaces hspaces => tells_object spaces hspaces closing stack
      (members.map fun m => (prettyMember (level + 1) m, piecesOf m.1, m.2.document))
      fun e he closing before => by
        obtain ⟨m, hm, rfl⟩ := List.mem_map.mp he
        exact tells_prettyMember (level + 1) (ih m hm (level + 1)) closing before stack
    simp only [List.map_map] at hmembers
    rw [document, memberDocuments_eq_map]
    cases members with
    | nil => exact hmembers [] nofun
    | cons m rest =>
      rw [pretty, prettyMembers_eq_joined, List.cons_append, List.cons_append, List.append_assoc]
      · exact hmembers (lineAt level) (isSpace_of_mem_lineAt level)
      · exact List.cons_ne_nil m rest

/-! ### Whole texts -/

/-- Spaces may stand behind the value. -/
theorem ofChars?_of_tells {text : List Char} {d : Document}
    (h : Tells text Reading.start ⟨.more d, []⟩) {spaces : List Char}
    (hspaces : ∀ c ∈ spaces, isSpace c = true) : Document.ofChars? (text ++ spaces) = some d := by
  obtain ⟨tokens, hrun, htext⟩ := h
  have hnothing : Reads spaces [] := by
    rw [← List.append_nil spaces]
    exact reads_spaces hspaces reads_nil
  have hreads : tokens? (text ++ spaces) = some tokens := by
    rw [← List.append_nil tokens]
    exact tokens?_of_reads (htext spaces [] (ends_spaces hspaces) hnothing)
  unfold Document.ofChars?
  rw [hreads, Option.bind_some, hrun]

theorem ofChars?_compact (j : Json) : Document.ofChars? j.compact = some j.document := by
  rw [← List.append_nil j.compact]
  exact ofChars?_of_tells (tells_compact j false []) nofun

theorem ofChars?_pretty (j : Json) {spaces : List Char} (hspaces : ∀ c ∈ spaces, isSpace c = true) :
    Document.ofChars? (j.pretty 0 ++ spaces) = some j.document :=
  ofChars?_of_tells (tells_pretty j 0 false []) hspaces

end Json

end FieldRules
