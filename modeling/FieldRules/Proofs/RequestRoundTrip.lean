import FieldRules.Proofs.FiniteNumbers
import FieldRules.Proofs.ReportRoundTrip
import FieldRules.Request.Json

/-!
Requests that are written and read back. Without dates and without numbers that are not finite, a
request comes back with all its parts, keys and values, and each of its numbers as the one that its
text is read as. That number has the same sign and is near by, but it need not be the same. Main
statements: `Request.read_back` and `Request.not_read_back`.
-/
namespace FieldRules

open Json (Document)

namespace Value

/-! ### Values -/

/-- At most `room` containers around each value, the fields of objects in ascending order, finite
numbers and no dates. -/
inductive Plain : Nat → Value → Prop
  | null {room : Nat} : Plain room .null
  | bool {room : Nat} {b : Bool} : Plain room (.bool b)
  | number {room : Nat} {d : Double} (finite : d.isFinite = true) : Plain room (.number d)
  | string {room : Nat} {s : String} : Plain room (.string s)
  | array {room : Nat} {items : List Value} (items_plain : ∀ item ∈ items, Plain room item) :
    Plain (room + 1) (.array items)
  | object {room : Nat} {fields : List (String × Value)}
    (ascending : fields.Pairwise fun a b => a.1 < b.1)
    (fields_plain : ∀ f ∈ fields, Plain room f.2) : Plain (room + 1) (.object fields)

theorem Plain.mono {room wider : Nat} {v : Value} (h : Plain room v) (hle : room ≤ wider) :
    Plain wider v := by
  induction h generalizing wider with
  | null => exact .null
  | bool => exact .bool
  | number finite => exact .number finite
  | string => exact .string
  | array _ ih =>
    obtain ⟨wider, rfl⟩ := Nat.exists_eq_add_of_le' (Nat.zero_lt_of_lt hle)
    exact .array fun item hitem => ih item hitem (Nat.le_of_succ_le_succ hle)
  | object ascending _ ih =>
    obtain ⟨wider, rfl⟩ := Nat.exists_eq_add_of_le' (Nat.zero_lt_of_lt hle)
    exact .object ascending fun f hf => ih f hf (Nat.le_of_succ_le_succ hle)

mutual

def reread : Value → Value
  | .number d => .number d.reread
  | .array items => .array (rereadItems items)
  | .object fields => .object (rereadFields fields)
  | value => value

def rereadItems : List Value → List Value
  | [] => []
  | item :: rest => item.reread :: rereadItems rest

def rereadFields : List (String × Value) → List (String × Value)
  | [] => []
  | (key, value) :: rest => (key, value.reread) :: rereadFields rest

end

theorem rereadItems_eq_map (items : List Value) : rereadItems items = items.map reread :=
  eq_map_of_cons rfl (fun _ _ => rfl) items

theorem rereadFields_eq_map (fields : List (String × Value)) :
    rereadFields fields = fields.map fun f => (f.1, f.2.reread) :=
  eq_map_of_cons rfl (fun _ _ => rfl) fields

theorem readable_toJson {room : Nat} {v : Value} (h : Plain room v) :
    Json.Readable room v.toJson := by
  induction h with
  | null => exact .null
  | bool => exact .bool
  | number finite =>
    rw [toJson, if_pos finite]
    exact .double
  | string => exact .string
  | array _ ih =>
    rw [toJson, toJsonItems_eq_map]
    refine .array fun item hitem => ?_
    obtain ⟨v, hv, rfl⟩ := List.mem_map.mp hitem
    exact ih v hv
  | object _ _ ih =>
    rw [toJson, toJsonFields_eq_map]
    refine .object fun m hm => ?_
    obtain ⟨f, hf, rfl⟩ := List.mem_map.mp hm
    exact ih f hf

/-- The value of what is read from the text of a value. Ascending fields are those of a map, whose
order reading keeps. -/
theorem ofJson_reread {room : Nat} {v : Value} (h : Plain room v) :
    ofJson v.toJson.reread = v.reread := by
  induction h with
  | null => rfl
  | bool => rfl
  | number finite =>
    rw [toJson, if_pos finite, Json.reread, if_pos finite]
    rfl
  | string => rfl
  | array _ ih =>
    rw [toJson, toJsonItems_eq_map, Json.reread, Json.rereadItems_eq_map, ofJson,
      ofJsonItems_eq_map, List.map_map, List.map_map, reread, rereadItems_eq_map]
    exact congrArg Value.array (List.map_congr_left ih)
  | @object room fields ascending _ ih =>
    have hdict : (Value.object fields).toJson = .ofDict (Dict.map toJson ⟨fields, ascending⟩) := by
      rw [toJson, toJsonFields_eq_map]
      rfl
    rw [hdict, Json.reread_ofDict]
    unfold Json.ofDict Dict.map
    rw [ofJson, ofJsonMembers_eq_map, List.map_map, List.map_map, reread, rereadFields_eq_map]
    exact congrArg Value.object (List.map_congr_left fun f hf => congrArg (f.1, ·) (ih f hf))

/-- A value comes back as it was if all its numbers do. -/
theorem reread_eq_self_iff {room : Nat} {v : Value} (h : Plain room v) :
    v.reread = v ↔ ∀ d ∈ v.numbers, d.reread = d := by
  induction h with
  | null => exact iff_of_true rfl (List.forall_mem_nil _)
  | bool => exact iff_of_true rfl (List.forall_mem_nil _)
  | number finite => simp [reread, numbers]
  | string => exact iff_of_true rfl (List.forall_mem_nil _)
  | array _ ih =>
    rw [reread, rereadItems_eq_map, numbers, itemNumbers_eq_flatMap, Value.array.injEq,
      map_eq_self_iff, List.forall_mem_flatMap]
    exact forall₂_congr ih
  | object _ _ ih =>
    rw [reread, rereadFields_eq_map, numbers, fieldNumbers_eq_flatMap, Value.object.injEq,
      map_eq_self_iff, List.forall_mem_flatMap]
    refine forall₂_congr fun f hf => ?_
    rw [← ih f hf, Prod.ext_iff]
    exact and_iff_right rfl

end Value

/-! ### Numbers -/

theorem Value.isFinite_of_mem_numbers {room : Nat} {v : Value} (h : Plain room v) :
    ∀ d ∈ v.numbers, d.isFinite = true := by
  induction h with
  | null => exact List.forall_mem_nil _
  | bool => exact List.forall_mem_nil _
  | number finite => simpa [numbers] using finite
  | string => exact List.forall_mem_nil _
  | array _ ih =>
    rw [numbers, itemNumbers_eq_flatMap, List.forall_mem_flatMap]
    exact ih
  | object _ _ ih =>
    rw [numbers, fieldNumbers_eq_flatMap, List.forall_mem_flatMap]
    exact ih

namespace Request

/-! ### Requests -/

def Plain (room : Nat) (r : Request) : Prop :=
  ∀ part, ∀ f ∈ (r.part part).entries, Value.Plain room f.2

def reread (r : Request) : Request :=
  ⟨r.params.map .reread, r.body.map .reread, r.query.map .reread⟩

def numbers (r : Request) : List Double :=
  [RequestPart.params, .body, .query].flatMap fun part =>
    Value.fieldNumbers (r.part part).entries

theorem recordOf?_document {record : Record}
    (h : ∀ f ∈ record.entries, Value.Plain partRoom f.2) :
    recordOf? record.toJson.document = some (record.map .reread) := by
  have hmembers : record.toJson.document.members? =
      some (record.entries.map fun f => (f.1, f.2.toJson.document)) := by
    unfold Record.toJson
    rw [Document.members?_document, Value.toJsonFields_eq_map, List.map_map]
    rfl
  have hfields : (record.entries.map fun f => (f.1, f.2.toJson.document)).mapM
      (fun m => (m.2.toJson? partRoom).map fun j => (m.1, Value.ofJson j)) =
        some (record.map Value.reread).entries := by
    apply mapM_map_eq_some
    intro f hf
    rw [Json.toJson?_document (Value.readable_toJson (h f hf)), Option.map_some,
      Value.ofJson_reread (h f hf)]
  unfold recordOf?
  rw [hmembers, Option.bind_eq_bind, Option.bind_some, hfields, Option.bind_eq_bind,
    Option.bind_some, Dict.ofList_entries]
  rfl

/-- A request comes back with its numbers read back and all else the same. -/
theorem ofDocument?_document {r : Request} (h : r.Plain partRoom) :
    ofDocument? r.toJson.document = some r.reread := by
  have hmembers : r.toJson.document.members? = some [("params", r.params.toJson.document),
      ("body", r.body.toJson.document), ("query", r.query.toJson.document)] :=
    Document.members?_document _
  change (do
    let members ← r.toJson.document.members?
    ofParts? (← Document.onlyMember? "params" members) (← Document.onlyMember? "body" members)
      (← Document.onlyMember? "query" members)) = some r.reread
  have hparams := recordOf?_document (h .params)
  have hbody := recordOf?_document (h .body)
  have hquery := recordOf?_document (h .query)
  rw [hmembers]
  simp only [part] at hparams hbody hquery
  simp [Document.onlyMember?, ofParts?, partOf?, hparams, hbody, hquery, reread]

/-- The text of a request is read as the request with its numbers read back. -/
theorem ofText?_toText {r : Request} (h : r.Plain partRoom) :
    ofText? r.toText = some r.reread := by
  rw [ofText?, toText, Json.toText, String.toList_ofList, Json.ofChars?_compact, Option.bind_some,
    ofDocument?_document h]

theorem Plain.mono {room wider : Nat} {r : Request} (h : r.Plain room) (hle : room ≤ wider) :
    r.Plain wider :=
  fun part f hf => (h part f hf).mono hle

theorem mem_numbers {r : Request} {d : Double} :
    d ∈ r.numbers ↔ ∃ part, ∃ f ∈ (r.part part).entries, d ∈ f.2.numbers := by
  have hall (part : RequestPart) : part ∈ [RequestPart.params, .body, .query] := by
    cases part <;> decide
  unfold numbers
  simp only [List.mem_flatMap, Value.fieldNumbers_eq_flatMap]
  exact exists_congr fun part => and_iff_right (hall part)

theorem map_reread_eq_self_iff {room : Nat} {record : Record}
    (h : ∀ f ∈ record.entries, Value.Plain room f.2) :
    record.map Value.reread = record ↔
      ∀ f ∈ record.entries, ∀ d ∈ f.2.numbers, d.reread = d := by
  rw [Dict.map_eq_self_iff]
  exact forall₂_congr fun f hf => Value.reread_eq_self_iff (h f hf)

/-- A request comes back as it was exactly if each of its numbers does. -/
theorem reread_eq_self_iff {room : Nat} {r : Request} (h : r.Plain room) :
    r.reread = r ↔ ∀ d ∈ r.numbers, d.reread = d := by
  have hparts : r.reread = r ↔ ∀ part, (r.part part).map Value.reread = r.part part := by
    constructor
    · intro heq part
      cases part with
      | params => exact congrArg params heq
      | body => exact congrArg body heq
      | query => exact congrArg query heq
    · intro heq
      have hparams : r.params.map Value.reread = r.params := heq .params
      have hbody : r.body.map Value.reread = r.body := heq .body
      have hquery : r.query.map Value.reread = r.query := heq .query
      unfold reread
      rw [hparams, hbody, hquery]
  rw [hparts]
  constructor
  · intro heq d hd
    obtain ⟨part, f, hf, hmem⟩ := mem_numbers.mp hd
    exact (map_reread_eq_self_iff (h part)).mp (heq part) f hf d hmem
  · intro hnumbers part
    exact (map_reread_eq_self_iff (h part)).mpr fun f hf d hd =>
      hnumbers d (mem_numbers.mpr ⟨part, f, hf, hd⟩)

theorem isFinite_of_mem_numbers {room : Nat} {r : Request} (h : r.Plain room) {d : Double}
    (hd : d ∈ r.numbers) : d.isFinite = true := by
  obtain ⟨part, f, hf, hmem⟩ := mem_numbers.mp hd
  exact Value.isFinite_of_mem_numbers (h part f hf) d hmem

/-- A request is read back as it was if all its numbers are, and each of them is near by. -/
theorem read_back {r : Request} {room : Nat} (h : r.Plain room) (hroom : room ≤ partRoom) :
    ofText? r.toText = some r.reread ∧
    (r.reread = r ↔ ∀ d ∈ r.numbers, d.reread = d) ∧
    (∀ d ∈ r.numbers, d.IsNear d.reread ∧ (d.HasExactText → d.reread = d)) ∧
    ∀ n : Int, n.natAbs ≤ 2 ^ 53 / 10 → (Double.ofInt n).reread = .ofInt n := by
  refine ⟨ofText?_toText (h.mono hroom), reread_eq_self_iff h, ?_, fun n => Double.reread_ofInt⟩
  intro d hd
  exact ⟨Double.isNear_reread (isFinite_of_mem_numbers h hd), Double.reread_eq_self⟩

def ofField (key : String) (value : Value) : Request := ⟨.empty, .ofList [(key, value)], .empty⟩

theorem plain_ofField {room : Nat} {key : String} {value : Value} (h : value.Plain room) :
    (ofField key value).Plain room := by
  intro part f hf
  cases part with
  | params => cases hf
  | query => cases hf
  | body =>
    rw [List.mem_singleton.mp hf]
    exact h

theorem reread_ofField (key : String) (value : Value) :
    (ofField key value).reread = ofField key value.reread := rfl

/-- A tenth and a text that looks like a number, two containers deep. -/
theorem read_back_of_tenth :
    (ofField "a" (.array [.number (.ofDecimal false 1 (-1)), .object [("b", .string "1")]])).Plain
      100 ∧ 100 ≤ partRoom ∧
    ofText? (ofField "a" (.array [.number (.ofDecimal false 1 (-1)),
      .object [("b", .string "1")]])).toText =
        some (ofField "a" (.array [.number (.ofDecimal false 1 (-1)),
          .object [("b", .string "1")]])) := by
  have hfinite : Double.isFinite (.ofDecimal false 1 (-1)) = true := by decide +kernel
  have htenth : Double.reread (.ofDecimal false 1 (-1)) = .ofDecimal false 1 (-1) := by
    decide +kernel
  have hobject : Value.Plain 99 (.object [("b", .string "1")]) := by
    refine .object (List.pairwise_singleton _ _) fun f hf => ?_
    rw [List.mem_singleton.mp hf]
    exact .string
  have hplain : Value.Plain 100
      (.array [.number (.ofDecimal false 1 (-1)), .object [("b", .string "1")]]) := by
    refine .array fun item hitem => ?_
    rcases List.mem_cons.mp hitem with rfl | hitem
    · exact .number hfinite
    · rw [List.mem_singleton.mp hitem]
      exact hobject
  have hroom : 100 ≤ partRoom := by decide
  have hrequest : (ofField "a" (.array [.number (.ofDecimal false 1 (-1)),
      .object [("b", .string "1")]])).Plain 100 :=
    plain_ofField hplain
  obtain ⟨hread, -⟩ := read_back hrequest hroom
  rw [reread_ofField, Value.reread, Value.rereadItems, Value.reread, htenth] at hread
  exact ⟨hrequest, hroom, hread⟩

/-- The greatest whole number below 2⁵³ is read back as the one before it. -/
theorem not_read_back :
    (ofField "n" (.number (.ofNat 9007199254740991))).Plain 100 ∧
    ofText? (ofField "n" (.number (.ofNat 9007199254740991))).toText =
      some (ofField "n" (.number (.ofNat 9007199254740990))) ∧
    ofText? (ofField "n" (.number (.ofNat 9007199254740991))).toText ≠
      some (ofField "n" (.number (.ofNat 9007199254740991))) := by
  have hplain : (ofField "n" (.number (.ofNat 9007199254740991))).Plain 100 :=
    plain_ofField (.number (by decide +kernel))
  have hnumber : (Double.ofNat 9007199254740991).reread = .ofNat 9007199254740990 := by
    decide +kernel
  have hread := ofText?_toText (hplain.mono (by decide : 100 ≤ partRoom))
  rw [reread_ofField, Value.reread, hnumber] at hread
  refine ⟨hplain, hread, fun hsame => ?_⟩
  rw [hread] at hsame
  have hfields : [("n", Value.number (.ofNat 9007199254740990))] =
      [("n", .number (.ofNat 9007199254740991))] :=
    congrArg (·.body.entries) (Option.some.inj hsame)
  have hvalues : Double.ofNat 9007199254740990 = .ofNat 9007199254740991 := by
    simpa using hfields
  exact absurd hvalues (by decide +kernel)

end Request

end FieldRules
