import FieldRules.Proofs.JsonConversion
import FieldRules.Request.Shape

/-!
Reading by shape. Whichever kinds are tried before the right one, none of them fits, so that a value
of JSON is read as the value it is converted to; dates are never reached. Records and requests are
therefore read alike by shape, by conversion and straight from a text. Main statement:
`Request.shape_reading`.
-/
namespace FieldRules

open Json (Document)

namespace Json

mutual

/-- The keys of each object in a value, an outer object before those in it. -/
def keyLists : Json → List (List String)
  | .array items => itemKeyLists items
  | .object members => members.map (·.1) :: memberKeyLists members
  | _ => []

def itemKeyLists : List Json → List (List String)
  | [] => []
  | item :: rest => item.keyLists ++ itemKeyLists rest

def memberKeyLists : List (String × Json) → List (List String)
  | [] => []
  | (_, value) :: rest => value.keyLists ++ memberKeyLists rest

end

theorem itemKeyLists_eq_flatMap (items : List Json) :
    itemKeyLists items = items.flatMap keyLists :=
  eq_flatMap_of_cons rfl (fun _ _ => rfl) items

theorem memberKeyLists_eq_flatMap (members : List (String × Json)) :
    memberKeyLists members = members.flatMap fun m => m.2.keyLists :=
  eq_flatMap_of_cons rfl (fun _ _ => rfl) members

end Json

namespace Value

mutual

def keyLists : Value → List (List String)
  | .array items => itemKeyLists items
  | .object fields => fields.map (·.1) :: fieldKeyLists fields
  | _ => []

def itemKeyLists : List Value → List (List String)
  | [] => []
  | item :: rest => item.keyLists ++ itemKeyLists rest

def fieldKeyLists : List (String × Value) → List (List String)
  | [] => []
  | (_, value) :: rest => value.keyLists ++ fieldKeyLists rest

end

theorem itemKeyLists_eq_flatMap (items : List Value) :
    itemKeyLists items = items.flatMap keyLists :=
  eq_flatMap_of_cons rfl (fun _ _ => rfl) items

theorem fieldKeyLists_eq_flatMap (fields : List (String × Value)) :
    fieldKeyLists fields = fields.flatMap fun f => f.2.keyLists :=
  eq_flatMap_of_cons rfl (fun _ _ => rfl) fields

theorem keyLists_ofJson (j : Json) : (ofJson j).keyLists = j.keyLists := by
  induction j using Json.induct with
  | null | bool | integer | double | string => rfl
  | array items ih =>
    rw [ofJson, ofJsonItems_eq_map, keyLists, itemKeyLists_eq_flatMap, List.flatMap_map,
      Json.keyLists, Json.itemKeyLists_eq_flatMap]
    exact List.flatMap_congr ih
  | object members ih =>
    rw [ofJson, ofJsonMembers_eq_map, keyLists, fieldKeyLists_eq_flatMap, List.flatMap_map,
      List.map_map, Json.keyLists, Json.memberKeyLists_eq_flatMap]
    exact congrArg (members.map (·.1) :: ·) (List.flatMap_congr ih)

/-- No value read from JSON has a date in it. -/
theorem date_not_mem_leaves_ofJson (j : Json) (i : Time.Instant) :
    .date i ∉ (ofJson j).leaves := by
  induction j using Json.induct with
  | null | bool | integer | double | string => simp [ofJson, leaves]
  | array items ih =>
    rw [ofJson, ofJsonItems_eq_map, leaves, itemLeaves_eq_flatMap, List.flatMap_map,
      List.mem_flatMap]
    rintro ⟨item, hitem, hdate⟩
    exact ih item hitem hdate
  | object members ih =>
    rw [ofJson, ofJsonMembers_eq_map, leaves, fieldLeaves_eq_flatMap, List.flatMap_map,
      List.mem_flatMap]
    rintro ⟨m, hm, hdate⟩
    exact ih m hm hdate

theorem itemsOfShape?_eq {items : List Json}
    (h : ∀ item ∈ items, ofShape? item = some (ofJson item)) :
    itemsOfShape? items = some (ofJsonItems items) := by
  induction items with
  | nil => rfl
  | cons item rest ih =>
    have hrest := ih fun i hi => h i (List.mem_cons_of_mem item hi)
    rw [itemsOfShape?, h item List.mem_cons_self, hrest]
    rfl

theorem fieldsOfShape?_eq {members : List (String × Json)}
    (h : ∀ m ∈ members, ofShape? m.2 = some (ofJson m.2)) :
    fieldsOfShape? members = some (ofJsonMembers members) := by
  induction members with
  | nil => rfl
  | cons m rest ih =>
    have hrest := ih fun i hi => h i (List.mem_cons_of_mem m hi)
    rw [fieldsOfShape?, h m List.mem_cons_self, hrest]
    rfl

/-- A value is read by the kind that it has, since no kind that is tried before fits it. -/
theorem ofShape?_eq (j : Json) : ofShape? j = some (ofJson j) := by
  induction j using Json.induct with
  | null | bool | integer | double | string => rfl
  | array items ih =>
    rw [ofShape?, itemsOfShape?_eq ih]
    rfl
  | object members ih =>
    rw [ofShape?, fieldsOfShape?_eq ih]
    rfl

end Value

/-- Reading a record by the shapes of its values gives what reading its JSON does. -/
theorem Record.ofShape?_eq (j : Json) : Record.ofShape? j = Record.ofJson? j := by
  cases j with
  | object members =>
    rw [ofShape?, Value.fieldsOfShape?_eq fun m _ => Value.ofShape?_eq m.2]
    rfl
  | null | bool | integer | double | string | array => rfl

/-! ### Reading from a text -/

namespace Json.Document

/-- The values of members whose keys are read. -/
theorem mapM_of_membersOf? {room : Nat} {documents : List (List Piece × Document)}
    {members : List (String × Document)} {values : List (String × Json)}
    (hmembers : (Document.object documents).members? = some members)
    (hvalues : membersOf? room documents = some values) :
    members.mapM (fun m => (m.2.toJson? room).map (m.1, ·)) = some values := by
  unfold members? at hmembers
  dsimp only at hmembers
  induction documents generalizing members values with
  | nil =>
    obtain rfl := Option.some.inj hmembers
    exact hvalues
  | cons d rest ih =>
    rw [membersOf?, Option.bind_eq_some_iff] at hvalues
    obtain ⟨key, hkey, hvalues⟩ := hvalues
    obtain ⟨value, hvalue, hvalues⟩ := Option.bind_eq_some_iff.mp hvalues
    obtain ⟨others, hothers, rfl⟩ := Option.map_eq_some_iff.mp hvalues
    simp only [List.mapM_cons, hkey, Option.map_some, Option.bind_eq_bind, Option.bind_some,
      Option.pure_def, Option.bind_eq_some_iff, Option.some.injEq] at hmembers
    obtain ⟨restMembers, hrest, rfl⟩ := hmembers
    rw [List.mapM_cons, hvalue, ih hrest hothers]
    rfl

theorem valuesAt_of_onlyMember? {name : String} {members : List (String × Document)}
    {member : Option Document} (h : onlyMember? name members = some member) :
    Dict.valuesAt name members = member.toList := by
  have hfilter : (members.filter fun m => m.1 == name) = members.filter fun m => m.1 = name :=
    List.filter_congr fun m _ => beq_eq_decide m.1 name
  unfold onlyMember? at h
  unfold Dict.valuesAt
  rw [← hfilter]
  split at h
  · rename_i hnone
    rw [hnone, ← Option.some.inj h]
    rfl
  · rename_i m hone
    rw [hone, ← Option.some.inj h]
    rfl
  · cases h

/-- Under a name there is the value of its only member. -/
theorem find?_of_onlyMember? {room : Nat} {name : String} {members : List (String × Document)}
    {values : List (String × Json)} {member : Option Document}
    (hvalues : members.mapM (fun m => (m.2.toJson? room).map (m.1, ·)) = some values)
    (hmember : onlyMember? name members = some member) :
    Option.Rel (fun d j => d.toJson? room = some j) member ((Dict.ofList values).find? name) := by
  have hat := Dict.valuesAt_of_mapM hvalues name
  rw [valuesAt_of_onlyMember? hmember] at hat
  rw [Dict.ofList_eq_writeAll, Dict.find?_writeAll, Dict.find?_empty, Option.or_none]
  cases member with
  | none =>
    rw [← Option.some.inj hat]
    exact .none
  | some d =>
    obtain ⟨j, hj, hat⟩ := Option.bind_eq_some_iff.mp hat
    rw [← Option.some.inj hat]
    exact .some hj

theorem getElem?_of_itemsOf? {room : Nat} {documents : List Document} {items : List Json}
    (h : itemsOf? room documents = some items) (i : Nat) :
    Option.Rel (fun d j => d.toJson? room = some j) documents[i]? items[i]? := by
  induction documents generalizing items i with
  | nil =>
    obtain rfl := Option.some.inj h
    exact .none
  | cons d rest ih =>
    rw [itemsOf?, Option.bind_eq_some_iff] at h
    obtain ⟨item, hitem, h⟩ := h
    obtain ⟨others, hothers, rfl⟩ := Option.map_eq_some_iff.mp h
    cases i with
    | zero => exact .some hitem
    | succ i => exact ih hothers i

theorem length_of_itemsOf? {room : Nat} {documents : List Document} {items : List Json}
    (h : itemsOf? room documents = some items) : items.length = documents.length := by
  induction documents generalizing items with
  | nil =>
    obtain rfl := Option.some.inj h
    rfl
  | cons d rest ih =>
    rw [itemsOf?, Option.bind_eq_some_iff] at h
    obtain ⟨item, -, h⟩ := h
    obtain ⟨others, hothers, rfl⟩ := Option.map_eq_some_iff.mp h
    rw [List.length_cons, List.length_cons, ih hothers]

end Json.Document

theorem mapM_map_of_mapM {α β γ : Type} {f : α → Option β} {l : List α} {l' : List β}
    (h : l.mapM f = some l') (g : β → γ) :
    l.mapM (fun a => (f a).map g) = some (l'.map g) := by
  induction l generalizing l' with
  | nil =>
    obtain rfl := Option.some.inj h
    rfl
  | cons a rest ih =>
    simp only [List.mapM_cons, Option.bind_eq_bind, Option.pure_def, Option.bind_eq_some_iff,
      Option.some.injEq] at h
    obtain ⟨b, hb, others, hothers, rfl⟩ := h
    rw [List.mapM_cons, hb, ih hothers]
    rfl

namespace Request

/-- A record read from the tree of a text is the one that the value of the text has by shape. -/
theorem ofShape?_of_recordOf? {document : Document} {record : Record} {j : Json}
    (hrecord : recordOf? document = some record)
    (hj : document.toJson? (partRoom + 1) = some j) : Record.ofShape? j = some record := by
  unfold recordOf? at hrecord
  obtain ⟨members, hmembers, hrecord⟩ := Option.bind_eq_some_iff.mp hrecord
  obtain ⟨fields, hfields, hrecord⟩ := Option.bind_eq_some_iff.mp hrecord
  obtain rfl := Option.some.inj hrecord
  cases document with
  | null | bool | number | string | array => cases hmembers
  | object documents =>
    rw [Document.toJson?] at hj
    obtain ⟨values, hvalues, rfl⟩ := Option.map_eq_some_iff.mp hj
    have hread := mapM_map_of_mapM (Document.mapM_of_membersOf? hmembers hvalues)
      fun e => (e.1, Value.ofJson e.2)
    simp only [Option.map_map, Function.comp_def] at hread
    rw [hread] at hfields
    rw [Record.ofShape?_eq, ← Option.some.inj hfields, Dict.ofList_map]
    unfold Json.ofDict Record.ofJson?
    dsimp only
    rw [Value.ofJsonMembers_eq_map]
    exact congrArg some (Dict.ofList_entries ((Dict.ofList values).map Value.ofJson))

theorem partOfShape?_of_partOf? {document : Option Document} {j : Option Json} {record : Record}
    (hrel : Option.Rel (fun d j => d.toJson? (partRoom + 1) = some j) document j)
    (h : partOf? document = some record) : partOfShape? j = some record := by
  cases hrel with
  | none => exact h
  | some hj => exact ofShape?_of_recordOf? h hj

theorem ofShapes?_of_ofParts? {params body query : Option Document}
    {params' body' query' : Option Json} {q : Request}
    (hparams : Option.Rel (fun d j => d.toJson? (partRoom + 1) = some j) params params')
    (hbody : Option.Rel (fun d j => d.toJson? (partRoom + 1) = some j) body body')
    (hquery : Option.Rel (fun d j => d.toJson? (partRoom + 1) = some j) query query')
    (h : ofParts? params body query = some q) : ofShapes? params' body' query' = some q := by
  unfold ofParts? at h
  obtain ⟨p, hp, h⟩ := Option.bind_eq_some_iff.mp h
  obtain ⟨b, hb, h⟩ := Option.bind_eq_some_iff.mp h
  obtain ⟨r, hr, h⟩ := Option.bind_eq_some_iff.mp h
  unfold ofShapes?
  rw [partOfShape?_of_partOf? hparams hp, partOfShape?_of_partOf? hbody hb,
    partOfShape?_of_partOf? hquery hr]
  exact h

/-- A request read straight from a text is the one that the value of the text has by shape. -/
theorem ofShape?_of_ofText? {s : String} {j : Json} {q : Request}
    (hj : Json.ofText? s = some j) (hq : ofText? s = some q) : ofShape? j = some q := by
  obtain ⟨document, hdocument, hj⟩ := Option.bind_eq_some_iff.mp hj
  unfold ofText? at hq
  rw [hdocument, Option.bind_some] at hq
  rw [show Json.nestingLimit = partRoom + 1 + 1 from rfl] at hj
  cases document with
  | null | bool | number | string => cases hq
  | array parts =>
    rw [Document.toJson?] at hj
    obtain ⟨items, hitems, rfl⟩ := Option.map_eq_some_iff.mp hj
    have hget := Document.getElem?_of_itemsOf? hitems
    unfold ofDocument? at hq
    unfold ofShape?
    dsimp only at hq ⊢
    rw [Document.length_of_itemsOf? hitems]
    split at hq
    · rename_i hlength
      rw [if_pos hlength]
      exact ofShapes?_of_ofParts? (hget 0) (hget 1) (hget 2) hq
    · cases hq
  | object documents =>
    rw [Document.toJson?] at hj
    obtain ⟨values, hvalues, rfl⟩ := Option.map_eq_some_iff.mp hj
    unfold ofDocument? at hq
    obtain ⟨members, hmembers, hq⟩ := Option.bind_eq_some_iff.mp hq
    obtain ⟨params, hparams, hq⟩ := Option.bind_eq_some_iff.mp hq
    obtain ⟨body, hbody, hq⟩ := Option.bind_eq_some_iff.mp hq
    obtain ⟨query, hquery, hq⟩ := Option.bind_eq_some_iff.mp hq
    have hread := Document.mapM_of_membersOf? hmembers hvalues
    exact ofShapes?_of_ofParts? (Document.find?_of_onlyMember? hread hparams)
      (Document.find?_of_onlyMember? hread hbody) (Document.find?_of_onlyMember? hread hquery) hq

def bodyJson? : Json → Option Json
  | .array parts => parts[1]?
  | .object members => members.lookup "body"
  | _ => none

theorem partOfShape?_isSome_iff (j : Option Json) :
    (partOfShape? j).isSome ↔ ∀ value, j = some value → ∃ members, value = .object members := by
  cases j with
  | none => exact iff_of_true rfl nofun
  | some value =>
    unfold partOfShape?
    dsimp only
    rw [Record.ofShape?_eq]
    cases value with
    | object members => exact iff_of_true rfl fun _ h => ⟨members, (Option.some.inj h).symm⟩
    | null | bool | integer | double | string | array =>
      refine iff_of_false nofun fun h => ?_
      obtain ⟨members, hmembers⟩ := h _ rfl
      cases hmembers

theorem ofShapes?_isSome_iff (params body query : Option Json) :
    (ofShapes? params body query).isSome ↔
      (partOfShape? params).isSome ∧ (partOfShape? body).isSome ∧ (partOfShape? query).isSome := by
  unfold ofShapes?
  generalize partOfShape? params = p
  generalize partOfShape? body = b
  generalize partOfShape? query = r
  cases p <;> cases b <;> cases r <;> simp

/-- A request is read from an object just if the parts that are there are objects. -/
theorem ofShape?_object_isSome_iff (parts : List (String × Json)) :
    (ofShape? (.object parts)).isSome ↔ ∀ name ∈ ["params", "body", "query"], ∀ value,
      parts.lookup name = some value → ∃ members, value = .object members := by
  simp only [List.forall_mem_cons, List.not_mem_nil, false_imp_iff, implies_true, and_true,
    ← partOfShape?_isSome_iff]
  exact ofShapes?_isSome_iff _ _ _

theorem body_of_ofShapes? {params body query : Option Json} {q : Request}
    (h : ofShapes? params body query = some q) : partOfShape? body = some q.body := by
  unfold ofShapes? at h
  obtain ⟨p, -, h⟩ := Option.bind_eq_some_iff.mp h
  obtain ⟨b, hb, h⟩ := Option.bind_eq_some_iff.mp h
  obtain ⟨r, -, h⟩ := Option.bind_eq_some_iff.mp h
  rw [← Option.some.inj h, hb]

theorem body_of_ofShape? {j : Json} {q : Request} (h : ofShape? j = some q) :
    partOfShape? (bodyJson? j) = some q.body := by
  cases j with
  | null | bool | integer | double | string => cases h
  | array parts =>
    unfold ofShape? at h
    dsimp only at h
    split at h
    · exact body_of_ofShapes? h
    · cases h
  | object members => exact body_of_ofShapes? h

/-- The body of a request that is read is the one that setting it from the same JSON gives. -/
theorem body_withJsonBody {j : Json} {q : Request} {members : List (String × Json)}
    (h : ofShape? j = some q) (hbody : bodyJson? j = some (.object members)) (r : Request) :
    q.body = (r.withJsonBody (.object members)).body := by
  have hpart := body_of_ofShape? h
  rw [hbody, partOfShape?, Record.ofShape?_eq] at hpart
  unfold withJsonBody
  rw [hpart]
  rfl

/-- Validating one part asks nothing about the others. -/
theorem validate_congr {q r : Request} {part : RequestPart} (h : q.part part = r.part part)
    (e : Engine) (rules : RuleSet) : (q.validate part e rules).2 = (r.validate part e rules).2 := by
  unfold validate
  dsimp only
  rw [h]

/-- Reading a value by shape always succeeds and is converting it, so that no date comes out and all
keys stay. A request is read by shape just if the parts that are there are objects; its body is then
the one that the same object gives as a body, and validates alike. Read straight from a text, a
request is the one that the value of the text has by shape. -/
theorem shape_reading :
    (∀ j, Value.ofShape? j = some (.ofJson j) ∧ (∀ i, .date i ∉ (Value.ofJson j).leaves) ∧
      (Value.ofJson j).keyLists = j.keyLists) ∧
    (∀ parts, (ofShape? (.object parts)).isSome ↔ ∀ name ∈ ["params", "body", "query"], ∀ value,
      parts.lookup name = some value → ∃ members, value = .object members) ∧
    (∀ j q members, ofShape? j = some q → bodyJson? j = some (.object members) → ∀ r : Request,
      q.body = (r.withJsonBody (.object members)).body ∧
      ∀ e rules, (q.validate .body e rules).2 =
        ((r.withJsonBody (.object members)).validate .body e rules).2) ∧
    ∀ s j q, Json.ofText? s = some j → ofText? s = some q → ofShape? j = some q := by
  refine ⟨fun j => ⟨Value.ofShape?_eq j, Value.date_not_mem_leaves_ofJson j,
    Value.keyLists_ofJson j⟩, ofShape?_object_isSome_iff, ?_, fun s j q => ofShape?_of_ofText?⟩
  intro j q members h hbody r
  have hsame := body_withJsonBody h hbody r
  exact ⟨hsame, validate_congr hsame⟩

/-- A text that looks like a date stays a text in the body, whichever way it is read. -/
theorem shape_reading_of_date_text : ∃ j q members,
    Json.ofText? "\x7b\"body\":\x7b\"d\":\"2017-04-25T10:30:00Z\"\x7d\x7d" = some j ∧
    ofText? "\x7b\"body\":\x7b\"d\":\"2017-04-25T10:30:00Z\"\x7d\x7d" = some q ∧
    ofShape? j = some q ∧ bodyJson? j = some (.object members) ∧
    q.body = (empty.withJsonBody (.object members)).body := by
  have hbodies : (((Json.ofText?
      "\x7b\"body\":\x7b\"d\":\"2017-04-25T10:30:00Z\"\x7d\x7d").bind bodyJson?).bind
        Record.ofShape?).isSome = true := by decide +kernel
  have hrequest : (ofText? "\x7b\"body\":\x7b\"d\":\"2017-04-25T10:30:00Z\"\x7d\x7d").isSome =
      true := by decide +kernel
  obtain ⟨q, hq⟩ := Option.isSome_iff_exists.mp hrequest
  obtain ⟨record, hrecord⟩ := Option.isSome_iff_exists.mp hbodies
  obtain ⟨value, hvalue, hrecord⟩ := Option.bind_eq_some_iff.mp hrecord
  obtain ⟨j, hj, hbody⟩ := Option.bind_eq_some_iff.mp hvalue
  have hpart : (partOfShape? (some value)).isSome := Option.isSome_iff_exists.mpr ⟨record, hrecord⟩
  obtain ⟨members, rfl⟩ := (partOfShape?_isSome_iff (some value)).mp hpart value rfl
  have hshape := shape_reading.2.2.2 _ j q hj hq
  have hsame := (shape_reading.2.2.1 j q members hshape hbody empty).1
  exact ⟨j, q, members, hj, hq, hshape, hbody, hsame⟩

end Request

end FieldRules
