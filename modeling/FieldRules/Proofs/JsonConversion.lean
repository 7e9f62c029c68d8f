import FieldRules.Proofs.JsonOrder

/-!
What a record keeps on its way to JSON and back. Keys, order and nesting stay, and so do all values
but those of two kinds: a date comes back as the text of its Internet form, and a number that is not
finite as null. The way back exists for objects and for nothing else. Main statement:
`Record.json_conversion`.
-/
namespace FieldRules

namespace Value

theorem induct {motive : Value → Prop} (null : motive .null) (bool : ∀ b, motive (.bool b))
    (number : ∀ d, motive (.number d)) (string : ∀ s, motive (.string s))
    (date : ∀ i, motive (.date i))
    (array : ∀ items, (∀ item ∈ items, motive item) → motive (.array items))
    (object : ∀ fields, (∀ f ∈ fields, motive f.2) → motive (.object fields)) : ∀ v, motive v
  | .null => null
  | .bool b => bool b
  | .number d => number d
  | .string s => string s
  | .date i => date i
  | .array items => array items fun item h =>
    have := List.sizeOf_lt_of_mem h
    induct null bool number string date array object item
  | .object fields => object fields fun f h =>
    have := List.sizeOf_lt_of_mem h
    have : sizeOf f = 1 + sizeOf f.1 + sizeOf f.2 := rfl
    induct null bool number string date array object f.2
termination_by v => sizeOf v

/-! ### Leaves -/

mutual

def leaves : Value → List Value
  | .array items => itemLeaves items
  | .object fields => fieldLeaves fields
  | value => [value]

def itemLeaves : List Value → List Value
  | [] => []
  | item :: rest => item.leaves ++ itemLeaves rest

def fieldLeaves : List (String × Value) → List Value
  | [] => []
  | (_, value) :: rest => value.leaves ++ fieldLeaves rest

end

theorem itemLeaves_eq_flatMap (items : List Value) : itemLeaves items = items.flatMap leaves :=
  eq_flatMap_of_cons rfl (fun _ _ => rfl) items

theorem fieldLeaves_eq_flatMap (fields : List (String × Value)) :
    fieldLeaves fields = fields.flatMap fun f => f.2.leaves :=
  eq_flatMap_of_cons rfl (fun _ _ => rfl) fields

mutual

def mapLeaves (f : Value → Value) : Value → Value
  | .array items => .array (mapItemLeaves f items)
  | .object fields => .object (mapFieldLeaves f fields)
  | value => f value

def mapItemLeaves (f : Value → Value) : List Value → List Value
  | [] => []
  | item :: rest => item.mapLeaves f :: mapItemLeaves f rest

def mapFieldLeaves (f : Value → Value) : List (String × Value) → List (String × Value)
  | [] => []
  | (key, value) :: rest => (key, value.mapLeaves f) :: mapFieldLeaves f rest

end

theorem mapLeaves_number (f : Value → Value) (d : Double) :
    (number d).mapLeaves f = f (.number d) := rfl

theorem mapItemLeaves_eq_map (f : Value → Value) (items : List Value) :
    mapItemLeaves f items = items.map (mapLeaves f) :=
  eq_map_of_cons rfl (fun _ _ => rfl) items

theorem mapFieldLeaves_eq_map (f : Value → Value) (fields : List (String × Value)) :
    mapFieldLeaves f fields = fields.map fun e => (e.1, e.2.mapLeaves f) :=
  eq_map_of_cons rfl (fun _ _ => rfl) fields

/-- Replacing leaves keeps a value exactly if it keeps each of its leaves. -/
theorem mapLeaves_eq_self_iff (f : Value → Value) (v : Value) :
    v.mapLeaves f = v ↔ ∀ leaf ∈ v.leaves, f leaf = leaf := by
  induction v using induct with
  | null | bool | number | string | date => simp [mapLeaves, leaves]
  | array items ih =>
    rw [mapLeaves, mapItemLeaves_eq_map, leaves, itemLeaves_eq_flatMap, Value.array.injEq,
      map_eq_self_iff, List.forall_mem_flatMap]
    exact forall₂_congr ih
  | object fields ih =>
    rw [mapLeaves, mapFieldLeaves_eq_map, leaves, fieldLeaves_eq_flatMap, Value.object.injEq,
      map_eq_self_iff, List.forall_mem_flatMap]
    refine forall₂_congr fun e he => ?_
    rw [← ih e he, Prod.ext_iff]
    exact and_iff_right rfl

/-! ### Leaves through JSON -/

/-- What a leaf comes back as. -/
def jsonLeaf : Value → Value
  | .number d => if d.isFinite then .number d else .null
  | .date i => .string (String.ofList i.toInternet)
  | value => value

theorem jsonLeaf_number_eq_self_iff (d : Double) :
    jsonLeaf (.number d) = .number d ↔ d.isFinite = true := by
  rw [jsonLeaf]
  split
  · rename_i hfinite
    exact iff_of_true rfl hfinite
  · rename_i hfinite
    exact iff_of_false nofun hfinite

/-- On the way to JSON and back only the leaves change. -/
theorem ofJson_toJson (v : Value) : ofJson v.toJson = v.mapLeaves jsonLeaf := by
  induction v using induct with
  | null | bool | string | date => rfl
  | number d =>
    rw [toJson, mapLeaves_number, jsonLeaf]
    split <;> rfl
  | array items ih =>
    rw [toJson, toJsonItems_eq_map, ofJson, ofJsonItems_eq_map, List.map_map, mapLeaves,
      mapItemLeaves_eq_map]
    exact congrArg Value.array (List.map_congr_left ih)
  | object fields ih =>
    rw [toJson, toJsonFields_eq_map, ofJson, ofJsonMembers_eq_map, List.map_map, mapLeaves,
      mapFieldLeaves_eq_map]
    exact congrArg Value.object (List.map_congr_left fun f hf => congrArg (f.1, ·) (ih f hf))

/-- What is lost on the way to JSON is lost at once. -/
theorem toJson_mapLeaves_jsonLeaf (v : Value) : (v.mapLeaves jsonLeaf).toJson = v.toJson := by
  induction v using induct with
  | null | bool | string | date => rfl
  | number d =>
    rw [mapLeaves_number, jsonLeaf]
    split
    · rfl
    · rename_i hfinite
      rw [toJson, toJson, if_neg hfinite]
  | array items ih =>
    rw [mapLeaves, mapItemLeaves_eq_map, toJson, toJsonItems_eq_map, List.map_map, toJson,
      toJsonItems_eq_map]
    exact congrArg Json.array (List.map_congr_left ih)
  | object fields ih =>
    rw [mapLeaves, mapFieldLeaves_eq_map, toJson, toJsonFields_eq_map, List.map_map, toJson,
      toJsonFields_eq_map]
    exact congrArg Json.object (List.map_congr_left fun f hf => congrArg (f.1, ·) (ih f hf))

/-- Just dates and numbers that are not finite do not come back as they were. -/
theorem mapLeaves_jsonLeaf_eq_self_iff (v : Value) :
    v.mapLeaves jsonLeaf = v ↔
      (∀ d, .number d ∈ v.leaves → d.isFinite = true) ∧ ∀ i, .date i ∉ v.leaves := by
  rw [mapLeaves_eq_self_iff]
  constructor
  · intro h
    exact ⟨fun d hd => (jsonLeaf_number_eq_self_iff d).mp (h _ hd),
      fun i hi => nomatch h _ hi⟩
  · rintro ⟨hnumbers, hdates⟩ leaf hleaf
    cases leaf with
    | number d => exact (jsonLeaf_number_eq_self_iff d).mpr (hnumbers d hleaf)
    | date i => exact absurd hleaf (hdates i)
    | null | bool | string | array | object => rfl

end Value

namespace Record

theorem ofJson?_eq_none_iff (j : Json) : ofJson? j = none ↔ ∀ members, j ≠ .object members := by
  cases j with
  | object members => exact iff_of_false nofun fun h => h members rfl
  | null | bool | integer | double | string | array => exact iff_of_true rfl nofun

def jsonImage (r : Record) : Record := r.map (Value.mapLeaves Value.jsonLeaf)

theorem toJson_jsonImage (r : Record) : r.jsonImage.toJson = r.toJson := by
  unfold toJson jsonImage Dict.map
  rw [Value.toJsonFields_eq_map, Value.toJsonFields_eq_map, List.map_map]
  refine congrArg Json.object (List.map_congr_left fun e _ => ?_)
  exact congrArg (e.1, ·) (Value.toJson_mapLeaves_jsonLeaf e.2)

theorem ofJson?_toJson_eq (r : Record) : ofJson? r.toJson = some r.jsonImage := by
  have hleaves : (fun v => Value.ofJson v.toJson) = Value.mapLeaves Value.jsonLeaf :=
    funext Value.ofJson_toJson
  rw [ofJson?_toJson, hleaves]
  rfl

/-- A record that goes to JSON and back is the same but for its dates and its numbers that are not
finite, at every depth. It is the same if it has none, and what came back goes through JSON
unchanged. Its JSON is an object with its keys, and just objects are made records again. -/
theorem json_conversion (r : Record) :
    ofJson? r.toJson = some r.jsonImage ∧
    (r.jsonImage = r ↔ ∀ e ∈ r.entries,
      (∀ d, .number d ∈ e.2.leaves → d.isFinite = true) ∧ ∀ i, .date i ∉ e.2.leaves) ∧
    ofJson? r.jsonImage.toJson = some r.jsonImage ∧ r.jsonImage.toJson = r.toJson ∧
    (∃ members, r.toJson = .object members ∧ members.map (·.1) = r.keys) ∧
    ∀ j, ofJson? j = none ↔ ∀ members, j ≠ .object members := by
  refine ⟨ofJson?_toJson_eq r, ?_, ?_, toJson_jsonImage r, ⟨_, rfl, ?_⟩, ofJson?_eq_none_iff⟩
  · unfold jsonImage
    rw [Dict.map_eq_self_iff]
    exact forall₂_congr fun e _ => Value.mapLeaves_jsonLeaf_eq_self_iff e.2
  · rw [toJson_jsonImage]
    exact ofJson?_toJson_eq r
  · rw [Value.toJsonFields_eq_map, List.map_map]
    rfl

end Record

end FieldRules
