import FieldRules.Proofs.Dict
import FieldRules.Proofs.JsonDocument
import FieldRules.Proofs.NumberRoundTrip

/-!
The value that the text of a JSON value is read as. It has the same shape, with the members of its
objects in ascending order; strings, truth values and integers of 64 bits are the same, and every
other number is the one that its own text is read as. Main statement: `toJson?_document`.
-/
namespace FieldRules

/-! ### The texts of numbers -/

/-- The text of a double is never that of an integer. -/
theorem Decimal.isSome_numberText (negative : Bool) (d : Decimal) :
    ((d.numberText negative).fraction.isSome || (d.numberText negative).exponent.isSome) =
      true := by
  unfold numberText
  split
  · rfl
  · split
    · unfold positionalText
      dsimp only
      split <;> rfl
    · unfold scientificText
      dsimp only
      split <;> rfl

namespace Json

theorem toJson?_numberText {d : Double} {text : NumberText} (h : d.numberText? = some text) :
    text.toJson? = some (.double d.reread) := by
  have hfinite : d.isFinite = true := by
    cases d with
    | nan => cases h
    | infinite negative => cases h
    | finite negative units fits => rfl
  have hread := Double.toDouble?_reread hfinite
  rw [h, Option.bind_some] at hread
  have hmark : (text.fraction.isSome || text.exponent.isSome) = true := by
    cases d with
    | nan => cases hfinite
    | infinite negative => cases hfinite
    | finite negative units fits =>
      obtain rfl := Option.some.inj h
      split
      · rfl
      · exact Decimal.isSome_numberText ..
  unfold NumberText.toJson?
  dsimp only
  rw [if_pos hmark, hread, Option.map_some]

theorem toJson?_integerNumber {n : Int} (hlow : Int64.minValue.toInt ≤ n)
    (hhigh : n < UInt64.size) :
    (integerNumber n).toJson? = some (.integer n) := by
  have hdigits := ofDigitChars_toDigits n.natAbs
  unfold NumberText.toJson? integerNumber
  dsimp only
  rw [hdigits]
  by_cases hneg : n < 0
  · have habs : -(n.natAbs : Int) = n := by omega
    simp only [Option.isSome_none, Bool.or_self, Bool.false_eq_true, if_false, hneg, decide_true,
      if_true, habs, if_pos hlow]
    rw [if_neg (by omega)]
  · have habs : (n.natAbs : Int) = n := by omega
    simp only [Option.isSome_none, Bool.or_self, Bool.false_eq_true, if_false, hneg, decide_false,
      habs]
    rw [if_pos (by omega)]

/-! ### Values -/

mutual

/-- The value that the text of a value is read as. -/
def reread : Json → Json
  | .double d => if d.isFinite then .double d.reread else .null
  | .array items => .array (rereadItems items)
  | .object members => ofDict (Dict.ofList (rereadMembers members))
  | value => value

def rereadItems : List Json → List Json
  | [] => []
  | item :: rest => item.reread :: rereadItems rest

def rereadMembers : List (String × Json) → List (String × Json)
  | [] => []
  | (key, value) :: rest => (key, value.reread) :: rereadMembers rest

end

theorem rereadItems_eq_map (items : List Json) : rereadItems items = items.map reread :=
  eq_map_of_cons rfl (fun _ _ => rfl) items

theorem rereadMembers_eq_map (members : List (String × Json)) :
    rereadMembers members = members.map fun m => (m.1, m.2.reread) :=
  eq_map_of_cons rfl (fun _ _ => rfl) members

theorem reread_ofDict (d : Dict Json) : (ofDict d).reread = ofDict (d.map reread) := by
  unfold ofDict
  rw [reread, rereadMembers_eq_map]
  exact congrArg ofDict (d.map reread).ofList_entries

/-- At most `room` containers around each value, and integers of 64 bits only. -/
inductive Readable : Nat → Json → Prop
  | null {room : Nat} : Readable room .null
  | bool {room : Nat} {b : Bool} : Readable room (.bool b)
  | integer {room : Nat} {n : Int} (low : Int64.minValue.toInt ≤ n) (high : n < UInt64.size) :
    Readable room (.integer n)
  | double {room : Nat} {d : Double} : Readable room (.double d)
  | string {room : Nat} {s : String} : Readable room (.string s)
  | array {room : Nat} {items : List Json} (items_readable : ∀ item ∈ items, Readable room item) :
    Readable (room + 1) (.array items)
  | object {room : Nat} {members : List (String × Json)}
    (members_readable : ∀ m ∈ members, Readable room m.2) : Readable (room + 1) (.object members)

theorem itemsOf?_documents {room : Nat} {items : List Json}
    (h : ∀ item ∈ items, item.document.toJson? room = some item.reread) :
    Document.itemsOf? room (documents items) = some (rereadItems items) := by
  induction items with
  | nil => rfl
  | cons item rest ih =>
    have hrest := ih fun i hi => h i (List.mem_cons_of_mem item hi)
    rw [documents, Document.itemsOf?, h item List.mem_cons_self, hrest]
    rfl

theorem membersOf?_memberDocuments {room : Nat} {members : List (String × Json)}
    (h : ∀ m ∈ members, m.2.document.toJson? room = some m.2.reread) :
    Document.membersOf? room (memberDocuments members) = some (rereadMembers members) := by
  induction members with
  | nil => rfl
  | cons m rest ih =>
    have hrest := ih fun i hi => h i (List.mem_cons_of_mem m hi)
    rw [memberDocuments, Document.membersOf?, stringOf?_piecesOf, h m List.mem_cons_self, hrest]
    rfl

/-- The tree of a value's text is a value. -/
theorem toJson?_document {room : Nat} {j : Json} (h : Readable room j) :
    j.document.toJson? room = some j.reread := by
  induction h with
  | null => rfl
  | bool => rfl
  | integer low high => exact toJson?_integerNumber low high
  | @double room d =>
    unfold document reread
    cases htext : d.numberText? with
    | none =>
      cases d with
      | nan => rfl
      | infinite negative => rfl
      | finite negative units fits => cases htext
    | some text =>
      have hread := toJson?_numberText htext
      cases d with
      | nan => cases htext
      | infinite negative => cases htext
      | finite negative units fits => exact hread
  | @string room s =>
    unfold document reread Document.toJson?
    rw [stringOf?_piecesOf, Option.map_some]
  | array _ ih =>
    unfold document reread Document.toJson?
    dsimp only
    rw [itemsOf?_documents ih, Option.map_some]
  | object _ ih =>
    unfold document reread Document.toJson?
    dsimp only
    rw [membersOf?_memberDocuments ih, Option.map_some]

end Json

end FieldRules
