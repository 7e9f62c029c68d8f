import FieldRules.Proofs.JsonOrder
import FieldRules.Proofs.JsonValue
import FieldRules.Report.Json

/-!
The text of a report is read back as the report, so that reports with the same text are the same.
As a JSON value it is an object with an array for each field, whose items are objects with the kind
of a failure as `type` and its message as `msg`. Main statement: `Report.text_lossless`.
-/
namespace FieldRules

open Json (Document)

/-! ### Lists that are read item by item -/

theorem mapM_map_eq_some {α β γ : Type} {f : β → Option γ} {g : α → β} {k : α → γ} {l : List α}
    (h : ∀ a ∈ l, f (g a) = some (k a)) : (l.map g).mapM f = some (l.map k) := by
  induction l with
  | nil => rfl
  | cons a l ih =>
    have hrest := ih fun b hb => h b (List.mem_cons_of_mem a hb)
    rw [List.map_cons, List.mapM_cons, h a List.mem_cons_self, hrest]
    rfl

theorem mapM_map_eq_self {α β : Type} {f : β → Option α} {g : α → β} (l : List α)
    (h : ∀ a, f (g a) = some a) : (l.map g).mapM f = some l := by
  rw [mapM_map_eq_some fun a _ => h a, List.map_id']

/-! ### The members of an object -/

theorem Json.Document.string?_document (s : String) : (Json.string s).document.string? = some s :=
  Json.stringOf?_piecesOf s

theorem Json.Document.members?_document (members : List (String × Json)) :
    (Json.object members).document.members? = some (members.map fun m => (m.1, m.2.document)) := by
  change (Json.memberDocuments members).mapM (fun m => (Json.stringOf? m.1).map (·, m.2)) = _
  rw [Json.memberDocuments_eq_map]
  apply mapM_map_eq_some
  intro m _
  rw [Json.stringOf?_piecesOf, Option.map_some]

/-! ### Failures -/

def Failure.sortedJson (f : Failure) : Json :=
  .object [("msg", .string f.message), ("type", .string f.kind)]

/-- The order of the members does not matter. -/
theorem Failure.ofDocument?_members {f : Failure} {members : List (String × Json)}
    (h : members = [("type", .string f.kind), ("msg", .string f.message)] ∨
      members = [("msg", .string f.message), ("type", .string f.kind)]) :
    ofDocument? (Json.object members).document = some f := by
  change (do
    let members ← (Json.object members).document.members?
    let kind ← (← Document.onlyMember? "type" members)
    let message ← (← Document.onlyMember? "msg" members)
    return (⟨← kind.string?, ← message.string?⟩ : Failure)) = some f
  rw [Document.members?_document]
  rcases h with rfl | rfl
  · simp [Document.onlyMember?, Document.string?_document]
  · simp [Document.onlyMember?, Document.string?_document]

theorem Failure.reread_toJson (f : Failure) : f.toJson.reread = f.sortedJson := by
  have hlt : "msg" < "type" := by decide
  simp [toJson, sortedJson, Json.reread, Json.rereadMembers, Json.ofDict, Dict.ofList, Dict.insert,
    Dict.alter, Dict.alterEntries, Dict.empty, hlt]

namespace Report

/-! ### Fields -/

def toJsonWith (form : Failure → Json) (r : Report) : Json :=
  .ofDict (r.fields.map fun failures => .array (failures.map form))

/-- What goes through objects and arrays goes through a report, down to its failures. -/
theorem apply_toJsonWith {g : Json → Json} (hobject : ∀ d, g (.ofDict d) = .ofDict (d.map g))
    (harray : ∀ items, g (.array items) = .array (items.map g)) (form : Failure → Json)
    (r : Report) : g (r.toJsonWith form) = r.toJsonWith (fun f => g (form f)) := by
  have hfailures (failures : List Failure) :
      g (.array (failures.map form)) = .array (failures.map fun f => g (form f)) := by
    rw [harray, List.map_map]
    rfl
  unfold toJsonWith
  rw [hobject]
  apply congrArg Json.ofDict
  apply Dict.ext
  unfold Dict.map
  dsimp only
  rw [List.map_map]
  exact List.map_congr_left fun e _ => congrArg (e.1, ·) (hfailures e.2)

/-- Reading sorts the two members of each failure and changes nothing else. -/
theorem reread_toJson (r : Report) : r.toJson.reread = r.toJsonWith Failure.sortedJson := by
  have hread := apply_toJsonWith Json.reread_ofDict
    (fun items => by rw [Json.reread, Json.rereadItems_eq_map]) Failure.toJson r
  rw [funext Failure.reread_toJson] at hread
  exact hread

section Form

variable {form : Failure → Json} (hform : ∀ f, Failure.ofDocument? (form f).document = some f)
include hform

theorem failuresOf?_document (failures : List Failure) :
    failuresOf? (Json.array (failures.map form)).document = some failures := by
  change (Json.documents (failures.map form)).mapM Failure.ofDocument? = some failures
  rw [Json.documents_eq_map, List.map_map]
  exact mapM_map_eq_self failures hform

/-- A report is read back whatever the order of the members in its failures. -/
theorem ofDocument?_toJsonWith (r : Report) :
    ofDocument? (r.toJsonWith form).document = some r := by
  have hmembers : (r.toJsonWith form).document.members? = some (r.fields.entries.map fun e =>
      (e.1, (Json.array (e.2.map form)).document)) := by
    unfold toJsonWith Json.ofDict Dict.map
    rw [Document.members?_document, List.map_map]
    rfl
  have hfields : (r.fields.entries.map fun e => (e.1, (Json.array (e.2.map form)).document)).mapM
      (fun m => (failuresOf? m.2).map (m.1, ·)) = some r.fields.entries := by
    apply mapM_map_eq_self
    intro e
    rw [failuresOf?_document hform, Option.map_some]
  unfold ofDocument?
  rw [hmembers, Option.bind_eq_bind, Option.bind_some, hfields, Option.bind_eq_bind,
    Option.bind_some, Dict.ofList_entries]
  rfl

end Form

theorem ofDocument?_toJson (r : Report) : ofDocument? r.toJson.document = some r :=
  ofDocument?_toJsonWith (fun _ => Failure.ofDocument?_members (Or.inl rfl)) r

/-- The tree of the text of a report. -/
theorem ofChars?_toText (r : Report) :
    Document.ofChars? r.toText.toList = some r.toJson.document := by
  have hread := Json.ofChars?_pretty r.toJson (fun c (h : c ∈ []) => absurd h List.not_mem_nil)
  rw [List.append_nil] at hread
  rw [toText, Json.toPrettyText, String.toList_ofList, hread]

/-- The text of a report is read back as the report, also one with empty fields. -/
theorem ofText?_toText (r : Report) : ofText? r.toText = some r := by
  rw [ofText?, ofChars?_toText, Option.bind_some, ofDocument?_toJson]

theorem readable_toJson (r : Report) (room : Nat) : Json.Readable (room + 3) r.toJson := by
  refine .object fun m hm => ?_
  obtain ⟨e, -, he⟩ := List.mem_map.mp hm
  rw [← he]
  refine .array fun item hitem => ?_
  obtain ⟨f, -, hf⟩ := List.mem_map.mp hitem
  rw [← hf]
  refine .object fun m hm => ?_
  have hstring : m.2 = .string f.kind ∨ m.2 = .string f.message := by
    rcases List.mem_cons.mp hm with rfl | hm
    · exact Or.inl rfl
    · rw [List.mem_singleton.mp hm]
      exact Or.inr rfl
  rcases hstring with h | h
  · rw [h]
    exact .string
  · rw [h]
    exact .string

/-- The text of a report is read back as the report, and as one JSON value. -/
theorem text_lossless (r : Report) :
    ofText? r.toText = some r ∧
    Json.ofText? r.toText = some (.ofDict (r.fields.map fun failures =>
      .array (failures.map fun f =>
        .object [("msg", .string f.message), ("type", .string f.kind)]))) ∧
    ∀ s : Report, s.toText = r.toText ↔ s = r := by
  refine ⟨r.ofText?_toText, ?_, ?_⟩
  · have hvalue := Json.toJson?_document (r.readable_toJson 124)
    rw [reread_toJson] at hvalue
    rw [Json.ofText?, Json.ofChars?, ofChars?_toText, Option.bind_some]
    exact hvalue
  · intro s
    refine ⟨fun htext => ?_, congrArg toText⟩
    have hread := s.ofText?_toText
    rw [htext, ofText?_toText] at hread
    exact (Option.some.inj hread).symm

end Report

end FieldRules
