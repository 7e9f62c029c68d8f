/-!
Finite maps from text keys, kept as one list of entries in strictly ascending key order. The order
is that of the code points, which is also the order of the UTF-8 bytes. Since a map has exactly one
such list, two maps with the same entries are equal.
-/
namespace FieldRules

universe u v

structure Dict (α : Type u) where
  entries : List (String × α)
  ascending : entries.Pairwise (fun a b => a.1 < b.1)

namespace Dict

variable {α : Type u} {β : Type v}

theorem ext {d e : Dict α} (h : d.entries = e.entries) : d = e := by
  cases d; cases e; cases h; rfl

instance [DecidableEq α] : DecidableEq (Dict α) := fun d e =>
  if h : d.entries = e.entries then isTrue (ext h)
  else isFalse fun he => h (congrArg entries he)

def empty : Dict α := ⟨[], List.Pairwise.nil⟩

instance : Inhabited (Dict α) := ⟨empty⟩

def find? (d : Dict α) (key : String) : Option α := d.entries.lookup key

def contains (d : Dict α) (key : String) : Bool := (d.find? key).isSome

def keys (d : Dict α) : List String := d.entries.map (·.1)

def size (d : Dict α) : Nat := d.entries.length

def isEmpty (d : Dict α) : Bool := d.entries.isEmpty

/-- Puts `update (the old value, if any)` under `key`, in its place among the entries. -/
def alterEntries (key : String) (update : Option α → α) :
    List (String × α) → List (String × α)
  | [] => [(key, update none)]
  | (k, v) :: rest =>
    if key < k then (key, update none) :: (k, v) :: rest
    else if k < key then (k, v) :: alterEntries key update rest
    else (k, update (some v)) :: rest

theorem fst_mem_alterEntries {key : String} {update : Option α → α} {l : List (String × α)}
    {e : String × α} (he : e ∈ alterEntries key update l) : e.1 = key ∨ ∃ f ∈ l, f.1 = e.1 := by
  induction l with
  | nil =>
    simp only [alterEntries, List.mem_singleton] at he
    exact Or.inl (by rw [he])
  | cons head rest ih =>
    obtain ⟨k, v⟩ := head
    simp only [alterEntries] at he
    split at he
    · rcases List.mem_cons.mp he with rfl | h
      · exact Or.inl rfl
      · exact Or.inr ⟨e, h, rfl⟩
    · split at he
      · rcases List.mem_cons.mp he with rfl | h
        · exact Or.inr ⟨(k, v), by simp, rfl⟩
        · rcases ih h with h | ⟨f, hf, hfe⟩
          · exact Or.inl h
          · exact Or.inr ⟨f, List.mem_cons_of_mem _ hf, hfe⟩
      · rcases List.mem_cons.mp he with rfl | h
        · exact Or.inr ⟨(k, v), by simp, rfl⟩
        · exact Or.inr ⟨e, List.mem_cons_of_mem _ h, rfl⟩

theorem ascending_alterEntries {key : String} {update : Option α → α} {l : List (String × α)}
    (h : l.Pairwise (fun a b => a.1 < b.1)) :
    (alterEntries key update l).Pairwise (fun a b => a.1 < b.1) := by
  induction l with
  | nil => simp [alterEntries]
  | cons head rest ih =>
    obtain ⟨k, v⟩ := head
    have hrest := (List.pairwise_cons.mp h).2
    have hlt := (List.pairwise_cons.mp h).1
    simp only [alterEntries]
    split
    · rename_i hk
      refine List.pairwise_cons.mpr ⟨fun e he => ?_, h⟩
      rcases List.mem_cons.mp he with rfl | he
      · exact hk
      · exact String.lt_trans hk (hlt e he)
    · split
      · rename_i hk
        refine List.pairwise_cons.mpr ⟨fun e he => ?_, ih hrest⟩
        rcases fst_mem_alterEntries he with h | ⟨f, hf, hfe⟩
        · exact h ▸ hk
        · exact hfe ▸ hlt f hf
      · exact List.pairwise_cons.mpr ⟨fun e he => hlt e he, hrest⟩

def alter (d : Dict α) (key : String) (update : Option α → α) : Dict α :=
  ⟨alterEntries key update d.entries, ascending_alterEntries d.ascending⟩

/-- Adds the entry or replaces the value already under its key. -/
def insert (d : Dict α) (key : String) (value : α) : Dict α := d.alter key fun _ => value

/-- The entries one after another; a later entry replaces an earlier one of the same key. -/
def ofList (entries : List (String × α)) : Dict α :=
  entries.foldl (fun d e => d.insert e.1 e.2) empty

def map (f : α → β) (d : Dict α) : Dict β :=
  ⟨d.entries.map fun e => (e.1, f e.2), List.pairwise_map.mpr d.ascending⟩

end Dict

end FieldRules
