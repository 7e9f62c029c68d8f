import FieldRules.Dict
import Mathlib.Data.String.Basic

/-!
Lookup in finite maps. Altering a key changes what is found under this key and nothing else, a map
built from a list finds the last entry of a key, and two maps in which everything is found alike are
equal. A list of writes is replayed by inserting one after another; what is found afterwards is the
last value written under the key, or what was there before. The entries before a key are a map by
themselves.
-/
namespace FieldRules.Dict

universe u v

variable {α : Type u} {β : Type v}

theorem lookup_eq_none_of_lt {key : String} {l : List (String × α)}
    (h : ∀ e ∈ l, key < e.1) : l.lookup key = none := by
  rw [List.lookup_eq_none_iff]
  intro e he
  exact bne_iff_ne.mpr (ne_of_lt (h e he))

theorem lookup_cons_eq (k j : String) (v : α) (l : List (String × α)) :
    ((j, v) :: l).lookup k = if k = j then some v else l.lookup k := by
  rw [List.lookup_cons]
  by_cases hk : k = j
  · rw [if_pos hk, hk, beq_self_eq_true]
  · rw [if_neg hk, beq_false_of_ne hk]

/-- Only what is found under the key changes, whether it belongs before the first entry, is the key
of this entry or lies further on. -/
theorem lookup_alterEntries {key : String} {update : Option α → α} {l : List (String × α)}
    (h : l.Pairwise (fun a b => a.1 < b.1)) (k : String) :
    (alterEntries key update l).lookup k =
      if k = key then some (update (l.lookup key)) else l.lookup k := by
  induction l with
  | nil => exact lookup_cons_eq k key _ []
  | cons head rest ih =>
    obtain ⟨j, v⟩ := head
    obtain ⟨hlt, hrest⟩ := List.pairwise_cons.mp h
    simp only [alterEntries]
    rcases lt_trichotomy key j with hkey | rfl | hkey
    · have hnone : ((j, v) :: rest).lookup key = none := by
        apply lookup_eq_none_of_lt
        intro e he
        rcases List.mem_cons.mp he with rfl | he
        · exact hkey
        · exact lt_trans hkey (hlt e he)
      rw [if_pos hkey, lookup_cons_eq, hnone]
    · rw [if_neg (lt_irrefl key), if_neg (lt_irrefl key)]
      simp only [lookup_cons_eq, if_true]
      split <;> rfl
    · rw [if_neg (lt_asymm hkey), if_pos hkey, lookup_cons_eq, lookup_cons_eq, lookup_cons_eq,
        ih hrest, if_neg (ne_of_gt hkey)]
      by_cases hk : k = j
      · rw [if_pos hk, if_pos hk, if_neg (hk ▸ ne_of_lt hkey)]
      · rw [if_neg hk, if_neg hk]

theorem length_alterEntries (key : String) (update : Option α → α) (l : List (String × α)) :
    l.length ≤ (alterEntries key update l).length ∧
      (alterEntries key update l).length ≤ l.length + 1 := by
  induction l with
  | nil => simp [alterEntries]
  | cons head rest ih =>
    obtain ⟨k, v⟩ := head
    simp only [alterEntries]
    split
    · simp
    · split
      · simpa using ih
      · simp

/-- An update shows under its own key and under no other. -/
theorem find?_alter (d : Dict α) (key : String) (update : Option α → α) (k : String) :
    (d.alter key update).find? k = if k = key then some (update (d.find? key)) else d.find? k :=
  lookup_alterEntries d.ascending k

theorem find?_insert (d : Dict α) (key : String) (value : α) (k : String) :
    (d.insert key value).find? k = if k = key then some value else d.find? k :=
  find?_alter d key _ k

@[simp] theorem find?_insert_self (d : Dict α) (key : String) (value : α) :
    (d.insert key value).find? key = some value := by
  rw [find?_insert, if_pos rfl]

@[simp] theorem find?_empty (k : String) : (empty : Dict α).find? k = none := rfl

/-- In an ascending list every entry is the first one of its key. -/
theorem mem_entries_iff (d : Dict α) (key : String) (value : α) :
    (key, value) ∈ d.entries ↔ d.find? key = some value := by
  obtain ⟨l, h⟩ := d
  change (key, value) ∈ l ↔ l.lookup key = some value
  induction l with
  | nil => simp
  | cons head rest ih =>
    obtain ⟨j, v⟩ := head
    have hlt := (List.pairwise_cons.mp h).1
    have ih := ih (List.pairwise_cons.mp h).2
    by_cases hk : key = j
    · subst hk
      rw [List.lookup_cons_self, List.mem_cons, Prod.mk.injEq]
      constructor
      · rintro (⟨-, rfl⟩ | hmem)
        · rfl
        · exact absurd (hlt _ hmem) (lt_irrefl key)
      · intro hv
        exact Or.inl ⟨rfl, (Option.some.inj hv).symm⟩
    · rw [lookup_cons_eq, if_neg hk, ← ih, List.mem_cons, Prod.mk.injEq]
      simp [hk]

theorem mem_keys_iff (d : Dict α) (key : String) :
    key ∈ d.keys ↔ ∃ value, d.find? key = some value := by
  unfold keys
  rw [List.mem_map]
  constructor
  · rintro ⟨⟨k, value⟩, hmem, rfl⟩
    exact ⟨value, (mem_entries_iff d _ _).mp hmem⟩
  · rintro ⟨value, hfind⟩
    exact ⟨(key, value), (mem_entries_iff d _ _).mpr hfind, rfl⟩

theorem mem_keys_insert (d : Dict α) (key : String) (value : α) (k : String) :
    k ∈ (d.insert key value).keys ↔ k ∈ d.keys ∨ k = key := by
  rw [mem_keys_iff, mem_keys_iff, find?_insert]
  by_cases hk : k = key <;> simp [hk]

theorem nodup_keys (d : Dict α) : d.keys.Nodup :=
  List.pairwise_map.mpr (d.ascending.imp ne_of_lt)

theorem nodup_entries (d : Dict α) : d.entries.Nodup := by
  refine d.ascending.imp ?_
  rintro a _ hlt rfl
  exact lt_irrefl a.1 hlt

/-- Entries are determined by lookup, and their order by the keys. -/
theorem ext_find? {d e : Dict α} (h : ∀ key, d.find? key = e.find? key) : d = e := by
  apply ext
  have hperm : d.entries.Perm e.entries := by
    rw [List.perm_ext_iff_of_nodup (nodup_entries d) (nodup_entries e)]
    rintro ⟨key, value⟩
    rw [mem_entries_iff, mem_entries_iff, h]
  refine hperm.eq_of_pairwise ?_ d.ascending e.ascending
  intro a b _ _ hab hba
  exact absurd hab (not_lt_of_gt hba)

theorem find?_map (f : α → β) (d : Dict α) (key : String) :
    (d.map f).find? key = (d.find? key).map f := by
  obtain ⟨l, h⟩ := d
  change (l.map fun e => (e.1, f e.2)).lookup key = (l.lookup key).map f
  clear h
  induction l with
  | nil => rfl
  | cons head rest ih =>
    obtain ⟨j, v⟩ := head
    rw [List.map_cons, lookup_cons_eq, lookup_cons_eq, ih]
    split <;> rfl

theorem map_eq_self_iff {f : α → α} {d : Dict α} :
    d.map f = d ↔ ∀ e ∈ d.entries, f e.2 = e.2 := by
  have hentries : d.map f = d ↔ (d.entries.map fun e => (e.1, f e.2)) = d.entries.map id := by
    rw [List.map_id]
    exact ⟨congrArg entries, fun h => ext (d := d.map f) h⟩
  rw [hentries, List.map_inj_left]
  refine forall₂_congr fun e _ => ?_
  rw [id_eq, Prod.ext_iff]
  exact and_iff_right rfl

/-- Maps that have the same keys list them alike. -/
theorem keys_eq_of_contains {d : Dict α} {e : Dict β}
    (h : ∀ key, d.contains key = e.contains key) : d.keys = e.keys := by
  have hunit : d.map (fun _ => ()) = e.map (fun _ => ()) := by
    apply ext_find?
    intro key
    have hkey := h key
    unfold contains at hkey
    rw [find?_map, find?_map]
    cases hd : d.find? key <;> cases he : e.find? key <;> simp_all
  have hkeys := congrArg keys hunit
  simpa [keys, map, Function.comp_def] using hkeys

def below (d : Dict α) (key : String) : Dict α :=
  ⟨d.entries.filter fun e => e.1 < key, d.ascending.filter _⟩

theorem find?_below (d : Dict α) (key k : String) :
    (d.below key).find? k = if k < key then d.find? k else none := by
  apply Option.ext
  intro value
  rw [← mem_entries_iff]
  unfold below
  rw [List.mem_filter, mem_entries_iff]
  by_cases hk : k < key
  · simp [hk]
  · simp [hk]

/-- The entry of a key stands between those of the keys before it and those of the keys after. -/
theorem entries_split {d : Dict α} {key : String} {value : α} (h : d.find? key = some value) :
    ∃ above, d.entries = (d.below key).entries ++ (key, value) :: above ∧
      ∀ e ∈ above, key < e.1 := by
  obtain ⟨before, above, hsplit⟩ := List.append_of_mem ((mem_entries_iff d key value).mpr h)
  have hasc := d.ascending
  rw [hsplit, List.pairwise_append, List.pairwise_cons] at hasc
  obtain ⟨-, ⟨habove, -⟩, hcross⟩ := hasc
  have hbefore : ∀ e ∈ before, e.1 < key := fun e he => hcross e he _ List.mem_cons_self
  have hbelow : (d.below key).entries = before := by
    unfold below
    simp only
    rw [hsplit, List.filter_append, List.filter_eq_self.mpr, List.filter_eq_nil_iff.mpr,
      List.append_nil]
    · intro e he
      rw [decide_eq_true_eq]
      rcases List.mem_cons.mp he with rfl | he
      · exact lt_irrefl key
      · exact not_lt_of_gt (habove e he)
    · intro e he
      exact decide_eq_true (hbefore e he)
  exact ⟨above, by rw [hbelow, hsplit], habove⟩

/-- Writing what is already there changes nothing. -/
theorem insert_eq_self {d : Dict α} {key : String} {value : α} (h : d.find? key = some value) :
    d.insert key value = d := by
  apply ext_find?
  intro k
  rw [find?_insert]
  split
  · rename_i hk
    rw [hk, h]
  · rfl

def writeAll (d : Dict α) (writes : List (String × α)) : Dict α :=
  writes.foldl (fun d e => d.insert e.1 e.2) d

@[simp] theorem writeAll_nil (d : Dict α) : d.writeAll [] = d := rfl

@[simp] theorem writeAll_cons (d : Dict α) (e : String × α) (writes : List (String × α)) :
    d.writeAll (e :: writes) = (d.insert e.1 e.2).writeAll writes := rfl

theorem writeAll_append (d : Dict α) (first second : List (String × α)) :
    d.writeAll (first ++ second) = (d.writeAll first).writeAll second :=
  List.foldl_append

theorem size_le_size_writeAll (d : Dict α) (writes : List (String × α)) :
    d.size ≤ (d.writeAll writes).size := by
  induction writes generalizing d with
  | nil => exact Nat.le_refl _
  | cons e rest ih =>
    have hinsert : d.size ≤ (d.insert e.1 e.2).size := (length_alterEntries e.1 _ d.entries).1
    exact hinsert.trans (ih (d.insert e.1 e.2))

/-- A list is made a dictionary by writing its entries one after another, the last one under a key
being the one that stays. -/
theorem ofList_eq_writeAll (l : List (String × α)) : ofList l = (empty : Dict α).writeAll l := rfl

def valuesAt (key : String) (writes : List (String × α)) : List α :=
  (writes.filter fun e => e.1 = key).map (·.2)

theorem mem_valuesAt {key : String} {writes : List (String × α)} {value : α} :
    value ∈ valuesAt key writes ↔ (key, value) ∈ writes := by
  simp [valuesAt]

theorem valuesAt_of_mapM {f : α → Option β} {l : List (String × α)}
    {l' : List (String × β)} (h : l.mapM (fun e => (f e.2).map (e.1, ·)) = some l')
    (key : String) : (valuesAt key l).mapM f = some (valuesAt key l') := by
  induction l generalizing l' with
  | nil =>
    rw [List.mapM_nil, Option.pure_def, Option.some.injEq] at h
    rw [← h]
    rfl
  | cons e rest ih =>
    obtain ⟨k, a⟩ := e
    simp only [List.mapM_cons, Option.bind_eq_bind, Option.pure_def, Option.bind_eq_some_iff,
      Option.map_eq_some_iff, Option.some.injEq] at h
    obtain ⟨_, ⟨b, hb, rfl⟩, rest', hrest, rfl⟩ := h
    have ih := ih hrest
    unfold valuesAt at ih ⊢
    by_cases hk : k = key
    · rw [List.filter_cons_of_pos (by simpa using hk), List.filter_cons_of_pos (by simpa using hk),
        List.map_cons, List.map_cons, List.mapM_cons, hb, ih]
      rfl
    · rw [List.filter_cons_of_neg (by simpa using hk), List.filter_cons_of_neg (by simpa using hk),
        ih]

/-- In an ascending list a key has at most one value. -/
theorem valuesAt_entries (d : Dict α) (key : String) :
    valuesAt key d.entries = (d.find? key).toList := by
  obtain ⟨l, h⟩ := d
  change valuesAt key l = (l.lookup key).toList
  induction l with
  | nil => rfl
  | cons head rest ih =>
    obtain ⟨j, v⟩ := head
    obtain ⟨hlt, hrest⟩ := List.pairwise_cons.mp h
    have ih := ih hrest
    by_cases hk : j = key
    · subst hk
      rw [lookup_eq_none_of_lt hlt] at ih
      rw [List.lookup_cons_self]
      unfold valuesAt at *
      simpa using ih
    · rw [lookup_cons_eq, if_neg (Ne.symm hk), ← ih]
      simp [valuesAt, hk]

/-- The last write of a key decides what is found under it. -/
theorem find?_writeAll (d : Dict α) (writes : List (String × α)) (key : String) :
    (d.writeAll writes).find? key = (valuesAt key writes).getLast?.or (d.find? key) := by
  induction writes generalizing d with
  | nil => simp [valuesAt]
  | cons e rest ih =>
    rw [writeAll_cons, ih, find?_insert]
    by_cases hk : e.1 = key
    · subst hk
      cases hrest : valuesAt e.1 rest with
      | nil =>
        have hall : valuesAt e.1 (e :: rest) = [e.2] := by
          simpa [valuesAt] using hrest
        simp [hall]
      | cons v vs =>
        have hall : valuesAt e.1 (e :: rest) = e.2 :: v :: vs := by
          rw [← hrest]
          simp [valuesAt]
        rw [hall, List.getLast?_cons_cons, List.getLast?_cons]
        rfl
    · have hall : valuesAt key (e :: rest) = valuesAt key rest := by
        simp [valuesAt, hk]
      rw [hall, if_neg (Ne.symm hk)]

/-- A map is built from its own entries. -/
theorem ofList_entries (d : Dict α) : ofList d.entries = d := by
  apply ext_find?
  intro key
  rw [ofList_eq_writeAll, find?_writeAll, valuesAt_entries, find?_empty, Option.or_none]
  cases d.find? key <;> rfl

theorem ofList_map (f : α → β) (l : List (String × α)) :
    ofList (l.map fun e => (e.1, f e.2)) = (ofList l).map f := by
  have hvalues (key : String) :
      valuesAt key (l.map fun e => (e.1, f e.2)) = (valuesAt key l).map f := by
    simp [valuesAt, List.filter_map, Function.comp_def]
  apply ext_find?
  intro key
  rw [find?_map, ofList_eq_writeAll, ofList_eq_writeAll, find?_writeAll, find?_writeAll, hvalues,
    find?_empty, find?_empty, Option.or_none, Option.or_none, List.getLast?_map]

theorem mem_keys_writeAll (d : Dict α) (writes : List (String × α)) (key : String) :
    key ∈ (d.writeAll writes).keys ↔ key ∈ d.keys ∨ ∃ value, (key, value) ∈ writes := by
  rw [mem_keys_iff, mem_keys_iff, find?_writeAll]
  simp only [← mem_valuesAt]
  cases hlast : (valuesAt key writes).getLast? with
  | none =>
    rw [List.getLast?_eq_none_iff] at hlast
    simp [hlast]
  | some last =>
    exact iff_of_true ⟨last, rfl⟩ (Or.inr ⟨last, List.mem_of_getLast? hlast⟩)

end FieldRules.Dict
