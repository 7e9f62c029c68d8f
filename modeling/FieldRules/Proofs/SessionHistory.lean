import FieldRules.Proofs.TokenText
import FieldRules.Session

/-!
Histories of sessions. After any operations each catalogue holds what it was made with and what was
registered, without being rejected, through the engines that had it at the time, the last validator
of a name counting. A registration shows to the engines that share the catalogue and to no others.
All names can be called by tokens, and no token without a name calls anything. Main statement:
`session_history`.
-/
namespace FieldRules

def EngineOrigin.initial? : EngineOrigin → Option Catalogue
  | .standard | .configured _ => some .builtins
  | .empty => some .empty
  | .cloneOf _ | .sharing _ => none

def EngineOrigin.source? : EngineOrigin → Option String
  | .cloneOf other | .sharing other => some other
  | _ => none

inductive SessionOp where
  | create (engine : String) (origin : EngineOrigin) (policy : Option Policy)
  | register (engine name : String) (v : Validator)

structure Registration where
  catalogue : Nat
  name : String
  validator : Validator

namespace Catalogue

def withAll (c : Catalogue) (l : List (String × Validator)) : Catalogue := ⟨c.validators.writeAll l⟩

@[simp] theorem withAll_nil (c : Catalogue) : c.withAll [] = c := rfl

theorem withAll_append (c : Catalogue) (first second : List (String × Validator)) :
    c.withAll (first ++ second) = (c.withAll first).withAll second := by
  unfold withAll
  rw [Dict.writeAll_append]

/-- The last registration under a name counts. -/
theorem find?_withAll (c : Catalogue) (l : List (String × Validator)) (name : String) :
    (c.withAll l).find? name = (Dict.valuesAt name l).getLast?.or (c.find? name) :=
  Dict.find?_writeAll c.validators l name

theorem mem_names_withAll (c : Catalogue) (l : List (String × Validator)) (name : String) :
    name ∈ (c.withAll l).names ↔ name ∈ c.names ∨ ∃ v, (name, v) ∈ l :=
  Dict.mem_keys_writeAll c.validators l name

theorem isValidName_iff (name : String) :
    isValidName name = true ↔ name ≠ "" ∧ ':' ∉ name.toList := by
  simp [isValidName]

end Catalogue

namespace Session

/-- What an operation leaves. Nothing changes if the engine that it needs is not there, or if the
name is rejected. -/
def after (s : Session) : SessionOp → Session
  | .create engine origin policy => (s.addEngine? engine origin policy).getD s
  | .register engine name v =>
    match s.register? engine name v with
    | some (.ok t) => t
    | _ => s

def run (s : Session) (ops : List SessionOp) : Session := ops.foldl after s

def births (ops : List SessionOp) : List Catalogue :=
  ops.filterMap fun
    | .create _ origin _ => origin.initial?
    | .register .. => none

def registration? (s : Session) : SessionOp → Option Registration
  | .create .. => none
  | .register engine name v =>
    match s.engines.find? engine, s.register? engine name v with
    | some slot, some (.ok _) => some ⟨slot.catalogue, name, v⟩
    | _, _ => none

def registrations (s : Session) : List SessionOp → List Registration
  | [] => []
  | op :: rest => (s.registration? op).toList ++ registrations (s.after op) rest

def registeredIn (k : Nat) (l : List Registration) : List (String × Validator) :=
  (l.filter fun r => r.catalogue = k).map fun r => (r.name, r.validator)

def Shares (s : Session) (a b : String) : Prop :=
  ∃ slot other, s.engines.find? a = some slot ∧ s.engines.find? b = some other ∧
    slot.catalogue = other.catalogue

def Sound (s : Session) : Prop :=
  ∀ engine slot, s.engines.find? engine = some slot → slot.catalogue < s.catalogues.length

section Registering

variable {s : Session} {engine name : String} {slot : EngineSlot} {c : Catalogue}

/-- A valid name is registered in the catalogue of the engine, whoever shares it. -/
theorem register?_of_valid (hslot : s.engines.find? engine = some slot)
    (hc : s.catalogues[slot.catalogue]? = some c) (hname : Catalogue.isValidName name = true)
    (v : Validator) : s.register? engine name v = some (.ok
      { s with catalogues := s.catalogues.set slot.catalogue (c.withAll [(name, v)]) }) := by
  unfold register? Catalogue.register
  simp only [hslot, hc, hname, if_true, Option.bind_eq_bind, Option.bind_some, Option.pure_def]
  rfl

/-- An empty name and one with a colon are rejected. -/
theorem register?_of_invalid (hslot : s.engines.find? engine = some slot)
    (hc : s.catalogues[slot.catalogue]? = some c) (hname : Catalogue.isValidName name = false)
    (v : Validator) : s.register? engine name v = some (.error (.invalidName name)) := by
  unfold register? Catalogue.register
  simp only [hslot, hc, hname, Option.bind_eq_bind, Option.bind_some, Option.pure_def]
  rfl

/-- A registration goes to the catalogue of an engine that is there, under a valid name, or it is
not made. -/
theorem register?_cases (s : Session) (engine name : String) (v : Validator) :
    (∀ t, s.register? engine name v ≠ some (.ok t)) ∨ ∃ slot c,
      s.engines.find? engine = some slot ∧ s.catalogues[slot.catalogue]? = some c ∧
        Catalogue.isValidName name = true := by
  cases hslot : s.engines.find? engine with
  | none => exact Or.inl (by simp [register?, hslot])
  | some slot =>
    cases hc : s.catalogues[slot.catalogue]? with
    | none => exact Or.inl (by simp [register?, hslot, hc])
    | some c =>
      cases hname : Catalogue.isValidName name with
      | false => exact Or.inl (by simp [register?_of_invalid hslot hc hname])
      | true => exact Or.inr ⟨slot, c, rfl, hc, rfl⟩

theorem after_register_of_rejected {v : Validator}
    (h : ∀ t, s.register? engine name v ≠ some (.ok t)) :
    s.after (.register engine name v) = s ∧ s.registration? (.register engine name v) = none := by
  rw [after, registration?]
  refine ⟨?_, ?_⟩
  · split
    · rename_i t ht
      exact absurd ht (h t)
    · rfl
  · split
    · rename_i slot t _ ht
      exact absurd ht (h t)
    · rfl

theorem after_register_of_valid (hslot : s.engines.find? engine = some slot)
    (hc : s.catalogues[slot.catalogue]? = some c) (hname : Catalogue.isValidName name = true)
    (v : Validator) :
    s.after (.register engine name v) =
        { s with catalogues := s.catalogues.set slot.catalogue (c.withAll [(name, v)]) } ∧
      s.registration? (.register engine name v) = some ⟨slot.catalogue, name, v⟩ := by
  rw [after, registration?, register?_of_valid hslot hc hname, hslot]
  exact ⟨rfl, rfl⟩

end Registering

theorem registeredIn_append (k : Nat) (first second : List Registration) :
    registeredIn k (first ++ second) = registeredIn k first ++ registeredIn k second := by
  simp [registeredIn]

theorem mem_registeredIn {k : Nat} {l : List Registration} {name : String} {v : Validator} :
    (name, v) ∈ registeredIn k l ↔ ⟨k, name, v⟩ ∈ l := by
  unfold registeredIn
  rw [List.mem_map]
  constructor
  · rintro ⟨⟨k', name', v'⟩, hr, he⟩
    obtain ⟨hmem, hk⟩ := List.mem_filter.mp hr
    obtain ⟨rfl, rfl⟩ : name' = name ∧ v' = v := Prod.mk.inj he
    obtain rfl : k' = k := of_decide_eq_true hk
    exact hmem
  · intro h
    exact ⟨⟨k, name, v⟩, List.mem_filter.mpr ⟨h, decide_eq_true rfl⟩, rfl⟩

/-- A registration that is made goes to the catalogue of an engine, under a valid name. -/
theorem registration?_eq_some {s : Session} {op : SessionOp} {r : Registration}
    (h : s.registration? op = some r) :
    ∃ engine slot c, op = .register engine r.name r.validator ∧
      s.engines.find? engine = some slot ∧ slot.catalogue = r.catalogue ∧
      s.catalogues[slot.catalogue]? = some c ∧ Catalogue.isValidName r.name = true := by
  cases op with
  | create engine origin policy => cases h
  | register engine name v =>
    rcases register?_cases s engine name v with hrejected | ⟨slot, c, hslot, hc, hname⟩
    · rw [(after_register_of_rejected hrejected).2] at h
      cases h
    · rw [(after_register_of_valid hslot hc hname v).2, Option.some.injEq] at h
      subst h
      exact ⟨engine, slot, c, rfl, hslot, rfl, hc, hname⟩

theorem mapIdx_withAll_nil (l : List Catalogue) :
    (l.mapIdx fun k c => c.withAll (registeredIn k [])) = l := by
  apply List.ext_getElem?
  intro k
  simp [registeredIn]

/-- One operation adds the catalogue that it makes, and registers in one that is there. -/
theorem catalogues_after (s : Session) (op : SessionOp) :
    (s.after op).catalogues = (s.catalogues ++ births [op]).mapIdx fun k c =>
      c.withAll (registeredIn k (s.registration? op).toList) := by
  cases op with
  | create engine origin policy =>
    rw [show s.registration? (.create engine origin policy) = none from rfl, Option.toList_none,
      mapIdx_withAll_nil]
    cases origin with
    | standard | configured p | empty => rfl
    | cloneOf other | sharing other =>
      rw [after, addEngine?]
      cases s.engines.find? other <;> exact (List.append_nil _).symm
  | register engine name v =>
    rw [show births [.register engine name v] = [] from rfl, List.append_nil]
    rcases register?_cases s engine name v with hrejected | ⟨slot, c, hslot, hc, hname⟩
    · obtain ⟨hafter, hnone⟩ := after_register_of_rejected hrejected
      rw [hafter, hnone]
      exact (mapIdx_withAll_nil _).symm
    · obtain ⟨hafter, hmade⟩ := after_register_of_valid hslot hc hname v
      rw [hafter, hmade]
      apply List.ext_getElem?
      intro k
      rw [List.getElem?_set, List.getElem?_mapIdx]
      by_cases hk : slot.catalogue = k
      · subst hk
        rw [if_pos rfl, if_pos (List.getElem?_eq_some_iff.mp hc).1, hc]
        simp [registeredIn]
      · simp [hk, registeredIn]

/-- The catalogues after operations are those of the start and those made since, each with what was
registered in it. The induction is on the operations: the first one registers nothing in catalogues
that are made after it. -/
theorem catalogues_run (s : Session) (ops : List SessionOp) :
    (s.run ops).catalogues = (s.catalogues ++ births ops).mapIdx fun k c =>
      c.withAll (registeredIn k (s.registrations ops)) := by
  induction ops generalizing s with
  | nil =>
    rw [registrations, mapIdx_withAll_nil]
    exact (List.append_nil _).symm
  | cons op rest ih =>
    have hbirths : births (op :: rest) = births [op] ++ births rest :=
      List.filterMap_append (l := [op])
    rw [show s.run (op :: rest) = (s.after op).run rest from rfl, ih, catalogues_after, hbirths,
      ← List.append_assoc]
    apply List.ext_getElem?
    intro k
    rw [List.getElem?_mapIdx, List.getElem?_mapIdx, List.getElem?_append, List.getElem?_append,
      List.length_mapIdx, registrations]
    by_cases hk : k < (s.catalogues ++ births [op]).length
    · rw [if_pos hk, if_pos hk, List.getElem?_mapIdx, Option.map_map, registeredIn_append]
      simp only [Catalogue.withAll_append, Function.comp_def]
    · have hnone : registeredIn k (s.registration? op).toList = [] := by
        rw [List.eq_nil_iff_forall_not_mem]
        rintro ⟨name, v⟩ hmem
        rw [mem_registeredIn, Option.mem_toList] at hmem
        obtain ⟨engine, slot, c, -, -, rfl, hc, -⟩ := registration?_eq_some hmem
        have hlt := (List.getElem?_eq_some_iff.mp hc).1
        rw [List.length_append] at hk
        omega
      rw [if_neg hk, if_neg hk, registeredIn_append, hnone, List.nil_append]

/-- A catalogue never loses a name, nor its place. -/
theorem exists_size_le_run {s : Session} {k : Nat} {c : Catalogue}
    (hc : s.catalogues[k]? = some c) (ops : List SessionOp) :
    ∃ c', (s.run ops).catalogues[k]? = some c' ∧ c.size ≤ c'.size := by
  have hlt := (List.getElem?_eq_some_iff.mp hc).1
  refine ⟨c.withAll (registeredIn k (s.registrations ops)), ?_, Dict.size_le_size_writeAll _ _⟩
  rw [catalogues_run, List.getElem?_mapIdx, List.getElem?_append_left hlt, hc]
  rfl

/-- No rejected name is ever among the registrations. -/
theorem isValidName_of_mem_registrations {s : Session} {ops : List SessionOp} {r : Registration}
    (h : r ∈ s.registrations ops) : Catalogue.isValidName r.name = true := by
  induction ops generalizing s with
  | nil => cases h
  | cons op rest ih =>
    rcases List.mem_append.mp h with h | h
    · obtain ⟨engine, slot, c, -, -, -, -, hname⟩ := registration?_eq_some (Option.mem_toList.mp h)
      exact hname
    · exact ih h

theorem mem_births {ops : List SessionOp} {c : Catalogue} (h : c ∈ births ops) :
    c = .builtins ∨ c = .empty := by
  obtain ⟨op, -, hop⟩ := List.mem_filterMap.mp h
  cases op with
  | create engine origin policy =>
    cases origin with
    | standard | configured p => exact Or.inl (Option.some.inj hop).symm
    | empty => exact Or.inr (Option.some.inj hop).symm
    | cloneOf other | sharing other => cases hop
  | register engine name v => cases hop

end Session

namespace Catalogue

/-- Every name can be called by tokens, with and without arguments, and no validator is called
without a name. -/
structure Callable (c : Catalogue) : Prop where
  valid : ∀ name ∈ c.names, name ≠ "" ∧ ':' ∉ name.toList
  bare : ∀ name v, c.find? name = some v → ∀ f, c.judge? f name = some (v.check f [])
  called : ∀ name v, c.find? name = some v → ∀ f (rest : String),
    c.judge? f (name ++ ":" ++ rest) =
      some (v.check f (RuleToken.ofText v.maxArgs (name ++ ":" ++ rest)).args)
  nameless : ∀ f (rest : String), c.judge? f "" = none ∧ c.judge? f (":" ++ rest) = none

/-- Valid names are found again at the head of a token. -/
theorem callable_of_valid {c : Catalogue} (h : ∀ name ∈ c.names, isValidName name = true) :
    c.Callable := by
  have hvalid : ∀ name v, c.find? name = some v → name ≠ "" ∧ ':' ∉ name.toList :=
    fun name v hv => (isValidName_iff name).mp
      (h name ((Dict.mem_keys_iff c.validators name).mpr ⟨v, hv⟩))
  have hnone : c.find? "" = none := by
    cases hv : c.find? "" with
    | none => rfl
    | some v => exact absurd rfl (hvalid "" v hv).1
  refine ⟨fun name hname => (isValidName_iff name).mp (h name hname), ?_, ?_, ?_⟩
  · intro name v hv f
    have hread := RuleToken.ofText_of_free v.maxArgs (hvalid name v hv).2
    have hname : RuleToken.nameOf name = name := congrArg RuleToken.name hread
    rw [judge?_eq_some_iff]
    exact ⟨v, by rw [hname, hv], by rw [hread]⟩
  · intro name v hv f rest
    have hread := RuleToken.ofText_append v.maxArgs (hvalid name v hv).2 rest
    have hname : RuleToken.nameOf (name ++ ":" ++ rest) = name :=
      congrArg RuleToken.name hread
    rw [judge?_eq_some_iff]
    exact ⟨v, by rw [hname, hv], rfl⟩
  · intro f rest
    have hread := RuleToken.ofText_append none (show ':' ∉ "".toList from List.not_mem_nil) rest
    have hname : RuleToken.nameOf (":" ++ rest) = "" := congrArg RuleToken.name hread
    refine ⟨?_, ?_⟩
    · unfold judge?
      rw [show RuleToken.nameOf "" = "" by rfl, hnone]
      rfl
    · unfold judge?
      rw [hname, hnone]
      rfl

theorem isValidName_of_mem_builtins {name : String} (h : name ∈ builtins.names) :
    isValidName name = true := by
  obtain ⟨v, hv⟩ := (Dict.mem_keys_iff builtins.validators name).mp h
  have hfind := find?_builtins name
  rw [show builtins.find? name = some v from hv, eq_comm, Option.map_eq_some_iff] at hfind
  obtain ⟨b, hb, -⟩ := hfind
  rw [← (Builtin.ofName?_eq_some_iff name b).mp hb]
  cases b <;> decide

end Catalogue

theorem EngineOrigin.initial?_or_source? (origin : EngineOrigin) :
    (∃ c, origin.initial? = some c) ∨ ∃ source, origin.source? = some source := by
  cases origin with
  | standard | configured p | empty => exact Or.inl ⟨_, rfl⟩
  | cloneOf other | sharing other => exact Or.inr ⟨_, rfl⟩

namespace Session

variable {s : Session} {engine name : String} {slot : EngineSlot}

theorem engine?_of_find? (hslot : s.engines.find? engine = some slot) :
    s.engine? engine = s.catalogues[slot.catalogue]?.map fun c => ⟨c, slot.policy⟩ := by
  unfold engine?
  rw [hslot]
  exact Option.map_eq_bind.symm

theorem engine?_of_not_find? (h : s.engines.find? engine = none) : s.engine? engine = none := by
  unfold engine?
  rw [h]
  rfl

theorem engine?_congr {t : Session} (hslot : t.engines.find? engine = s.engines.find? engine)
    (hcatalogue : ∀ slot, s.engines.find? engine = some slot →
      t.catalogues[slot.catalogue]? = s.catalogues[slot.catalogue]?) :
    t.engine? engine = s.engine? engine := by
  cases hs : s.engines.find? engine with
  | none => rw [engine?_of_not_find? hs, engine?_of_not_find? (hslot.trans hs)]
  | some slot =>
    rw [engine?_of_find? hs, engine?_of_find? (hslot.trans hs), hcatalogue slot hs]

theorem after_create_of_initial {origin : EngineOrigin} {c : Catalogue}
    (h : origin.initial? = some c) (s : Session) (engine : String) (policy : Option Policy) :
    ∃ p, s.after (.create engine origin policy) = s.addCatalogue engine c p := by
  cases origin with
  | standard | configured p | empty =>
    cases h
    exact ⟨_, rfl⟩
  | cloneOf other | sharing other => cases h

theorem after_create_of_source {origin : EngineOrigin} {source : String}
    (h : origin.source? = some source) (s : Session) (engine : String) (policy : Option Policy) :
    ∃ p, s.after (.create engine origin policy) =
      match s.engines.find? source with
      | none => s
      | some slot => { s with engines := s.engines.insert engine ⟨slot.catalogue, p⟩ } := by
  cases origin with
  | cloneOf other | sharing other =>
    cases h
    rw [after, addEngine?]
    cases s.engines.find? source with
    | none => exact ⟨.ignore, rfl⟩
    | some slot => exact ⟨_, rfl⟩
  | standard | configured p | empty => cases h

theorem engines_after_register (s : Session) (engine name : String) (v : Validator) :
    (s.after (.register engine name v)).engines = s.engines := by
  rcases register?_cases s engine name v with hrejected | ⟨slot, c, hslot, hc, hname⟩
  · rw [(after_register_of_rejected hrejected).1]
  · rw [(after_register_of_valid hslot hc hname v).1]

theorem length_catalogues_after (s : Session) (op : SessionOp) :
    (s.after op).catalogues.length = s.catalogues.length + (births [op]).length := by
  rw [catalogues_after, List.length_mapIdx, List.length_append]

theorem sound_start : start.Sound := by
  intro engine slot h
  cases h

theorem sound_after (h : s.Sound) (op : SessionOp) : (s.after op).Sound := by
  intro e slot hslot
  rw [length_catalogues_after]
  cases op with
  | register engine name v =>
    rw [engines_after_register] at hslot
    exact Nat.lt_add_right _ (h e slot hslot)
  | create engine origin policy =>
    rcases origin.initial?_or_source? with ⟨c, hc⟩ | ⟨source, hsource⟩
    · obtain ⟨p, hp⟩ := after_create_of_initial hc s engine policy
      have hlength : (births [.create engine origin policy]).length = 1 := by
        simp [births, hc]
      rw [hp, addCatalogue, Dict.find?_insert] at hslot
      split at hslot
      · obtain rfl := Option.some.inj hslot
        simp only
        omega
      · have hlt := h e slot hslot
        omega
    · obtain ⟨p, hp⟩ := after_create_of_source hsource s engine policy
      rw [hp] at hslot
      cases hs : s.engines.find? source with
      | none =>
        simp only [hs] at hslot
        exact Nat.lt_add_right _ (h e slot hslot)
      | some found =>
        simp only [hs, Dict.find?_insert] at hslot
        split at hslot
        · obtain rfl := Option.some.inj hslot
          exact Nat.lt_add_right _ (h source found hs)
        · exact Nat.lt_add_right _ (h e slot hslot)

theorem sound_run (h : s.Sound) (ops : List SessionOp) : (s.run ops).Sound := by
  induction ops generalizing s with
  | nil => exact h
  | cons op rest ih => exact ih (sound_after h op)

/-- A registration that is not rejected puts one name of one catalogue in its place; it shows to
the engines that share the catalogue and to no others. -/
structure Registers (s t : Session) (engine name : String) (v : Validator) : Prop where
  engines_eq : t.engines = s.engines
  elsewhere : ∀ k : Nat, (∀ slot, s.engines.find? engine = some slot → k ≠ slot.catalogue) →
    t.catalogues[k]? = s.catalogues[k]?
  shared : ∀ other, s.Shares engine other → ∃ e f, s.engine? other = some e ∧
    t.engine? other = some f ∧ f.policy = e.policy ∧
      ∀ n, f.catalogue.find? n = if n = name then some v else e.catalogue.find? n
  apart : ∀ other, ¬ s.Shares engine other → t.engine? other = s.engine? other

structure Founds (s t : Session) (engine : String) (c : Catalogue) : Prop where
  catalogues_eq : t.catalogues = s.catalogues ++ [c]
  own : ∃ policy, t.engine? engine = some ⟨c, policy⟩
  apart : ∀ other, other ≠ engine →
    ¬ t.Shares engine other ∧ t.engine? other = s.engine? other

structure Joins (s t : Session) (engine source : String) : Prop where
  catalogues_eq : t.catalogues = s.catalogues
  own : ∃ e policy, s.engine? source = some e ∧ t.engine? engine = some ⟨e.catalogue, policy⟩
  shares_iff : ∀ other, other ≠ engine →
    (t.Shares engine other ↔ s.Shares source other) ∧ t.engine? other = s.engine? other

theorem registers_of_valid {c : Catalogue} (hslot : s.engines.find? engine = some slot)
    (hc : s.catalogues[slot.catalogue]? = some c) (name : String) (v : Validator) :
    Registers s { s with catalogues := s.catalogues.set slot.catalogue (c.withAll [(name, v)]) }
      engine name v := by
  refine ⟨rfl, ?_, ?_, ?_⟩
  · intro k hk
    simp only
    rw [List.getElem?_set_ne (hk slot hslot).symm]
  · rintro other ⟨slot', found, hslot', hfound, hsame⟩
    obtain rfl : slot = slot' := Option.some.inj (hslot.symm.trans hslot')
    refine ⟨⟨c, found.policy⟩, ⟨c.withAll [(name, v)], found.policy⟩, ?_, ?_, rfl, ?_⟩
    · rw [engine?_of_find? hfound, ← hsame, hc]
      rfl
    · have hlt := (List.getElem?_eq_some_iff.mp hc).1
      have hat : (s.catalogues.set slot.catalogue (c.withAll [(name, v)]))[found.catalogue]? =
          some (c.withAll [(name, v)]) := by
        rw [← hsame, List.getElem?_set_self hlt]
      unfold engine?
      simp only [hfound, hat, Option.bind_eq_bind, Option.bind_some, Option.pure_def]
    · intro n
      exact Dict.find?_insert c.validators name v n
  · intro other hshares
    refine engine?_congr rfl fun found hfound => ?_
    have hne : slot.catalogue ≠ found.catalogue :=
      fun hsame => hshares ⟨slot, found, hslot, hfound, hsame⟩
    exact List.getElem?_set_ne hne

theorem founds_addCatalogue (h : s.Sound) (engine : String) (c : Catalogue) (policy : Policy) :
    Founds s (s.addCatalogue engine c policy) engine c := by
  have hown : (s.addCatalogue engine c policy).engines.find? engine =
      some ⟨s.catalogues.length, policy⟩ := Dict.find?_insert_self _ _ _
  have hothers : ∀ other, other ≠ engine →
      (s.addCatalogue engine c policy).engines.find? other = s.engines.find? other := by
    intro other hne
    exact (Dict.find?_insert _ _ _ _).trans (if_neg hne)
  refine ⟨rfl, ⟨policy, ?_⟩, fun other hne => ⟨?_, ?_⟩⟩
  · rw [engine?_of_find? hown, addCatalogue, List.getElem?_concat_length]
    rfl
  · rintro ⟨slot, found, hslot, hfound, hsame⟩
    obtain rfl := Option.some.inj (hown.symm.trans hslot)
    have hlt := h other found ((hothers other hne).symm.trans hfound)
    simp only at hsame
    omega
  · refine engine?_congr (hothers other hne) fun found hfound => ?_
    exact List.getElem?_append_left (h other found hfound)

theorem joins_insert (h : s.Sound) {source : String}
    (hslot : s.engines.find? source = some slot) (engine : String) (policy : Policy) :
    Joins s { s with engines := s.engines.insert engine ⟨slot.catalogue, policy⟩ } engine
      source := by
  obtain ⟨c, hc⟩ : ∃ c, s.catalogues[slot.catalogue]? = some c :=
    ⟨_, List.getElem?_eq_getElem (h source slot hslot)⟩
  have hown : (s.engines.insert engine ⟨slot.catalogue, policy⟩).find? engine =
      some ⟨slot.catalogue, policy⟩ := Dict.find?_insert_self _ _ _
  have hothers : ∀ other, other ≠ engine →
      (s.engines.insert engine ⟨slot.catalogue, policy⟩).find? other = s.engines.find? other := by
    intro other hne
    rw [Dict.find?_insert, if_neg hne]
  refine ⟨rfl, ⟨⟨c, slot.policy⟩, policy, ?_, ?_⟩, fun other hne => ⟨?_, ?_⟩⟩
  · rw [engine?_of_find? hslot, hc]
    rfl
  · rw [engine?_of_find? hown, hc]
    rfl
  · unfold Shares
    simp only
    rw [hown, hothers other hne, hslot]
    simp
  · exact engine?_congr (hothers other hne) fun _ _ => rfl

/-- What holds of the session `s` that operations have led to. -/
structure History (ops : List SessionOp) (s : Session) : Prop where
  /-- The catalogues are those that were made, with what was registered in them since. -/
  length_eq : s.catalogues.length = (births ops).length
  contents : ∀ (k : Nat) (c : Catalogue), s.catalogues[k]? = some c →
    ∃ first, (births ops)[k]? = some first ∧
    (∀ name, name ∈ c.names ↔
      name ∈ first.names ∨ ∃ v, ⟨k, name, v⟩ ∈ start.registrations ops) ∧
    ∀ name, c.find? name =
      (Dict.valuesAt name (registeredIn k (start.registrations ops))).getLast?.or
        (first.find? name)
  callable : ∀ c ∈ s.catalogues, c.Callable
  names : ∀ c ∈ s.catalogues, c.names.Pairwise (· < ·) ∧ c.size = c.names.length ∧
    c.listing.length = c.names.length
  grows : ∀ (k : Nat) (c : Catalogue), s.catalogues[k]? = some c → ∀ more,
    ∃ grown : Catalogue, (s.run more).catalogues[k]? = some grown ∧ c.size ≤ grown.size
  /-- Registering through an engine that is there is rejected for the name alone. -/
  rejected : ∀ engine slot, s.engines.find? engine = some slot → ∀ name v,
    (s.register? engine name v = some (.error (.invalidName name)) ↔
      name = "" ∨ ':' ∈ name.toList) ∧
    (name = "" ∨ ':' ∈ name.toList → s.after (.register engine name v) = s)
  registers : ∀ engine slot, s.engines.find? engine = some slot → ∀ name v,
    ¬ (name = "" ∨ ':' ∈ name.toList) →
      s.register? engine name v = some (.ok (s.after (.register engine name v))) ∧
        Registers s (s.after (.register engine name v)) engine name v
  founds : ∀ engine origin policy c, origin.initial? = some c →
    Founds s (s.after (.create engine origin policy)) engine c
  joins : ∀ engine origin policy source slot, origin.source? = some source →
    s.engines.find? source = some slot →
      Joins s (s.after (.create engine origin policy)) engine source

/-- However engines are made and validators registered. -/
theorem session_history (ops : List SessionOp) : History ops (start.run ops) := by
  have hsound : (start.run ops).Sound := sound_run sound_start ops
  have hcontents : ∀ (k : Nat) (c : Catalogue), (start.run ops).catalogues[k]? = some c →
      ∃ first : Catalogue, (births ops)[k]? = some first ∧
        c = first.withAll (registeredIn k (start.registrations ops)) := by
    intro k c hc
    rw [catalogues_run, List.getElem?_mapIdx, Option.map_eq_some_iff] at hc
    obtain ⟨first, hfirst, rfl⟩ := hc
    exact ⟨first, hfirst, rfl⟩
  have hcatalogue : ∀ engine slot, (start.run ops).engines.find? engine = some slot →
      ∃ c, (start.run ops).catalogues[slot.catalogue]? = some c :=
    fun engine slot hslot => ⟨_, List.getElem?_eq_getElem (hsound engine slot hslot)⟩
  have hvalid : ∀ name, Catalogue.isValidName name = false ↔ name = "" ∨ ':' ∈ name.toList := by
    intro name
    rw [← Bool.not_eq_true, Catalogue.isValidName_iff]
    tauto
  refine ⟨?_, ?_, ?_, ?_, ?_, ?_, ?_, ?_, ?_⟩
  · rw [catalogues_run, List.length_mapIdx]
    rfl
  · intro k c hc
    obtain ⟨first, hfirst, rfl⟩ := hcontents k c hc
    refine ⟨first, hfirst, fun name => ?_, Catalogue.find?_withAll first _⟩
    rw [Catalogue.mem_names_withAll]
    simp only [mem_registeredIn]
  · intro c hc
    obtain ⟨k, hk⟩ := List.mem_iff_getElem?.mp hc
    obtain ⟨first, hfirst, rfl⟩ := hcontents k c hk
    apply Catalogue.callable_of_valid
    intro name hname
    rcases (Catalogue.mem_names_withAll first _ name).mp hname with hname | ⟨v, hv⟩
    · rcases mem_births (List.mem_of_getElem? hfirst) with rfl | rfl
      · exact Catalogue.isValidName_of_mem_builtins hname
      · cases hname
    · exact isValidName_of_mem_registrations (mem_registeredIn.mp hv)
  · intro c hc
    refine ⟨?_, ?_, ?_⟩
    · exact List.pairwise_map.mpr c.validators.ascending
    · exact (List.length_map _).symm
    · exact (List.length_map _).trans (List.length_map _).symm
  · intro k c hc more
    exact exists_size_le_run hc more
  · intro engine slot hslot name v
    obtain ⟨c, hc⟩ := hcatalogue engine slot hslot
    rw [← hvalid]
    cases hname : Catalogue.isValidName name with
    | false =>
      have hregister := register?_of_invalid hslot hc hname v
      refine ⟨iff_of_true hregister rfl, fun _ => ?_⟩
      rw [after, hregister]
    | true =>
      rw [register?_of_valid hslot hc hname]
      exact ⟨iff_of_false nofun nofun, nofun⟩
  · intro engine slot hslot name v hname
    obtain ⟨c, hc⟩ := hcatalogue engine slot hslot
    rw [← hvalid, Bool.not_eq_false] at hname
    have hregister := register?_of_valid hslot hc hname v
    rw [after, hregister]
    exact ⟨rfl, registers_of_valid hslot hc name v⟩
  · intro engine origin policy c hc
    obtain ⟨p, hp⟩ := after_create_of_initial hc (start.run ops) engine policy
    rw [hp]
    exact founds_addCatalogue hsound engine c p
  · intro engine origin policy source slot hsource hslot
    obtain ⟨p, hp⟩ := after_create_of_source hsource (start.run ops) engine policy
    simp only [hslot] at hp
    rw [hp]
    exact joins_insert hsound hslot engine p

end Session

end FieldRules
