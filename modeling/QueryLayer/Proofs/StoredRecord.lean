import Mathlib.Data.List.Sort
import QueryLayer.Proofs.RecordShape

/-! # How a record is stored

A record keeps apart what its fields hold together: the initial values in one map, the values in
another and the names of what was changed in a set, beside the aliases, which are collected while
the attributes are gone through. Each write looks into one of them to decide about the others, and
whatever is done, they stay in step: such a record is the one with fields at every moment. Main
statements: `Represents.assign`, `Represents.init`.
-/

set_option autoImplicit false

namespace QueryLayer

structure StoredRecord where
  model : String
  primaryKey : Option String
  defaults : List (String × Value)
  aliases : List (String × String)
  attrs : List (String × Value)
  /-- A set of names, as the keys of a map. -/
  dirty : List (String × Unit) := []
  messages : List String := []

instance : HasMessages StoredRecord where
  messages := StoredRecord.messages
  setMessages messages s := { s with messages := messages }

namespace StoredRecord

def canonical (s : StoredRecord) (name : String) : String :=
  (Entries.find? name s.aliases).getD name

def get (s : StoredRecord) (name : String) : Value :=
  (Entries.find? (s.canonical name) s.attrs).getD .null

def isDeclared (s : StoredRecord) (name : String) : Bool :=
  (Entries.find? (s.canonical name) s.defaults).isSome

def has (s : StoredRecord) (name : String) : Bool := !(s.get name).isNull

def isNew (s : StoredRecord) : Bool := s.primaryKey.all fun key => !s.has key

def put (s : StoredRecord) (name : String) (v : Value) : StoredRecord :=
  let unchanged := (Entries.find? name s.attrs).any fun old => old.same v
  { s with
    attrs := Entries.insert name v s.attrs
    dirty := if unchanged then s.dirty else Entries.insert name () s.dirty }

/-- Only what has an initial value can be set, and `null` stands for that. -/
def assign (s : StoredRecord) (name : String) (v : Value) : StoredRecord × Bool :=
  let name := s.canonical name
  match Entries.find? name s.defaults with
  | none => (s, false)
  | some initial => (s.put name (if v.isNull then initial else v), true)

def clearDirty (s : StoredRecord) : StoredRecord := { s with dirty := [] }

def toValue (s : StoredRecord) : Value := .map s.attrs

def new (model : String) (primaryKey : Option String) (defaults : List (String × Value))
    (aliases : List (String × String)) : StoredRecord where
  model := model
  primaryKey := primaryKey
  defaults := defaults
  aliases := aliases
  attrs := defaults

end StoredRecord

namespace Model

variable {ρ : Type}

/-- Go through the aliases of all attributes. Those that have an initial value are left out, and the
first attribute to bring one of the others keeps it. -/
def collectAliases (defaults : List (String × Value)) (attrs : List Attr) :
    List (String × String) :=
  attrs.foldl
    (fun aliases a =>
      (a.aliases.filter fun nick => (Entries.find? nick defaults).isNone).foldl
        (fun aliases nick => Entries.insertNew nick a.name aliases) aliases)
    []

def initStored (m : Model ρ) (pairs : List (String × Value)) : StoredRecord :=
  let defaults := Entries.ofList m.initials
  let fresh := StoredRecord.new m.name m.primaryKey defaults (collectAliases defaults m.attrs)
  (pairs.foldl (fun s pair => (s.assign pair.1 pair.2).1) fresh).clearDirty

theorem isNone_find?_initials (m : Model ρ) (name : String) :
    (Entries.find? name (Entries.ofList m.initials)).isNone = !m.declares name := by
  rw [← Option.not_isSome, Bool.not_inj_iff, Bool.eq_iff_iff, declares_eq_true_iff,
    Entries.find?_ofList, Entries.isSome_find?_iff, Entries.keys, List.map_reverse,
    List.mem_reverse, ← m.keys_initials]
  rfl

theorem foldl_insertNew (pairs aliases : List (String × String)) :
    let collected := pairs.foldl (fun aliases p => Entries.insertNew p.1 p.2 aliases) aliases
    (Entries.Sorted aliases → Entries.Sorted collected) ∧
      ∀ name, Entries.find? name collected =
        (Entries.find? name aliases).or (Entries.find? name pairs) := by
  induction pairs generalizing aliases with
  | nil => exact ⟨fun h => h, fun name => (Option.or_none).symm⟩
  | cons p rest ih =>
    obtain ⟨hsorted, hfind⟩ := ih (Entries.insertNew p.1 p.2 aliases)
    refine ⟨fun h => hsorted (Entries.sorted_insertNew h), fun name => ?_⟩
    rw [List.foldl_cons, hfind, Entries.find?_insertNew, Option.or_assoc, Entries.find?]
    split <;> rfl

theorem collectAliases_eq (m : Model ρ) :
    collectAliases (Entries.ofList m.initials) m.attrs = m.aliases := by
  -- going through attribute by attribute is going through all pairs of an alias and its attribute
  have hpairs : collectAliases (Entries.ofList m.initials) m.attrs =
      ((m.attrs.flatMap fun a => a.aliases.map fun nick => (nick, a.name)).filter
        fun pair => !m.declares pair.1).foldl
          (fun aliases p => Entries.insertNew p.1 p.2 aliases) [] := by
    simp only [collectAliases, m.isNone_find?_initials, List.filter_flatMap, List.foldl_flatMap,
      List.filter_map, List.foldl_map, Function.comp_def]
  obtain ⟨hsorted, hfind⟩ := foldl_insertNew
    ((m.attrs.flatMap fun a => a.aliases.map fun nick => (nick, a.name)).filter
      fun pair => !m.declares pair.1) []
  rw [hpairs]
  refine Entries.eq_of_find?_eq (hsorted List.Pairwise.nil) (Entries.sorted_ofList _) fun name => ?_
  rw [hfind, aliases, Entries.find?_ofList, List.reverse_reverse]
  rfl

end Model

def Field.mark (f : Field) : Option Unit := if f.dirty then some () else none

namespace StoredRecord

/-- Under every name the maps have what the field of that name holds. -/
structure Represents (s : StoredRecord) (r : Record) : Prop where
  model : s.model = r.model
  primaryKey : s.primaryKey = r.primaryKey
  aliases : s.aliases = r.aliases
  messages : s.messages = r.messages
  defaults : ∀ name,
    Entries.find? name s.defaults = (Entries.find? name r.fields).map Field.initial
  attrs : ∀ name, Entries.find? name s.attrs = (Entries.find? name r.fields).map Field.value
  dirty : ∀ name, Entries.find? name s.dirty = (Entries.find? name r.fields).bind Field.mark
  sortedFields : Entries.Sorted r.fields
  sortedDefaults : Entries.Sorted s.defaults
  sortedAttrs : Entries.Sorted s.attrs
  sortedDirty : Entries.Sorted s.dirty

namespace Represents

variable {s : StoredRecord} {r : Record}

/-! ## Reading -/

theorem canonical (h : s.Represents r) (name : String) : s.canonical name = r.canonical name := by
  rw [StoredRecord.canonical, h.aliases, Record.canonical]

theorem get (h : s.Represents r) (name : String) : s.get name = r.get name := by
  rw [StoredRecord.get, h.canonical, h.attrs, Record.get, Record.field?]

theorem isDeclared (h : s.Represents r) (name : String) :
    s.isDeclared name = r.isDeclared name := by
  rw [StoredRecord.isDeclared, h.canonical, h.defaults, Option.isSome_map, Record.isDeclared,
    Record.field?]

theorem isNew (h : s.Represents r) : s.isNew = r.isNew := by
  simp only [StoredRecord.isNew, StoredRecord.has, h.primaryKey, h.get, Record.isNew, Record.has]

theorem attrs_eq (h : s.Represents r) : s.attrs = r.attrs := by
  refine Entries.eq_of_find?_eq h.sortedAttrs ?_ fun name => ?_
  · rw [Entries.sorted_iff, Record.keys_attrs, ← Entries.sorted_iff]
    exact h.sortedFields
  · rw [h.attrs, Record.attrs, Entries.find?_map name fun _ => Field.value]

theorem toValue (h : s.Represents r) : s.toValue = r.toValue := congrArg Value.map h.attrs_eq

theorem keys_dirty (h : s.Represents r) : Entries.keys s.dirty = r.dirty := by
  have hsorted : r.dirty.Pairwise (· < ·) :=
    (Entries.sorted_iff.mp h.sortedFields).sublist (List.filter_sublist.map Prod.fst)
  refine (Entries.sorted_iff.mp h.sortedDirty).eq_of_mem_iff hsorted fun name => ?_
  rw [← Entries.isSome_find?_iff, h.dirty, Record.mem_dirty_iff_find? h.sortedFields]
  cases Entries.find? name r.fields with
  | none => exact iff_of_false Bool.false_ne_true fun ⟨_, hnone, _⟩ => nomatch hnone
  | some f => cases hf : f.dirty <;> simp [Field.mark, hf]

/-! ## Writing -/

theorem setMessages (h : s.Represents r) (messages : List String) :
    ({ s with messages := messages } : StoredRecord).Represents { r with messages := messages } :=
  { h with messages := rfl }

theorem clearDirty (h : s.Represents r) : s.clearDirty.Represents r.clearDirty where
  model := h.model
  primaryKey := h.primaryKey
  aliases := h.aliases
  messages := h.messages
  defaults name := by
    rw [Record.clearDirty, Entries.find?_map name fun _ => Field.clean, Option.map_map]
    exact h.defaults name
  attrs name := by
    rw [Record.clearDirty, Entries.find?_map name fun _ => Field.clean, Option.map_map]
    exact h.attrs name
  dirty name := by
    rw [Record.clearDirty, Entries.find?_map name fun _ => Field.clean]
    cases Entries.find? name r.fields <;> rfl
  sortedFields := by
    rw [Entries.sorted_iff, Record.clearDirty, Entries.keys, List.map_map]
    exact Entries.sorted_iff.mp h.sortedFields
  sortedDefaults := h.sortedDefaults
  sortedAttrs := h.sortedAttrs
  sortedDirty := List.Pairwise.nil

theorem put (h : s.Represents r) {name : String} {f : Field}
    (hf : Entries.find? name r.fields = some f) (v : Value) :
    (s.put name (f.accept v)).Represents
      { r with fields := Entries.modify name (Field.put v) r.fields } where
  model := h.model
  primaryKey := h.primaryKey
  aliases := h.aliases
  messages := h.messages
  defaults k := by
    rw [StoredRecord.put, h.defaults, Entries.find?_modify]
    split
    · rw [Option.map_map]
      rfl
    · rfl
  attrs k := by
    rw [StoredRecord.put, Entries.find?_insert, h.attrs, Entries.find?_modify]
    split
    · rename_i hk
      rw [hk, hf]
      rfl
    · rfl
  dirty k := by
    have hold : Entries.find? name s.attrs = some f.value := by rw [h.attrs, hf, Option.map_some]
    rw [StoredRecord.put, hold, Option.any_some, Entries.find?_modify]
    by_cases hk : k = name
    · -- a name stays in the set, and comes into it with another value than before
      have hmark : Entries.find? name s.dirty = f.mark := by rw [h.dirty, hf, Option.bind_some]
      rw [if_pos hk, hk, hf]
      cases hsame : f.value.same (f.accept v) with
      | true => simp [hmark, Field.mark, Field.put, hsame]
      | false => simp [Entries.find?_insert, Field.mark, Field.put, hsame]
    · rw [if_neg hk, ← h.dirty]
      split
      · rfl
      · rw [Entries.find?_insert, if_neg hk]
  sortedFields := by
    rw [Entries.sorted_iff, Entries.keys_modify, ← Entries.sorted_iff]
    exact h.sortedFields
  sortedDefaults := h.sortedDefaults
  sortedAttrs := Entries.sorted_insert h.sortedAttrs
  sortedDirty := by
    rw [StoredRecord.put]
    dsimp only
    split
    · exact h.sortedDirty
    · exact Entries.sorted_insert h.sortedDirty

theorem assign (h : s.Represents r) (name : String) (v : Value) :
    (s.assign name v).2 = (r.assign name v).2 ∧
      (s.assign name v).1.Represents (r.set name v) := by
  have hdeclared := h.isDeclared name
  rw [Record.assign_eq, StoredRecord.assign, h.canonical, h.defaults]
  cases hf : Entries.find? (r.canonical name) r.fields with
  | none =>
    have hnot : r.isDeclared name = false := by rw [Record.isDeclared, Record.field?, hf]; rfl
    rw [hnot, Record.set_of_not_declared hnot]
    exact ⟨rfl, h⟩
  | some f =>
    have hyes : r.isDeclared name = true := by rw [Record.isDeclared, Record.field?, hf]; rfl
    rw [hyes]
    exact ⟨rfl, h.put hf v⟩

theorem assignAll (h : s.Represents r) (pairs : List (String × Value)) :
    (pairs.foldl (fun s pair => (s.assign pair.1 pair.2).1) s).Represents (r.setAll pairs) := by
  induction pairs generalizing s r with
  | nil => exact h
  | cons pair rest ih => exact ih (h.assign pair.1 pair.2).2

theorem new {ρ : Type} (m : Model ρ) :
    (StoredRecord.new m.name m.primaryKey (Entries.ofList m.initials)
      (Model.collectAliases (Entries.ofList m.initials) m.attrs)).Represents m.blank := by
  have hfields : m.blank.fields =
      Entries.ofList (m.initials.map fun entry => (entry.1, ⟨entry.2, entry.2, false⟩)) := by
    rw [Model.blank, Model.initials, List.map_map]
    rfl
  have hfind : ∀ name, Entries.find? name m.blank.fields =
      (Entries.find? name (Entries.ofList m.initials)).map fun v => ⟨v, v, false⟩ := by
    intro name
    rw [hfields, Entries.find?_ofList_map name fun v => (⟨v, v, false⟩ : Field)]
  have hsorted : Entries.Sorted (Entries.ofList m.initials) := Entries.sorted_ofList _
  refine ⟨rfl, rfl, m.collectAliases_eq, rfl, fun name => ?_, fun name => ?_, fun name => ?_,
    Entries.sorted_ofList _, hsorted, hsorted, List.Pairwise.nil⟩
  · rw [hfind, Option.map_map]
    exact (congrFun Option.map_id _).symm
  · rw [hfind, Option.map_map]
    exact (congrFun Option.map_id _).symm
  · rw [hfind]
    cases Entries.find? name (Entries.ofList m.initials) <;> rfl

theorem init {ρ : Type} (m : Model ρ) (pairs : List (String × Value)) :
    (m.initStored pairs).Represents (m.init pairs) :=
  ((new m).assignAll pairs).clearDirty

end Represents

end StoredRecord

end QueryLayer
