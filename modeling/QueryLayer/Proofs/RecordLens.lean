import QueryLayer.Proofs.RecordShape

/-! # Setting an attribute as a lens

Under all names of an attribute the record answers with what was set last, and nothing else of it
has moved. So sets of two attributes may change places, and the second of two sets of one attribute
undoes the first, but for the mark that the attribute was changed.
-/

set_option autoImplicit false

namespace QueryLayer

namespace Record

def initial (r : Record) (name : String) : Value := ((r.field? name).map Field.initial).getD .null

/-- The record `s` is `r` with `v` stored for the attribute `key`, which may have been marked. -/
structure Stores (r : Record) (key : String) (v : Value) (s : Record) : Prop where
  get : ∀ other, s.get other = if r.canonical other = key then v else r.get other
  fields : ∀ entry : String × Field, entry.1 ≠ key → (entry ∈ s.fields ↔ entry ∈ r.fields)
  dirty : ∀ other ≠ key, other ∈ s.dirty ↔ other ∈ r.dirty
  initial : ∀ other, s.initial other = r.initial other
  names : s.attrs.map Prod.fst = r.attrs.map Prod.fst
  isDeclared : ∀ other, s.isDeclared other = r.isDeclared other
  messages : s.messages = r.messages
  aliases : s.aliases = r.aliases
  model : s.model = r.model
  primaryKey : s.primaryKey = r.primaryKey

section

variable (r : Record) {name other : String} (v w : Value)

/-! ## One set -/

theorem mem_fields_set {f : Field} (h : other ≠ r.canonical name) :
    (other, f) ∈ (r.set name v).fields ↔ (other, f) ∈ r.fields := Entries.mem_modify_of_ne h

theorem mem_dirty_set (h : other ≠ r.canonical name) :
    other ∈ (r.set name v).dirty ↔ other ∈ r.dirty := by
  rw [mem_dirty_iff, mem_dirty_iff]
  exact exists_congr fun f => and_congr_left fun _ => r.mem_fields_set v h

theorem isDeclared_set : (r.set name v).isDeclared other = r.isDeclared other := by
  rw [isDeclared, field?_set, isDeclared]
  split
  · exact Option.isSome_map
  · rfl

theorem initial_set : (r.set name v).initial other = r.initial other := by
  rw [initial, field?_set, initial]
  split
  · rw [Option.map_map]
    rfl
  · rfl

theorem keys_fields_set : Entries.keys (r.set name v).fields = Entries.keys r.fields :=
  Entries.keys_modify _ _ _

theorem get_set_of_declared (h : r.isDeclared name = true) : (r.set name v).get other =
    if r.canonical other = r.canonical name then (if v.isNull then r.initial name else v)
    else r.get other := by
  rw [get_set]
  split
  · rename_i heq
    have hfield : r.field? other = r.field? name := by rw [field?, field?, heq]
    obtain ⟨f, hf⟩ := Option.isSome_iff_exists.mp h
    rw [hfield, initial, hf]
    rfl
  · rfl

theorem stores_set (h : r.isDeclared name = true) :
    r.Stores (r.canonical name) (if v.isNull then r.initial name else v) (r.set name v) where
  get _ := r.get_set_of_declared v h
  fields _ hentry := r.mem_fields_set v hentry
  dirty _ hother := r.mem_dirty_set v hother
  initial _ := r.initial_set v
  names := by
    rw [← Entries.keys, ← Entries.keys, keys_attrs, keys_attrs]
    exact r.keys_fields_set v
  isDeclared _ := r.isDeclared_set v
  messages := rfl
  aliases := rfl
  model := rfl
  primaryKey := rfl

/-! ## Two sets -/

theorem set_comm (h : r.canonical other ≠ r.canonical name) :
    (r.set name v).set other w = (r.set other w).set name v := by
  have hfields := Entries.modify_comm h (Field.put w) (Field.put v) r.fields
  simp only [set, canonical] at hfields ⊢
  rw [hfields]

theorem set_set (h : r.canonical other = r.canonical name) :
    ((r.set name v).set other w).clearDirty = (r.set other w).clearDirty := by
  have hfields : ((Entries.modify (r.canonical other) (Field.put w)
        (Entries.modify (r.canonical name) (Field.put v) r.fields)).map
          fun entry => (entry.1, entry.2.clean)) =
      (Entries.modify (r.canonical other) (Field.put w) r.fields).map
          fun entry => (entry.1, entry.2.clean) := by
    rw [h, Entries.modify_modify]
    exact Entries.map_modify_congr fun f _ => rfl
  simp only [clearDirty, set, canonical] at hfields ⊢
  rw [hfields]

end

/-! ## Records of a model -/

section

variable {ρ : Type} {m : Model ρ} {r : Record}

theorem set_get_of_fits (h : r.Fits m) (name : String) :
    (r.set name (r.get name)).clearDirty = r.clearDirty := by
  have hput : ∀ f, Entries.find? (r.canonical name) r.fields = some f →
      (f.put (r.get name)).clean = f.clean := by
    intro f hf
    have hget : r.get name = f.value := by
      rw [get, field?, hf]
      rfl
    rw [hget, Field.put, h.accept_stored hf]
    rfl
  have hfields := Entries.map_modify_congr (g := fun f => f) hput
  rw [Entries.modify_id] at hfields
  rw [clearDirty, set]
  simp only [hfields]
  rfl

theorem initial_of_fits (h : r.Fits m) (hnames : m.names.Nodup) {a : Attr} (ha : a ∈ m.attrs)
    {name : String} (hname : a.name = r.canonical name) : r.initial name = a.initialValue := by
  obtain ⟨f, hf, hinitial, -⟩ := h.exists_field hnames ha
  rw [hname] at hf
  rw [initial, field?, hf]
  exact hinitial

theorem exists_attr_of_declared (h : r.Fits m) (hnames : m.names.Nodup) {name : String}
    (hdeclared : r.isDeclared name = true) :
    ∃ a ∈ m.attrs, a.name = r.canonical name ∧ r.initial name = a.initialValue := by
  rw [h.isDeclared_iff_mem_names] at hdeclared
  obtain ⟨a, ha, hname⟩ := List.mem_map.mp hdeclared
  exact ⟨a, ha, hname, initial_of_fits h hnames ha hname⟩

end

variable {P : Plugins}

/-- Setting an attribute under any of its names is a lens on the record. -/
theorem assign_lawful (r : Record) (name : String) (v : Value) :
    let s := (r.assign name v).1
    (r.assign name v).2 = r.isDeclared name ∧
    (r.isDeclared name = false → s = r) ∧
    (r.isDeclared name = true →
      r.Stores (r.canonical name) (if v.isNull then r.initial name else v) s) ∧
    (∀ other w, r.canonical other ≠ r.canonical name →
      (s.assign other w).1 = ((r.assign other w).1.assign name v).1 ∧
      (s.assign other w).2 = (r.assign other w).2) ∧
    (∀ other w, r.canonical other = r.canonical name →
      (s.assign other w).1.clearDirty = (r.assign other w).1.clearDirty ∧
      (s.assign other w).2 = (r.assign other w).2) ∧
    ∀ (b : Behavior P) (m : Model P.RecordRule), (∀ rule, (b.recordRule rule).Edits) →
      m.Declared → Reached b m r →
        (r.isDeclared name = true →
          ∃ a ∈ m.attrs, a.name = r.canonical name ∧ r.initial name = a.initialValue) ∧
        (r.assign name (r.get name)).1.clearDirty = r.clearDirty := by
  intro s
  have hs : s = r.set name v := congrArg Prod.fst (r.assign_eq name v)
  simp only [hs, assign_eq, isDeclared_set]
  refine ⟨trivial, fun h => set_of_not_declared h v, fun h => r.stores_set v h,
    fun other w h => ⟨r.set_comm v w h, trivial⟩, fun other w h => ⟨r.set_set v w h, trivial⟩, ?_⟩
  intro b m hrules hm h
  have hfits := h.fits hrules hm
  exact ⟨exists_attr_of_declared hfits hm.nodup_names, set_get_of_fits hfits name⟩

/-- A record of two attributes that share an alias, one of which has an initial value. -/
theorem assign_lawful_of_post :
    let r := postModel.init [("state", .text "live")]
    let cleared := (r.assign "state" .null).1
    r.canonical "head" = "title" ∧ r.isDeclared "body" = false ∧
      (r.assign "body" .null).1 = r ∧ cleared.get "status" = .text "draft" ∧
      cleared.get "head" = r.get "head" ∧
      (cleared.assign "head" (.int 1)).1 = ((r.assign "head" (.int 1)).1.assign "state" .null).1 ∧
      (cleared.assign "status" (.int 2)).1.clearDirty = (r.assign "status" (.int 2)).1.clearDirty ∧
      (r.assign "head" (r.get "head")).1.clearDirty = r.clearDirty := by
  intro r cleared
  have hhead : r.canonical "head" = "title" := by decide
  have hstate : r.canonical "state" = "status" := by decide
  have hstatus : r.canonical "status" = "status" := by decide
  obtain ⟨-, -, hstores, hcomm, hsecond, -⟩ :=
    assign_lawful (P := countingPlugins) r "state" .null
  obtain ⟨-, hundeclared, -⟩ := assign_lawful (P := countingPlugins) r "body" .null
  obtain ⟨-, -, -, -, -, hmodel⟩ := assign_lawful (P := countingPlugins) r "head" .null
  have hget := (hstores rfl).get
  refine ⟨hhead, rfl, hundeclared rfl, ?_, ?_, (hcomm "head" (.int 1) ?_).1,
    (hsecond "status" (.int 2) ?_).1, ?_⟩
  · rw [hget, if_pos (hstatus.trans hstate.symm)]
    rfl
  · rw [hget, if_neg (by rw [hhead, hstate]; decide)]
  · rw [hhead, hstate]
    decide
  · rw [hstatus, hstate]
  · exact (hmodel counting postModel edits_messageRule postModel_declared (.init _)).2

end Record

end QueryLayer
