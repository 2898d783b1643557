import QueryLayer.Proofs.DeclaredModels
import QueryLayer.Proofs.PipelineComposition
import QueryLayer.Proofs.RecordSaving

/-! # The shape of records

Whatever is done to a record of a model, it keeps a field for every declared attribute and for
nothing else, the aliases of the model and the initial values of the attributes. A field holds
`null` only if that is its initial value.
-/

set_option autoImplicit false

namespace QueryLayer

namespace Model

variable {ρ : Type}

def initials (m : Model ρ) : List (String × Value) := m.attrs.map fun a => (a.name, a.initialValue)

theorem keys_initials (m : Model ρ) : Entries.keys m.initials = m.names := by
  rw [Entries.keys, initials, List.map_map]
  rfl

theorem find?_fields_blank {m : Model ρ} (h : m.names.Nodup) (name : String) :
    Entries.find? name m.blank.fields =
      (Entries.find? name m.initials).map fun v => ⟨v, v, false⟩ := by
  rw [blank, find?_ofList_attrs h, initials, find?_map_attrs, Option.map_map]
  rfl

end Model

namespace Record

def setAll (r : Record) (sets : List (String × Value)) : Record :=
  sets.foldl (fun r pair => r.set pair.1 pair.2) r

/-- The record is one of the model. -/
structure Fits {ρ : Type} (m : Model ρ) (r : Record) : Prop where
  aliases : r.aliases = m.aliases
  sorted : Entries.Sorted r.fields
  initial : ∀ name, (Entries.find? name r.fields).map Field.initial = Entries.find? name m.initials
  null : ∀ name f, Entries.find? name r.fields = some f → f.value.isNull = true →
    f.initial.isNull = true

namespace Fits

variable {ρ : Type} {m : Model ρ} {r : Record}

theorem blank (h : m.names.Nodup) : m.blank.Fits m where
  aliases := rfl
  sorted := Entries.sorted_ofList _
  initial name := by
    have hid : Field.initial ∘ (fun v => (⟨v, v, false⟩ : Field)) = id := rfl
    rw [m.find?_fields_blank h, Option.map_map, hid, Option.map_id]
    rfl
  null name f hf hnull := by
    rw [m.find?_fields_blank h] at hf
    obtain ⟨v, -, rfl⟩ := Option.map_eq_some_iff.mp hf
    exact hnull

theorem messages (h : r.Fits m) (messages : List String) :
    ({ r with messages := messages } : Record).Fits m := ⟨h.aliases, h.sorted, h.initial, h.null⟩

theorem set (h : r.Fits m) (name : String) (v : Value) : (r.set name v).Fits m where
  aliases := h.aliases
  sorted := by
    rw [Entries.sorted_iff, Record.set, Entries.keys_modify, ← Entries.sorted_iff]
    exact h.sorted
  initial k := by
    rw [Record.set, Entries.find?_modify, ← h.initial k]
    split
    · rw [Option.map_map]
      rfl
    · rfl
  null k f hf hnull := by
    rw [Record.set, Entries.find?_modify] at hf
    split at hf
    · obtain ⟨old, hold, rfl⟩ := Option.map_eq_some_iff.mp hf
      -- what is accepted for null is the initial value
      cases hv : v.isNull with
      | true => simpa [Field.put, Field.accept, hv] using hnull
      | false => simp [Field.put, Field.accept, hv] at hnull
    · exact h.null k f hf hnull

theorem clearDirty (h : r.Fits m) : r.clearDirty.Fits m where
  aliases := h.aliases
  sorted := by
    rw [Entries.sorted_iff, Record.clearDirty, Entries.keys, List.map_map]
    exact Entries.sorted_iff.mp h.sorted
  initial k := by
    rw [Record.clearDirty, Entries.find?_map k (fun _ => Field.clean), ← h.initial k,
      Option.map_map]
    rfl
  null k f hf hnull := by
    rw [Record.clearDirty, Entries.find?_map k (fun _ => Field.clean)] at hf
    obtain ⟨old, hold, rfl⟩ := Option.map_eq_some_iff.mp hf
    exact h.null k old hold hnull

theorem setAll (h : r.Fits m) (sets : List (String × Value)) : (r.setAll sets).Fits m := by
  induction sets generalizing r with
  | nil => exact h
  | cons pair rest ih => exact ih (h.set pair.1 pair.2)

theorem init (h : m.names.Nodup) (pairs : List (String × Value)) : (m.init pairs).Fits m :=
  ((blank h).setAll pairs).clearDirty

theorem canonical_eq (h : r.Fits m) (name : String) :
    r.canonical name =
      if m.declares name then name
      else ((m.attrs.find? fun a => a.aliases.contains name).map Attr.name).getD name := by
  rw [canonical, h.aliases, Model.find?_aliases]
  split <;> rfl

theorem canonical_of_declared (h : r.Fits m) {name : String} (hname : name ∈ m.names) :
    r.canonical name = name := by
  rw [h.canonical_eq, if_pos (Model.declares_eq_true_iff.mpr hname)]

theorem mem_names_of_alias (h : r.Fits m) {nick name : String}
    (halias : Entries.find? nick r.aliases = some name) : name ∈ m.names := by
  rw [h.aliases, Model.find?_aliases] at halias
  split at halias
  · cases halias
  · obtain ⟨a, ha, rfl⟩ := Option.map_eq_some_iff.mp halias
    exact List.mem_map_of_mem (List.mem_of_find?_eq_some ha)

theorem canonical_canonical (h : r.Fits m) (name : String) :
    r.canonical (r.canonical name) = r.canonical name := by
  cases halias : Entries.find? name r.aliases with
  | none =>
    have hself : r.canonical name = name := by rw [canonical, halias, Option.getD_none]
    rw [hself, hself]
  | some other =>
    have hother : r.canonical name = other := by rw [canonical, halias, Option.getD_some]
    rw [hother, h.canonical_of_declared (h.mem_names_of_alias halias)]

theorem mem_keys_iff (h : r.Fits m) {name : String} :
    name ∈ Entries.keys r.fields ↔ name ∈ m.names := by
  rw [← m.keys_initials, ← Entries.isSome_find?_iff, ← Entries.isSome_find?_iff, ← h.initial name,
    Option.isSome_map]

theorem isDeclared_iff_mem_names (h : r.Fits m) (name : String) :
    r.isDeclared name = true ↔ r.canonical name ∈ m.names := by
  rw [isDeclared, field?, Entries.isSome_find?_iff, h.mem_keys_iff]

theorem exists_field (h : r.Fits m) (hnames : m.names.Nodup) {a : Attr} (ha : a ∈ m.attrs) :
    ∃ f, Entries.find? a.name r.fields = some f ∧ f.initial = a.initialValue ∧
      r.get a.name = f.value := by
  have hinitial : Entries.find? a.name m.initials = some a.initialValue := by
    refine Entries.find?_of_mem ?_ (List.mem_map_of_mem ha)
    rwa [m.keys_initials]
  obtain ⟨f, hf, hfinitial⟩ := Option.map_eq_some_iff.mp ((h.initial a.name).trans hinitial)
  refine ⟨f, hf, hfinitial, ?_⟩
  rw [get, field?, h.canonical_of_declared (List.mem_map_of_mem ha), hf]
  rfl

/-- A declared attribute has a value, which is `null` only if its initial value is. -/
theorem get_of_mem (h : r.Fits m) (hnames : m.names.Nodup) {a : Attr} (ha : a ∈ m.attrs) :
    (a.name, r.get a.name) ∈ r.attrs ∧ (r.get a.name = .null → a.initialValue = .null) := by
  obtain ⟨f, hf, hfinitial, hget⟩ := h.exists_field hnames ha
  obtain ⟨earlier, later, hfields, -⟩ := Entries.find?_eq_some_iff.mp hf
  refine ⟨?_, fun hnull => ?_⟩
  · rw [hget, attrs, hfields]
    simp
  · rw [← Value.isNull_eq_true_iff, hget] at hnull
    rw [← Value.isNull_eq_true_iff, ← hfinitial]
    exact h.null a.name f hf hnull

/-- What a field holds is accepted as it is: `null` is held only if it is the initial value. -/
theorem accept_stored (h : r.Fits m) {name : String} {f : Field}
    (hf : Entries.find? name r.fields = some f) : f.accept f.value = f.value := by
  rw [Field.accept]
  split
  · rename_i hnull
    have hinitial := h.null name f hf hnull
    rw [Value.isNull_eq_true_iff.mp hnull, Value.isNull_eq_true_iff.mp hinitial]
  · rfl

end Fits

/-! ## Records that can be reached -/

inductive Edit : Record → Record → Prop where
  | messages (r : Record) (messages : List String) : Edit r { r with messages := messages }
  | set (r : Record) (name : String) (v : Value) : Edit r (r.set name v)

theorem Fits.edits {ρ : Type} {m : Model ρ} {r s : Record} (h : r.Fits m)
    (hedits : Relation.ReflTransGen Edit r s) : s.Fits m := by
  induction hedits with
  | refl => exact h
  | tail _ hedit ih =>
    cases hedit with
    | messages messages => exact ih.messages messages
    | set name v => exact ih.set name v

end Record

def Validator.Edits (v : Validator Record) : Prop := v.Follows Record.Edit

variable {P : Plugins}

theorem Model.edits_attributeChecks (m : Model P.RecordRule) (ps : Predicates) :
    ∀ v ∈ m.attributeChecks ps, v.Edits := by
  intro v hv
  rw [attributeChecks] at hv
  split at hv
  · cases hv
  · rw [List.mem_singleton.mp hv]
    exact fun r => .single (.messages r _)

namespace Record

theorem edits_validate {b : Behavior P} (hrules : ∀ rule, (b.recordRule rule).Edits)
    (m : Model P.RecordRule) (ps : Predicates) (r : Record) :
    Relation.ReflTransGen Edit r (m.validate b ps r).target := by
  have hvs : ∀ v ∈ m.attributeChecks ps ++ m.rules.map b.recordRule, v.Edits := by
    intro v hv
    rcases List.mem_append.mp hv with hv | hv
    · exact m.edits_attributeChecks ps v hv
    · obtain ⟨rule, -, rfl⟩ := List.mem_map.mp hv
      exact hrules rule
  exact .head (.messages r []) (Pipeline.follows_run hvs { r with messages := [] })

theorem Fits.validate {ρ : Type} {m : Model ρ} {b : Behavior P}
    (hrules : ∀ rule, (b.recordRule rule).Edits) {r : Record} (h : r.Fits m)
    (other : Model P.RecordRule) (ps : Predicates) : (other.validate b ps r).target.Fits m :=
  h.edits (edits_validate hrules other ps r)

theorem Fits.save {ρ : Type} {m : Model ρ} {b : Behavior P}
    (hrules : ∀ rule, (b.recordRule rule).Edits) {r : Record} (h : r.Fits m)
    (other : Model P.RecordRule) (ctx : Context P) (store : P.Store) :
    (other.save b ctx r store).2.Fits m := by
  have hchecked := h.validate hrules other ctx.predicates
  have hending := other.save_ending b ctx r store
  generalize other.validate b ctx.predicates r = checked at hchecked hending
  generalize other.save b ctx r store = saved at hending ⊢
  obtain ⟨o, left⟩ := saved
  cases hending with
  | created => exact hchecked.clearDirty
  | _ => exact hchecked

/-- The records that come of a model's `init`, by whatever is done to them afterwards. -/
inductive Reached (b : Behavior P) (m : Model P.RecordRule) : Record → Prop where
  | init (pairs : List (String × Value)) : Reached b m (m.init pairs)
  | set {r : Record} (name : String) (v : Value) : Reached b m r → Reached b m (r.set name v)
  | clearDirty {r : Record} : Reached b m r → Reached b m r.clearDirty
  | validate {r : Record} (other : Model P.RecordRule) (ps : Predicates) :
    Reached b m r → Reached b m (other.validate b ps r).target
  | save {r : Record} (other : Model P.RecordRule) (ctx : Context P) (store : P.Store) :
    Reached b m r → Reached b m (other.save b ctx r store).2

theorem Reached.fits {b : Behavior P} (hrules : ∀ rule, (b.recordRule rule).Edits)
    {m : Model P.RecordRule} (hm : m.Declared) {r : Record} (h : Reached b m r) : r.Fits m := by
  induction h with
  | init pairs => exact .init hm.nodup_names pairs
  | set name v _ ih => exact ih.set name v
  | clearDirty _ ih => exact ih.clearDirty
  | validate other ps _ ih => exact ih.validate hrules other ps
  | save other ctx store _ ih => exact ih.save hrules other ctx store

theorem keys_attrs (r : Record) : Entries.keys r.attrs = Entries.keys r.fields := by
  rw [Entries.keys, attrs, List.map_map]
  rfl

theorem Fits.sorted_attrs {ρ : Type} {m : Model ρ} {r : Record} (h : r.Fits m) :
    Entries.Sorted r.attrs := by
  rw [Entries.sorted_iff, keys_attrs, ← Entries.sorted_iff]
  exact h.sorted

theorem mem_dirty_iff_find? {r : Record} (h : Entries.Sorted r.fields) (name : String) :
    name ∈ r.dirty ↔ ∃ f, Entries.find? name r.fields = some f ∧ f.dirty = true := by
  simp only [mem_dirty_iff, Entries.mem_iff_find? h.nodup_keys]

theorem mem_keys_of_mem_dirty {r : Record} {name : String} (h : name ∈ r.dirty) :
    name ∈ Entries.keys r.fields := by
  obtain ⟨entry, hentry, rfl⟩ := List.mem_map.mp h
  exact List.mem_map_of_mem (List.mem_filter.mp hentry).1

theorem Fits.mem_aliases_iff {ρ : Type} {m : Model ρ} {r : Record} (h : r.Fits m)
    {nick name : String} : (nick, name) ∈ r.aliases ↔
      nick ∉ m.names ∧ ∃ a, (m.attrs.find? fun a => a.aliases.contains nick) = some a ∧
        a.name = name := by
  have hkeys : (Entries.keys m.aliases).Nodup := (Entries.sorted_ofList _).nodup_keys
  rw [h.aliases, Entries.mem_iff_find? hkeys, Model.find?_aliases]
  by_cases hnick : nick ∈ m.names
  · simp [Model.declares_eq_true_iff.mpr hnick, hnick]
  · have hdeclares : m.declares nick = false :=
      Bool.eq_false_iff.mpr fun hd => hnick (Model.declares_eq_true_iff.mp hd)
    simp [hdeclares, hnick, Option.map_eq_some_iff]

theorem Fits.canonical_of_mem_aliases {ρ : Type} {m : Model ρ} {r : Record} (h : r.Fits m)
    {nick name : String} (halias : (nick, name) ∈ r.aliases) :
    r.canonical nick = name ∧ name ∈ m.names := by
  have hkeys : (Entries.keys m.aliases).Nodup := (Entries.sorted_ofList _).nodup_keys
  have hfind : Entries.find? nick r.aliases = some name := by
    rw [h.aliases] at halias ⊢
    exact (Entries.mem_iff_find? hkeys).mp halias
  exact ⟨by rw [canonical, hfind, Option.getD_some], h.mem_names_of_alias hfind⟩

/-! ## A model of two attributes with a common alias -/

theorem edits_messageRule (rule : MessageRule) : (rule.validator : Validator Record).Edits := by
  intro r
  cases rule with
  | report message => exact .single (.messages r (r.messages ++ [message]))
  | forget => exact .single (.messages r [])
  | halt => exact .refl

def postModel : Model countingPlugins.RecordRule :=
  (((Model.attr { name := "post" } { name := "title", aliases := ["head"] }).attr
    { name := "status", initial := some (.text "draft"), aliases := ["head", "state"] }).id
      "id").rule (.report "late")

theorem postModel_declared : postModel.Declared :=
  .rule _ (.id _ (.attr _ (.attr _ (.new "post"))))

end Record

end QueryLayer
