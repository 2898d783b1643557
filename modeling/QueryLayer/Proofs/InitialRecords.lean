import QueryLayer.Proofs.AttributeHistory
import QueryLayer.Proofs.RecordCheck
import QueryLayer.Proofs.SettingAttributes

/-! # The record made of some pairs

A record that is made of pairs holds for each attribute what the last pair under one of its names
says, and nothing depends on the order in which pairs for different attributes come. So a record
can be written out as pairs and made of them again.
-/

set_option autoImplicit false

namespace QueryLayer

namespace Attr

/-- What the attribute holds after those values were given to it, the last one being kept. -/
def settled (a : Attr) (vs : List Value) : Value := (vs.getLast?.map a.accept).getD a.initialValue

def field (a : Attr) (v : Value) : Field := ⟨a.initialValue, v, false⟩

theorem clean_putAll_field (a : Attr) (vs : List Value) :
    ((a.field a.initialValue).putAll vs).clean = a.field (a.settled vs) := by
  have haccept : (a.field a.initialValue).accept = a.accept :=
    funext fun v => Field.accept_of_initial rfl v
  rw [Field.clean, Field.initial_putAll, Field.value_putAll, haccept]
  rfl

end Attr

namespace Model

variable {ρ : Type}

def reading (m : Model ρ) (pairs : List (String × Value)) : Record where
  model := m.name
  primaryKey := m.primaryKey
  fields := Entries.ofList
    (m.attrs.map fun a => (a.name, a.field (a.settled (m.blank.given a.name pairs))))
  aliases := m.aliases

theorem init_eq (m : Model ρ) (pairs : List (String × Value)) :
    m.init pairs = { m.blank with fields := (m.init pairs).fields } := by
  have hinit : m.init pairs = (m.blank.setAll pairs).clearDirty := rfl
  rw [hinit, Record.setAll_frame]
  rfl

theorem find?_fields_reading {m : Model ρ} (h : m.names.Nodup) (pairs : List (String × Value))
    (name : String) : Entries.find? name (m.reading pairs).fields =
      (m.named? name).map fun a => a.field (a.settled (m.blank.given a.name pairs)) :=
  find?_ofList_attrs h _ name

/-- Making a record of pairs is reading the pairs attribute by attribute. -/
theorem init_eq_reading {m : Model ρ} (h : m.names.Nodup) (pairs : List (String × Value)) :
    m.init pairs = m.reading pairs := by
  have hclear : (m.init pairs).fields =
      (m.blank.setAll pairs).fields.map fun entry => (entry.1, entry.2.clean) := rfl
  have hblank : ∀ name, Entries.find? name m.blank.fields =
      (m.named? name).map fun a => a.field a.initialValue := find?_ofList_attrs h _
  have hfields : (m.init pairs).fields = (m.reading pairs).fields := by
    refine Entries.eq_of_find?_eq (Record.Fits.init h pairs).sorted (Entries.sorted_ofList _) ?_
    intro name
    rw [hclear, Entries.find?_map name (fun _ => Field.clean), Record.find?_fields_setAll, hblank,
      find?_fields_reading h]
    cases hnamed : m.named? name with
    | none => rfl
    | some a =>
      cases name_of_named? hnamed
      exact congrArg some (a.clean_putAll_field _)
  rw [init_eq, hfields]
  rfl

theorem reading_congr {m : Model ρ} {pairs others : List (String × Value)}
    (h : ∀ a ∈ m.attrs, m.blank.given a.name others = m.blank.given a.name pairs) :
    m.reading others = m.reading pairs := by
  rw [reading, reading]
  congr 2
  refine List.map_congr_left fun a ha => ?_
  rw [h a ha]

end Model

namespace Record

variable {ρ : Type} {m : Model ρ} {r : Record}

theorem Fits.given_filter_isDeclared (h : r.Fits m) {name : String} (hname : name ∈ m.names)
    (pairs : List (String × Value)) :
    r.given name (pairs.filter fun pair => r.isDeclared pair.1) = r.given name pairs := by
  rw [given, given, List.filter_filter]
  congr 2
  funext pair
  -- a pair that lands on the attribute has a declared name
  cases hkey : r.canonical pair.1 == name with
  | false => rfl
  | true =>
    rw [Bool.true_and, h.isDeclared_iff_mem_names, eq_of_beq hkey]
    exact hname

end Record

namespace Model

variable {ρ : Type}

/-- A record made of pairs holds for each attribute what the last pair under one of its names says,
whatever else the pairs are and however they are mixed. -/
theorem init_reads_pairs (m : Model ρ) (hm : m.Declared) (pairs : List (String × Value)) :
    let r := m.init pairs
    r.attrs = Entries.ofList
        (m.attrs.map fun a => (a.name, a.settled (r.given a.name pairs))) ∧
      (∀ a ∈ m.attrs, r.get a.name = a.settled (r.given a.name pairs)) ∧
      r.dirty = [] ∧ r.messages = [] ∧
      m.init (pairs.filter fun pair => r.isDeclared pair.1) = r ∧
      ∀ others, (∀ a ∈ m.attrs, r.given a.name others = r.given a.name pairs) →
        m.init others = r := by
  intro r
  have hnames := hm.nodup_names
  have hfits : r.Fits m := .init hnames pairs
  have hgiven : m.blank.given = r.given := Record.given_of_aliases_eq hfits.aliases.symm
  have hreading : r = m.reading pairs := init_eq_reading hnames pairs
  have hfind : ∀ name, Entries.find? name r.fields =
      (m.named? name).map fun a => a.field (a.settled (r.given a.name pairs)) := by
    intro name
    rw [← hgiven, hreading, find?_fields_reading hnames]
  have hothers : ∀ others, (∀ a ∈ m.attrs, r.given a.name others = r.given a.name pairs) →
      m.init others = r := by
    intro others h
    rw [← hgiven] at h
    rw [hreading, init_eq_reading hnames, reading_congr h]
  refine ⟨?_, fun a ha => ?_, Record.dirty_clearDirty _, ?_, hothers _ fun a ha => ?_, hothers⟩
  · refine Entries.eq_of_find?_eq hfits.sorted_attrs (Entries.sorted_ofList _) fun name => ?_
    rw [Record.attrs, Entries.find?_map name (fun _ => Field.value), hfind,
      find?_ofList_attrs hnames, Option.map_map]
    rfl
  · obtain ⟨f, hf, -, hget⟩ := hfits.exists_field hnames ha
    rw [hfind, named?, find?_of_mem hnames ha] at hf
    cases hf
    exact hget
  · rw [hreading]
    rfl
  · exact hfits.given_filter_isDeclared (List.mem_map_of_mem ha) pairs

def titleAttr : Attr := { name := "title", aliases := ["head"] }

/-- Its first alias is taken by the title. -/
def statusAttr : Attr :=
  { name := "status", initial := some (.text "draft"), aliases := ["head", "state"] }

def draftModel : Model countingPlugins.RecordRule :=
  (Model.attr { name := "post" } titleAttr).attr statusAttr

theorem draftModel_declared : draftModel.Declared := .attr _ (.attr _ (.new "post"))

theorem forall_mem_draftModel {p : Attr → Prop} :
    (∀ a ∈ draftModel.attrs, p a) ↔ p titleAttr ∧ p statusAttr := by
  have hattrs : draftModel.attrs = [titleAttr, statusAttr] := rfl
  simp [hattrs]

theorem init_reads_draft :
    let pairs := [("state", Value.text "live"), ("head", .int 1), ("body", .int 2),
      ("status", .null), ("title", .text "new")]
    let others := [("head", Value.int 1), ("title", .text "new"), ("state", .text "live"),
      ("status", .null)]
    let r := draftModel.init pairs
    draftModel.Declared ∧ r.get "status" = .text "draft" ∧ r.get "title" = .text "new" ∧
      draftModel.init others = r := by
  intro pairs others r
  obtain ⟨-, hget, -, -, -, hothers⟩ := init_reads_pairs draftModel draftModel_declared pairs
  obtain ⟨htitle, hstatus⟩ := forall_mem_draftModel.mp hget
  refine ⟨draftModel_declared, hstatus, htitle, hothers others ?_⟩
  exact forall_mem_draftModel.mpr ⟨rfl, rfl⟩

end Model

/-! ## Making a record again -/

namespace Record

variable {ρ : Type} {m : Model ρ} {r : Record}

theorem attrs_clearDirty (r : Record) : r.clearDirty.attrs = r.attrs := by
  rw [attrs, clearDirty, List.map_map]
  rfl

theorem get_clearDirty (r : Record) (name : String) : r.clearDirty.get name = r.get name := by
  have hfield : r.clearDirty.field? name = (r.field? name).map Field.clean :=
    Entries.find?_map _ (fun _ => Field.clean) _
  rw [get, get, hfield, Option.map_map]
  rfl

theorem isNew_clearDirty (r : Record) : r.clearDirty.isNew = r.isNew := by
  simp only [isNew, has, get_clearDirty]
  rfl

/-- Of the pairs that a record is written out as, one is for each attribute. -/
theorem Fits.given_attrs (h : r.Fits m) (name : String) :
    r.given name r.attrs = (Entries.find? name r.attrs).toList := by
  have hown : r.attrs.filter (fun pair => r.canonical pair.1 == name) =
      r.attrs.filter fun pair => pair.1 == name := by
    refine List.filter_congr fun pair hpair => ?_
    have hkey : pair.1 ∈ Entries.keys r.fields := by
      rw [← keys_attrs]
      exact List.mem_map_of_mem hpair
    rw [h.canonical_of_declared (h.mem_keys_iff.mp hkey)]
  rw [given, hown, Entries.filter_key h.sorted_attrs.nodup_keys]
  cases Entries.find? name r.attrs <;> rfl

theorem Fits.accept_value (h : r.Fits m) {a : Attr} {f : Field}
    (hf : Entries.find? a.name r.fields = some f) (hinitial : f.initial = a.initialValue) :
    a.accept f.value = f.value := by
  rw [← Field.accept_of_initial hinitial, h.accept_stored hf]

end Record

namespace Model

variable {ρ : Type} {m : Model ρ} {r : Record}

theorem init_attrs (hnames : m.names.Nodup) (h : r.Fits m) (hmodel : r.model = m.name)
    (hkey : r.primaryKey = m.primaryKey) :
    m.init r.attrs = { r.clearDirty with messages := [] } := by
  have hgiven : m.blank.given = r.given := Record.given_of_aliases_eq h.aliases.symm
  have hfields : (m.init r.attrs).fields = r.clearDirty.fields := by
    refine Entries.eq_of_find?_eq (Record.Fits.init hnames _).sorted h.clearDirty.sorted ?_
    intro name
    rw [init_eq_reading hnames, find?_fields_reading hnames, Record.clearDirty,
      Entries.find?_map name (fun _ => Field.clean), hgiven]
    cases hnamed : m.named? name with
    | none =>
      have hname : name ∉ Entries.keys r.fields := by
        rw [h.mem_keys_iff, ← declares_eq_true_iff, ← isSome_named?, hnamed]
        exact Bool.false_ne_true
      rw [Entries.find?_of_not_mem_keys hname]
      rfl
    | some a =>
      cases name_of_named? hnamed
      obtain ⟨f, hf, hinitial, -⟩ := h.exists_field hnames (List.mem_of_find?_eq_some hnamed)
      have hstored : Entries.find? a.name r.attrs = some f.value := by
        rw [Record.attrs, Entries.find?_map a.name (fun _ => Field.value), hf]
        rfl
      have hsettled : a.settled (r.given a.name r.attrs) = f.value := by
        rw [h.given_attrs, hstored]
        exact h.accept_value hf hinitial
      rw [hf, Option.map_some, Option.map_some, hsettled, Attr.field, ← hinitial]
      rfl
  rw [init_eq, hfields]
  cases r
  cases hmodel
  cases hkey
  cases h.aliases
  rfl

theorem record_frame (m : Model ρ) (pairs sets : List (String × Value)) :
    m.record pairs sets = { m.blank with fields := (m.record pairs sets).fields } := by
  have hrecord : m.record pairs sets = (m.init pairs).setAll sets := rfl
  rw [hrecord, Record.setAll_frame, init_eq]

/-- A record that is written out and made again is the same but for its messages and its marks. -/
theorem init_of_toValue (m : Model ρ) (hm : m.Declared) (pairs sets : List (String × Value)) :
    let r := m.record pairs sets
    ∃ entries, r.toValue = .map entries ∧ (Entries.keys entries).Nodup ∧
      (∀ name, name ∈ Entries.keys entries ↔ name ∈ m.names) ∧
      let again := m.init entries
      again.attrs = r.attrs ∧ again.isNew = r.isNew ∧ again.dirty = [] ∧ again.messages = [] ∧
        again.toValue = r.toValue := by
  intro r
  have hfits : r.Fits m := fits_record hm.nodup_names pairs sets
  have hagain : m.init r.attrs = { r.clearDirty with messages := [] } := by
    refine init_attrs hm.nodup_names hfits ?_ ?_
    · exact congrArg Record.model (m.record_frame pairs sets)
    · exact congrArg Record.primaryKey (m.record_frame pairs sets)
  have hattrs : (m.init r.attrs).attrs = r.attrs := by
    rw [hagain]
    exact r.attrs_clearDirty
  refine ⟨r.attrs, rfl, hfits.sorted_attrs.nodup_keys, fun name => ?_, hattrs, ?_,
    Record.dirty_clearDirty _, ?_, congrArg Value.map hattrs⟩
  · rw [Record.keys_attrs, hfits.mem_keys_iff]
  · rw [hagain]
    exact r.isNew_clearDirty
  · rw [hagain]

/-- The alias that the status was set under is written out as its name. -/
theorem init_of_toValue_of_draft :
    let r := draftModel.record [("state", .text "live")] [("head", .int 1), ("state", .null)]
    draftModel.Declared ∧ r.dirty = ["status", "title"] ∧
      r.toValue = .map [("status", .text "draft"), ("title", .int 1)] ∧
      (draftModel.init [("status", .text "draft"), ("title", .int 1)]).toValue = r.toValue := by
  intro r
  have htoValue : r.toValue = .map [("status", .text "draft"), ("title", .int 1)] := rfl
  obtain ⟨entries, hentries, -, -, -, -, -, -, hagain⟩ :=
    init_of_toValue draftModel draftModel_declared [("state", .text "live")]
      [("head", .int 1), ("state", .null)]
  rw [htoValue] at hentries
  cases hentries
  exact ⟨draftModel_declared, rfl, htoValue, hagain⟩

end Model

end QueryLayer
