import QueryLayer.Proofs.AttributeHistory
import QueryLayer.Proofs.SettingAttributes

/-! # The attributes of a declared model

A model lists its attributes by when their names were first declared, with what was declared last
under each name. So the primary key is always the name of one of them, and whether a record is new
can be read off the value that stands under that very name: an alias of the same text leads nowhere.
-/

set_option autoImplicit false

namespace QueryLayer

/-- The attribute is a primary key without being declared as one. -/
def Attr.StandsForKey (a : Attr) : Prop := a.flagged = true ∨ a.name = "id" ∨ a.name = "_id"

theorem Attr.isPrimaryKey_eq_true_iff {a : Attr} : a.isPrimaryKey = true ↔ a.StandsForKey := by
  simp [StandsForKey, isPrimaryKey, or_assoc]

namespace Model

variable {ρ : Type}

namespace Part

def name? : Part ρ → Option String
  | attr a => some a.name
  | id name => some name
  | rule _ => none

def declared (parts : List (Part ρ)) : List String := parts.filterMap name?

theorem declared_concat (parts : List (Part ρ)) (p : Part ρ) :
    declared (parts ++ [p]) = declared parts ++ p.name?.toList := by
  rw [declared, List.filterMap_append]
  cases p <;> rfl

end Part

/-! ## Names and definitions -/

theorem names_add (m : Model ρ) (p : Part ρ) {name : String} (h : p.name? = some name) :
    (m.add p).names = if name ∈ m.names then m.names else m.names ++ [name] := by
  simp only [← declares_eq_true_iff]
  cases p with
  | attr a =>
    cases h
    exact names_attr m _
  | id key =>
    cases h
    exact names_id m _
  | rule r => cases h

theorem names_ofParts (model : String) (parts : List (Part ρ)) :
    (ofParts model parts).names = (Part.declared parts).eraseDups := by
  induction parts using List.reverseRecOn with
  | nil => rfl
  | append_singleton parts p ih =>
    rw [ofParts_concat, Part.declared_concat]
    cases h : p.name? with
    | none =>
      cases p with
      | rule r =>
        rw [Option.toList_none, List.append_nil, ← ih]
        rfl
      | _ => cases h
    | some name =>
      rw [names_add _ p h, Option.toList_some, eraseDups_concat, ih]
      simp only [List.mem_eraseDups]

/-- What stands in the list was declared last under its name, or else is the attribute of a key. -/
theorem attrs_ofParts (model : String) (parts : List (Part ρ)) :
    (ofParts model parts).attrs = (ofParts model parts).names.map fun name =>
      (Part.definition? parts name).getD (keyAttr name) := by
  have hnodup := (declared_ofParts model parts).nodup_names
  rw [names, List.map_map]
  refine (List.map_congr_left fun a ha => ?_).trans (List.map_id' _) |>.symm
  have hnamed : (ofParts model parts).named? a.name = some a := find?_of_mem hnodup ha
  rw [named?_ofParts] at hnamed
  rw [Function.comp_apply]
  cases hdefinition : Part.definition? parts a.name with
  | some b => simpa [hdefinition] using hnamed
  | none =>
    rw [hdefinition, Option.none_or] at hnamed
    split at hnamed
    · exact Option.some.inj hnamed
    · cases hnamed

theorem attrs_ofParts_id (model : String) (parts : List (Part ρ)) (key : String) :
    (ofParts model (parts ++ [.id key])).attrs =
      if key ∈ (ofParts model parts).names then (ofParts model parts).attrs
      else (ofParts model parts).attrs ++ [keyAttr key] := by
  rw [ofParts_concat]
  simp only [← declares_eq_true_iff]
  rfl

/-! ## The primary key -/

theorem primaryKey_ofParts_iff {model key : String} {parts : List (Part ρ)} :
    (ofParts model parts).primaryKey = some key ↔
      (Part.keys parts).getLast? = some key ∨
      Part.keys parts = [] ∧ ∃ before a after, (ofParts model parts).attrs = before ++ a :: after ∧
        a.name = key ∧ a.StandsForKey ∧ ∀ b ∈ before, ¬ b.StandsForKey := by
  simp only [← Attr.isPrimaryKey_eq_true_iff]
  rw [primaryKey, key_ofParts]
  cases hkeys : (Part.keys parts).getLast? with
  | some last =>
    have hne : Part.keys parts ≠ [] := by
      rintro hnil
      simp [hnil] at hkeys
    simp [hne]
  | none =>
    rw [Option.none_or, Option.map_eq_some_iff]
    simp only [List.getLast?_eq_none_iff.mp hkeys, List.find?_eq_some_iff_append]
    constructor
    · rintro ⟨a, ⟨hkey, before, after, hattrs, hbefore⟩, hname⟩
      refine .inr ⟨trivial, before, a, after, hattrs, hname, hkey, fun b hb => ?_⟩
      simpa using hbefore b hb
    · rintro (hlast | ⟨-, before, a, after, hattrs, hname, hkey, hbefore⟩)
      · cases hlast
      · refine ⟨a, ⟨hkey, before, after, hattrs, fun b hb => ?_⟩, hname⟩
        simpa using hbefore b hb

theorem primaryKey_mem_names {model key : String} {parts : List (Part ρ)}
    (h : (ofParts model parts).primaryKey = some key) : key ∈ (ofParts model parts).names := by
  obtain ⟨a, hnamed, -⟩ := exists_of_primaryKey h
  rw [← declares_eq_true_iff, ← isSome_named?, hnamed]
  rfl

end Model

/-! ## New records -/

namespace Record

variable {P : Plugins} {b : Behavior P} {m : Model P.RecordRule} {r s : Record}

theorem primaryKey_edits (hedits : Relation.ReflTransGen Edit r s) :
    s.primaryKey = r.primaryKey := by
  induction hedits with
  | refl => rfl
  | tail _ hedit ih =>
    rw [← ih]
    cases hedit <;> rfl

theorem Reached.primaryKey_eq (hrules : ∀ rule, (b.recordRule rule).Edits) (h : Reached b m r) :
    r.primaryKey = m.primaryKey := by
  induction h with
  | init pairs =>
    have hinit : m.init pairs = (m.blank.setAll pairs).clearDirty := rfl
    rw [hinit, setAll_frame]
    rfl
  | set name v _ ih => exact ih
  | clearDirty _ ih => exact ih
  | validate other ps _ ih => exact (primaryKey_edits (edits_validate hrules other ps _)).trans ih
  | @save r other ctx store _ ih =>
    have hchecked := primaryKey_edits (edits_validate hrules other ctx.predicates r)
    have hending := other.save_ending b ctx r store
    generalize other.validate b ctx.predicates r = checked at hchecked hending
    generalize other.save b ctx r store = saved at hending ⊢
    obtain ⟨o, left⟩ := saved
    rw [← ih, ← hchecked]
    cases hending <;> rfl

theorem Fits.mem_attrs_iff {ρ : Type} {m : Model ρ} (h : r.Fits m) {name : String}
    (hname : name ∈ m.names) {v : Value} : (name, v) ∈ r.attrs ↔ r.get name = v := by
  have hfind : Entries.find? name r.attrs = (r.field? name).map Field.value := by
    rw [field?, h.canonical_of_declared hname]
    exact Entries.find?_map name (fun _ => Field.value) r.fields
  have hdeclared : r.isDeclared name = true := by
    rwa [h.isDeclared_iff_mem_names, h.canonical_of_declared hname]
  obtain ⟨f, hf⟩ := Option.isSome_iff_exists.mp hdeclared
  rw [Entries.mem_iff_find? h.sorted_attrs.nodup_keys, hfind, Record.get, hf]
  simp

theorem Fits.isNew_iff {ρ : Type} {m : Model ρ} (h : r.Fits m)
    (hkey : ∀ key, r.primaryKey = some key → key ∈ m.names) :
    r.isNew = true ↔
      r.primaryKey = none ∨ ∃ key, r.primaryKey = some key ∧ (key, .null) ∈ r.attrs := by
  rw [isNew]
  cases hprimary : r.primaryKey with
  | none => simp
  | some key => simp [has, h.mem_attrs_iff (hkey key hprimary), Value.isNull_eq_true_iff]

end Record

namespace Model

variable {P : Plugins}

/-- What a sequence of declarations makes of a model and of its records. -/
theorem declared_by_parts (model : String) (parts : List (Part P.RecordRule)) :
    let m := ofParts model parts
    m.names.Nodup ∧ m.names = (Part.declared parts).eraseDups ∧
    (m.attrs = m.names.map fun name => (Part.definition? parts name).getD (keyAttr name)) ∧
    (∀ key, (ofParts model (parts ++ [.id key])).attrs =
      if key ∈ m.names then m.attrs else m.attrs ++ [keyAttr key]) ∧
    (∀ key, m.primaryKey = some key ↔
      (Part.keys parts).getLast? = some key ∨
      Part.keys parts = [] ∧ ∃ before a after, m.attrs = before ++ a :: after ∧ a.name = key ∧
        a.StandsForKey ∧ ∀ b ∈ before, ¬ b.StandsForKey) ∧
    (∀ key, m.primaryKey = some key → key ∈ m.names) ∧
    ∀ b : Behavior P, (∀ rule, (b.recordRule rule).Edits) → ∀ r, Record.Reached b m r →
      (r.isNew = true ↔ m.primaryKey = none ∨
        ∃ key, m.primaryKey = some key ∧ (key, .null) ∈ r.attrs) := by
  intro m
  have hm : m.Declared := declared_ofParts model parts
  refine ⟨hm.nodup_names, names_ofParts model parts, attrs_ofParts model parts,
    attrs_ofParts_id model parts, fun key => primaryKey_ofParts_iff,
    fun key => primaryKey_mem_names, ?_⟩
  intro b hrules r h
  have hprimary := h.primaryKey_eq hrules
  rw [← hprimary]
  refine (h.fits hrules hm).isNew_iff fun key hkey => primaryKey_mem_names ?_
  rw [← hkey, hprimary]

/-- Parts that declare a key which is also an alias of an attribute declared twice. -/
def articleParts : List (Part countingPlugins.RecordRule) :=
  [.attr { name := "title" }, .id "code", .rule .forget,
    .attr { name := "title", initial := some (.text "draft"), aliases := ["code"] }, .id "code"]

theorem declared_by_articleParts :
    let m := ofParts "article" articleParts
    let r := m.init [("title", .text "a")]
    m.names = ["title", "code"] ∧ m.primaryKey = some "code" ∧
      (m.attrs.find? fun a => a.aliases.contains "code").map Attr.name = some "title" ∧
      r.isNew = true ∧ (r.set "code" (.int 1)).isNew = false := by
  intro m r
  obtain ⟨-, hnames, -, -, hkey, -, hnew⟩ := declared_by_parts "article" articleParts
  have hprimary : m.primaryKey = some "code" := (hkey "code").mpr (.inl rfl)
  have hisNew := hnew counting Record.edits_messageRule
  refine ⟨hnames, hprimary, rfl, ?_, ?_⟩
  · refine (hisNew r (.init _)).mpr (.inr ⟨"code", hprimary, ?_⟩)
    have hr : r.attrs = [("code", .null), ("title", .text "a")] := by rfl
    simp [hr]
  · rw [← Bool.not_eq_true, hisNew _ (.set "code" (.int 1) (.init _))]
    have hr : (r.set "code" (.int 1)).attrs = [("code", .int 1), ("title", .text "a")] := by rfl
    rintro (hnone | ⟨key, -, hnull⟩)
    · exact nomatch hprimary.symm.trans hnone
    · rw [hr] at hnull
      simp at hnull

end Model

end QueryLayer
