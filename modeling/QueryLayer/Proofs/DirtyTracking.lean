import QueryLayer.Proofs.InitialRecords
import QueryLayer.Proofs.ValueEquality

/-! # Which attributes are dirty

Whether a set makes its attribute dirty is decided against the value that the attribute holds at
that moment. Equality is transitive, so what no set has changed since the record was clean is still
equal to what it was then, unless it was not set at all.
-/

set_option autoImplicit false

namespace QueryLayer

theorem exists_split_concat_iff {α : Type} {p : List α → α → Prop} {xs : List α} {x : α} :
    (∃ front y back, xs ++ [x] = front ++ y :: back ∧ p front y) ↔
      (∃ front y back, xs = front ++ y :: back ∧ p front y) ∨ p xs x := by
  constructor
  · rintro ⟨front, y, back, hsplit, hp⟩
    rcases List.eq_nil_or_concat back with rfl | ⟨back, z, rfl⟩
    · obtain ⟨rfl, hlast⟩ := List.append_inj' hsplit rfl
      cases hlast
      exact .inr hp
    · rw [List.concat_eq_append, ← List.cons_append, ← List.append_assoc] at hsplit
      exact .inl ⟨front, y, back, (List.append_inj' hsplit rfl).1, hp⟩
  · rintro (⟨front, y, back, rfl, hp⟩ | hp)
    · exact ⟨front, y, back ++ [x], by simp, hp⟩
    · exact ⟨xs, x, [], rfl, hp⟩

namespace Record

def Changes (r : Record) (a : Attr) (pair : String × Value) : Prop :=
  r.canonical pair.1 = a.name ∧ (r.get a.name).same (a.accept pair.2) = false

section

variable {ρ : Type} {m : Model ρ} {r : Record} {a : Attr}

/-! ## One set -/

theorem Fits.mem_dirty_set (h : r.Fits m) (hnames : m.names.Nodup) (ha : a ∈ m.attrs)
    (pair : String × Value) :
    a.name ∈ (r.set pair.1 pair.2).dirty ↔ a.name ∈ r.dirty ∨ r.Changes a pair := by
  obtain ⟨f, hf, hinitial, hget⟩ := h.exists_field hnames ha
  rw [mem_dirty_iff_find? (h.set pair.1 pair.2).sorted, mem_dirty_iff_find? h.sorted, Record.set,
    Entries.find?_modify, hf, Changes,
    hget, ← Field.accept_of_initial hinitial]
  by_cases hkey : r.canonical pair.1 = a.name
  · simp [hkey, Field.put]
  · simp [hkey, Ne.symm hkey]

theorem Fits.get_set_attr (h : r.Fits m) (hnames : m.names.Nodup) (ha : a ∈ m.attrs)
    (pair : String × Value) :
    (r.set pair.1 pair.2).get a.name =
      if r.canonical pair.1 = a.name then a.accept pair.2 else r.get a.name := by
  obtain ⟨f, hf, hinitial, -⟩ := h.exists_field hnames ha
  have hcanonical := h.canonical_of_declared (List.mem_map_of_mem ha)
  have hfield : r.field? a.name = some f := by rw [field?, hcanonical, hf]
  rw [get_set, hcanonical, hfield, Option.map_some, Option.getD_some,
    Field.accept_of_initial hinitial]
  simp only [eq_comm]

/-! ## A sequence of sets -/

theorem Fits.mem_dirty_setAll (h : r.Fits m) (hnames : m.names.Nodup) (hclean : r.dirty = [])
    (ha : a ∈ m.attrs) (sets : List (String × Value)) :
    a.name ∈ (r.setAll sets).dirty ↔ ∃ earlier pair later,
      sets = earlier ++ pair :: later ∧ (r.setAll earlier).Changes a pair := by
  induction sets using List.reverseRecOn with
  | nil => simp [Record.setAll, hclean]
  | append_singleton sets pair ih =>
    rw [setAll_concat, (h.setAll sets).mem_dirty_set hnames ha, ih]
    exact exists_split_concat_iff.symm

theorem Fits.get_setAll_of_clean (h : r.Fits m) (hnames : m.names.Nodup) (ha : a ∈ m.attrs)
    {sets : List (String × Value)} (hclean : a.name ∉ (r.setAll sets).dirty) :
    (r.setAll sets).get a.name = r.get a.name ∨
      ((r.setAll sets).get a.name).same (r.get a.name) = true := by
  induction sets using List.reverseRecOn with
  | nil => exact .inl rfl
  | append_singleton sets pair ih =>
    rw [setAll_concat, (h.setAll sets).mem_dirty_set hnames ha, not_or] at hclean
    obtain ⟨hearlier, hchanges⟩ := hclean
    rw [setAll_concat, (h.setAll sets).get_set_attr hnames ha]
    split
    · rename_i hkey
      -- what is given equals what was held, and that equals what was held at first
      have hsame : ((r.setAll sets).get a.name).same (a.accept pair.2) = true := by
        rw [← Bool.not_eq_false]
        exact fun hother => hchanges ⟨hkey, hother⟩
      rcases ih hearlier with heq | hheld
      · exact .inr (heq ▸ Value.same_symm hsame)
      · exact .inr (Value.same_trans (Value.same_symm hsame) hheld)
    · exact ih hearlier

end

/-! ## Since a record was clean -/

variable {P : Plugins}

/-- The record comes by these sets from the one that it was when its marks were last cleared. -/
inductive Since (b : Behavior P) (m : Model P.RecordRule) :
    Record → List (String × Value) → Record → Prop where
  | init (pairs : List (String × Value)) : Since b m (m.init pairs) [] (m.init pairs)
  | clearDirty {start r : Record} {sets : List (String × Value)} :
    Since b m start sets r → Since b m r.clearDirty [] r.clearDirty
  | saved {start r : Record} {sets : List (String × Value)} {records : List Value}
    (other : Model P.RecordRule) (ctx : Context P) (store : P.Store) :
    Since b m start sets r → (other.save b ctx r store).1.result = .ok records →
      Since b m (other.save b ctx r store).2 [] (other.save b ctx r store).2
  | messages {start r : Record} {sets : List (String × Value)} (messages : List String) :
    Since b m start sets r → Since b m start sets { r with messages := messages }
  | set {start r : Record} {sets : List (String × Value)} (pair : String × Value) :
    Since b m start sets r → Since b m start (sets ++ [pair]) (r.set pair.1 pair.2)

variable {b : Behavior P} {m : Model P.RecordRule} {start r s : Record}
  {sets : List (String × Value)}

theorem Since.edits (h : Since b m start sets r) (hedits : Relation.ReflTransGen Edit r s) :
    ∃ more, Since b m start (sets ++ more) s := by
  induction hedits with
  | refl => exact ⟨[], by rwa [List.append_nil]⟩
  | tail _ hedit ih =>
    obtain ⟨more, hmore⟩ := ih
    cases hedit with
    | messages messages => exact ⟨more, hmore.messages messages⟩
    | set name v => exact ⟨more ++ [(name, v)], by simpa using hmore.set (name, v)⟩

/-- Whatever was done to a record of a model, it was clean once, and there are sets since then. -/
theorem exists_since_of_reached (hrules : ∀ rule, (b.recordRule rule).Edits)
    (h : Reached b m r) : ∃ start sets, Since b m start sets r := by
  induction h with
  | init pairs => exact ⟨_, _, .init pairs⟩
  | set name v _ ih =>
    obtain ⟨start, sets, hsince⟩ := ih
    exact ⟨_, _, hsince.set (name, v)⟩
  | clearDirty _ ih =>
    obtain ⟨start, sets, hsince⟩ := ih
    exact ⟨_, _, hsince.clearDirty⟩
  | @validate r other ps _ ih =>
    obtain ⟨start, sets, hsince⟩ := ih
    obtain ⟨more, hmore⟩ := hsince.edits (edits_validate hrules other ps r)
    exact ⟨_, _, hmore⟩
  | @save r other ctx store _ ih =>
    obtain ⟨start, sets, hsince⟩ := ih
    have hending := other.save_ending b ctx r store
    cases hresult : (other.save b ctx r store).1.result with
    | ok records => exact ⟨_, _, hsince.saved other ctx store hresult⟩
    | error e =>
      -- a saving that fails has validated the record and no more
      obtain ⟨hleft, -⟩ :=
        hending.of_error (other.dispatch?_validate b ctx.predicates r) hresult
      rw [hleft]
      obtain ⟨more, hmore⟩ := hsince.edits (edits_validate hrules other ctx.predicates r)
      exact ⟨_, _, hmore⟩

theorem Since.cleared (hrules : ∀ rule, (b.recordRule rule).Edits) (hnames : m.names.Nodup)
    (h : Since b m start sets r) : start.Fits m ∧ start.dirty = [] ∧
      ∃ told, r = { start.setAll sets with messages := told } := by
  induction h with
  | init pairs => exact ⟨.init hnames pairs, dirty_clearDirty _, _, rfl⟩
  | clearDirty _ ih =>
    obtain ⟨hfits, -, told, rfl⟩ := ih
    exact ⟨((hfits.setAll _).messages told).clearDirty, dirty_clearDirty _, _, rfl⟩
  | @saved _ r _ records other ctx store _ hok ih =>
    obtain ⟨hfits, -, told, hr⟩ := ih
    have hfits' : r.Fits m := by
      rw [hr]
      exact (hfits.setAll _).messages told
    have hending := other.save_ending b ctx r store
    obtain ⟨hleft, -⟩ := hending.of_ok (other.dispatch?_validate b ctx.predicates r) hok
    refine ⟨hfits'.save hrules other ctx store, ?_, _, rfl⟩
    rw [hleft]
    exact dirty_clearDirty _
  | messages told _ ih =>
    obtain ⟨hfits, hclean, -, rfl⟩ := ih
    exact ⟨hfits, hclean, told, rfl⟩
  | set pair _ ih =>
    obtain ⟨hfits, hclean, told, rfl⟩ := ih
    refine ⟨hfits, hclean, told, ?_⟩
    rw [setAll_concat]
    rfl

/-- An attribute is dirty if and only if a set has changed it since the record was clean. -/
theorem dirty_iff_changed_since (b : Behavior P) (hrules : ∀ rule, (b.recordRule rule).Edits)
    (m : Model P.RecordRule) (hm : m.Declared) :
    (∀ r, Reached b m r → ∃ start sets, Since b m start sets r) ∧
    ∀ start sets r, Since b m start sets r →
      (∀ name ∈ r.dirty, name ∈ m.names) ∧
      ∀ a ∈ m.attrs,
        (a.name ∈ r.dirty ↔ ∃ earlier pair later, sets = earlier ++ pair :: later ∧
          (start.setAll earlier).Changes a pair) ∧
        (a.name ∉ r.dirty →
          r.get a.name = start.get a.name ∨ (r.get a.name).same (start.get a.name) = true) := by
  refine ⟨fun r => exists_since_of_reached hrules, fun start sets r h => ?_⟩
  obtain ⟨hfits, hclean, told, rfl⟩ := h.cleared hrules hm.nodup_names
  refine ⟨fun name hname => ?_, fun a ha => ⟨?_, ?_⟩⟩
  · exact (hfits.setAll sets).mem_keys_iff.mp (mem_keys_of_mem_dirty hname)
  · exact hfits.mem_dirty_setAll hm.nodup_names hclean ha sets
  · exact hfits.get_setAll_of_clean hm.nodup_names ha

/-- The title is set to another value and back, the status to what it is. -/
theorem dirty_since_saving :
    let saved := Model.draftModel.save counting countingContext
      (Model.draftModel.init [("title", .text "a")]) 0
    let r := ((saved.2.set "head" (.text "b")).set "head" (.text "a")).set "state" .null
    saved.1.result = .ok [] ∧ "title" ∈ r.dirty ∧ "status" ∉ r.dirty ∧
      (r.get "status" = saved.2.get "status" ∨
        (r.get "status").same (saved.2.get "status") = true) := by
  intro saved r
  have hsegments : Dotted.segments "post" = ["post"] := rfl
  have hstart : countingContext.resolver.resolveModel "post" = .ok ⟨none, "post"⟩ := by
    simp [Resolver.resolveModel, hsegments]
  have hending := Model.draftModel.save_ending counting countingContext
    (Model.draftModel.init [("title", .text "a")]) 0
  have hok : saved.1.result = .ok [] :=
    (hending.ok_iff []).mpr ⟨⟨rfl, rfl⟩, ⟨none, "post"⟩, (), hstart, rfl, rfl⟩
  have hleft : saved.2 = Model.draftModel.init [("title", .text "a")] :=
    (hending.of_ok (Model.dispatch?_validate _ _ _ _) hok).1
  have hsince : Since counting Model.draftModel saved.2
      [("head", .text "b"), ("head", .text "a"), ("state", .null)] r :=
    ((((Since.init _).saved _ _ _ hok).set ("head", .text "b")).set ("head", .text "a")).set
      ("state", .null)
  obtain ⟨-, hexact⟩ := dirty_iff_changed_since counting edits_messageRule Model.draftModel
    Model.draftModel_declared
  obtain ⟨-, hattrs⟩ := hexact _ _ _ hsince
  obtain ⟨⟨htitle, -⟩, -, hstatus⟩ := Model.forall_mem_draftModel.mp hattrs
  have hclean : "status" ∉ r.dirty := by
    have hdirty : r.dirty = ["title"] := by
      rw [show r = ((saved.2.set "head" (.text "b")).set "head" (.text "a")).set "state" .null
        from rfl, hleft]
      rfl
    simp [hdirty]
  refine ⟨hok, htitle.mpr ⟨[], _, _, rfl, ?_, ?_⟩, hclean, hstatus hclean⟩
  · rw [hleft]
    rfl
  · rw [hleft]
    rfl

end Record

end QueryLayer
