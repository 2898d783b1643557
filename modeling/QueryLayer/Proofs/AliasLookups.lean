import Mathlib.Data.List.Find
import QueryLayer.Proofs.AttributeHistory
import QueryLayer.Proofs.RecordShape

/-! # Looking attributes up by name and alias

A model goes through its declarations, for a name first and then for an alias. A record goes by the
aliases that were collected when it was made. Both find the same attribute, whichever attributes
share an alias and whatever names the aliases repeat.
-/

set_option autoImplicit false

namespace QueryLayer

namespace Model

variable {ρ : Type}

theorem getAttr_of_not_declared {m : Model ρ} {name : String} (h : m.declares name = false) :
    m.getAttr name = m.attrs.find? fun a => a.aliases.contains name := by
  have hnamed := named?_of_not_declared h
  rw [named?] at hnamed
  -- an attribute of another name answers by its aliases alone
  have hanswers : ∀ a ∈ m.attrs, a.answersTo name = a.aliases.contains name := by
    intro a ha
    have hne := List.find?_eq_none.mp hnamed a ha
    rw [Bool.not_eq_true] at hne
    rw [Attr.answersTo, hne, Bool.false_or]
  rw [getAttr, hnamed, Option.none_or]
  exact List.find?_congr hanswers

theorem exists_getAttr_of_declared {m : Model ρ} {name : String} (h : m.declares name = true) :
    ∃ a, m.getAttr name = some a ∧ a.name = name := by
  rw [← isSome_named?] at h
  obtain ⟨a, ha⟩ := Option.isSome_iff_exists.mp h
  exact ⟨a, getAttr_of_named? ha, name_of_named? ha⟩

theorem mem_of_getAttr {m : Model ρ} {name : String} {a : Attr} (h : m.getAttr name = some a) :
    a ∈ m.attrs := by
  rcases Option.or_eq_some_iff.mp h with hnamed | ⟨-, halias⟩
  · exact List.mem_of_find?_eq_some hnamed
  · exact List.mem_of_find?_eq_some halias

end Model

namespace Record.Fits

variable {ρ : Type} {m : Model ρ} {r : Record}

theorem canonical_eq_getAttr (h : r.Fits m) (name : String) :
    r.canonical name = ((m.getAttr name).map Attr.name).getD name := by
  rw [h.canonical_eq]
  cases hname : m.declares name with
  | true =>
    obtain ⟨a, ha, heq⟩ := Model.exists_getAttr_of_declared hname
    simp [ha, heq]
  | false => simp [Model.getAttr_of_not_declared hname]

theorem isDeclared_eq_getAttr (h : r.Fits m) (name : String) :
    r.isDeclared name = (m.getAttr name).isSome := by
  rw [Bool.eq_iff_iff, h.isDeclared_iff_mem_names, h.canonical_eq_getAttr]
  cases hget : m.getAttr name with
  | some a =>
    have hname : a.name ∈ m.names := List.mem_map_of_mem (Model.mem_of_getAttr hget)
    simpa using hname
  | none =>
    have hname : name ∉ m.names := by
      intro hmem
      obtain ⟨a, ha, -⟩ :=
        Model.exists_getAttr_of_declared (Model.declares_eq_true_iff.mpr hmem)
      simp [hget] at ha
    simpa using hname

end Record.Fits

namespace Record

variable {P : Plugins}

/-- A model and its records find the same attribute under every text. -/
theorem lookups_agree (b : Behavior P) (hrules : ∀ rule, (b.recordRule rule).Edits)
    (m : Model P.RecordRule) (hm : m.Declared) (r : Record) (h : Reached b m r) (name : String) :
    ((∃ a, m.getAttr name = some a) ↔ r.isDeclared name = true) ∧
    (∀ a, m.getAttr name = some a → a ∈ m.attrs ∧ r.canonical name = a.name) ∧
    (m.getAttr name = none →
      r.canonical name = name ∧ r.get name = .null ∧ ∀ v, r.assign name v = (r, false)) := by
  have hfits := h.fits hrules hm
  have hcanonical := hfits.canonical_eq_getAttr name
  have hdeclared := hfits.isDeclared_eq_getAttr name
  refine ⟨?_, fun a ha => ⟨Model.mem_of_getAttr ha, ?_⟩, fun hnone => ?_⟩
  · rw [hdeclared, Option.isSome_iff_exists]
  · rw [hcanonical, ha]
    rfl
  · rw [hnone] at hcanonical hdeclared
    refine ⟨hcanonical, get_of_not_declared hdeclared, fun v => ?_⟩
    rw [assign_eq, set_of_not_declared hdeclared, hdeclared]
    rfl

/-- Aliases that repeat each other, another attribute's name and their own attribute's name. -/
def tangledModel : Model countingPlugins.RecordRule :=
  ((Model.attr { name := "post" } { name := "title", aliases := ["title", "status", "head"] }).attr
    { name := "status", aliases := ["head", "id", "state"] }).id "id"

theorem lookups_agree_in_tangled :
    let r := ((tangledModel.init [("state", .text "live")]).set "head" (.int 1)).clearDirty
    (tangledModel.getAttr "head").map Attr.name = some "title" ∧ r.canonical "head" = "title" ∧
      r.canonical "status" = "status" ∧ r.isDeclared "state" = true ∧
      r.get "body" = .null ∧ r.assign "body" (.int 2) = (r, false) := by
  intro r
  have hdeclared : tangledModel.Declared := .id _ (.attr _ (.attr _ (.new "post")))
  have hreached : Reached counting tangledModel r :=
    .clearDirty (.set "head" (.int 1) (.init [("state", .text "live")]))
  have hagree := lookups_agree counting edits_messageRule tangledModel hdeclared r hreached
  obtain ⟨-, hstatus, -⟩ := hagree "status"
  obtain ⟨-, hhead, -⟩ := hagree "head"
  obtain ⟨hstate, -, -⟩ := hagree "state"
  obtain ⟨-, -, hbody⟩ := hagree "body"
  obtain ⟨-, hnull, hassign⟩ := hbody rfl
  exact ⟨rfl, (hhead _ rfl).2, (hstatus _ rfl).2, hstate.mp ⟨_, rfl⟩, hnull, hassign (.int 2)⟩

end Record

end QueryLayer
