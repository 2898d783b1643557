import Mathlib.Data.List.Forall2
import QueryLayer.Value

/-! # Equality of values kind by kind

Two lists or two maps are the same if they are so place by place, and doubles are compared as
numbers. So equality is symmetric and transitive, and a value is the same as itself unless a double
in it is no number.
-/

set_option autoImplicit false

namespace QueryLayer

section

variable {α β γ : Type} {R : α → β → Prop} {S : β → γ → Prop} {T : α → γ → Prop}

theorem forall₂_swap {Q : β → α → Prop} {xs : List α} {ys : List β} (h : List.Forall₂ R xs ys)
    (hswap : ∀ x ∈ xs, ∀ y, R x y → Q y x) : List.Forall₂ Q ys xs := by
  induction h with
  | nil => exact .nil
  | cons hxy _ ih =>
    obtain ⟨hx, hxs⟩ := List.forall_mem_cons.mp hswap
    exact .cons (hx _ hxy) (ih hxs)

theorem forall₂_imp {R' : α → β → Prop} {xs : List α} {ys : List β} (h : List.Forall₂ R xs ys)
    (himp : ∀ x ∈ xs, ∀ y ∈ ys, R x y → R' x y) : List.Forall₂ R' xs ys := by
  induction h with
  | nil => exact .nil
  | cons hxy _ ih =>
    refine .cons (himp _ List.mem_cons_self _ List.mem_cons_self hxy) (ih fun x hx y hy => ?_)
    exact himp x (List.mem_cons_of_mem _ hx) y (List.mem_cons_of_mem _ hy)

theorem forall₂_trans {xs : List α} {ys : List β} {zs : List γ} (hxy : List.Forall₂ R xs ys)
    (hyz : List.Forall₂ S ys zs)
    (htrans : ∀ (i : Nat) (x : α) (y : β) (z : γ), xs[i]? = some x → ys[i]? = some y →
      zs[i]? = some z → R x y → S y z → T x z) : List.Forall₂ T xs zs := by
  induction hxy generalizing zs with
  | nil =>
    cases hyz
    exact .nil
  | cons hx _ ih =>
    cases hyz with
    | cons hz hzs =>
      exact .cons (htrans 0 _ _ _ rfl rfl rfl hx hz)
        (ih hzs fun i x y z hi hj hk => htrans (i + 1) x y z hi hj hk)

theorem forall₂_getElem? {xs : List α} {ys : List β} (h : List.Forall₂ R xs ys) {i : Nat} {x : α}
    {y : β} (hx : xs[i]? = some x) (hy : ys[i]? = some y) : R x y := by
  induction h generalizing i with
  | nil => cases hx
  | cons hhead _ ih =>
    cases i with
    | zero =>
      cases hx
      cases hy
      exact hhead
    | succ i => exact ih hx hy

end

/-- A comparison of two lists that goes through both at once relates them place by place. -/
theorem iff_forall₂ {α : Type} {f : List α → List α → Bool} {g : α → α → Bool}
    (hnil : f [] [] = true) (hleft : ∀ x xs, f (x :: xs) [] = false)
    (hright : ∀ y ys, f [] (y :: ys) = false)
    (hcons : ∀ x xs y ys, f (x :: xs) (y :: ys) = (g x y && f xs ys)) (xs ys : List α) :
    f xs ys = true ↔ List.Forall₂ (fun x y => g x y = true) xs ys := by
  induction xs generalizing ys with
  | nil => cases ys <;> simp [hnil, hright]
  | cons x xs ih =>
    cases ys with
    | nil => simp [hleft]
    | cons y ys => rw [hcons, Bool.and_eq_true, ih, List.forall₂_cons]

theorem Binary64.same_comm (x y : Binary64) : x.same y = y.same x := by
  rw [Bool.eq_iff_iff, same_eq_true_iff, same_eq_true_iff]
  constructor <;> rintro ⟨hx, hy, hrank⟩ <;> exact ⟨hy, hx, hrank.symm⟩

theorem Binary64.same_trans {x y z : Binary64} (hxy : x.same y = true) (hyz : y.same z = true) :
    x.same z = true := by
  obtain ⟨hx, -, hrank⟩ := same_eq_true_iff.mp hxy
  obtain ⟨-, hz, hrank'⟩ := same_eq_true_iff.mp hyz
  exact same_eq_true_iff.mpr ⟨hx, hz, hrank.trans hrank'⟩

theorem Binary64.same_self (x : Binary64) : x.same x = !x.isNaN := by
  cases h : x.isNaN <;> simp [same, compare?, h]

namespace Value

theorem same_list_iff {xs ys : List Value} :
    same (.list xs) (.list ys) = true ↔ List.Forall₂ (fun x y => same x y = true) xs ys := by
  rw [same]
  exact iff_forall₂ rfl (fun _ _ => rfl) (fun _ _ => rfl) (fun _ _ _ _ => rfl) xs ys

theorem same_map_iff {xs ys : List (String × Value)} :
    same (.map xs) (.map ys) = true ↔
      List.Forall₂ (fun x y => x.1 = y.1 ∧ same x.2 y.2 = true) xs ys := by
  have h := iff_forall₂ (f := sameEntries) (g := fun x y => x.1 == y.1 && same x.2 y.2) rfl
    (fun _ _ => rfl) (fun _ _ => rfl) (fun _ _ _ _ => rfl) xs ys
  simpa only [same, Bool.and_eq_true, beq_iff_eq] using h

mutual

/-- A leaf of the value satisfies `p`, at whatever depth. -/
def anyLeaf (p : Value → Bool) : Value → Bool
  | list items => anyLeafOfItems p items
  | map entries => anyLeafOfEntries p entries
  | v => p v

def anyLeafOfItems (p : Value → Bool) : List Value → Bool
  | [] => false
  | v :: vs => anyLeaf p v || anyLeafOfItems p vs

def anyLeafOfEntries (p : Value → Bool) : List (String × Value) → Bool
  | [] => false
  | (_, v) :: rest => anyLeaf p v || anyLeafOfEntries p rest

end

theorem anyLeaf_list_eq_false_iff {p : Value → Bool} {items : List Value} :
    anyLeaf p (.list items) = false ↔ ∀ v ∈ items, anyLeaf p v = false := by
  rw [anyLeaf]
  induction items with
  | nil => simp [anyLeafOfItems]
  | cons v vs ih => simp [anyLeafOfItems, ih]

theorem anyLeaf_map_eq_false_iff {p : Value → Bool} {entries : List (String × Value)} :
    anyLeaf p (.map entries) = false ↔ ∀ entry ∈ entries, anyLeaf p entry.2 = false := by
  rw [anyLeaf]
  induction entries with
  | nil => simp [anyLeafOfEntries]
  | cons entry rest ih =>
    obtain ⟨k, v⟩ := entry
    simp [anyLeafOfEntries, ih]

def isNaN : Value → Bool
  | float x => x.isNaN
  | _ => false

def hasNaN (v : Value) : Bool := v.anyLeaf isNaN

def hasNumber (v : Value) : Bool := v.anyLeaf isNumeric

theorem same_self_iff (a : Value) : same a a = true ↔ hasNaN a = false := by
  induction a using Value.induction with
  | float x => simp [same, hasNaN, anyLeaf, isNaN, Binary64.same_self]
  | list items ih =>
    rw [same_list_iff, List.forall₂_same, hasNaN, anyLeaf_list_eq_false_iff]
    exact forall₂_congr ih
  | map entries ih =>
    rw [same_map_iff, List.forall₂_same, hasNaN, anyLeaf_map_eq_false_iff]
    simp only [true_and]
    exact forall₂_congr ih
  | _ => simp [same, hasNaN, anyLeaf, isNaN]

theorem eq_of_same {a b : Value} (h : same a b = true) (hfloat : a.kind ≠ .float)
    (hlist : a.kind ≠ .list) (hmap : a.kind ≠ .map) : a = b := by
  cases a <;> cases b <;> simp_all [same, kind]

theorem same_symm {a b : Value} (h : same a b = true) : same b a = true := by
  induction a using Value.induction generalizing b with
  | float x =>
    cases b with
    | float y =>
      rw [same, Binary64.same_comm]
      exact h
    | _ => cases h
  | list xs ih =>
    cases b with
    | list ys => exact same_list_iff.mpr (forall₂_swap (same_list_iff.mp h) fun x hx y => ih x hx)
    | _ => cases h
  | map xs ih =>
    cases b with
    | map ys =>
      refine same_map_iff.mpr (forall₂_swap (same_map_iff.mp h) fun x hx y => ?_)
      rintro ⟨hkey, hsame⟩
      exact ⟨hkey.symm, ih x hx hsame⟩
    | _ => cases h
  | _ =>
    cases eq_of_same h nofun nofun nofun
    exact h

theorem same_trans {a b c : Value} (hab : same a b = true) (hbc : same b c = true) :
    same a c = true := by
  induction a using Value.induction generalizing b c with
  | float x =>
    cases b with
    | float y =>
      cases c with
      | float z => exact Binary64.same_trans hab hbc
      | _ => cases hbc
    | _ => cases hab
  | list xs ih =>
    cases b with
    | list ys =>
      cases c with
      | list zs =>
        refine same_list_iff.mpr (forall₂_trans (same_list_iff.mp hab) (same_list_iff.mp hbc) ?_)
        intro i x y z hx _ _ hxy hyz
        exact ih x (List.mem_of_getElem? hx) hxy hyz
      | _ => cases hbc
    | _ => cases hab
  | map xs ih =>
    cases b with
    | map ys =>
      cases c with
      | map zs =>
        refine same_map_iff.mpr (forall₂_trans (same_map_iff.mp hab) (same_map_iff.mp hbc) ?_)
        rintro i x y z hx _ _ ⟨hkey, hxy⟩ ⟨hkey', hyz⟩
        exact ⟨hkey.trans hkey', ih x (List.mem_of_getElem? hx) hxy hyz⟩
      | _ => cases hbc
    | _ => cases hab
  | _ =>
    cases eq_of_same hab nofun nofun nofun
    exact hbc

end Value

end QueryLayer
