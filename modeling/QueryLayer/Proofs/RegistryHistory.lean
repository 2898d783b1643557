import Mathlib.Data.List.DropRight
import QueryLayer.Registry

/-! # Registries and their histories

What a registry answers can be read off the registrations that were made since it was cleared last.
A name that comes back moves its lookup on to the later registration, while the default stays with
the earliest one and the list of registrations only grows.
-/

set_option autoImplicit false

namespace QueryLayer.Registry

variable {α : Type}

inductive Change (α : Type) where
  | register (name : String) (a : α)
  | clear

namespace Change

def isClear : Change α → Bool
  | register _ _ => false
  | clear => true

def registration? : Change α → Option (String × α)
  | register name a => some (name, a)
  | clear => none

end Change

def change (r : Registry α) : Change α → Registry α
  | .register name a => r.register name a
  | .clear => {}

def after (history : List (Change α)) : Registry α := history.foldl change {}

/-- The registrations since the last clear, in their order. -/
def registrations (history : List (Change α)) : List (String × α) :=
  (history.rtakeWhile fun c => !c.isClear).filterMap Change.registration?

theorem after_concat (history : List (Change α)) (c : Change α) :
    after (history ++ [c]) = (after history).change c := by
  rw [after, List.foldl_concat]
  rfl

theorem registrations_clear (history : List (Change α)) :
    registrations (history ++ [.clear]) = [] := by
  rw [registrations, List.rtakeWhile_concat_neg _ _ _ (by simp [Change.isClear])]
  rfl

theorem registrations_register (name : String) (a : α) (history : List (Change α)) :
    registrations (history ++ [.register name a]) = registrations history ++ [(name, a)] := by
  rw [registrations, List.rtakeWhile_concat_pos _ _ _ (by simp [Change.isClear]),
    List.filterMap_append]
  rfl

theorem entries_after (history : List (Change α)) :
    (after history).entries = registrations history := by
  induction history using List.reverseRecOn with
  | nil => rfl
  | append_singleton history c ih =>
    rw [after_concat]
    cases c with
    | clear =>
      rw [registrations_clear]
      rfl
    | register name a =>
      rw [registrations_register, ← ih]
      rfl

def LastUnder (made : List (String × α)) (name : String) (a : α) : Prop :=
  ∃ earlier later, made = earlier ++ (name, a) :: later ∧ ∀ b, (name, b) ∉ later

/-- The answers of a registry in which these registrations were made in this order. -/
structure AnswersFrom (r : Registry α) (made : List (String × α)) : Prop where
  lookup : ∀ name a, r.lookup name = some a ↔ LastUnder made name a
  missing : ∀ name, r.lookup name = none ↔ ∀ a, (name, a) ∉ made
  default : ∀ a, r.default? = some a ↔ ∃ name later, made = (name, a) :: later
  empty : r.default? = none ↔ made = []
  all : r.toList = made.map Prod.snd

theorem answersFrom_entries (r : Registry α) : r.AnswersFrom r.entries where
  lookup _ _ := lookup_eq_some_iff
  missing _ := lookup_eq_none_iff
  default _ := default?_eq_some_iff
  empty := default?_eq_none_iff
  all := rfl

theorem answersFrom_after (history : List (Change α)) :
    (after history).AnswersFrom (registrations history) := by
  rw [← entries_after]
  exact answersFrom_entries _

end QueryLayer.Registry
