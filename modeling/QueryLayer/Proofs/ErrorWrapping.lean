import Mathlib.Logic.Relation
import QueryLayer.Proofs.CheckAhead
import QueryLayer.PublicError

/-! # Errors inside errors

An error of one part of the library becomes an error of the next part by being wrapped. What callers
are told does not show the wrappers: it is what the innermost error says of itself. Only the
messages of a rejection and the errors of a configuration have a kind that their class does not
tell.
-/

set_option autoImplicit false

namespace QueryLayer

/-- The class of the errors of a kind; no class is peculiar to those of a configuration. -/
def ErrorKind.failureClass? : ErrorKind → Option FailureClass
  | invalid => some .invalid
  | validation _ => some .validation
  | aborted => some .aborted
  | unavailable => some .unavailable
  | adapter => some .external
  | config => none

theorem PublicOrigin.map_toLower_name_ofOrigin (o : Origin) :
    (ofOrigin o).name.toList.map Char.toLower = o.label.toList := by
  cases o <;> rfl

inductive LibraryError where
  | path (e : PathError)
  | query (e : QueryError)
  | pipeline (e : PipelineError)
  | exec (e : ExecError)
  | config (e : ConfigError)

namespace LibraryError

instance : Failure LibraryError where
  message
    | path e => Failure.message e
    | query e => Failure.message e
    | pipeline e => Failure.message e
    | exec e => Failure.message e
    | config e => Failure.message e
  failureClass
    | path e => Failure.failureClass e
    | query e => Failure.failureClass e
    | pipeline e => Failure.failureClass e
    | exec e => Failure.failureClass e
    | config e => Failure.failureClass e
  origin
    | path e => Failure.origin e
    | query e => Failure.origin e
    | pipeline e => Failure.origin e
    | exec e => Failure.origin e
    | config e => Failure.origin e

def toPublic : LibraryError → PublicError
  | path e => .ofFailure e
  | query e => .ofFailure e
  | pipeline e => .ofFailure e
  | exec e => .ofExec e
  | config e => .ofConfig e

def wrapped? : LibraryError → Option LibraryError
  | query (.path e) => some (path e)
  | exec (.query e) => some (query e)
  | exec (.pipeline e) => some (pipeline e)
  | _ => none

def isConfig : LibraryError → Bool
  | config _ => true
  | _ => false

/-- The error is the other one in one more wrapper. -/
def Wraps (inner outer : LibraryError) : Prop := outer.wrapped? = some inner

theorem toPublic_of_wraps {inner outer : LibraryError} (h : Wraps inner outer) :
    outer.toPublic = inner.toPublic := by
  rw [Wraps] at h
  fun_cases wrapped? outer
  case case1 e | case2 e | case3 e =>
    cases h
    rfl
  case case4 => simp_all [wrapped?]

/-- However often an error is wrapped, callers are told the same. -/
theorem toPublic_of_chain {inner outer : LibraryError}
    (h : Relation.ReflTransGen Wraps inner outer) : outer.toPublic = inner.toPublic := by
  induction h with
  | refl => rfl
  | tail _ hwraps ih => exact (toPublic_of_wraps hwraps).trans ih

theorem exists_innermost (e : LibraryError) :
    ∃ innermost, innermost.wrapped? = none ∧ Relation.ReflTransGen Wraps innermost e := by
  have hquery : ∀ e : QueryError,
      ∃ innermost, innermost.wrapped? = none ∧ Relation.ReflTransGen Wraps innermost (query e) := by
    intro e
    cases e with
    | path e => exact ⟨path e, rfl, .single rfl⟩
    | noActiveAttribute operator => exact ⟨_, rfl, .refl⟩
  cases e with
  | query e => exact hquery e
  | exec e =>
    cases e with
    | query e =>
      obtain ⟨innermost, hnone, hchain⟩ := hquery e
      exact ⟨innermost, hnone, hchain.tail rfl⟩
    | pipeline e => exact ⟨pipeline e, rfl, .single rfl⟩
    | _ => exact ⟨_, rfl, .refl⟩
  | _ => exact ⟨_, rfl, .refl⟩

theorem message_toPublic (e : LibraryError) : e.toPublic.message = Failure.message e := by
  cases e with
  | exec e => cases e <;> rfl
  | _ => rfl

theorem origin_toPublic (e : LibraryError) :
    e.toPublic.origin = .ofOrigin (Failure.origin e) := by
  cases e with
  | exec e => cases e <;> rfl
  | _ => rfl

theorem failureClass?_toPublic (e : LibraryError) :
    e.toPublic.kind.failureClass? =
      if e.isConfig then none else some (Failure.failureClass e) := by
  cases e with
  | exec e => cases e <;> rfl
  | _ => rfl

theorem failureClass_eq_validation_iff {e : LibraryError} :
    Failure.failureClass e = .validation ↔ ∃ messages, e = .exec (.rejected messages) := by
  cases e with
  | exec e =>
    cases e with
    | rejected messages => exact iff_of_true rfl ⟨messages, rfl⟩
    | _ => exact iff_of_false nofun nofun
  | _ => exact iff_of_false nofun nofun

theorem kind_toPublic_eq_validation_iff {e : LibraryError} {messages : List String} :
    e.toPublic.kind = .validation messages ↔ e = .exec (.rejected messages) := by
  cases e with
  | exec e =>
    cases e with
    | rejected found => simp [toPublic, PublicError.ofExec]
    | _ => exact iff_of_false nofun nofun
  | _ => exact iff_of_false nofun nofun

end LibraryError

theorem PublicError.validationMessages_eq_some_iff {e : PublicError} {messages : List String} :
    e.validationMessages = some messages ↔ e.kind = .validation messages := by
  obtain ⟨kind, origin, message⟩ := e
  cases kind <;> simp [validationMessages]

/-- What is carried out is never rejected without a message. -/
theorem Query.exec_ne_rejected_nil {P : Plugins} (b : Behavior P) (ctx : Context P) (q : Query P)
    (store : P.Store) : (q.exec b ctx store).result ≠ .error (.rejected []) := by
  intro h
  cases hadapter : q.adapter ctx.adapters with
  | error e =>
    rw [exec_of_unselected hadapter] at h
    rw [Except.error.inj h] at hadapter
    exact adapter_ne_rejected [] hadapter
  | ok a =>
    rcases Pipeline.completes_or_stopsAt (q.rules.map b.queryRule)
      (q.unscoped.withComplaints b ctx.predicates a) with hcompletes | ⟨i, stop, hstop⟩
    · rw [exec_of_completes hadapter hcompletes] at h
      dsimp only at h
      split at h
      · obtain ⟨cause, hcause⟩ := eq_adapter_of_dispatch h
        cases hcause
      · rename_i hmessages
        rw [ExecError.rejected.inj (Except.error.inj h)] at hmessages
        exact hmessages rfl
    · rw [exec_of_stopsAt hadapter hstop] at h
      cases h

namespace LibraryError

/-- Callers are told of an error what the innermost error says of itself, and no message is lost. -/
theorem conversion_keeps_innermost {P : Plugins} (e : LibraryError) :
    (∀ inner, Relation.ReflTransGen Wraps inner e → e.toPublic = inner.toPublic) ∧
    (∃ innermost, innermost.wrapped? = none ∧ Relation.ReflTransGen Wraps innermost e) ∧
    e.toPublic.message = Failure.message e ∧
    e.toPublic.origin = .ofOrigin (Failure.origin e) ∧
    e.toPublic.origin.name.toList.map Char.toLower = (Failure.origin e).label.toList ∧
    (e.toPublic.kind.failureClass? =
      if e.isConfig then none else some (Failure.failureClass e)) ∧
    (Failure.failureClass e = .validation ↔ ∃ messages, e = .exec (.rejected messages)) ∧
    (∀ messages, e.toPublic.kind = .validation messages ↔ e = .exec (.rejected messages)) ∧
    (∀ messages, e.toPublic.validationMessages = some messages ↔
      e = .exec (.rejected messages)) ∧
    ∀ (b : Behavior P) (ctx : Context P) (q : Query P) (store : P.Store),
      (q.exec b ctx store).result ≠ .error (.rejected []) := by
  refine ⟨fun inner hchain => toPublic_of_chain hchain, exists_innermost e, message_toPublic e,
    origin_toPublic e, ?_, failureClass?_toPublic e, failureClass_eq_validation_iff,
    fun messages => kind_toPublic_eq_validation_iff, fun messages => ?_,
    Query.exec_ne_rejected_nil⟩
  · rw [origin_toPublic, PublicOrigin.map_toLower_name_ofOrigin]
  · rw [PublicError.validationMessages_eq_some_iff, kind_toPublic_eq_validation_iff]

end LibraryError

end QueryLayer
