import QueryLayer.Failure

/-! # Validation pipelines

A pipeline runs validators in order on one target. A validator may change the target as it likes,
its list of messages included, and may stop the run. Messages alone never stop it: whether the
target is valid is asked afterwards. Main statement: `runFrom_append`.
-/

set_option autoImplicit false

namespace QueryLayer

class HasMessages (τ : Type) where
  messages : τ → List String
  setMessages : List String → τ → τ

namespace HasMessages

variable {τ : Type} [HasMessages τ]

def report (message : String) (t : τ) : τ := setMessages (messages t ++ [message]) t

def reportAll (new : List String) (t : τ) : τ := setMessages (messages t ++ new) t

def isValid (t : τ) : Bool := (messages t).isEmpty

end HasMessages

/-- What a synchronous validator decides about the rest of the run. -/
inductive Verdict where
  | proceed
  | halt
  deriving DecidableEq

/-- A validator of targets of type `τ`; an asynchronous one ends by failing with a cause or not. -/
inductive Validator (τ : Type) where
  | sync (step : τ → τ × Verdict)
  | async (step : τ → τ × Except String Unit)

/-- Why a run stopped; `index` is the position of the validator that stopped it. -/
inductive PipelineError where
  | halted (index : Nat)
  | failed (index : Nat) (cause : String)
  deriving DecidableEq

namespace PipelineError

def index : PipelineError → Nat
  | halted index => index
  | failed index _ => index

def shift (n : Nat) : PipelineError → PipelineError
  | halted index => halted (n + index)
  | failed index cause => failed (n + index) cause

def message : PipelineError → String
  | halted index => "validation halted by validator #" ++ toString index
  | failed index cause => "validator #" ++ toString index ++ " failed: " ++ cause

instance : Failure PipelineError where
  message := message
  failureClass _ := .aborted
  origin _ := .pipeline

end PipelineError

namespace Validator

variable {τ : Type}

def check (f : τ → τ) : Validator τ := .sync fun t => (f t, .proceed)

def isAsync : Validator τ → Bool
  | sync _ => false
  | async _ => true

def apply (index : Nat) (t : τ) : Validator τ → τ × Option PipelineError
  | sync step =>
    match step t with
    | (t, .proceed) => (t, none)
    | (t, .halt) => (t, some (.halted index))
  | async step =>
    match step t with
    | (t, .ok ()) => (t, none)
    | (t, .error cause) => (t, some (.failed index cause))

end Validator

namespace Pipeline

variable {τ : Type}

/-- A finished run: the target it left, how it ended, and the target as each validator that ran
found it. -/
structure Run (τ : Type) where
  target : τ
  outcome : Except PipelineError Unit
  trail : List τ

/-- Run `validators`, the first of which has place `index`. -/
def runFrom (index : Nat) : List (Validator τ) → τ → Run τ
  | [], t => ⟨t, .ok (), []⟩
  | v :: rest, t =>
    match v.apply index t with
    | (t', some stop) => ⟨t', .error stop, [t]⟩
    | (t', none) =>
      let later := runFrom (index + 1) rest t'
      { later with trail := t :: later.trail }

def run (validators : List (Validator τ)) (t : τ) : Run τ := runFrom 0 validators t

/-- A run of two lists is a run of the first and, if that completes, a run of the second on the
target it left, with places counted on. -/
theorem runFrom_append (index : Nat) (xs ys : List (Validator τ)) (t : τ) :
    runFrom index (xs ++ ys) t =
      match (runFrom index xs t).outcome with
      | .error _ => runFrom index xs t
      | .ok () =>
        let later := runFrom (index + xs.length) ys (runFrom index xs t).target
        { later with trail := (runFrom index xs t).trail ++ later.trail } := by
  induction xs generalizing index t with
  | nil => rfl
  | cons v rest ih =>
    rw [List.cons_append, runFrom, runFrom]
    split
    · rfl
    · rw [ih, List.length_cons, Nat.add_right_comm, Nat.add_assoc]
      dsimp only
      split <;> simp_all

end Pipeline

end QueryLayer
