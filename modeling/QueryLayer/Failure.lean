/-! # Failures

What every error of the library can tell: its message, the class of its cause and the part of the
library that raised it. The errors themselves are types of their own, one per operation.
-/

set_option autoImplicit false

namespace QueryLayer

inductive FailureClass where
  /-- Malformed input to a builder step. -/
  | invalid
  /-- Messages of validators rejected the target. -/
  | validation
  /-- A validator stopped the run. -/
  | aborted
  /-- No adapter could be selected. -/
  | unavailable
  /-- The adapter itself failed. -/
  | external
  deriving DecidableEq

def FailureClass.label : FailureClass → String
  | .invalid => "invalid"
  | .validation => "validation"
  | .aborted => "aborted"
  | .unavailable => "unavailable"
  | .external => "external"

inductive Origin where
  | path
  | query
  | pipeline
  | adapter
  | config
  | model
  deriving DecidableEq

def Origin.label : Origin → String
  | .path => "path"
  | .query => "query"
  | .pipeline => "pipeline"
  | .adapter => "adapter"
  | .config => "config"
  | .model => "model"

class Failure (ε : Type) where
  message : ε → String
  failureClass : ε → FailureClass
  origin : ε → Origin

end QueryLayer
