import QueryLayer.Path
import QueryLayer.Unicode.CodePoint

/-! # Configuration

Which adapter references belong to that name none, and whether the built-in predicates are
installed. A configuration is read from a document in which each setting may be left out; the
language of the document is known to its reader alone.
-/

set_option autoImplicit false

namespace QueryLayer

def version : String := "0.1.0"

structure Config where
  defaultAdapter : String := fallbackAdapter
  builtinPredicates : Bool := true
  deriving DecidableEq

/-- Why a configuration is refused; of a malformed document the reason is told in words. -/
inductive ConfigError where
  | malformed (reason : String)
  | emptyDefaultAdapter
  deriving DecidableEq

def ConfigError.message : ConfigError → String
  | .malformed reason => "config parse error: " ++ reason
  | .emptyDefaultAdapter => "default_adapter must not be empty"

instance : Failure ConfigError where
  message := ConfigError.message
  failureClass _ := .invalid
  origin _ := .config

namespace Config

inductive Setting where
  | text (s : String)
  | bool (b : Bool)
  deriving DecidableEq

structure Reader where
  read? : String → Option (List (String × Setting))
  explain : String → String

/-- The name of the default adapter may not be blank. -/
def validate (c : Config) : Except ConfigError Config :=
  if (Unicode.trim c.defaultAdapter).isEmpty then .error .emptyDefaultAdapter else .ok c

/-- Take over one setting; each is known by its key and has its own type. -/
def assign (c : Config) : String × Setting → Option Config
  | ("default_adapter", .text s) => some { c with defaultAdapter := s }
  | ("builtin_validators", .bool b) => some { c with builtinPredicates := b }
  | _ => none

def ofDocument (reader : Reader) (document : String) : Except ConfigError Config :=
  match (reader.read? document).bind fun settings => settings.foldlM assign {} with
  | some c => c.validate
  | none => .error (.malformed (reader.explain document))

end Config

end QueryLayer
