import QueryLayer.Config
import QueryLayer.Execution
import QueryLayer.Json

/-! # Public errors

The form in which every error of the library reaches callers: a kind, an origin and a message. It
can be written as JSON and read back; what is read may name fields that do not count.
-/

set_option autoImplicit false

namespace QueryLayer

inductive ErrorKind where
  | invalid
  /-- The messages of validators; nothing was dispatched. -/
  | validation (messages : List String)
  | aborted
  | unavailable
  | adapter
  | config
  deriving DecidableEq

inductive PublicOrigin where
  | path
  | query
  | pipeline
  | adapter
  | config
  | model
  deriving DecidableEq

structure PublicError where
  kind : ErrorKind
  origin : PublicOrigin
  message : String
  deriving DecidableEq

/-- The kind of an error of some class; the class tells no messages. -/
def ErrorKind.ofClass : FailureClass → ErrorKind
  | .invalid => .invalid
  | .validation => .validation []
  | .aborted => .aborted
  | .unavailable => .unavailable
  | .external => .adapter

def PublicOrigin.ofOrigin : Origin → PublicOrigin
  | .path => .path
  | .query => .query
  | .pipeline => .pipeline
  | .adapter => .adapter
  | .config => .config
  | .model => .model

namespace PublicError

def ofFailure {ε : Type} [Failure ε] (e : ε) : PublicError :=
  ⟨.ofClass (Failure.failureClass e), .ofOrigin (Failure.origin e), Failure.message e⟩

def ofExec (e : ExecError) : PublicError :=
  match e with
  | .rejected messages => ⟨.validation messages, .query, e.message⟩
  | e => ofFailure e

/-- An error of the configuration is of a kind of its own. -/
def ofConfig (e : ConfigError) : PublicError := ⟨.config, .ofOrigin (Failure.origin e), e.message⟩

def validationMessages (e : PublicError) : Option (List String) :=
  match e.kind with
  | .validation messages => some messages
  | _ => none

end PublicError

/-! ## Written form -/

def PublicOrigin.name : PublicOrigin → String
  | .path => "Path"
  | .query => "Query"
  | .pipeline => "Pipeline"
  | .adapter => "Adapter"
  | .config => "Config"
  | .model => "Model"

def PublicOrigin.ofName? : String → Option PublicOrigin
  | "Path" => some .path
  | "Query" => some .query
  | "Pipeline" => some .pipeline
  | "Adapter" => some .adapter
  | "Config" => some .config
  | "Model" => some .model
  | _ => none

def ErrorKind.toJson : ErrorKind → Json
  | .invalid => .str "Invalid"
  | .validation messages => .ofFields [("Validation", .arr (messages.map Json.str))]
  | .aborted => .str "Aborted"
  | .unavailable => .str "Unavailable"
  | .adapter => .str "Adapter"
  | .config => .str "Config"

def ErrorKind.ofName? : String → Option ErrorKind
  | "Invalid" => some .invalid
  | "Aborted" => some .aborted
  | "Unavailable" => some .unavailable
  | "Adapter" => some .adapter
  | "Config" => some .config
  | _ => none

/-- A name stands by itself, or as the only field of an object that holds `null`. -/
def JsonText.bareName? : JsonText → Option String
  | str s => s
  | obj [(name, null)] => name
  | _ => none

def JsonText.strings? : JsonText → Option (List String)
  | arr items => items.mapM JsonText.string?
  | _ => none

def ErrorKind.ofText? (text : JsonText) : Option ErrorKind :=
  match text with
  | .obj [(some "Validation", messages)] => messages.strings?.map ErrorKind.validation
  | text => text.bareName?.bind ErrorKind.ofName?

def PublicOrigin.ofText? (text : JsonText) : Option PublicOrigin :=
  text.bareName?.bind PublicOrigin.ofName?

namespace PublicError

def toJson (e : PublicError) : Json :=
  .ofFields [("kind", e.kind.toJson), ("origin", .str e.origin.name),
    ("message", .str e.message)]

def ofParts? (kind origin message : JsonText) : Option PublicError := do
  let kind ← ErrorKind.ofText? kind
  let origin ← PublicOrigin.ofText? origin
  let message ← message.string?
  return ⟨kind, origin, message⟩

def field? (fields : List (Option String × JsonText)) (name : String) : Option JsonText :=
  match fields.filter fun field => field.1 == some name with
  | [field] => some field.2
  | _ => none

/-- An error written as an object with the three fields, or as an array of their values. Other
fields may stand beside them, if their names are texts. -/
def ofText? : JsonText → Option PublicError
  | .obj fields => do
    if fields.any fun field => field.1.isNone then none
    ofParts? (← field? fields "kind") (← field? fields "origin") (← field? fields "message")
  | .arr [kind, origin, message] => ofParts? kind origin message
  | _ => none

def ofString? (read : String → Option JsonText) (text : String) : Option PublicError :=
  (read text).bind ofText?

end PublicError

end QueryLayer
