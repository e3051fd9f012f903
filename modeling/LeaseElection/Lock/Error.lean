import LeaseElection.Lock.Key

namespace LeaseElection

/-- Why a store call failed. -/
inductive StoreError where
  | notFound (key : RecordKey)
  /-- A record was to be created where there is one. -/
  | alreadyExists (key : RecordKey)
  /-- The token of an update is not that of the stored record. -/
  | conflict (key : RecordKey) (token : String)
  /-- The store could not be reached, or refused. -/
  | unavailable (reason : String)
  | timeout (reason : String)
  /-- The stored record could not be read. -/
  | codec (reason : String)
  deriving DecidableEq, Repr, Inhabited

namespace StoreError

def message : StoreError → String
  | .notFound key => "lock record " ++ key.text ++ " not found"
  | .alreadyExists key => "lock record " ++ key.text ++ " already exists"
  | .conflict key token =>
      "lock record " ++ key.text ++ " was modified concurrently (stale token " ++ token ++ ")"
  | .unavailable reason => "store unavailable: " ++ reason
  | .timeout reason => "store timeout: " ++ reason
  | .codec reason => "codec error: " ++ reason

def kind : StoreError → String
  | .notFound _ => "NotFound"
  | .alreadyExists _ => "AlreadyExists"
  | .conflict _ _ => "Conflict"
  | .unavailable _ => "Unavailable"
  | .timeout _ => "Timeout"
  | .codec _ => "Codec"

def ofKind? (kind : String) (key : RecordKey) (text : String) : Option StoreError :=
  match kind with
  | "NotFound" => some (.notFound key)
  | "AlreadyExists" => some (.alreadyExists key)
  | "Conflict" => some (.conflict key text)
  | "Unavailable" => some (.unavailable text)
  | "Timeout" => some (.timeout text)
  | "Codec" => some (.codec text)
  | _ => none

def inspect (e : StoreError) : String :=
  match e with
  | .notFound key | .alreadyExists key => e.kind ++ " \x7b key: " ++ key.inspect ++ " \x7d"
  | .conflict key token =>
      e.kind ++ " \x7b key: " ++ key.inspect ++ ", token: " ++ Text.quoted token ++ " \x7d"
  | .unavailable reason | .timeout reason | .codec reason =>
      e.kind ++ "(" ++ Text.quoted reason ++ ")"

def IsConflict : StoreError → Prop
  | .conflict _ _ | .alreadyExists _ => True
  | _ => False

instance (e : StoreError) : Decidable e.IsConflict := by
  cases e <;> unfold IsConflict <;> infer_instance

def IsNotFound : StoreError → Prop
  | .notFound _ => True
  | _ => False

instance (e : StoreError) : Decidable e.IsNotFound := by
  cases e <;> unfold IsNotFound <;> infer_instance

def IsRetryable : StoreError → Prop
  | .notFound _ | .codec _ => False
  | _ => True

instance (e : StoreError) : Decidable e.IsRetryable := by
  cases e <;> unfold IsRetryable <;> infer_instance

end StoreError

end LeaseElection
