import LeaseElection.Settings.Option

namespace LeaseElection

/-- Why a command line yields no settings. -/
inductive UsageError where
  | help
  | unknownArgument (argument : String)
  | missingValue (setting : Setting)
  | notAChoice (setting : Setting) (value : String)
  | invalidValue (setting : Setting) (value reason : String)
  | needlessValue (flag value : String)
  | repeated (setting : Setting)
  | required (setting : Setting)
  deriving DecidableEq, Repr

namespace UsageError

def choicesText (s : Setting) : String :=
  match s.choices with
  | [] => ""
  | choices => "\n  [possible values: " ++ ", ".intercalate choices ++ "]"

def message : UsageError → String
  | .help => ""
  | .unknownArgument argument => "error: unexpected argument '" ++ argument ++ "' found"
  | .missingValue s =>
    "error: a value is required for '" ++ s.usage ++ "' but none was supplied" ++ choicesText s
  | .notAChoice s value =>
    "error: invalid value '" ++ value ++ "' for '" ++ s.usage ++ "'" ++ choicesText s
  | .invalidValue s value reason =>
    "error: invalid value '" ++ value ++ "' for '" ++ s.usage ++ "': " ++ reason
  | .needlessValue flag value =>
    "error: unexpected value '" ++ value ++ "' for '" ++ flag ++ "' found; no more were expected"
  | .repeated s => "error: the argument '" ++ s.usage ++ "' cannot be used multiple times"
  | .required s => "error: the following required arguments were not provided:\n  " ++ s.usage

end UsageError

/-- What the words read so far make up. -/
structure Draft where
  settings : Settings
  given : List Setting
  /-- An option whose value has not been looked at, and the value if it has come. -/
  pending : Option (Setting × Option String)

namespace Draft

def empty : Draft := ⟨.default, [], none⟩

def give (d : Draft) (s : Setting) (value : String) : Except UsageError Draft :=
  if s ∈ d.given ∧ ¬ s.Repeats then .error (.repeated s)
  else
    match d.settings.set (decide (s ∈ d.given)) value s with
    | .ok settings => .ok { d with settings, given := s :: d.given }
    | .error .missing => .error (.missingValue s)
    | .error .notAChoice => .error (.notAChoice s value)
    | .error (.invalid reason) => .error (.invalidValue s value reason)

def settle (d : Draft) : Except UsageError Draft :=
  match d.pending with
  | none => .ok d
  | some (s, none) => .error (.missingValue s)
  | some (s, some value) => { d with pending := none }.give s value

/-- Reads a word that begins with two hyphens: a name, and perhaps a value after an equals sign. -/
def readLong (d : Draft) (word : List Char) : Except UsageError Draft := do
  let (name, rest) := word.span (· ≠ '=')
  let name := String.ofList name
  match Setting.ofFlag? name, rest with
  | some s, _ :: value => (← d.settle).give s (String.ofList value)
  | some s, [] => return { (← d.settle) with pending := some (s, none) }
  | none, _ :: value =>
    if name = "help" then throw (.needlessValue "--help" (String.ofList value))
    else throw (.unknownArgument ("--" ++ name))
  | none, [] =>
    if name = "help" then
      let _ ← d.settle
      throw .help
    else throw (.unknownArgument ("--" ++ name))

def readShort (d : Draft) (letter : Char) : Except UsageError Draft := do
  if letter = 'h' then
    let _ ← d.settle
    throw .help
  else throw (.unknownArgument (String.ofList ['-', letter]))

def readValue (d : Draft) (word : String) : Except UsageError Draft :=
  match d.pending with
  | some (s, none) => .ok { d with pending := some (s, some word) }
  | _ => .error (.unknownArgument word)

def read (d : Draft) : List String → Except UsageError Draft
  | [] => d.settle
  | word :: rest => do
    match word.toList with
    | ['-', '-'] =>
      match rest with
      | [] => d.settle
      | next :: _ => throw (.unknownArgument next)
    | '-' :: '-' :: long => (← d.readLong long).read rest
    | '-' :: letter :: _ => (← d.readShort letter).read rest
    | _ => (← d.readValue word).read rest

def ask (d : Draft) (environment : List (String × String)) (s : Setting) : Except UsageError Draft :=
  if s ∈ d.given then .ok d
  else
    match environment.lookup s.environmentName with
    | some value => d.give s value
    | none => .ok d

end Draft

def Settings.ofArguments (arguments : List String) (environment : List (String × String)) :
    Except UsageError Settings := do
  let d ← Draft.empty.read arguments
  let d ← Setting.all.foldlM (fun d s => d.ask environment s) d
  if .name ∈ d.given then return d.settings else throw (.required .name)

end LeaseElection
