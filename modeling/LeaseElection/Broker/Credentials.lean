import LeaseElection.Broker.Config
import LeaseElection.Host.Files

namespace LeaseElection

/-- What a participant presents to the broker. -/
inductive Credentials where
  | anonymous
  | password (username password : String)
  | token (token : String)
  | seed (seed : String)
  | certificate (certPath keyPath : String)
  | signedName (name seed : String)
  deriving DecidableEq, Repr

namespace Credentials

def hasDashes : List Char → Bool
  | [] => false
  | '-' :: '-' :: '-' :: _ => true
  | _ :: rest => hasDashes rest

def IsFence (line : List Char) : Prop :=
  ['-', '-', '-'].isSuffixOf line ∧ hasDashes (line.take (line.length - 3))

instance (line : List Char) : Decidable (IsFence line) :=
  inferInstanceAs (Decidable (_ ∧ _))

/-- Whether a line is one that a block may hold: letters, digits and a few marks. The alphabet of
keys and signatures is ASCII, and so is that of this test. -/
def IsBody (line : List Char) : Prop :=
  line ≠ [] ∧ ∀ c ∈ line, c.isAlphanum ∨ "_-.=".toList.contains c

instance (line : List Char) : Decidable (IsBody line) :=
  @instDecidableAnd _ _ inferInstance
    (List.decidableBAll (fun c => c.isAlphanum ∨ "_-.=".toList.contains c) line)

def withoutReturn (line : List Char) : List Char :=
  if line.getLast? = some '\r' then line.dropLast else line

/-- The bodies of the fenced blocks among lines. The last line is the one that no line break ends. -/
def blocks : List (List Char) → List (List Char)
  | first :: body :: last :: rest =>
    let fence := if rest.isEmpty then last else withoutReturn last
    if IsFence (withoutReturn first) ∧ IsBody (withoutReturn body) ∧ IsFence fence ∧
        ['-', '-', '-'].isPrefixOf last then
      withoutReturn body :: blocks rest
    else blocks (body :: last :: rest)
  | _ => []

def lines : List Char → List (List Char)
  | [] => [[]]
  | '\n' :: rest => [] :: lines rest
  | c :: rest =>
    match lines rest with
    | first :: others => (c :: first) :: others
    | [] => [[c]]

def seedLength : Nat := 58

def ofText (text : String) : Except String Credentials :=
  match blocks (lines text.toList) with
  | [] => .error "cannot parse user JWT from the credentials file"
  | [_] => .error "cannot parse nkey from the credentials file"
  | name :: key :: _ =>
    if key.length = seedLength then .ok (.signedName (String.ofList name) (String.ofList key))
    else .error ("Invalid seed length: Bad seed length: " ++ Decimal.text key.length)

def required (mode : SecurityMode) (field : String) (value : Option String) :
    Except BrokerError String :=
  match value with
  | some value => .ok value
  | none => .error (.config (mode.text ++ " security mode requires '" ++ field ++ "'"))

def orConfig (reason : ε → String) : Except ε α → Except BrokerError α
  | .ok a => .ok a
  | .error e => .error (.config (reason e))

def ofConfig (files : Files) (c : BrokerConfig) : Except BrokerError Credentials := do
  let mode := c.securityMode
  match mode with
  | .none => return .anonymous
  | .userPassword =>
    let username ← required mode "username" c.username
    let password ← required mode "password" c.password
    return .password username password
  | .token => return .token (← required mode "token" c.token)
  | .nkey =>
    let path ← required mode "nkey_seed_path" c.nkeySeedPath
    let text ← orConfig (fun e => "cannot read nkey seed " ++ path ++ ": " ++ FileFault.message e)
      (files.readText path)
    return .seed (Text.trimmed text)
  | .tls =>
    let cert ← required mode "tls_cert_path" c.tlsCertPath
    let key ← required mode "tls_key_path" c.tlsKeyPath
    return .certificate cert key
  | .credsFile =>
    let path ← required mode "creds_file_path" c.credsFilePath
    let cannot (reason : String) : String := "cannot load creds file " ++ path ++ ": " ++ reason
    let text ← orConfig
      (fun e => cannot ("loading creds file '" ++ path ++ "': " ++ FileFault.message e))
      (files.readText path)
    orConfig cannot (ofText text)

/-- Whether credentials can be made, or else why not. -/
def check (files : Files) (c : BrokerConfig) : Except BrokerError Unit :=
  (ofConfig files c).map fun _ => ()

end Credentials

end LeaseElection
