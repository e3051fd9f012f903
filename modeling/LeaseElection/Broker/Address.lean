import LeaseElection.Broker.Error
import LeaseElection.Host.IpAddress
import LeaseElection.Text.Glyph

namespace LeaseElection.Address

inductive Fault where
  | noScheme
  | emptyHost
  | socketInvalid
  | sixInvalid
  | fourInvalid
  | hostCharacterInvalid
  | hostNameInvalid
  | schemeUnknown (scheme : String)
  deriving DecidableEq, Repr

def Fault.message (f : Fault) : String :=
  match f with
  | .schemeUnknown scheme => "invalid scheme for NATS server URL: " ++ scheme
  | .noScheme => invalid "relative URL without a base"
  | .emptyHost => invalid "empty host"
  | .socketInvalid => invalid "invalid port number"
  | .sixInvalid => invalid "invalid IPv6 address"
  | .fourInvalid => invalid "invalid IPv4 address"
  | .hostCharacterInvalid => invalid "invalid domain character"
  | .hostNameInvalid => invalid "invalid international domain name"
where
  invalid (what : String) : String := "NATS server URL is invalid: " ++ what

/-- The number that a field of a numeric host stands for: hexadecimal after `0x`, octal after `0`. -/
def fourPart? : List Char → Option Nat
  | [] => none
  | '0' :: 'x' :: rest | '0' :: 'X' :: rest => Numeral.inBase? 16 rest
  | '0' :: c :: rest => Numeral.inBase? 8 (c :: rest)
  | cs => Numeral.inBase? 10 cs

def labels (host : List Char) : List (List Char) :=
  let parts := Text.fields '.' host
  if parts.getLast? = some [] ∧ 1 < parts.length then parts.dropLast else parts

def endsInNumber (host : List Char) : Bool :=
  match (labels host).getLast? with
  | some last => (Decimal.natural? last).isSome || (fourPart? last).isSome
  | none => false

/-- Whether numbers are the parts of an address: all but the last are octets, and the last fills
what they leave. -/
def isFour (host : List Char) : Bool :=
  match ((labels host).mapM fourPart?).map List.reverse with
  | some (last :: front) =>
    front.length ≤ 3 && front.all (· < 256) && last < Nat.pow 256 (4 - front.length)
  | _ => false

def isForbidden (c : Char) : Bool :=
  c.toNat ≤ 0x20 || c.toNat = 0x7F || "#%/:<>?@[\\]^|".toList.contains c

def unescaped : List Char → List UInt8
  | [] => []
  | '%' :: a :: b :: rest =>
    match Numeral.hexValue? a, Numeral.hexValue? b with
    | some x, some y => UInt8.ofNat (16 * x + y) :: unescaped rest
    | _, _ => 0x25 :: unescaped (a :: b :: rest)
  | c :: rest => (String.ofList [c]).toUTF8.toList ++ unescaped rest

def checkBracketed (cs : List Char) : Except Fault Unit :=
  if cs.getLast? = some ']' ∧ (IpAddress.six? cs.tail.dropLast).isSome then .ok ()
  else .error .sixInvalid

def checkOpaqueHost (cs : List Char) : Except Fault Unit :=
  if cs.head? = some '[' then checkBracketed cs
  else if cs.any fun c => c = '\x00' || " #/:<>?@[\\]^|".toList.contains c then
    .error .hostCharacterInvalid
  else .ok ()

def checkDomain (cs : List Char) : Except Fault Unit :=
  if cs.head? = some '[' then checkBracketed cs
  else
    match Text.ofBytes? (unescaped cs) with
    | none => .error .hostNameInvalid
    | some host =>
      let host := host.toList
      if host.any isForbidden then .error .hostNameInvalid
      else if host.isEmpty then .error .emptyHost
      else if endsInNumber host ∧ ¬ isFour host then .error .fourInvalid
      else .ok ()

/-- How a scheme's locators name their hosts. -/
inductive SchemeKind where
  | opaqueHosts
  | domains
  | files
  deriving DecidableEq, Repr

def schemeKind (scheme : String) : SchemeKind :=
  if scheme = "file" then .files
  else if ["http", "https", "ws", "wss", "ftp"].contains scheme then .domains
  else .opaqueHosts

def splitScheme (cs : List Char) : Option (String × List Char) :=
  match cs.span (· ≠ ':') with
  | (c :: name, ':' :: rest) =>
    if c.isAlpha ∧ name.all fun c => c.isAlphanum || "+-.".toList.contains c then
      some (String.ofList ((c :: name).map Char.toLower), rest)
    else none
  | _ => none

def endsAuthority (kind : SchemeKind) (c : Char) : Bool :=
  c = '/' || c = '?' || c = '#' || (c = '\\' && kind ≠ .opaqueHosts)

/-- The end of a list after the last occurrence of a character, and whether anything but a colon
stands before that; without an occurrence the whole list. -/
def splitUser (authority : List Char) : Bool × List Char :=
  match (Text.fields '@' authority).reverse with
  | host :: front@(_ :: _) =>
    let user := ['@'].intercalate front.reverse
    (user ≠ [] ∧ user ≠ [':'], host)
  | _ => (false, authority)

def splitSocket (bracketed : Bool) : List Char → List Char × Option (List Char)
  | [] => ([], none)
  | c :: rest =>
    if c = ':' ∧ bracketed = false then ([], some rest)
    else
      let inside := if c = '[' then true else if c = ']' then false else bracketed
      let (host, socket) := splitSocket inside rest
      (c :: host, socket)

/-- Checks the number of a socket: digits, perhaps none, that make up a number below 65536. -/
def checkSocket (cs : List Char) : Except Fault Unit :=
  if cs.all Char.isDigit ∧ Decimal.value cs < 65536 then .ok () else .error .socketInvalid

def checkAuthority (kind : SchemeKind) (cs : List Char) : Except Fault Unit := do
  let authority := cs.takeWhile fun c => !endsAuthority kind c
  let (hasUser, place) := splitUser authority
  let onlyMark : Bool := authority = ['@'] && authority.length < cs.length
  if onlyMark then throw .emptyHost
  let (host, socket) := splitSocket false place
  if host.isEmpty ∧ (kind = .domains ∨ socket.isSome ∨ hasUser) then throw .emptyHost
  match kind with
  | .domains => checkDomain host
  | _ => checkOpaqueHost host
  match socket with
  | some socket => checkSocket socket
  | none => return ()

def checkFileHost (cs : List Char) : Except Fault Unit :=
  let slashes := cs.takeWhile fun c => c = '/' || c = '\\'
  let host := (cs.drop 2).takeWhile fun c => !endsAuthority .files c
  if slashes.length = 2 ∧ host ≠ [] then checkDomain host else .ok ()

def scheme (cs : List Char) : Except Fault String := do
  let outside (c : Char) : Bool := c.toNat ≤ 0x20
  let cs := ((cs.dropWhile outside).reverse.dropWhile outside).reverse
  let cs := cs.filter fun c => !(c = '\t' || c = '\n' || c = '\r')
  match splitScheme cs with
  | none => throw .noScheme
  | some (scheme, rest) =>
    match schemeKind scheme, rest with
    | .domains, rest =>
      checkAuthority .domains (rest.dropWhile fun c => c = '/' || c = '\\')
    | .opaqueHosts, '/' :: '/' :: rest => checkAuthority .opaqueHosts rest
    | .opaqueHosts, _ => return scheme
    | .files, rest => checkFileHost rest
    return scheme

def hasMark : List Char → Bool
  | [] => false
  | ':' :: '/' :: '/' :: _ => true
  | _ :: rest => hasMark rest

def check (address : String) : Except Fault Unit := do
  let cs := address.toList
  let scheme ← scheme (if hasMark cs then cs else "nats://".toList ++ cs)
  if ["nats", "tls", "ws", "wss"].contains scheme then return ()
  else throw (.schemeUnknown scheme)

end LeaseElection.Address
