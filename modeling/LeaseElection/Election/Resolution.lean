import LeaseElection.Election.Config
import LeaseElection.Host.Files
import LeaseElection.Text.Basic

namespace LeaseElection

/-- Where the blanks of a configuration are filled from. -/
structure Surroundings where
  /-- The name of the host, or why it is not known. -/
  hostName : Except String String
  unique : String
  /-- The text of a file, or why it cannot be read. -/
  readText : String → Except String String

namespace Surroundings

def ofFiles (files : Files) (hostName unique : String) : Surroundings where
  hostName := .ok hostName
  unique := unique
  readText path := (files.readText path).mapError FileFault.message

def freshIdentity (s : Surroundings) : Except ConfigError String :=
  match s.hostName with
  | .error reason => .error (.hostNameUnreadable reason)
  | .ok host =>
    if Text.AllBlank host then .error .hostNameBlank
    else .ok (Text.trimmed host ++ "_" ++ s.unique)

/-- The namespace that a file holds, without the blanks around it. -/
def namespaceFrom (s : Surroundings) (path : String) : Except ConfigError String :=
  match s.readText path with
  | .error reason => .error (.namespaceUnreadable path reason)
  | .ok text =>
    if Text.AllBlank text then .error (.namespaceBlank path) else .ok (Text.trimmed text)

end Surroundings

namespace ElectionConfig

/-- Fills in a blank identity and a blank namespace of a valid configuration. -/
def resolve (c : ElectionConfig) (s : Surroundings) : Except ConfigError ElectionConfig := do
  c.validate
  let identity ← if Text.AllBlank c.identity then s.freshIdentity else .ok c.identity
  let nameSpace ←
    if Text.AllBlank c.nameSpace then s.namespaceFrom c.namespaceFile else .ok c.nameSpace
  return { c with identity, nameSpace }

end ElectionConfig

namespace UniqueName

/-- The octets of a name: four bits of the seventh and two of the ninth are fixed. -/
def marked (octets : List UInt8) : List UInt8 :=
  octets.zipIdx.map fun (octet, place) =>
    if place = 6 then octet &&& 0x0F ||| 0x40
    else if place = 8 then octet &&& 0x3F ||| 0x80
    else octet

def octetText (octet : UInt8) (place : Nat) : List Char :=
  let digits := [Text.hexDigit (octet.toNat / 16), Text.hexDigit (octet.toNat % 16)]
  if place = 4 ∨ place = 6 ∨ place = 8 ∨ place = 10 then '-' :: digits else digits

/-- Sixteen random octets as a name that nobody else has: hexadecimal digits in five groups. -/
def text (octets : List UInt8) : String :=
  String.ofList ((marked octets).zipIdx.flatMap fun (octet, place) => octetText octet place)

end UniqueName

end LeaseElection
