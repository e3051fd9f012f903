import LeaseElection.Json.Decode
import LeaseElection.Json.Printer

namespace LeaseElection

/-- The address of a lock record. -/
structure RecordKey where
  nameSpace : String
  name : String
  deriving DecidableEq, Repr, Inhabited

namespace RecordKey

def text (key : RecordKey) : String := key.nameSpace ++ "/" ++ key.name

def inspect (key : RecordKey) : String :=
  "RecordKey \x7b namespace: " ++ Text.quoted key.nameSpace ++ ", name: " ++ Text.quoted key.name
    ++ " \x7d"

def json (key : RecordKey) : Json.Value :=
  .object [("namespace", .string key.nameSpace), ("name", .string key.name)]

/-- A key while it is being read. -/
structure Draft where
  nameSpace : Option String
  name : Option String

def shape : Json.Reader.Shape Draft where
  expected := "struct RecordKey"
  expectedLength := "struct RecordKey with 2 elements"
  closed := false
  empty := ⟨none, none⟩
  fields := [
    ⟨"namespace", false, fun d => d.nameSpace.isSome, fun d => do
      return { d with nameSpace := some (← Json.Reader.string) }⟩,
    ⟨"name", false, fun d => d.name.isSome, fun d => do
      return { d with name := some (← Json.Reader.string) }⟩]

def reader : Json.Reader RecordKey :=
  Json.Reader.structure? shape fun d => .ok ⟨d.nameSpace.getD "", d.name.getD ""⟩

def ofJson (text : String) : Except Json.Fault RecordKey :=
  Json.Reader.decode reader (Text.glyphs text)

end RecordKey

/-- A marker of one version of a record. -/
structure Token where
  text : String
  deriving DecidableEq, Repr, Inhabited

namespace Token

def ofRevision (n : Nat) : Token := ⟨Decimal.text n⟩

def json (token : Token) : Json.Value := .string token.text

def ofJson (text : String) : Except Json.Fault Token :=
  (Json.Reader.decode Json.Reader.string (Text.glyphs text)).map Token.mk

end Token

end LeaseElection
