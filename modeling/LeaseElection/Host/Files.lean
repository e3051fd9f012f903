import LeaseElection.Text.Glyph

namespace LeaseElection

/-- What a name in a directory stands for. -/
inductive FileEntry where
  | file (bytes : List UInt8)
  | directory
  deriving DecidableEq, Repr

inductive FileFault where
  | notFound
  | notDirectory
  | isDirectory
  | nameTooLong
  | nulInName
  | notText
  deriving DecidableEq, Repr

def FileFault.message : FileFault → String
  | .notFound => "No such file or directory (os error 2)"
  | .notDirectory => "Not a directory (os error 20)"
  | .isDirectory => "Is a directory (os error 21)"
  | .nameTooLong => "File name too long (os error 36)"
  | .nulInName => "file name contained an unexpected NUL byte"
  | .notText => "stream did not contain valid UTF-8"

/-- The entries of the working directory. -/
structure Files where
  entries : List (String × FileEntry)
  deriving DecidableEq, Repr

namespace Files

def empty : Files := ⟨[]⟩

/-- A directory on the way along a path: the working directory, one in it, or one above it. -/
inductive Location where
  | here
  | inside
  | above
  deriving DecidableEq, Repr

def follow (files : Files) : Location → List String → Except FileFault (List UInt8)
  | _, [] => .error .isDirectory
  | location, name :: rest =>
    if name = "" ∨ name = "." then files.follow location rest
    else if 255 < name.utf8ByteSize then .error .nameTooLong
    else if name = ".." then
      files.follow (match location with | .inside => .here | _ => .above) rest
    else
      match location with
      | .here =>
        match files.entries.lookup name with
        | some (.file bytes) => if rest.isEmpty then .ok bytes else .error .notDirectory
        | some .directory => files.follow .inside rest
        | none => .error .notFound
      | _ => .error .notFound

def readBytes (files : Files) (path : String) : Except FileFault (List UInt8) :=
  if path.toList.contains '\x00' then .error .nulInName
  else if path = "" then .error .notFound
  else if 4096 ≤ path.utf8ByteSize then .error .nameTooLong
  else files.follow (if path.startsWith "/" then .above else .here) (path.splitOn "/")

def readText (files : Files) (path : String) : Except FileFault String := do
  match Text.ofBytes? (← files.readBytes path) with
  | some text => .ok text
  | none => .error .notText

end Files

end LeaseElection
