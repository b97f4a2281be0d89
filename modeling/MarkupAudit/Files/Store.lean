import MarkupAudit.Files.Path
import MarkupAudit.Text.Quoted
import MarkupAudit.Text.Stream

/-! Files and directories, and the working directory that relative paths start from. A path is
followed component by component; reading and writing fail as the file at its end, or what stands in
the way, demands. -/
namespace MarkupAudit

inductive StoreEntry where
  | directory
  | file (bytes : List UInt8)
  deriving DecidableEq, Repr

/-- Entries by the names that lead to them from the root. The working directory and the directories
on the way to it are there without entries. -/
structure FileStore where
  workingDirectory : FilePath
  entries : List (List String × StoreEntry) := []
  deriving Repr

inductive OsErrorKind where
  | noSuchFile
  | notADirectory
  | isADirectory
  | nameTooLong
  deriving DecidableEq, Repr

structure OsError where
  kind : OsErrorKind
  path : FilePath
  deriving DecidableEq, Repr

def OsErrorKind.text : OsErrorKind → String
  | .noSuchFile => "[Errno 2] No such file or directory"
  | .notADirectory => "[Errno 20] Not a directory"
  | .isADirectory => "[Errno 21] Is a directory"
  | .nameTooLong => "[Errno 36] File name too long"

def OsError.message (e : OsError) : String :=
  e.kind.text ++ ": " ++ Text.quoted e.path.text

inductive ReadError where
  | os (error : OsError)
  | undecodable (fault : Text.Utf8.Fault)
  deriving DecidableEq, Repr

def ReadError.message : ReadError → String
  | .os e => e.message
  | .undecodable fault => fault.message

namespace FileStore

def entry? (s : FileStore) (place : List String) : Option StoreEntry :=
  if place.isPrefixOf s.workingDirectory.parts then some .directory else s.entries.lookup place

def maxNameBytes : Nat := 255

def maxPathBytes : Nat := 4096

/-- What is found at the end of a path. -/
inductive Target where
  | directory (place : List String)
  | file (place : List String) (bytes : List UInt8)
  | absent (place : List String)
  deriving DecidableEq, Repr

/-- Follows the components from a directory. -/
def follow (s : FileStore) (place : List String) : List String → Except OsErrorKind Target
  | [] => .ok (.directory place)
  | name :: rest =>
    if name = ".." then follow s place.dropLast rest
    else if maxNameBytes < name.utf8ByteSize then .error .nameTooLong
    else
      match s.entry? (place ++ [name]) with
      | some .directory => follow s (place ++ [name]) rest
      | some (.file bytes) =>
        if rest.isEmpty then .ok (.file (place ++ [name]) bytes) else .error .notADirectory
      | none => if rest.isEmpty then .ok (.absent (place ++ [name])) else .error .noSuchFile

/-- The names that lead from the root to a path. -/
def placeOf (s : FileStore) (p : FilePath) : List String :=
  let home := s.workingDirectory
  if p.isAbsolute || (home.root == p.root && home.parts.isPrefixOf p.parts) then p.parts
  else home.parts ++ p.parts

def locate (s : FileStore) (p : FilePath) : Except OsErrorKind Target :=
  if maxPathBytes ≤ p.text.utf8ByteSize then .error .nameTooLong else s.follow [] (s.placeOf p)

def isDirectory (s : FileStore) (p : FilePath) : Bool :=
  match s.locate p with
  | .ok (.directory _) => true
  | _ => false

def readBytes (s : FileStore) (p : FilePath) : Except OsError (List UInt8) :=
  match s.locate p with
  | .ok (.file _ bytes) => .ok bytes
  | .ok (.directory _) => .error ⟨.isADirectory, p⟩
  | .ok (.absent _) => .error ⟨.noSuchFile, p⟩
  | .error kind => .error ⟨kind, p⟩

def readText (s : FileStore) (p : FilePath) : Except ReadError String :=
  match s.readBytes p with
  | .error e => .error (.os e)
  | .ok bytes =>
    match Text.Utf8.decodeChars bytes with
    | .error fault => .error (.undecodable fault)
    | .ok cs => .ok (String.ofList (Text.unifyNewlines cs))

def put (place : List String) (entry : StoreEntry) :
    List (List String × StoreEntry) → List (List String × StoreEntry)
  | [] => [(place, entry)]
  | (q, old) :: rest => if q = place then (q, entry) :: rest else (q, old) :: put place entry rest

/-- The store after a text has been written to a file; directories are not made. -/
def writeText (s : FileStore) (p : FilePath) (text : String) : Except OsError FileStore :=
  match s.locate p with
  | .ok (.file place _) | .ok (.absent place) =>
    .ok { s with entries := put place (.file (Text.Utf8.encode text)) s.entries }
  | .ok (.directory _) => .error ⟨.isADirectory, p⟩
  | .error kind => .error ⟨kind, p⟩

def makeDirectories (s : FileStore) (place : List String) : FileStore :=
  (List.range place.length).foldl (fun s i =>
    let here := place.take (i + 1)
    match s.entry? here with
    | some _ => s
    | none => { s with entries := put here .directory s.entries }) s

def withFile (s : FileStore) (place : List String) (bytes : List UInt8) : FileStore :=
  let s := s.makeDirectories place.dropLast
  { s with entries := put place (.file bytes) s.entries }

/-- The files whose contents differ from those of an earlier store, and the new ones. -/
def changedSince (s before : FileStore) : List (List String × List UInt8) :=
  s.entries.filterMap fun (place, entry) =>
    match entry with
    | .directory => none
    | .file bytes => if before.entry? place = some (.file bytes) then none else some (place, bytes)

end FileStore

end MarkupAudit
