import GraphFixture.Output.Device
import GraphFixture.Text.Segments

/-!
# A small file system

Files, directories and devices, each at a location given by the names on the
way from the root, and links that lead from one location to another.  Opening a
file for writing walks its path from left to right, so the first component that
is missing or no directory decides the error.  What is above a directory is
found from where a link led, not from where the link stands.

Opening a file and writing to it are two steps, and each can fail.  A file that
is opened is created or emptied; what is then written goes over what it holds
from its start on, up to where its storage has no more room.
-/

namespace GraphFixture

/-- What stands at a location. -/
inductive FileEntry where
  | directory
  | file (content : ByteString)
  | device (device : Device)
  /-- Cannot be opened for writing. -/
  | guarded (error : SystemError)
  deriving DecidableEq, Repr

/-- The names on the way from the root to an entry. -/
abbrev Location := List ByteString

/-- What keeps the content of ordinary files. -/
structure Storage where
  /-- The number of bytes that there is room for in one file, if it is bounded. -/
  room : Option Nat := none
  /-- The greatest number of bytes that one call writes. -/
  chunk : Nat := 0x7FFFF000
  /-- A call writes something as long as there is room. -/
  moving : 0 < chunk := by decide
  /-- Why a call fails where there is no more room. -/
  error : StreamError := .system .noSpaceLeft
  deriving DecidableEq, Repr

/-- A file that is open at its start, as a stream.  Flushing it does nothing. -/
def Storage.stream (storage : Storage) : Stream where
  limit := storage.room
  chunk := some storage.chunk
  exhaustion := .fails storage.error

/-- A tree of entries. -/
structure FileSystem where
  /-- What stands below the root. -/
  entries : List (Location × FileEntry)
  /-- The links, each with the location it leads to, where no link stands. -/
  links : List (Location × Location) := []
  /-- The directories below which nothing can be created, each with the error. -/
  closed : List (Location × SystemError) := []
  /-- The directories whose files have a storage of their own, each with it. -/
  storage : List (Location × Storage) := []
  /-- The directory where relative paths start. -/
  workingDirectory : Location
  deriving DecidableEq, Repr

/-- What a path leads to when it is opened for writing. -/
inductive Target where
  | file (location : Location)
  | device (device : Device)
  deriving DecidableEq, Repr

namespace FileSystem

/-- The byte between the components of a path. -/
def slash : UInt8 :=
  0x2F

/-- The component that names the directory itself. -/
def dot : ByteString :=
  [0x2E]

/-- The component that names the directory above. -/
def dotDot : ByteString :=
  [0x2E, 0x2E]

/-- The greatest number of bytes in a path. -/
def maxPathBytes : Nat :=
  4095

/-- The greatest number of bytes in a component. -/
def maxNameBytes : Nat :=
  255

/-- What stands at a location.  The root is a directory. -/
def lookup (files : FileSystem) (location : Location) : Option FileEntry :=
  if location = [] then some .directory
  else (files.entries.find? fun entry => entry.1 = location).map Prod.snd

/-- Put an entry at a location, in place of what stands there. -/
def insert (files : FileSystem) (location : Location) (entry : FileEntry) :
    FileSystem :=
  { files with
    entries := files.entries.filter (fun old => old.1 ≠ location) ++
      [(location, entry)] }

@[simp] theorem lookup_root (files : FileSystem) :
    files.lookup [] = some .directory := by
  simp [lookup]

theorem lookup_insert_self (files : FileSystem) {location : Location}
    (below : location ≠ []) (entry : FileEntry) :
    (files.insert location entry).lookup location = some entry := by
  have absent : (files.entries.filter fun old => old.1 ≠ location).find?
      (fun old => old.1 = location) = none := by
    rw [List.find?_eq_none]
    intro old member
    simpa using (List.mem_filter.mp member).2
  unfold lookup insert
  rw [if_neg below, List.find?_append, absent]
  simp

/-- What stands elsewhere stays there. -/
theorem lookup_insert_of_ne (files : FileSystem) {location other : Location}
    (different : other ≠ location) (entry : FileEntry) :
    (files.insert location entry).lookup other = files.lookup other := by
  have same (entries : List (Location × FileEntry)) :
      (entries.filter fun old => old.1 ≠ location).find?
        (fun old => old.1 = other) =
      entries.find? fun old => old.1 = other := by
    rw [List.find?_filter]
    congr 1
    funext old
    by_cases here : old.1 = other <;> simp [here, different]
  unfold lookup insert
  rw [List.find?_append, same]
  simp [different.symm]

/-- Where a link leads.  Any other location stays as it is. -/
def follow (files : FileSystem) (location : Location) : Location :=
  ((files.links.find? fun link => link.1 = location).map Prod.snd).getD location

/-- Why nothing can be created at a location, if that is so. -/
def closure? (files : FileSystem) (location : Location) : Option SystemError :=
  (files.closed.find? fun entry => entry.1.isPrefixOf location).map Prod.snd

/-- What keeps the content of a file at a location. -/
def storageAt (files : FileSystem) (location : Location) : Storage :=
  ((files.storage.find? fun entry => entry.1.isPrefixOf location).map Prod.snd).getD {}

/-- Step from a directory to the directory that a component names. -/
def enter (files : FileSystem) (directory : Location) (component : ByteString) :
    Except SystemError Location :=
  if component = dot then .ok directory
  else if component = dotDot then .ok directory.dropLast
  else if maxNameBytes < component.length then .error .nameTooLong
  else
    let next := files.follow (directory ++ [component])
    match files.lookup next with
    | some .directory => .ok next
    | some _ => .error .notADirectory
    | none => .error .noSuchFile

/-- Walk from a directory through the directories that some components name. -/
def walk (files : FileSystem) : Location → List ByteString →
    Except SystemError Location
  | directory, [] => .ok directory
  | directory, component :: components =>
      match files.enter directory component with
      | .ok next => files.walk next components
      | .error error => .error error

/-- The directory where a path starts. -/
def origin (files : FileSystem) (path : ByteString) : Location :=
  if path.head? = some slash then [] else files.workingDirectory

/-- The components of a path.  Slashes side by side count as one. -/
def components (path : ByteString) : List ByteString :=
  (Segments.split slash path).filter (· ≠ [])

/-- The location that can be written under a name in a directory. -/
def writable (files : FileSystem) (directory : Location) (name : ByteString) :
    Except SystemError Location :=
  let location := files.follow (directory ++ [name])
  match files.lookup location with
  | some .directory => .error .isADirectory
  | some (.guarded error) => .error error
  | some _ => .ok location
  | none =>
      match files.closure? location with
      | some error => .error error
      | none => .ok location

/-- The location that a path names for a file to be written.  Nothing that is a
directory can be named, nor can anything by a path that ends with a slash. -/
def resolve (files : FileSystem) (path : ByteString) :
    Except SystemError Location :=
  if path = [] then .error .noSuchFile
  else if maxPathBytes < path.length then .error .nameTooLong
  else
    match (components path).getLast? with
    | none => .error .isADirectory
    | some name =>
        match files.walk (files.origin path) (components path).dropLast with
        | .error error => .error error
        | .ok directory =>
            if name = dot ∨ name = dotDot ∨ path.getLast? = some slash then
              .error .isADirectory
            else if maxNameBytes < name.length then .error .nameTooLong
            else files.writable directory name

/-- Open what a path names for writing.  A file is created, or emptied if it is
there. -/
def create (files : FileSystem) (path : ByteString) :
    Except StreamError (Target × FileSystem) :=
  if path.contains 0 then .error .nulInPath
  else
    match files.resolve path with
    | .error error => .error (.system error)
    | .ok location =>
        match files.lookup location with
        | some (.device found) => .ok (.device found, files)
        | _ => .ok (.file location, files.insert location (.file []))

/-- What a file holds after bytes were written from its start on.  What lies behind
them stays. -/
def overwrite (content bytes : ByteString) : ByteString :=
  bytes ++ content.drop bytes.length

/-- Deliver bytes to the open file at a location.  The file holds those that its
storage took, also if the delivery failed.  Where no file stands nobody finds them. -/
def fill (files : FileSystem) (location : Location) (bytes : ByteString) :
    Except StreamError Unit × FileSystem :=
  let (result, stream) := (files.storageAt location).stream.deliver bytes
  match files.lookup location with
  | some (.file content) =>
      (result, files.insert location (.file (overwrite content stream.received.toList)))
  | _ => (result, files)

/-! ## Building and listing -/

/-- The path of a location below a directory. -/
def pathText (location : Location) : ByteString :=
  List.intercalate [slash] location

/-- The ordinary files below a directory with their paths from there. -/
def filesBelow (files : FileSystem) (directory : Location) :
    List (ByteString × ByteString) :=
  files.entries.filterMap fun
    | (location, .file content) =>
        if directory.isPrefixOf location then
          some (pathText (location.drop directory.length), content)
        else none
    | _ => none

/-- Put an entry at a path below the working directory, and directories on the
way to it. -/
def plant (files : FileSystem) (path : ByteString) (entry : FileEntry) :
    FileSystem :=
  let names := components path
  let parents := (List.range (names.length - 1)).map fun depth =>
    files.workingDirectory ++ names.take (depth + 1)
  (parents.foldl (fun files parent =>
    if (files.lookup parent).isSome then files
    else files.insert parent .directory) files).insert
      (files.workingDirectory ++ names) entry

end FileSystem
end GraphFixture
