import Guestkeeper.Host.Cause
import Guestkeeper.Path
import Guestkeeper.Table

set_option autoImplicit false

/-! # A directory tree as a value

The host's files as a table from paths to directories and files. A path is the list of names
from the root; the root itself is always there. The operations answer as the host's system
calls do, with the same causes of refusal. -/

namespace Guestkeeper.Host

/-- What is at a path. A file is its data followed by a hole of zero bytes. A device holds
nothing: bytes that are written to it are lost, or refused if it is full. -/
inductive Content
  | directory
  | file (data : ByteArray) (hole : Nat)
  | device (isFull : Bool)

namespace Content

def emptyFile : Content := .file ByteArray.empty 0

/-- A directory's own size is a constant of the host. -/
def size : Content → Nat
  | .directory => 4096
  | .file data hole => data.size + hole
  | .device _ => 0

/-- The bytes of a file. -/
def bytes : Content → ByteArray
  | .file data hole => data ++ ⟨Array.replicate hole 0⟩
  | .directory | .device _ => ByteArray.empty

/-- A file of the given length, cut or filled up with zeros. -/
def resize (length : Nat) : Content → Content
  | .file data _ => .file (data.extract 0 length) (length - data.size)
  | other => other

/-- A file without its bytes. -/
def emptied : Content → Content
  | .file _ _ => emptyFile
  | other => other

/-- A file with more bytes at its end. -/
def append (more : ByteArray) : Content → Except Cause Content
  | .directory => .error .isADirectory
  | .device true => if more.isEmpty then .ok (.device true) else .error .noSpace
  | .device false => .ok (.device false)
  | content => .ok (.file (content.bytes ++ more) 0)

end Content

structure Entry where
  path : List String
  content : Content

structure FileTree where
  entries : Table Entry.path

namespace FileTree

instance : Inhabited FileTree := ⟨⟨∅⟩⟩

/-- What is at a path. -/
def lookup (t : FileTree) (path : List String) : Option Content :=
  if path.isEmpty then some .directory else (t.entries.find? path).map Entry.content

def put (t : FileTree) (path : List String) (content : Content) : FileTree :=
  ⟨t.entries.insert ⟨path, content⟩⟩

def erase (t : FileTree) (path : List String) : FileTree :=
  ⟨t.entries.filter fun e => e.path ≠ path⟩

/-- Removes what is at a path and everything below it. -/
def eraseBelow (t : FileTree) (path : List String) : FileTree :=
  ⟨t.entries.filter fun e => !path.isPrefixOf e.path⟩

/-- The entries below a path, by their paths from there. -/
def below (t : FileTree) (path : List String) : List Entry :=
  t.entries.entries.filterMap fun e =>
    if path.isPrefixOf e.path && path.length < e.path.length then
      some ⟨e.path.drop path.length, e.content⟩
    else none

/-! ## Resolving path texts -/

/-- Directories hold names of at most this many bytes. -/
def nameLimit : Nat := 255

/-- Paths have fewer bytes than this. -/
def pathLimit : Nat := 4096

/-- Follows names from a directory; all but the last must be directories. -/
def walk (t : FileTree) : List String → List String → Except Cause (List String)
  | place, [] => .ok place
  | place, name :: rest =>
    if name = "" ∨ name = "." then walk t place rest
    else if name = ".." then walk t place.dropLast rest
    else if nameLimit < name.utf8ByteSize then .error .nameTooLong
    else if rest.isEmpty then .ok (place ++ [name])
    else match t.lookup (place ++ [name]) with
      | some .directory => walk t (place ++ [name]) rest
      | some _ => .error .notADirectory
      | none => .error .notFound

/-- Refuses a text that cannot be a path. -/
def checkPath (path : String) : Except Cause Unit :=
  if path.isEmpty then .error .notFound
  else if path.toList.contains '\x00' then .error .nulInPath
  else if pathLimit ≤ path.utf8ByteSize then .error .nameTooLong
  else .ok ()

/-- The names in a path, an empty one for each surplus slash. -/
def namesOf (path : String) : List String := (path.toList.splitOn '/').map String.ofList

/-- Where a path begins, seen from the current directory. -/
def startOf (current : List String) (path : String) : List String :=
  if Path.isAbsolute path then [] else current

/-- The place that a path text denotes, seen from the current directory. -/
def resolve (t : FileTree) (current : List String) (path : String) :
    Except Cause (List String) := do
  checkPath path
  t.walk (startOf current path) (namesOf path)

/-- What a path text denotes. -/
def stat (t : FileTree) (current : List String) (path : String) : Except Cause Content := do
  match t.lookup (← t.resolve current path) with
  | some content => return content
  | none => throw .notFound

/-! ## Operations -/

variable (t : FileTree) (current : List String)

def size (path : String) : Except Cause Nat := (t.stat current path).map Content.size

def read (path : String) : Except Cause ByteArray := do
  match ← t.stat current path with
  | .directory => throw .isADirectory
  | file => return file.bytes

/-- The names in a path without the slashes at its end, which only the path of a directory may
have. -/
def bareNames (path : String) : List String :=
  ((namesOf path).reverse.dropWhile (· == "")).reverse

/-- Whether a name is one that a file can have. -/
def isFileName (name : String) : Bool := name ≠ "." && name ≠ ".."

/-- The place of a file that may be made at a path. A path that ends in a slash names no file;
that is found out before the last name is looked at. -/
def filePlace (path : String) : Except Cause (List String) := do
  checkPath path
  let names := bareNames path
  if names.length < (namesOf path).length && names.getLast?.any isFileName then
    let _ ← t.walk (startOf current path) (names.dropLast ++ ["."])
    throw .isADirectory
  else t.walk (startOf current path) names

def create (path : String) : Except Cause FileTree := do
  let place ← t.filePlace current path
  match t.lookup place with
  | some .directory => throw .isADirectory
  | some content => return t.put place content.emptied
  | none => return t.put place .emptyFile

def createNew (path : String) : Except Cause FileTree := do
  let place ← t.filePlace current path
  match t.lookup place with
  | some _ => throw .alreadyExists
  | none => return t.put place .emptyFile

def append (path : String) (bytes : ByteArray) : Except Cause FileTree := do
  let place ← t.resolve current path
  match t.lookup place with
  | some content => return t.put place (← content.append bytes)
  | none => throw .notFound

/-- Lengths are counted below this. -/
def lengthLimit : Nat := 1 <<< 63

/-- The length of the longest file: as many blocks of 4096 bytes as 32 bits can count. That is the
limit of one file system and stands here for those of all. Others have their own limits, beyond
which they refuse a length with the same cause. -/
def longest : Nat := (UInt32.size - 1) * 4096

def setLength (path : String) (length : Nat) : Except Cause FileTree := do
  let place ← t.resolve current path
  match t.lookup place with
  | some .directory => throw .isADirectory
  | some file =>
    if lengthLimit ≤ length then throw .lengthOutOfRange
    else if longest < length then throw .fileTooLarge
    else return t.put place (file.resize length)
  | none => throw .notFound

def rename (path newPath : String) : Except Cause FileTree := do
  let place ← t.resolve current path
  let target ← t.resolve current newPath
  match t.lookup place, t.lookup target with
  | none, _ => throw .notFound
  | some .directory, _ => throw .permissionDenied
  | some _, some .directory => throw .isADirectory
  | some file, _ => return (t.erase place).put target file

def remove (path : String) : Except Cause FileTree := do
  let place ← t.resolve current path
  match t.lookup place with
  | some .directory => throw .isADirectory
  | some _ => return t.erase place
  | none => throw .notFound

/-- The names in a directory, in descending order. -/
def list (path : String) : Except Cause (List String) := do
  let place ← t.resolve current path
  match t.lookup place with
  | some .directory =>
    let names := (t.below place).filterMap fun e =>
      match e.path with
      | [name] => some name
      | _ => none
    return names.reverse
  | some _ => throw .notADirectory
  | none => throw .notFound

def createDirectory (path : String) : Except Cause FileTree := do
  checkPath path
  let place ← t.walk (startOf current path) (bareNames path)
  match t.lookup place with
  | some _ => throw .alreadyExists
  | none => return t.put place .directory

def isDirectory (path : String) : Bool :=
  match t.stat current path with
  | .ok .directory => true
  | _ => false

/-- Makes the directory, unless it is one already. -/
def ensureDirectory (path : String) : Except Cause FileTree :=
  match t.createDirectory current path with
  | .ok made => .ok made
  | .error cause => if t.isDirectory current path then .ok t else .error cause

/-- Makes a directory and those above it that are missing. The first argument bounds the
number of directories above; the tree may have changed where a later one is refused. -/
def createDirectoriesFrom (current : List String) :
    Nat → FileTree → String → Except Cause Unit × FileTree
  | 0, t, _ => (.error .notFound, t)
  | fuel + 1, t, path =>
    if path.isEmpty then (.ok (), t)
    else match t.ensureDirectory current path with
      | .ok made => (.ok (), made)
      | .error .notFound =>
        match Path.parent? path with
        | none => (.error .notFound, t)
        | some above =>
          match createDirectoriesFrom current fuel t above with
          | (.error cause, made) => (.error cause, made)
          | (.ok _, made) =>
            match made.ensureDirectory current path with
            | .ok done => (.ok (), done)
            | .error cause => (.error cause, made)
      | .error cause => (.error cause, t)

def createDirectories (path : String) : Except Cause Unit × FileTree :=
  createDirectoriesFrom current (path.length + 1) t path

end FileTree

end Guestkeeper.Host
