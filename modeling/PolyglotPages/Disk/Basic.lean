import PolyglotPages.Disk.Fault
import PolyglotPages.Path
import PolyglotPages.Text.Bytes

/-! A tree of files and directories, and the operations on it that a page needs. A place in the tree
is the list of names that lead to it from the root. A path is followed name by name, from the root
or from the directory one works in; `..` leads back up, and every name but the last has to be that
of a directory. Nothing is ever removed, and only `write` changes a file. -/
namespace PolyglotPages

namespace Disk

abbrev Place := List String

inductive Entry where
  | directory
  | file (bytes : ByteArray)
deriving Inhabited

end Disk

structure Disk where
  entries : List (Disk.Place × Disk.Entry)
  /-- The directory where relative paths begin. -/
  here : Disk.Place
deriving Inhabited

namespace Disk

def entry? (d : Disk) : Place → Option Entry
  | [] => some .directory
  | place => d.entries.lookup place

def put (d : Disk) (place : Place) (e : Entry) : Disk :=
  { d with entries := insert d.entries }
where
  insert : List (Place × Entry) → List (Place × Entry)
    | [] => [(place, e)]
    | (p, old) :: rest => if p = place then (p, e) :: rest else (p, old) :: insert rest

/-! ### Following a path -/

def maxNameSize : Nat := 255

def maxPathSize : Nat := 4095

def directoryAt (d : Disk) (place : Place) : Except Fault Place :=
  match d.entry? place with
  | none => .error .notFound
  | some (.file _) => .error .notDirectory
  | some .directory => .ok place

def isDots (name : List Char) : Bool := name = ['.'] || name = ['.', '.']

def descend (directory : Place) (name : List Char) : Except Fault Place :=
  if name = ['.'] then .ok directory
  else if name = ['.', '.'] then .ok directory.dropLast
  else if maxNameSize < Text.byteLength name then .error .nameTooLong
  else .ok (directory ++ [String.ofList name])

def follow (d : Disk) (place : Place) : List (List Char) → Except Fault Place
  | [] => .ok place
  | name :: rest => do d.follow (← descend (← d.directoryAt place) name) rest

/-- A path made ready to be followed: where it begins, its names, and whether it ends with a
slash. -/
def route (d : Disk) (path : String) : Except Fault (Place × List (List Char) × Bool) :=
  let cs := path.toList
  if cs.contains '\x00' then .error .unusableName
  else if cs = [] then .error .notFound
  else if maxPathSize < Text.byteLength cs then .error .nameTooLong
  else
    .ok (if Path.isAbsolute path then [] else d.here,
      (Path.pieces cs).filter (· ≠ []), cs.getLast? = some '/')

def find (d : Disk) (path : String) : Except Fault (Place × Entry) := do
  let (start, names, slash) ← d.route path
  let place ← d.follow start names
  match d.entry? place with
  | none => .error .notFound
  | some .directory => .ok (place, .directory)
  | some (.file bytes) => if slash then .error .notDirectory else .ok (place, .file bytes)

/-! ### Reading -/

def isPresent (d : Disk) (path : String) : Bool := (d.find path).isOk

def isDirectory (d : Disk) (path : String) : Bool :=
  match d.find path with
  | .ok (_, .directory) => true
  | _ => false

def readText (d : Disk) (path : String) : Except Fault String :=
  match d.find path with
  | .error f => .error f
  | .ok (_, .directory) => .error .isDirectory
  | .ok (_, .file bytes) =>
    match String.fromUTF8? bytes with
    | some text => .ok text
    | none => .error .notText

/-! ### Writing -/

def parentDirectory (d : Disk) (start : Place) (names : List (List Char)) : Except Fault Place := do
  d.directoryAt (← d.follow start names.dropLast)

def makeDirectory (d : Disk) (path : String) : Except Fault Disk := do
  let (start, names, _) ← d.route path
  let directory ← d.parentDirectory start names
  match names.getLast? with
  | none => .error .alreadyExists
  | some name =>
    if isDots name then .error .alreadyExists
    else
      let place ← descend directory name
      match d.entry? place with
      | some _ => .error .alreadyExists
      | none => .ok (d.put place .directory)

def placeToWrite (d : Disk) (path : String) : Except Fault Place := do
  let (start, names, slash) ← d.route path
  let directory ← d.parentDirectory start names
  match names.getLast?, slash with
  | some name, false =>
    if isDots name then .error .isDirectory
    else
      let place ← descend directory name
      match d.entry? place with
      | some .directory => .error .isDirectory
      | _ => .ok place
  | _, _ => .error .isDirectory

def write (d : Disk) (path : String) (bytes : ByteArray) : Except Fault Disk := do
  return d.put (← d.placeToWrite path) (.file bytes)

def append (d : Disk) (path : String) (bytes : ByteArray) : Except Fault Disk := do
  let place ← d.placeToWrite path
  let old := match d.entry? place with
    | some (.file old) => old
    | _ => .empty
  return d.put place (.file (old ++ bytes))

end Disk
end PolyglotPages
