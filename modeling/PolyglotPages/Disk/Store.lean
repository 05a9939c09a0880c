import PolyglotPages.Disk.Basic

/-! Where files are read and written. Programs are written for any monad that offers these
operations; a state of type `Disk` offers them, so what a program does to files can be computed. -/
namespace PolyglotPages

class FileStore (m : Type → Type) where
  readText : String → m (Except Disk.Fault String)
  isPresent : String → m Bool
  isDirectory : String → m Bool
  makeDirectory : String → m (Except Disk.Fault Unit)
  writeText : String → String → m (Except Disk.Fault Unit)
  appendText : String → String → m (Except Disk.Fault Unit)

namespace Disk

/-- What came of a change to the tree. A change that fails leaves the tree as it was. -/
def change (f : Disk → Except Fault Disk) : StateM Disk (Except Fault Unit) := fun d =>
  match f d with
  | .ok d' => (.ok (), d')
  | .error e => (.error e, d)

instance : FileStore (StateM Disk) where
  readText path := fun d => (d.readText path, d)
  isPresent path := fun d => (d.isPresent path, d)
  isDirectory path := fun d => (d.isDirectory path, d)
  makeDirectory path := change (·.makeDirectory path)
  writeText path text := change (·.write path text.toUTF8)
  appendText path text := change (·.append path text.toUTF8)

end Disk

namespace FileStore

variable {m : Type → Type} [Monad m] [FileStore m]

def settleDirectory (path : String) (made : Except Disk.Fault Unit) :
    m (Except Disk.Fault Unit) := do
  match made with
  | .error .alreadyExists =>
    if ← isDirectory path then return .ok () else return .error .alreadyExists
  | made => return made

def makeDirectoriesTo : Nat → String → m (Except Disk.Fault Unit)
  | 0, _ => return .ok ()
  | fuel + 1, path => do
    if path = "" then return .ok ()
    match ← makeDirectory path with
    | .error .notFound =>
      match Path.parent? path with
      | none => return .error .notFound
      | some parent =>
        match ← makeDirectoriesTo fuel parent with
        | .error e => return .error e
        | .ok () => settleDirectory path (← makeDirectory path)
    | made => settleDirectory path made

/-- Makes a directory and its parents, as many as are missing. A path is longer than its parent. -/
def makeDirectories (path : String) : m (Except Disk.Fault Unit) :=
  makeDirectoriesTo (path.length + 1) path

end FileStore
end PolyglotPages
