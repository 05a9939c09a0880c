import PolyglotPages.Disk.Store
import PolyglotPages.Project.Form
import PolyglotPages.Project.SettingsError

/-! Settings from files. Relative paths of a settings file are seen from the directory of the file.
A holder keeps the settings in force and the file they came from. Whatever fails leaves it as it
was. -/
namespace PolyglotPages.Project

variable {m : Type → Type} [Monad m] [FileStore m]

def fileName : String := ".mulang.json"

def Settings.ofFile (path text : String) : Except SettingsError Settings :=
  match Settings.parse text with
  | .error e => .error (.malformed e)
  | .ok s =>
    match Path.parent? path with
    | none => .ok s
    | some directory => .ok (s.resolvePaths directory)

def loadFile (path : String) : m (Except SettingsError Settings) := do
  match ← FileStore.readText path with
  | .error e => return .error (.unreadable e)
  | .ok text => return Settings.ofFile path text

def loadDirectory (directory : String) : m (Except SettingsError (Option Settings)) := do
  let path := Path.join directory fileName
  if ← FileStore.isPresent path then
    return (← loadFile path).map some
  else return .ok none

structure Holder where
  settings : Settings := {}
  path : Option String := none
deriving Inhabited

namespace Holder

/-- Takes the settings of a given file, else those of a directory, else those that hold without
any file. Settings need not be valid to be loaded. -/
def load (explicit : Option String) (directory : String) : m (Except SettingsError Holder) := do
  match explicit with
  | some path => return (← loadFile path).map fun s => ⟨s, some path⟩
  | none =>
    return (← loadDirectory directory).map fun
      | some s => ⟨s, some (Path.join directory fileName)⟩
      | none => {}

def update (h : Holder) (s : Settings) : Except SettingsError Holder :=
  s.validate.map fun s => { h with settings := s }

end Holder

end PolyglotPages.Project
