import PolyglotPages.Disk.Store
import PolyglotPages.Document
import PolyglotPages.Output.Naming

/-! Writing the documents of a page, each to its file. A document that cannot be written is reported
and does not keep the others from being written. -/
namespace PolyglotPages.Output

inductive WriteError where
  | unusableLanguage (language : String)
  | disk (fault : Disk.Fault)
deriving DecidableEq, Repr, Inhabited

def WriteError.message : WriteError → String
  | .unusableLanguage language =>
    "language code '" ++ language ++ "' cannot be used in a file name"
  | .disk fault => fault.message

/-- Whether a language code can stand in the name of a file without leading elsewhere. -/
def isUsable (language : String) : Bool :=
  language != "" && language != ".." && language.toList.all fun c => c != '/' && c != '\\'

structure Failure where
  language : String
  path : String
  error : WriteError
deriving DecidableEq, Repr, Inhabited

structure Report where
  written : List String := []
  failed : List Failure := []
deriving DecidableEq, Repr, Inhabited

namespace Report

def isSuccess (r : Report) : Bool := r.failed.isEmpty

def cons (language path : String) (outcome : Except WriteError Unit) (r : Report) : Report :=
  match outcome with
  | .ok () => { r with written := path :: r.written }
  | .error e => { r with failed := ⟨language, path, e⟩ :: r.failed }

end Report

variable {m : Type → Type} [Monad m] [FileStore m]

def writeFile (path text : String) : m (Except Disk.Fault Unit) := do
  match Path.parent? path with
  | none => FileStore.writeText path text
  | some directory =>
    match ← FileStore.makeDirectories directory with
    | .error e => return .error e
    | .ok () => FileStore.writeText path text

def writeDocument (path : String) (document : Document) : m (Except WriteError Unit) := do
  if isUsable document.language then
    return (← writeFile path document.html).mapError .disk
  else return .error (.unusableLanguage document.language)

def writeAll (naming : Naming) : List Document → m Report
  | [] => return {}
  | document :: rest => do
    let path := naming.path document.language
    let outcome ← writeDocument path document
    return (← writeAll naming rest).cons document.language path outcome

end PolyglotPages.Output
