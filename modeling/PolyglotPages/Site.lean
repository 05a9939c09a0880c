import PolyglotPages.Dictionary.Form
import PolyglotPages.Document
import PolyglotPages.Marker.Cursor
import PolyglotPages.Output.Writing
import PolyglotPages.Project.Options

/-! A site: a page and its dictionary, read once and rendered as often as wanted. -/
namespace PolyglotPages

structure Site where
  page : Markup
  dictionary : Dictionary
  stem? : Option String := none
  documentMode : Project.DocumentMode := .html
  parseMode : Project.ParseMode := .byClass
  insertMode : Project.InsertMode := .prepend
deriving Inhabited

namespace Site

def documentation : String := "https://github.com/lifund/mulang"

variable {m : Type → Type} [Monad m] [FileStore m]

def readInput (path : String) : m (Except InputError String) := do
  return (← FileStore.readText path).mapError (.unreadable path)

def readDictionary (path : String) : m (Except InputError Dictionary) := do
  return (← readInput path).bind (Dictionary.parse ("'" ++ path ++ "'"))

def readPage (o : Project.Options) : m (Except InputError (String × Option String)) :=
  match o.pagePath with
  | none => return .ok (o.page, none)
  | some path => do return (← readInput path).map (·, Path.stem? path)

def chooseDictionary (o : Project.Options) : m (Except InputError Dictionary) :=
  match o.dictionaryPath with
  | none => return .ok o.dictionary
  | some path => readDictionary path

/-- The site that options describe. The page is read first. -/
def load (o : Project.Options) : m (Except InputError Site) := do
  match ← readPage o with
  | .error e => return .error e
  | .ok (text, stem?) =>
    match ← chooseDictionary o with
    | .error e => return .error e
    | .ok dictionary =>
      return .ok {
        page := .normalize text, dictionary, stem?
        documentMode := o.documentMode, parseMode := o.parseMode, insertMode := o.insertMode }

def segments (s : Site) : List Segment := s.page.segments

def render (s : Site) : Except InputError Rendering :=
  Rendering.ofSegments s.segments s.page s.dictionary

def naming (s : Site) (outDir : String) : Output.Naming :=
  { outDir, stem := s.stem?.getD Output.defaultStem }

end Site
end PolyglotPages
