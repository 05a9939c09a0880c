import PolyglotPages.Dictionary.Basic

/-! What a page is made of: its text and its dictionary, given in place or by a path. A path, where
it is given, comes before what is given in place. -/
namespace PolyglotPages.Project

inductive DocumentMode where
  | html
deriving DecidableEq, Repr, Inhabited

inductive ParseMode where
  | byClass
deriving DecidableEq, Repr, Inhabited

inductive InsertMode where
  | prepend
deriving DecidableEq, Repr, Inhabited

def DocumentMode.name : DocumentMode → String
  | .html => "html"

def ParseMode.name : ParseMode → String
  | .byClass => "class"

def InsertMode.name : InsertMode → String
  | .prepend => "prepend"

structure Options where
  page : String := ""
  dictionary : Dictionary := {}
  pagePath : Option String := none
  dictionaryPath : Option String := none
  documentMode : DocumentMode := .html
  parseMode : ParseMode := .byClass
  insertMode : InsertMode := .prepend
deriving Inhabited

end PolyglotPages.Project
