import PolyglotPages.Json.Settled

/-! The dictionary of a page: which languages it is written in, and for each marker the text that
goes there, one for all languages or one for each. -/
namespace PolyglotPages

structure UpdateRecord where
  user : String := ""
  time : String := ""
  comment : String := ""
  contents : SettledJson := .ofJson .null
deriving Inhabited

inductive Content where
  | shared (text : String)
  | perLanguage (texts : List String)
deriving DecidableEq, Repr, Inhabited

def Content.text? : Content → Nat → Option String
  | .shared text, _ => some text
  | .perLanguage texts, index => texts[index]?

namespace Dictionary

def standardLinebreak : String := "<br>"

structure Header where
  languages : List String := []
  linebreak : String := standardLinebreak
  updateHistory : List UpdateRecord := []
deriving Inhabited

end Dictionary

structure Dictionary where
  header : Dictionary.Header := {}
  contents : Table Content := .empty
deriving Inhabited

namespace Dictionary

/-- The index of a language: where its code first stands among the languages. -/
def index? (d : Dictionary) (language : String) : Option Nat := d.header.languages.idxOf? language

def content? (d : Dictionary) (name : String) (index : Nat) : Option String :=
  (d.contents.get? name).bind (·.text? index)

def hasStandardLinebreak (d : Dictionary) : Bool := d.header.linebreak == standardLinebreak

end Dictionary
end PolyglotPages
