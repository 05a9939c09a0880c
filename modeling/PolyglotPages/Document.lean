import PolyglotPages.Dictionary.Basic
import PolyglotPages.Dictionary.InputError
import PolyglotPages.Markup
import PolyglotPages.Segment

/-! The documents of a page, one for each language of its dictionary. A document is made of the
segments of the page in their order, each followed by the text of its marker in the language. Texts
are inserted as they are. What has no text is left empty, with a warning if the marker is in the
dictionary. -/
namespace PolyglotPages

structure Document where
  language : String
  html : String
deriving DecidableEq, Repr, Inhabited

inductive Warning where
  | duplicateLanguage (language : String)
  /-- A segment that cannot be cut out of the page. -/
  | segmentOutside (segment : Segment)
  | missingText (marker language : String)
deriving DecidableEq, Repr, Inhabited

structure Rendering where
  documents : List Document := []
  warnings : List Warning := []
deriving DecidableEq, Repr, Inhabited

namespace Document

def cutOut (page : Markup) (s : Segment) : List Char × List Warning :=
  match page.slice? s.start s.stop with
  | some cs => (cs, [])
  | none => ([], [.segmentOutside s])

def inserted (d : Dictionary) (index : Nat) (language : String) (s : Segment) :
    List Char × List Warning :=
  if s.isNamed then
    match d.contents.get? s.name with
    | none => ([], [])
    | some content =>
      match content.text? index with
      | some text => (text.toList, [])
      | none => ([], [.missingText s.name language])
  else ([], [])

/-- The segments of a page with the texts of the language at the given index. -/
def assemble (page : Markup) (d : Dictionary) (index : Nat) (language : String) :
    List Segment → List Char × List Warning
  | [] => ([], [])
  | s :: rest =>
    let (piece, outside) := cutOut page s
    let (text, missing) := inserted d index language s
    let (html, more) := assemble page d index language rest
    (piece ++ text ++ html, outside ++ missing ++ more)

/-- The documents of the languages from the given index on; a language of `seen` is left out. -/
def renderFrom (segments : List Segment) (page : Markup) (d : Dictionary)
    (index : Nat) (seen : List String) : List String → Rendering
  | [] => {}
  | language :: rest =>
    if language ∈ seen then
      let more := renderFrom segments page d (index + 1) seen rest
      { more with warnings := .duplicateLanguage language :: more.warnings }
    else
      let (html, warnings) := assemble page d index language segments
      let more := renderFrom segments page d (index + 1) (language :: seen) rest
      { documents := ⟨language, String.ofList html⟩ :: more.documents,
        warnings := warnings ++ more.warnings }

end Document

namespace Rendering

def ofSegments (segments : List Segment) (page : Markup) (d : Dictionary) :
    Except InputError Rendering :=
  if d.hasStandardLinebreak then
    .ok (Document.renderFrom segments page d 0 [] d.header.languages)
  else .error (.linebreak d.header.linebreak)

def get? (r : Rendering) (language : String) : Option String :=
  (r.documents.find? (·.language == language)).map (·.html)

def languages (r : Rendering) : List String := r.documents.map (·.language)

end Rendering
end PolyglotPages
