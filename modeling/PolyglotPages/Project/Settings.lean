import PolyglotPages.Output.Naming
import PolyglotPages.Project.Options

/-! The settings of a project: its inputs, and where its documents are written. Settings are valid
when a page is given and the pattern for file names tells the languages apart. -/
namespace PolyglotPages.Project

structure Settings where
  options : Options := {}
  outDir : String := "."
  pattern : String := Output.defaultPattern
deriving Inhabited

structure FieldError where
  field : String
  message : String
deriving DecidableEq, Repr, Inhabited

def FieldError.describe (e : FieldError) : String :=
  "Configuration error in '" ++ e.field ++ "': " ++ e.message

namespace FieldError

def noPage : FieldError :=
  ⟨"sourceHtmlPath",
    "No HTML source given. Set \"sourceHtmlPath\" (e.g., \"index.html\") or \"sourceHtml\""⟩

def emptyPattern : FieldError :=
  ⟨"pattern", "The pattern cannot be empty. Example: \"" ++ Output.defaultPattern ++ "\""⟩

def patternWithoutLanguage : FieldError :=
  ⟨"pattern", "The pattern must contain " ++ String.ofList Output.languagePlaceholder
    ++ ", otherwise every language writes the same file"⟩

def listFrom (n : Nat) : List FieldError → List String
  | [] => []
  | e :: rest =>
    ("  " ++ toString n ++ ". " ++ e.field ++ " - " ++ e.message) :: listFrom (n + 1) rest

end FieldError

namespace Settings

def pageErrors (s : Settings) : List FieldError :=
  if s.options.page = "" ∧ s.options.pagePath = none then [.noPage] else []

def patternErrors (s : Settings) : List FieldError :=
  if s.pattern = "" then [.emptyPattern]
  else if Text.occursIn Output.languagePlaceholder s.pattern.toList then []
  else [.patternWithoutLanguage]

def errors (s : Settings) : List FieldError := s.pageErrors ++ s.patternErrors

def isValid (s : Settings) : Bool := s.errors.isEmpty

def resolvePaths (base : String) (s : Settings) : Settings :=
  { s with
    options := { s.options with
      pagePath := s.options.pagePath.map (Path.join base)
      dictionaryPath := s.options.dictionaryPath.map (Path.join base) }
    outDir := Path.join base s.outDir }

end Settings
end PolyglotPages.Project
