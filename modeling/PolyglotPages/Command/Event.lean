import PolyglotPages.Document
import PolyglotPages.Output.Writing
import PolyglotPages.Text.Quoted

/-! What the command tells of its work. Events of a level below `info` are left out, with all that
only they would show. An event has a message and named values. In the message no character is left
with which a terminal could be given orders; values are written as they are. -/
namespace PolyglotPages.Command

inductive Level where
  | error
  | warn
  | info
deriving DecidableEq, Repr, Inhabited

def Level.name : Level → String
  | .error => "ERROR"
  | .warn => "WARN"
  | .info => "INFO"

structure Event where
  level : Level
  target : String
  message : String
  values : List (String × String) := []
deriving DecidableEq, Repr, Inhabited

namespace Event

def commandTarget : String := "mulang"

def renderingTarget : String := commandTarget ++ "::renderer"

def writingTarget : String := commandTarget ++ "::output"

def describeSegment (s : Segment) : String :=
  "Range \x7b slice_start: " ++ toString s.start ++ ", slice_end: " ++ toString s.stop
    ++ ", name: " ++ Text.quoted s.name ++ " \x7d"

def ofWarning : Warning → Event
  | .duplicateLanguage language =>
    ⟨.warn, renderingTarget, "Duplicate language in meta.languages, skipping",
      [("language", language)]⟩
  | .segmentOutside s =>
    ⟨.warn, renderingTarget, "Range does not fit the markup, slice skipped",
      [("range", describeSegment s)]⟩
  | .missingText marker language =>
    ⟨.warn, renderingTarget, "No content for language, marker left empty",
      [("marker", marker), ("language", language)]⟩

def ofFailure (f : Output.Failure) : Event :=
  ⟨.warn, writingTarget, "Failed to write document",
    [("language", f.language), ("path", f.path), ("error", f.error.message)]⟩

def ofWritten (path : String) : Event := ⟨.info, commandTarget, "Wrote " ++ path, []⟩

def ofError (message : String) : Event := ⟨.error, commandTarget, message, []⟩

def names (e : Event) : List String := "message" :: e.values.map Prod.fst

/-- A character of a message. Those that a terminal takes for the beginning of an order are given
by their codes. -/
def messageChar (c : Char) : List Char :=
  if c = '\x1b' then "\\x1b".toList
  else if c = '\x07' then "\\x07".toList
  else if c = '\x08' then "\\x08".toList
  else if c = '\x0c' then "\\x0c".toList
  else if c = '\x7f' then "\\x7f".toList
  else if 0x80 ≤ c.toNat ∧ c.toNat ≤ 0x9F then
    "\\u\x7b".toList ++ Nat.toDigits 16 c.toNat ++ ['\x7d']
  else [c]

def text (e : Event) : String :=
  String.ofList (e.message.toList.flatMap messageChar)
    ++ String.join (e.values.map fun (name, value) => " " ++ name ++ "=" ++ value)

def line (e : Event) : String := e.level.name ++ " " ++ e.target ++ ": " ++ e.text ++ "\n"

end Event
end PolyglotPages.Command
