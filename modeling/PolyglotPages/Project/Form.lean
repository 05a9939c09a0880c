import PolyglotPages.Dictionary.Form
import PolyglotPages.Json.Strict.Kept
import PolyglotPages.Project.Settings

/-! The written form of options and settings. Settings are written flat: the fields of the options
stand beside those of the settings. So the fields that settings do not know are set aside while a
text is read, and only then checked for the shape of options. -/
namespace PolyglotPages

namespace Json

def asPath? : Json → Option String
  | .string s => some s
  | _ => none

def ofPath? : Option String → Json
  | some path => .string path
  | none => .null

end Json

namespace Project

namespace Options

def fields : List (String × Json.Shape) :=
  [("sourceHtml", .text), ("targetJson", Dictionary.shape), ("sourceHtmlPath", .optionalPath),
    ("targetJsonPath", .optionalPath), ("documentMode", .constant DocumentMode.html.name),
    ("parseMode", .constant ParseMode.byClass.name),
    ("insertMode", .constant InsertMode.prepend.name)]

def shape : Json.Shape := .record "MulangOptions" fields

/-- The options that a value of the shape stands for. Each mode has a single word, so it need not
be looked at again. -/
def ofShaped (v : Json) : Options where
  page := (v.field? fields "sourceHtml").elim "" Json.asText
  dictionary := (v.field? fields "targetJson").elim {} Dictionary.ofShaped
  pagePath := (v.field? fields "sourceHtmlPath").bind Json.asPath?
  dictionaryPath := (v.field? fields "targetJsonPath").bind Json.asPath?

def ofJson (v : Json) : Except Json.ShapeError Options := do
  Json.check .decoded shape v
  return ofShaped v

def parse (text : String) : Except Json.Strict.Failure Options :=
  (Json.Strict.parseShaped shape text).map fun v => ofShaped v.settle

def toMembers (o : Options) : List (String × Json) :=
  [("sourceHtml", .string o.page), ("targetJson", o.dictionary.toJson),
    ("sourceHtmlPath", .ofPath? o.pagePath), ("targetJsonPath", .ofPath? o.dictionaryPath),
    ("documentMode", .string o.documentMode.name), ("parseMode", .string o.parseMode.name),
    ("insertMode", .string o.insertMode.name)]

def toJson (o : Options) : Json := .object o.toMembers

end Options

namespace Settings

def typeName : String := "ProjectConfig"

def fields : List (String × Json.Shape) := [("outDir", .path), ("pattern", .text)]

/-- The members that the settings do not know. -/
def setAside (members : List (String × Json)) : List (String × Json) :=
  members.filter fun e => (fields.lookup e.1).isNone

def ofMembers (members : List (String × Json)) : Settings where
  options := Options.ofShaped (.object members)
  outDir := (members.lookup "outDir").elim "." Json.asText
  pattern := (members.lookup "pattern").elim Output.defaultPattern Json.asText

def ofJson : Json → Except Json.ShapeError Settings
  | .object members => do
    Json.checkMembers .decoded fields [] members
    Json.check .setAside Options.shape (.object (setAside members))
    return ofMembers members
  | v => .error (.mismatch v.found (.record typeName))

def parse (text : String) : Except Json.Strict.Failure Settings := do
  let (members, rest) ← Json.Strict.readKept typeName fields text
  Json.Strict.shaped (Json.check .setAside Options.shape (.object (setAside members)))
  Json.Strict.plain (Json.Strict.finish rest)
  return ofMembers (Entries.sort (Json.settleMembers members))

def toJson (s : Settings) : Json :=
  .object (s.options.toMembers ++ [("outDir", .string s.outDir), ("pattern", .string s.pattern)])

end Settings

end Project
end PolyglotPages
