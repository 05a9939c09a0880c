import PolyglotPages.Dictionary.Basic
import PolyglotPages.Dictionary.InputError
import PolyglotPages.Json.Relaxed.Value
import PolyglotPages.Json.Shape

/-! The written form of a dictionary. `ofJson` accepts exactly the values of the shape `shape`;
`toJson` writes every field except an update history that is empty. -/
namespace PolyglotPages

namespace Json

def asText : Json → String
  | .string s => s
  | _ => ""

def asTexts : Json → List String
  | .array items => items.map asText
  | _ => []

end Json

namespace UpdateRecord

def fields : List (String × Json.Shape) :=
  [("user", .text), ("time", .text), ("comment", .text), ("contents", .any)]

def shape : Json.Shape := .record "UpdateRecord" fields

def ofShaped (v : Json) : UpdateRecord where
  user := (v.field? fields "user").elim "" Json.asText
  time := (v.field? fields "time").elim "" Json.asText
  comment := (v.field? fields "comment").elim "" Json.asText
  contents := .ofJson ((v.field? fields "contents").getD .null)

def toJson (r : UpdateRecord) : Json :=
  .object [("user", .string r.user), ("time", .string r.time), ("comment", .string r.comment),
    ("contents", r.contents.value)]

end UpdateRecord

namespace Content

def shape : Json.Shape := .textOrTexts "ContentValue"

def ofShaped : Json → Content
  | .string s => .shared s
  | v => .perLanguage v.asTexts

def toJson : Content → Json
  | .shared text => .string text
  | .perLanguage texts => .array (texts.map .string)

end Content

namespace Dictionary

namespace Header

def fields : List (String × Json.Shape) :=
  [("languages", .list .text), ("linebreak", .text), ("updateHistory", .list UpdateRecord.shape)]

def shape : Json.Shape := .record "Meta" fields

def historyOfShaped : Json → List UpdateRecord
  | .array items => items.map UpdateRecord.ofShaped
  | _ => []

def ofShaped (v : Json) : Header where
  languages := (v.field? fields "languages").elim [] Json.asTexts
  linebreak := (v.field? fields "linebreak").elim standardLinebreak Json.asText
  updateHistory := (v.field? fields "updateHistory").elim [] historyOfShaped

def toJson (h : Header) : Json :=
  .object ([("languages", .array (h.languages.map .string)), ("linebreak", .string h.linebreak)]
    ++ if h.updateHistory.isEmpty then []
      else [("updateHistory", .array (h.updateHistory.map UpdateRecord.toJson))])

end Header

def fields : List (String × Json.Shape) :=
  [("meta", Header.shape), ("contents", .map Content.shape)]

def shape : Json.Shape := .record "ContentDictionary" fields

def contentsOfShaped : Json → Table Content
  | .object members => .ofEntries (members.map fun (name, v) => (name, Content.ofShaped v))
  | _ => .empty

def ofShaped (v : Json) : Dictionary where
  header := (v.field? fields "meta").elim {} Header.ofShaped
  contents := (v.field? fields "contents").elim .empty contentsOfShaped

def ofJson (v : Json) : Except Json.ShapeError Dictionary := do
  Json.check .decoded shape v
  return ofShaped v

def ofValue (origin : String) (v : Json) : Except InputError Dictionary :=
  (ofJson v).mapError fun e => .malformed origin e.message

def parse (origin text : String) : Except InputError Dictionary :=
  match Json.Relaxed.parse text with
  | .error e => .error (.malformed origin (e.message text.toList))
  | .ok v => ofValue origin v

def toJson (d : Dictionary) : Json :=
  .object [("meta", d.header.toJson),
    ("contents", .object (d.contents.entries.map fun (name, c) => (name, c.toJson)))]

end Dictionary
end PolyglotPages
