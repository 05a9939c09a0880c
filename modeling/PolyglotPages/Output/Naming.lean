import PolyglotPages.Path
import PolyglotPages.Text.Replace

/-! Which file a document is written to. A pattern names the file below the output directory;
`{stem}` in it stands for the name of the page, and then `{lang}` for the code of the language. -/
namespace PolyglotPages.Output

def languagePlaceholder : List Char := ['{', 'l', 'a', 'n', 'g', '}']

def stemPlaceholder : List Char := ['{', 's', 't', 'e', 'm', '}']

def defaultPattern : String :=
  String.ofList (stemPlaceholder ++ ['.'] ++ languagePlaceholder ++ ".html".toList)

def defaultStem : String := "index"

structure Naming where
  outDir : String
  pattern : String := defaultPattern
  stem : String := defaultStem
deriving DecidableEq, Repr, Inhabited

namespace Naming

def fileName (n : Naming) (language : String) : String :=
  String.ofList (Text.replace languagePlaceholder language.toList
    (Text.replace stemPlaceholder n.stem.toList n.pattern.toList))

def path (n : Naming) (language : String) : String := Path.join n.outDir (n.fileName language)

end Naming
end PolyglotPages.Output
