/-! What can be wrong with a relaxed JSON text, and how it is reported. A place in a text is what is
left of the text from there on; a report counts lines and columns from one. -/
namespace PolyglotPages.Json.Relaxed

inductive Fault where
  | unexpectedToken
  | unexpectedWord
  | unexpectedComma
  | unexpectedColon
  | unexpectedCloseBrace
  | unexpectedCloseBracket
  | unexpectedTokenInObject
  | colonExpected
  | valueExpected
  | secondValue
  | unterminatedComment
  | unterminatedObject
  | unterminatedArray
  | unterminatedString
  | invalidEscape
  | invalidEscapeInDoubleQuotes
  | invalidEscapeInSingleQuotes
  | hexDigitsExpected
  /-- The first half of a character, not followed by an escape; its digits as written. -/
  | unpairedFirstHalf (digits : List Char)
  /-- The first half of a character, followed by an escape for something else. -/
  | unmatchedFirstHalf (digits : List Char)
  | unpairedSecondHalf (digits : List Char)
  | digitExpected
  | exponentExpected
  | digitAfterSignExpected
deriving DecidableEq, Repr, Inhabited

def noCharacter (digits : List Char) (reason : String) : String :=
  "Invalid unicode escape sequence. '" ++ String.ofList digits ++ " (" ++ reason
    ++ ")' is not a valid UTF8 character"

def Fault.message : Fault → String
  | .unexpectedToken => "Unexpected token"
  | .unexpectedWord => "Unexpected word"
  | .unexpectedComma => "Unexpected comma"
  | .unexpectedColon => "Unexpected colon"
  | .unexpectedCloseBrace => "Unexpected close brace"
  | .unexpectedCloseBracket => "Unexpected close bracket"
  | .unexpectedTokenInObject => "Unexpected token in object"
  | .colonExpected => "Expected colon after the string or word in object property"
  | .valueExpected => "Expected value after colon in object property"
  | .secondValue => "Text cannot contain more than one JSON value"
  | .unterminatedComment => "Unterminated comment block"
  | .unterminatedObject => "Unterminated object"
  | .unterminatedArray => "Unterminated array"
  | .unterminatedString => "Unterminated string literal"
  | .invalidEscape => "Invalid escape"
  | .invalidEscapeInDoubleQuotes => "Invalid escape in double quote string"
  | .invalidEscapeInSingleQuotes => "Invalid escape in single quote string"
  | .hexDigitsExpected => "Expected four hex digits"
  | .unpairedFirstHalf digits => noCharacter digits "unpaired high surrogate"
  | .unmatchedFirstHalf digits =>
    noCharacter digits "high surrogate not followed by low surrogate"
  | .unpairedSecondHalf digits => noCharacter digits "unpaired low surrogate"
  | .digitExpected => "Expected digit"
  | .exponentExpected => "Expected plus, minus, or digit in number literal"
  | .digitAfterSignExpected => "Expected digit following negative sign"

inductive Failure where
  | empty
  | fault (fault : Fault) (rest : List Char)
deriving DecidableEq, Repr, Inhabited

/-- The line and the column of the place where `rest` is left of a text. -/
def position (text rest : List Char) : Nat × Nat :=
  let before := text.take (text.length - rest.length)
  (before.count '\n' + 1, (before.reverse.takeWhile (· != '\n')).length + 1)

def Failure.message (text : List Char) : Failure → String
  | .empty => "document is empty"
  | .fault f rest =>
    let (line, column) := position text rest
    f.message ++ " on line " ++ toString line ++ " column " ++ toString column

end PolyglotPages.Json.Relaxed
