/-! What can be wrong with the syntax of a strict JSON text. -/
namespace PolyglotPages.Json.Strict

inductive Fault where
  | endInValue
  | endInString
  | endInObject
  | endInList
  | valueExpected
  | wordExpected
  | keyExpected
  | colonExpected
  | memberSeparatorExpected
  | itemSeparatorExpected
  | trailingComma
  | trailingCharacters
  | invalidNumber
  | numberOutOfRange
  | invalidEscape
  /-- No escape for the second half follows the first half of a character. -/
  | secondHalfMissing
  /-- The second half of a character stands alone or another escape is in its place. -/
  | loneHalf
  | controlCharacter
  | tooDeep
deriving DecidableEq, Repr, Inhabited

namespace Fault

def isEnd : Fault → Bool
  | .endInValue | .endInString | .endInObject | .endInList => true
  | _ => false

def message : Fault → String
  | .endInValue => "EOF while parsing a value"
  | .endInString => "EOF while parsing a string"
  | .endInObject => "EOF while parsing an object"
  | .endInList => "EOF while parsing a list"
  | .valueExpected => "expected value"
  | .wordExpected => "expected ident"
  | .keyExpected => "key must be a string"
  | .colonExpected => "expected `:`"
  | .memberSeparatorExpected => "expected `,` or `\x7d`"
  | .itemSeparatorExpected => "expected `,` or `]`"
  | .trailingComma => "trailing comma"
  | .trailingCharacters => "trailing characters"
  | .invalidNumber => "invalid number"
  | .numberOutOfRange => "number out of range"
  | .invalidEscape => "invalid escape"
  | .secondHalfMissing => "unexpected end of hex escape"
  | .loneHalf => "lone leading surrogate in hex escape"
  | .controlCharacter => "control character (\\u0000-\\u001F) found while parsing a string"
  | .tooDeep => "recursion limit exceeded"

end Fault
end PolyglotPages.Json.Strict
