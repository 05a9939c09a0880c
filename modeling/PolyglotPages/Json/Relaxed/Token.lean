import PolyglotPages.Json.Basic
import PolyglotPages.Json.Relaxed.Fault
import PolyglotPages.Number.Literal
import PolyglotPages.Text.Alphanumeric
import PolyglotPages.Text.Blank
import PolyglotPages.Text.Halves

/-! Tokens of a relaxed JSON text: strings in either quotes, bare words, hexadecimal numbers, signs
in front of numbers, and comments between the tokens. Each reader takes the characters from the
token on and gives back those after it. A failure names the place where it begins. -/
namespace PolyglotPages.Json.Relaxed

structure Numeral where
  source : String
  value? : Option Number
deriving DecidableEq, Repr, Inhabited

inductive Token where
  | openBrace
  | closeBrace
  | openBracket
  | closeBracket
  | comma
  | colon
  | null
  | bool (value : Bool)
  | number (numeral : Numeral)
  | string (text : String)
  | word (text : String)
deriving DecidableEq, Repr, Inhabited

/-! ### White space and comments -/

inductive Gap where
  | outside
  | lineComment
  /-- In a comment that began where `opened` was left of the text. -/
  | blockComment (opened : List Char)
deriving DecidableEq, Repr, Inhabited

def skipFrom : Gap → List Char → Except Failure (List Char)
  | .outside, '/' :: '/' :: rest => skipFrom .lineComment rest
  | .outside, '/' :: '*' :: rest => skipFrom (.blockComment ('/' :: '*' :: rest)) rest
  | .outside, c :: rest => if Text.isBlank c then skipFrom .outside rest else .ok (c :: rest)
  | .outside, [] => .ok []
  | .lineComment, c :: rest => skipFrom (if c = '\n' then .outside else .lineComment) rest
  | .lineComment, [] => .ok []
  | .blockComment _, '*' :: '/' :: rest => skipFrom .outside rest
  | .blockComment opened, _ :: rest => skipFrom (.blockComment opened) rest
  | .blockComment opened, [] => .error (.fault .unterminatedComment opened)

def skip (cs : List Char) : Except Failure (List Char) := skipFrom .outside cs

/-! ### Strings -/

def readCode : List Char → Except Fault (List Char × Nat × List Char)
  | a :: b :: c :: d :: rest =>
    match Text.hexFour? a b c d with
    | some n => .ok ([a, b, c, d], n, rest)
    | none => .error .hexDigitsExpected
  | _ => .error .hexDigitsExpected

def readSecondHalf (digits : List Char) (first : Nat) :
    List Char → Except Fault (Char × List Char)
  | '\\' :: 'u' :: rest => do
    let (_, second, rest) ← readCode rest
    if Text.isSecondHalf second then .ok (Text.joinHalves first second, rest)
    else .error (.unmatchedFirstHalf digits)
  | _ => .error (.unpairedFirstHalf digits)

def readCodeEscape (cs : List Char) : Except Fault (Char × List Char) := do
  let (digits, n, rest) ← readCode cs
  if Text.isFirstHalf n then readSecondHalf digits n rest
  else if Text.isSecondHalf n then .error (.unpairedSecondHalf digits)
  else .ok (Char.ofNat n, rest)

/-- The character of an escape whose backslash has been read. A quote may be escaped only between
quotes of its kind. -/
def readEscape (quote : Char) : List Char → Except Fault (Char × List Char)
  | [] => .error .unterminatedString
  | '"' :: rest => if quote = '"' then .ok ('"', rest) else .error .invalidEscapeInSingleQuotes
  | '\'' :: rest => if quote = '\'' then .ok ('\'', rest) else .error .invalidEscapeInDoubleQuotes
  | '\\' :: rest => .ok ('\\', rest)
  | '/' :: rest => .ok ('/', rest)
  | 'b' :: rest => .ok ('\x08', rest)
  | 'f' :: rest => .ok ('\x0c', rest)
  | 'n' :: rest => .ok ('\n', rest)
  | 'r' :: rest => .ok ('\r', rest)
  | 't' :: rest => .ok ('\t', rest)
  | 'u' :: rest => readCodeEscape rest
  | _ => .error .invalidEscape

/-- A string up to its closing quote, with at most `fuel` characters in it; `opened` is the place
of its opening quote. -/
def readStringTo (opened : List Char) (quote : Char) :
    Nat → List Char → Except Failure (List Char × List Char)
  | 0, _ | _, [] | _, ['\\'] => .error (.fault .unterminatedString opened)
  | fuel + 1, c :: cs =>
    if c = quote then .ok ([], cs)
    else if c = '\\' then
      match readEscape quote cs with
      | .error f => .error (.fault f (c :: cs))
      | .ok (e, rest) => do
        let (more, rest) ← readStringTo opened quote fuel rest
        return (e :: more, rest)
    else do
      let (more, rest) ← readStringTo opened quote fuel cs
      return (c :: more, rest)

def readString (quote : Char) (cs : List Char) : Except Failure (String × List Char) := do
  let (text, rest) ← readStringTo (quote :: cs) quote (cs.length + 1) cs
  return (String.ofList text, rest)

/-! ### Numbers -/

def readSign : List Char → Option (Bool × List Char)
  | '-' :: rest => some (true, rest)
  | '+' :: rest => some (false, rest)
  | _ => none

def readDigits (fault : Fault) (cs : List Char) : Except Failure (List Char × List Char) :=
  match cs.span Char.isDigit with
  | ([], rest) => .error (.fault fault rest)
  | found => .ok found

/-- The number of a hexadecimal literal, if it fits in 64 bits with a sign. -/
def hexValue? (negative : Bool) (digits : List Char) : Option Number :=
  let n := digits.foldl (fun n c => n * 16 + (Text.hexDigit? c).getD 0) 0
  if n < Number.twoTo 63 then some (.integer (if negative then -n else n)) else none

def readHex (negative : Bool) (cs : List Char) : Except Failure (Option Number × List Char) :=
  match cs.span fun c => (Text.hexDigit? c).isSome with
  | ([], rest) => .error (.fault .digitExpected rest)
  | (digits, rest) => .ok (hexValue? negative digits, rest)

def readWhole : List Char → Except Failure (List Char × List Char)
  | '0' :: rest => .ok (['0'], rest)
  | cs => readDigits .digitAfterSignExpected cs

def readFraction : List Char → Except Failure (Option (List Char) × List Char)
  | '.' :: rest => (readDigits .digitExpected rest).map fun (digits, rest) => (some digits, rest)
  | cs => .ok (none, cs)

def readExponent : List Char → Except Failure (Option (Bool × List Char) × List Char)
  | [] => .ok (none, [])
  | c :: cs =>
    if c = 'e' ∨ c = 'E' then
      match readSign cs with
      | some (negative, rest) =>
        (readDigits .digitExpected rest).map fun (digits, rest) => (some (negative, digits), rest)
      | none => (readDigits .exponentExpected cs).map fun (digits, rest) => (some (false, digits), rest)
    else .ok (none, c :: cs)

def readDecimal (negative : Bool) (cs : List Char) : Except Failure (Option Number × List Char) := do
  let (whole, cs) ← readWhole cs
  let (fraction, cs) ← readFraction cs
  let (exponent, cs) ← readExponent cs
  return (Number.Literal.value? ⟨negative, whole, fraction, exponent⟩, cs)

def readNumber (cs : List Char) : Except Failure (Option Number × List Char) :=
  let (negative, cs) := (readSign cs).getD (false, cs)
  match cs with
  | '0' :: 'x' :: rest | '0' :: 'X' :: rest => readHex negative rest
  | cs => readDecimal negative cs

def readNumeral (cs : List Char) : Except Failure (Numeral × List Char) := do
  let (value?, rest) ← readNumber cs
  return (⟨String.ofList (cs.take (cs.length - rest.length)), value?⟩, rest)

/-! ### Words -/

def afterWord? : List Char → List Char → Option (List Char)
  | [], [] => some []
  | [], c :: cs => if Text.isAlphanumeric c then none else some (c :: cs)
  | _ :: _, [] => none
  | w :: ws, c :: cs => if w = c then afterWord? ws cs else none

def isWordChar (c : Char) : Bool := Text.isAlphanumeric c || c = '-' || c = '_'

def readWord (cs : List Char) : Except Failure (String × List Char) :=
  let (word, rest) := cs.span fun c => !Text.isBlank c && c != ':'
  if word ≠ [] ∧ word.all isWordChar then .ok (String.ofList word, rest)
  else .error (.fault .unexpectedToken cs)

def readWords (cs : List Char) : Except Failure (Token × List Char) :=
  match afterWord? ['t', 'r', 'u', 'e'] cs with
  | some rest => .ok (.bool true, rest)
  | none =>
    match afterWord? ['f', 'a', 'l', 's', 'e'] cs with
    | some rest => .ok (.bool false, rest)
    | none =>
      match afterWord? ['n', 'u', 'l', 'l'] cs with
      | some rest => .ok (.null, rest)
      | none => (readWord cs).map fun (word, rest) => (.word word, rest)

/-! ### Tokens -/

def readToken (c : Char) (cs : List Char) : Except Failure (Token × List Char) :=
  match c with
  | '{' => .ok (.openBrace, cs)
  | '}' => .ok (.closeBrace, cs)
  | '[' => .ok (.openBracket, cs)
  | ']' => .ok (.closeBracket, cs)
  | ',' => .ok (.comma, cs)
  | ':' => .ok (.colon, cs)
  | '"' => (readString '"' cs).map fun (text, rest) => (.string text, rest)
  | '\'' => (readString '\'' cs).map fun (text, rest) => (.string text, rest)
  | '/' => .error (.fault .unexpectedToken (c :: cs))
  | c =>
    if c = '-' ∨ c = '+' ∨ c.isDigit then
      (readNumeral (c :: cs)).map fun (n, rest) => (.number n, rest)
    else readWords (c :: cs)

structure Placed where
  token : Token
  rest : List Char
deriving Repr, Inhabited

def readTokens : Nat → List Char → List Placed × Option Failure
  | 0, _ => ([], none)
  | fuel + 1, cs =>
    match skip cs with
    | .error e => ([], some e)
    | .ok [] => ([], none)
    | .ok (c :: cs) =>
      match readToken c cs with
      | .error e => ([], some e)
      | .ok (token, rest) =>
        let (more, stop) := readTokens fuel rest
        (⟨token, c :: cs⟩ :: more, stop)

def tokens (cs : List Char) : List Placed × Option Failure := readTokens (cs.length + 1) cs

end PolyglotPages.Json.Relaxed
