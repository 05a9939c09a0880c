import PolyglotPages.Json.Strict.Fault
import PolyglotPages.Number.Literal
import PolyglotPages.Text.Bytes
import PolyglotPages.Text.Halves

/-! Strings, numbers and words of a strict JSON text. Each reader takes the characters from the
token on and gives back those after it. A string has two readers. `readString` wants the halves of a
character to stand together; `passString` only looks for the closing quote. -/
namespace PolyglotPages.Json.Strict

def isSpace (c : Char) : Bool := c = ' ' || c = '\t' || c = '\n' || c = '\r'

def skipSpace (cs : List Char) : List Char := cs.dropWhile isSpace

/-! ### Strings -/

inductive StringUnit where
  | char (c : Char)
  | code (n : Nat)
deriving DecidableEq, Repr, Inhabited

def escaped? : Char → Option Char
  | '"' => some '"'
  | '\\' => some '\\'
  | '/' => some '/'
  | 'b' => some '\x08'
  | 'f' => some '\x0c'
  | 'n' => some '\n'
  | 'r' => some '\r'
  | 't' => some '\t'
  | _ => none

/-- Four hexadecimal digits. The text ends within them when fewer than four bytes are left. -/
def readCode : List Char → Except Fault (Nat × List Char)
  | a :: b :: c :: d :: rest =>
    match Text.hexFour? a b c d with
    | some n => .ok (n, rest)
    | none => .error .invalidEscape
  | cs => .error (if 4 ≤ Text.byteLength cs then .invalidEscape else .endInString)

def readUnit : List Char → Except Fault (StringUnit × List Char)
  | [] => .error .endInString
  | '\\' :: [] => .error .endInString
  | '\\' :: 'u' :: rest => (readCode rest).map fun (n, rest) => (.code n, rest)
  | '\\' :: c :: rest =>
    match escaped? c with
    | some e => .ok (.char e, rest)
    | none => .error .invalidEscape
  | c :: rest => if c < ' ' then .error .controlCharacter else .ok (.char c, rest)

def readSecondHalf (first : Nat) : List Char → Except Fault (Char × List Char)
  | [] => .error .endInString
  | '\\' :: [] => .error .endInString
  | '\\' :: 'u' :: rest => do
    let (second, rest) ← readCode rest
    if Text.isSecondHalf second then .ok (Text.joinHalves first second, rest) else .error .loneHalf
  | _ => .error .secondHalfMissing

def readChar (cs : List Char) : Except Fault (Char × List Char) := do
  match ← readUnit cs with
  | (.char c, rest) => .ok (c, rest)
  | (.code n, rest) =>
    if Text.isSecondHalf n then .error .loneHalf
    else if Text.isFirstHalf n then readSecondHalf n rest
    else .ok (Char.ofNat n, rest)

def readCharsTo : Nat → List Char → Except Fault (List Char)
  | 0, _ => .error .endInString
  | _ + 1, '"' :: _ => .ok []
  | fuel + 1, cs => do
    let (c, rest) ← readChar cs
    return c :: (← readCharsTo fuel rest)

def passUnitsTo : Nat → List Char → Except Fault (List Char)
  | 0, _ => .error .endInString
  | _ + 1, '"' :: rest => .ok rest
  | fuel + 1, cs => do passUnitsTo fuel (← readUnit cs).2

def readString (cs : List Char) : Except Fault String :=
  (readCharsTo (cs.length + 1) cs).map String.ofList

def passString (cs : List Char) : Except Fault (List Char) := passUnitsTo (cs.length + 1) cs

/-! ### Numbers -/

structure NumberFault where
  atEnd : Bool
deriving DecidableEq, Repr, Inhabited

def readWhole : List Char → Except NumberFault (List Char × List Char)
  | [] => .error ⟨true⟩
  | '0' :: c :: rest => if c.isDigit then .error ⟨false⟩ else .ok (['0'], c :: rest)
  | c :: rest => if c.isDigit then .ok ((c :: rest).span Char.isDigit) else .error ⟨false⟩

def readDigits (cs : List Char) : Except NumberFault (List Char × List Char) :=
  match cs.span Char.isDigit with
  | ([], rest) => .error ⟨rest.isEmpty⟩
  | found => .ok found

def readFraction : List Char → Except NumberFault (Option (List Char) × List Char)
  | '.' :: rest => (readDigits rest).map fun (digits, rest) => (some digits, rest)
  | cs => .ok (none, cs)

def readSign : List Char → Bool × List Char
  | '-' :: rest => (true, rest)
  | '+' :: rest => (false, rest)
  | cs => (false, cs)

def readExponent : List Char → Except NumberFault (Option (Bool × List Char) × List Char)
  | [] => .ok (none, [])
  | c :: cs =>
    if c = 'e' ∨ c = 'E' then
      let (negative, rest) := readSign cs
      (readDigits rest).map fun (digits, rest) => (some (negative, digits), rest)
    else .ok (none, c :: cs)

def readNumber (cs : List Char) : Except NumberFault (Number.Literal × List Char) := do
  let (negative, cs) := match cs with
    | '-' :: rest => (true, rest)
    | _ => (false, cs)
  let (whole, cs) ← readWhole cs
  let (fraction, cs) ← readFraction cs
  let (exponent, cs) ← readExponent cs
  return (⟨negative, whole, fraction, exponent⟩, cs)

/-! ### Words -/

def readWord : List Char → List Char → Except Bool (List Char)
  | [], cs => .ok cs
  | _ :: _, [] => .error true
  | w :: ws, c :: cs => if c = w then readWord ws cs else .error false

end PolyglotPages.Json.Strict
