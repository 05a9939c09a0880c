import PolyglotPages.Command.Directive.Basic
import PolyglotPages.Regex.Basic
import PolyglotPages.Text.Bytes

/-! Directives as texts. A text that is no directive is malformed, or it is torn: a part of it would
begin or end inside a character. Of two such faults the one further to the left is told. -/
namespace PolyglotPages.Command.Directive

inductive Refusal where
  | malformed
  /-- A part of it begins or ends inside a character. -/
  | torn
deriving DecidableEq, Repr, Inhabited

def unsigned : List Char → List Char
  | '+' :: cs | '-' :: cs => cs
  | cs => cs

def isExponent : List Char → Bool
  | [] => true
  | c :: cs => c.toLower = 'e' && unsigned cs != [] && (unsigned cs).all Char.isDigit

def isNumber (cs : List Char) : Bool :=
  let (whole, rest) := (unsigned cs).span Char.isDigit
  let (fraction, rest) := match rest with
    | '.' :: rest => rest.span Char.isDigit
    | _ => ([], rest)
  String.ofList ((unsigned cs).map Char.toLower) ∈ ["inf", "infinity", "nan"]
    || whole ++ fraction != [] && isExponent rest

structure Asked where
  name : List Char
  value : Option (List Char)
deriving DecidableEq, Repr, Inhabited

namespace Asked

def ofText (cs : List Char) : Asked where
  name := cs.takeWhile (· != '=')
  value := match cs.dropWhile (· != '=') with
    | [] => none
    -- what stands behind another equals sign does not matter
    | _ :: rest => some (rest.takeWhile (· != '='))

def isValid (a : Asked) : Bool := a.value.all fun cs => isNumber cs || Regex.isValid cs

end Asked

/-- A directive as it was given, and without the blanks around it. It is divided at places of the
latter, and the parts are cut out of the former at the same distance from its beginning, so that
blanks after it belong to its last part and blanks before it shift every part. -/
structure Source where
  given : List Char
  trimmed : List Char
deriving DecidableEq, Repr, Inhabited

namespace Source

def trim (cs : List Char) : List Char :=
  ((cs.dropWhile Text.isBlank).reverse.dropWhile Text.isBlank).reverse

def ofText (cs : List Char) : Source := ⟨cs, trim cs⟩

def place (s : Source) (rest : List Char) : Nat :=
  Text.byteLength s.trimmed - Text.byteLength rest

def between (s : Source) (rest after : List Char) : Except Refusal (List Char) :=
  (Text.slice? s.given (s.place rest) (s.place after)).elim (.error .torn) .ok

def since (s : Source) (rest : List Char) : Except Refusal (List Char) :=
  (Text.dropBytes? (s.place rest) s.given).elim (.error .torn) .ok

def readLevel (s : Source) (d : Directive) : List Char → Except Refusal Directive
  | [] => .ok d
  | '=' :: rest => do
    match rankOrAll? (← s.since rest) with
    | some rank => .ok { d with rank }
    | none => .error .malformed
  | _ => .error .malformed

/-- The rest of a scope from behind the brace that opens in it: what spans or events are to carry.
If a value is given too, spans are meant. -/
def readCarried (s : Source) (d : Directive) (rest : List Char) : Except Refusal Directive :=
  match rest.dropWhile (· != '\x7d') with
  | [] => .error .malformed
  | brace :: after => do
    let part ← s.between rest (brace :: after)
    let asked := Asked.ofText part
    match after with
    | ']' :: after =>
      if part = [] ∨ ¬asked.isValid then .error .malformed
      else
        let isForSpans := d.isForSpans || asked.value.isSome
        s.readLevel { d with carries := some (String.ofList asked.name), isForSpans } after
    | _ => .error .malformed

/-- A scope from behind the bracket that opens it: the name of a span, what is carried, or both.
An empty name stands for no name only if something is carried. -/
def readScope (s : Source) (d : Directive) (rest : List Char) : Except Refusal Directive :=
  match rest.dropWhile fun c => c != ']' && c != '\x7b' with
  | [] => .error .malformed
  | mark :: after => do
    let name ← s.between rest (mark :: after)
    if mark = ']' then s.readLevel { d with isForSpans := true } after
    else s.readCarried { d with isForSpans := name != [] } after

def canBegin (c : Char) : Bool := Text.isAlphanumeric c || c = '-' || c = ':' || c = '_'

def read (s : Source) : Except Refusal Directive :=
  let all : Directive := { rank := everything }
  match s.trimmed with
  | [] => .error .malformed
  | '[' :: rest => s.readScope all rest
  | c :: cs =>
    if ¬canBegin c then .error .malformed
    else
      match (c :: cs).dropWhile fun c => c != '=' && c != '[' with
      | [] =>
        match rank? s.given with
        | some rank => .ok { rank }
        | none => .ok { all with target := String.ofList s.given }
      | mark :: after => do
        let target ← s.between s.trimmed (mark :: after)
        let d : Directive := { all with target := String.ofList target }
        if mark = '[' then s.readScope d after else s.readLevel d (mark :: after)

end Source

def ofText (cs : List Char) : Except Refusal Directive := (Source.ofText cs).read

end PolyglotPages.Command.Directive
