import PolyglotPages.Json.Relaxed.Token

/-! The value of a relaxed JSON text. Commas between items are optional and one may follow the last;
a key is a string, a bare word or a number as written. A machine reads the tokens one after the
other. Its state holds what is still open, innermost first, so nesting has no limit and the first
token that does not fit is the one reported. -/
namespace PolyglotPages.Json.Relaxed

/-- Something open that waits for a value. `opened` is the place of its bracket; what has been read
comes last first. -/
inductive Outer where
  | array (opened : List Char) (items : List Json)
  | member (opened : List Char) (members : List (String × Json)) (key : String)
deriving Repr, Inhabited

inductive State where
  | start
  | done (value : Json)
  /-- An item or the end of the array is next, or a comma where one may stand. -/
  | inArray (opened : List Char) (items : List Json) (comma : Bool) (outer : List Outer)
  /-- A key or the end of the object is next, or a comma where one may stand. -/
  | inObject (opened : List Char) (members : List (String × Json)) (comma : Bool)
      (outer : List Outer)
  | afterKey (opened : List Char) (members : List (String × Json)) (key : String)
      (outer : List Outer)
  | afterColon (opened : List Char) (members : List (String × Json)) (key : String)
      (outer : List Outer)
deriving Repr, Inhabited

/-- The value of a number: the number it denotes, or its source where that cannot be represented. -/
def Numeral.json (n : Numeral) : Json :=
  match n.value? with
  | some value => .number value
  | none => .string n.source

namespace State

def deliver (value : Json) : List Outer → State
  | [] => .done value
  | .array opened items :: outer => .inArray opened (value :: items) true outer
  | .member opened members key :: outer => .inObject opened ((key, value) :: members) true outer

def begin (outer : List Outer) (p : Placed) : Except Failure State :=
  match p.token with
  | .openBrace => .ok (.inObject p.rest [] false outer)
  | .openBracket => .ok (.inArray p.rest [] false outer)
  | .null => .ok (deliver .null outer)
  | .bool b => .ok (deliver (.bool b) outer)
  | .number n => .ok (deliver n.json outer)
  | .string s => .ok (deliver (.string s) outer)
  | .closeBrace => .error (.fault .unexpectedCloseBrace p.rest)
  | .closeBracket => .error (.fault .unexpectedCloseBracket p.rest)
  | .comma => .error (.fault .unexpectedComma p.rest)
  | .colon => .error (.fault .unexpectedColon p.rest)
  | .word _ => .error (.fault .unexpectedWord p.rest)

def step (state : State) (p : Placed) : Except Failure State :=
  match state with
  | .start => begin [] p
  | .done _ => .error (.fault .secondValue p.rest)
  | .inArray opened items comma outer =>
    match p.token, comma with
    | .closeBracket, _ => .ok (deliver (.array items.reverse) outer)
    | .comma, true => .ok (.inArray opened items false outer)
    | _, _ => begin (.array opened items :: outer) p
  | .inObject opened members comma outer =>
    match p.token, comma with
    | .closeBrace, _ => .ok (deliver (.object members.reverse) outer)
    | .comma, true => .ok (.inObject opened members false outer)
    | .string key, _ | .word key, _ => .ok (.afterKey opened members key outer)
    | .number n, _ => .ok (.afterKey opened members n.source outer)
    | _, _ => .error (.fault .unexpectedTokenInObject p.rest)
  | .afterKey opened members key outer =>
    match p.token with
    | .colon => .ok (.afterColon opened members key outer)
    | _ => .error (.fault .colonExpected p.rest)
  | .afterColon opened members key outer => begin (.member opened members key :: outer) p

def finish : State → Except Failure Json
  | .start => .error .empty
  | .done value => .ok value
  | .inArray opened _ _ _ => .error (.fault .unterminatedArray opened)
  | .inObject opened _ _ _ => .error (.fault .unterminatedObject opened)
  | .afterKey _ _ _ _ => .error (.fault .colonExpected [])
  | .afterColon _ _ _ _ => .error (.fault .valueExpected [])

def run (state : State) (tokens : List Placed) : Except Failure State := tokens.foldlM step state

end State

/-- The value of a relaxed JSON text, its members as met. A failure to read a token counts once all
tokens before it have been read without one. -/
def read (text : String) : Except Failure Json := do
  let (tokens, stop) := tokens text.toList
  let state ← State.start.run tokens
  match stop with
  | some failure => .error failure
  | none => state.finish

def parse (text : String) : Except Failure Json := (read text).map settle

end PolyglotPages.Json.Relaxed
