import PolyglotPages.Json.Found
import PolyglotPages.Json.Strict.Token

/-! The tree of a strict JSON text, up to the place where its syntax breaks off. Reading a text for
a purpose can meet a fault of another kind before its syntax breaks off, and then that fault counts.
So a text is always read into a tree, and the tree tells where and why it is not complete. What a
value means is left open: a number keeps its literal, a string the fault that its escapes may hold,
and nesting has no limit here. -/
namespace PolyglotPages.Json.Strict

inductive Break where
  | missing
  | stray
  | word (atEnd : Bool)
  | number (fault : NumberFault)
  /-- A string that does not end well: its first fault, and the first one that keeps its end from
  being found. -/
  | string (fault passing : Fault)
  | colon (atEnd : Bool)
deriving DecidableEq, Repr, Inhabited

inductive Ending where
  | closed
  | unclosed
  /-- Neither a comma nor the closing bracket follows the last item. -/
  | unseparated
  | commaAtEnd
  | trailingComma
  | wrongKey
  | brokenKey (fault passing : Fault)
deriving DecidableEq, Repr, Inhabited

inductive Tree where
  | null
  | bool (value : Bool)
  | number (literal : Number.Literal)
  | string (text : Except Fault String)
  | array (items : List Tree) (ending : Ending)
  | object (members : List (Except Fault String × Tree)) (ending : Ending)
  | broken (cause : Break)
deriving Repr, Inhabited

def Break.fault : Break → Fault
  | .missing => .endInValue
  | .stray => .valueExpected
  | .word atEnd => if atEnd then .endInValue else .wordExpected
  | .number f => if f.atEnd then .endInValue else .invalidNumber
  | .string fault _ => fault
  | .colon atEnd => if atEnd then .endInObject else .colonExpected

def Break.passing : Break → Fault
  | .number _ => .invalidNumber
  | .string _ passing => passing
  | cause => cause.fault

def Tree.found : Tree → Except Fault Found
  | .null => .ok .null
  | .bool value => .ok (.bool value)
  | .number literal =>
    match literal.value? with
    | some n => .ok (.number n)
    | none => .error .numberOutOfRange
  | .string text => text.map .string
  | .array _ _ => .ok .sequence
  | .object _ _ => .ok .map
  | .broken cause => .error cause.fault

namespace Tree

def readText (cs : List Char) : Except (Fault × Fault) (Except Fault String × List Char) :=
  match passString cs, readString cs with
  | .ok rest, text => .ok (text, rest)
  | .error passing, .error fault => .error (fault, passing)
  | .error passing, .ok _ => .error (passing, passing)

def readConstant (letters : List Char) (value : Tree) (cs : List Char) :
    Tree × Option (List Char) :=
  match readWord letters cs with
  | .ok rest => (value, some rest)
  | .error atEnd => (.broken (.word atEnd), none)

mutual

/-- The value that the text begins with, and what follows it unless the value breaks off. The fuel
is spent twice for a character at most. -/
def read : Nat → List Char → Tree × Option (List Char)
  | 0, _ => (.broken .missing, none)
  | fuel + 1, cs =>
    match skipSpace cs with
    | [] => (.broken .missing, none)
    | 'n' :: rest => readConstant ['u', 'l', 'l'] .null rest
    | 't' :: rest => readConstant ['r', 'u', 'e'] (.bool true) rest
    | 'f' :: rest => readConstant ['a', 'l', 's', 'e'] (.bool false) rest
    | '"' :: rest =>
      match readText rest with
      | .ok (text, rest) => (.string text, some rest)
      | .error (fault, passing) => (.broken (.string fault passing), none)
    | '[' :: rest =>
      match skipSpace rest with
      | [] => (.array [] .unclosed, none)
      | ']' :: rest => (.array [] .closed, some rest)
      | rest =>
        let (items, ending, rest) := readItems fuel rest
        (.array items ending, rest)
    | '{' :: rest =>
      match skipSpace rest with
      | [] => (.object [] .unclosed, none)
      | '}' :: rest => (.object [] .closed, some rest)
      | rest =>
        let (members, ending, rest) := readMembers fuel rest
        (.object members ending, rest)
    | c :: rest =>
      if c = '-' ∨ c.isDigit then
        match readNumber (c :: rest) with
        | .ok (literal, rest) => (.number literal, some rest)
        | .error fault => (.broken (.number fault), none)
      else (.broken .stray, none)

def readItems : Nat → List Char → List Tree × Ending × Option (List Char)
  | 0, _ => ([], .unclosed, none)
  | fuel + 1, cs =>
    match read fuel cs with
    | (item, none) => ([item], .unclosed, none)
    | (item, some rest) =>
      match skipSpace rest with
      | [] => ([item], .unclosed, none)
      | ']' :: rest => ([item], .closed, some rest)
      | ',' :: rest =>
        match skipSpace rest with
        | [] => ([item], .commaAtEnd, none)
        | ']' :: _ => ([item], .trailingComma, none)
        | rest =>
          let (items, ending, rest) := readItems fuel rest
          (item :: items, ending, rest)
      | _ => ([item], .unseparated, none)

def readMembers : Nat → List Char → List (Except Fault String × Tree) × Ending × Option (List Char)
  | 0, _ => ([], .unclosed, none)
  | fuel + 1, '"' :: cs =>
    match readText cs with
    | .error (fault, passing) => ([], .brokenKey fault passing, none)
    | .ok (key, rest) =>
      match skipSpace rest with
      | [] => ([(key, .broken (.colon true))], .unclosed, none)
      | ':' :: rest =>
        match read fuel rest with
        | (value, none) => ([(key, value)], .unclosed, none)
        | (value, some rest) =>
          match skipSpace rest with
          | [] => ([(key, value)], .unclosed, none)
          | '}' :: rest => ([(key, value)], .closed, some rest)
          | ',' :: rest =>
            match skipSpace rest with
            | [] => ([(key, value)], .commaAtEnd, none)
            | '}' :: _ => ([(key, value)], .trailingComma, none)
            | rest =>
              let (members, ending, rest) := readMembers fuel rest
              ((key, value) :: members, ending, rest)
          | _ => ([(key, value)], .unseparated, none)
      | _ => ([(key, .broken (.colon false))], .unclosed, none)
  | _ + 1, _ => ([], .wrongKey, none)

end

def ofText (cs : List Char) : Tree × Option (List Char) := read (2 * cs.length + 2) cs

end Tree
end PolyglotPages.Json.Strict
