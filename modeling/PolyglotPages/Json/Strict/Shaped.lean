import PolyglotPages.Json.Shape
import PolyglotPages.Json.Strict.Value

/-! Reading a strict JSON text for a value of a given shape. Shape and syntax are watched together:
of all that is wrong the first thing in the order of the text counts. What the shape does not ask
for is only passed over. -/
namespace PolyglotPages.Json.Strict

inductive Failure where
  | fault (fault : Fault)
  | shape (error : ShapeError)
deriving DecidableEq, Repr, Inhabited

def Failure.message : Failure → String
  | .fault f => f.message
  | .shape e => e.message

def plain {α : Type} : Except Fault α → Except Failure α
  | .ok a => .ok a
  | .error f => .error (.fault f)

def shaped {α : Type} : Except ShapeError α → Except Failure α
  | .ok a => .ok a
  | .error e => .error (.shape e)

def mismatch {α : Type} (found : Except Fault Found) (wanted : Wanted) : Except Failure α :=
  match found with
  | .ok found => .error (.shape (.mismatch found wanted))
  | .error fault => .error (.fault fault)

namespace Ending

def fullFault? : Ending → Option Fault
  | .unseparated | .commaAtEnd => some .trailingCharacters
  | ending => ending.itemFault?

def singleFault? : Ending → Option Fault
  | .closed => none
  | .unclosed => some .endInObject
  | _ => some .valueExpected

end Ending

namespace Tree

def readAsText (wanted : Wanted) : Tree → Except Failure Json
  | .string text => plain (text.map .string)
  | tree => mismatch tree.found wanted

def missingMember : Ending → Fault
  | .unclosed => .endInObject
  | .wrongKey => .keyExpected
  | .brokenKey fault _ => fault
  | _ => .valueExpected

def readConstant? (word : String) (depth : Nat) : Tree → Except Failure Json
  | .string text => do
    let s ← plain text
    shaped (checkWord word s)
    return .string s
  | .object members ending =>
    if depth = 0 then .error (.fault .tooDeep)
    else
      match members with
      | [] => .error (.fault (missingMember ending))
      | (key, payload) :: more => do
        shaped (checkWord word (← plain key))
        match payload with
        | .null => .ok ()
        | payload => mismatch payload.found .unit
        plain (refuse (if more.isEmpty then ending.singleFault? else some .valueExpected))
        return .string word
  | .broken .missing => .error (.fault .endInValue)
  | .broken (.string fault _) => .error (.fault fault)
  | .broken (.colon atEnd) => .error (.fault (Break.colon atEnd).fault)
  | _ => .error (.fault .valueExpected)

mutual

/-- The value of a tree that is to have the shape, without the members that the shape does not ask
for; `depth` more arrays and objects may be open. -/
def shapedValue (depth : Nat) : Shape → Tree → Except Failure Json
  | .any, tree => plain (tree.value depth)
  | .text, tree => tree.readAsText .text
  | .path, tree => tree.readAsText .path
  | .optionalPath, .null => .ok .null
  | .optionalPath, tree => tree.readAsText .path
  | .constant word, tree => tree.readConstant? word depth
  | .textOrTexts type, tree => do
    let v ← plain (tree.value depth)
    shaped (checkTexts type v)
    return v
  | .list item, .array items ending =>
    if depth = 0 then .error (.fault .tooDeep)
    else do
      let items ← shapedItems (depth - 1) item items
      plain (refuse ending.itemFault?)
      return .array items
  | .list _, tree => mismatch tree.found .sequence
  | .map value, .object members ending =>
    if depth = 0 then .error (.fault .tooDeep)
    else do
      let members ← shapedValues (depth - 1) value members
      plain (refuse ending.memberFault?)
      return .object members
  | .map _, tree => mismatch tree.found .map
  | .record _ fields, .object members ending =>
    if depth = 0 then .error (.fault .tooDeep)
    else do
      let members ← shapedMembers (depth - 1) fields [] members
      plain (refuse ending.memberFault?)
      return .object members
  | .record _ fields, .array items ending =>
    if depth = 0 then .error (.fault .tooDeep)
    else do
      let read ← shapedFields (depth - 1) fields items
      plain (refuse (if items.length < fields.length then ending.itemFault?
        else if items.length = fields.length then ending.fullFault?
        else some .trailingCharacters))
      return .array read
  | .record type _, tree => mismatch tree.found (.record type)

def shapedItems (depth : Nat) (item : Shape) : List Tree → Except Failure (List Json)
  | [] => .ok []
  | tree :: rest => do
    let v ← shapedValue depth item tree
    return v :: (← shapedItems depth item rest)

def shapedValues (depth : Nat) (value : Shape) :
    List (Except Fault String × Tree) → Except Failure (List (String × Json))
  | [] => .ok []
  | (key, tree) :: rest => do
    let key ← plain key
    let v ← shapedValue depth value tree
    return (key, v) :: (← shapedValues depth value rest)

def shapedMembers (depth : Nat) (fields : List (String × Shape)) (seen : List String) :
    List (Except Fault String × Tree) → Except Failure (List (String × Json))
  | [] => .ok []
  | (key, tree) :: rest => do
    let key ← plain key
    match fields.lookup key with
    | none =>
      plain tree.pass
      shapedMembers depth fields seen rest
    | some shape =>
      if key ∈ seen then .error (.shape (.duplicateField key))
      else do
        let v ← shapedValue depth shape tree
        return (key, v) :: (← shapedMembers depth fields (key :: seen) rest)

def shapedFields (depth : Nat) :
    List (String × Shape) → List Tree → Except Failure (List Json)
  | (_, shape) :: fields, tree :: rest => do
    let v ← shapedValue depth shape tree
    return v :: (← shapedFields depth fields rest)
  | _, _ => .ok []

end

end Tree

def parseShaped (shape : Shape) (text : String) : Except Failure Json := do
  let (tree, rest) := Tree.ofText text.toList
  let v ← tree.shapedValue maxDepth shape
  plain (finish rest)
  return v

end PolyglotPages.Json.Strict
