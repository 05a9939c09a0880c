import PolyglotPages.Json.Strict.Tree

/-! The value of a strict JSON text. Of several faults the first one in the order of the text
counts. -/
namespace PolyglotPages.Json.Strict

def maxDepth : Nat := 127

namespace Ending

def itemFault? : Ending → Option Fault
  | .closed => none
  | .unclosed => some .endInList
  | .unseparated => some .itemSeparatorExpected
  | .commaAtEnd => some .endInValue
  | .trailingComma => some .trailingComma
  | .wrongKey | .brokenKey _ _ => some .keyExpected

def memberFault? : Ending → Option Fault
  | .closed => none
  | .unclosed => some .endInObject
  | .unseparated => some .memberSeparatorExpected
  | .commaAtEnd => some .endInValue
  | .trailingComma => some .trailingComma
  | .wrongKey => some .keyExpected
  | .brokenKey fault _ => some fault

def itemPassing? : Ending → Option Fault
  | .trailingComma => some .valueExpected
  | ending => ending.itemFault?

def memberPassing? : Ending → Option Fault
  | .trailingComma => some .keyExpected
  | .commaAtEnd => some .endInObject
  | .brokenKey _ passing => some passing
  | ending => ending.memberFault?

end Ending

def refuse (fault? : Option Fault) : Except Fault Unit :=
  match fault? with
  | none => .ok ()
  | some fault => .error fault

namespace Tree

mutual

def value (depth : Nat) : Tree → Except Fault Json
  | .null => .ok .null
  | .bool b => .ok (.bool b)
  | .number literal =>
    match literal.value? with
    | some n => .ok (.number n)
    | none => .error .numberOutOfRange
  | .string text => text.map .string
  | .array items ending =>
    if depth = 0 then .error .tooDeep
    else do
      let items ← valueItems (depth - 1) items
      refuse ending.itemFault?
      return .array items
  | .object members ending =>
    if depth = 0 then .error .tooDeep
    else do
      let members ← valueMembers (depth - 1) members
      refuse ending.memberFault?
      return .object members
  | .broken cause => .error cause.fault

def valueItems (depth : Nat) : List Tree → Except Fault (List Json)
  | [] => .ok []
  | item :: rest => do
    let v ← item.value depth
    return v :: (← valueItems depth rest)

def valueMembers (depth : Nat) :
    List (Except Fault String × Tree) → Except Fault (List (String × Json))
  | [] => .ok []
  | (key, item) :: rest => do
    let key ← key
    let v ← item.value depth
    return (key, v) :: (← valueMembers depth rest)

end

mutual

/-- Passes over a tree whose value is not wanted: its numbers may be too large, its escapes may
stand for half a character, and it may be nested to any depth. -/
def pass : Tree → Except Fault Unit
  | .array items ending => do
    passItems items
    refuse ending.itemPassing?
  | .object members ending => do
    passMembers members
    refuse ending.memberPassing?
  | .broken cause => .error cause.passing
  | _ => .ok ()

def passItems : List Tree → Except Fault Unit
  | [] => .ok ()
  | item :: rest => do
    item.pass
    passItems rest

def passMembers : List (Except Fault String × Tree) → Except Fault Unit
  | [] => .ok ()
  | (_, item) :: rest => do
    item.pass
    passMembers rest

end

end Tree

def finish (rest : Option (List Char)) : Except Fault Unit :=
  if rest.all fun cs => (skipSpace cs).isEmpty then .ok () else .error .trailingCharacters

def parse (text : String) : Except Fault Json := do
  let (tree, rest) := Tree.ofText text.toList
  let v ← tree.value maxDepth
  finish rest
  return v

end PolyglotPages.Json.Strict
