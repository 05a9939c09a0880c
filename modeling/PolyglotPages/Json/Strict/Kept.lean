import PolyglotPages.Json.Strict.Shaped

/-! Reading a strict JSON text for an object that keeps what its own fields do not name. Its own
fields are checked as they are met; the other members are read for their values, whatever these
are. -/
namespace PolyglotPages.Json.Strict

namespace Tree

def keptMembers (depth : Nat) (fields : List (String × Shape)) (seen : List String) :
    List (Except Fault String × Tree) → Except Failure (List (String × Json))
  | [] => .ok []
  | (key, tree) :: rest => do
    let key ← plain key
    match fields.lookup key with
    | none =>
      let v ← plain (tree.value depth)
      return (key, v) :: (← keptMembers depth fields seen rest)
    | some shape =>
      if key ∈ seen then .error (.shape (.duplicateField key))
      else do
        let v ← shapedValue depth shape tree
        return (key, v) :: (← keptMembers depth fields (key :: seen) rest)

end Tree

def readKept (type : String) (fields : List (String × Shape)) (text : String) :
    Except Failure (List (String × Json) × Option (List Char)) := do
  match Tree.ofText text.toList with
  | (.object members ending, rest) =>
    let members ← Tree.keptMembers (maxDepth - 1) fields [] members
    plain (refuse ending.memberFault?)
    return (members, rest)
  | (tree, _) => mismatch tree.found (.record type)

end PolyglotPages.Json.Strict
