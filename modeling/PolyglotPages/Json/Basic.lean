import PolyglotPages.Number.Basic
import PolyglotPages.Table

/-! JSON values. An object is the list of its members as met; where only the meaning counts,
`settle` brings it into one form: of members with one key the last stays, and keys ascend by code
point. Settling a settled value changes nothing. -/
namespace PolyglotPages

inductive Json where
  | null
  | bool (value : Bool)
  | number (value : Number)
  | string (text : String)
  | array (items : List Json)
  | object (members : List (String × Json))
deriving Repr, Inhabited

namespace Json

mutual

def settle : Json → Json
  | .array items => .array (settleItems items)
  | .object members => .object (Entries.sort (settleMembers members))
  | v => v

def settleItems : List Json → List Json
  | [] => []
  | v :: rest => v.settle :: settleItems rest

def settleMembers : List (String × Json) → List (String × Json)
  | [] => []
  | (key, v) :: rest => (key, v.settle) :: settleMembers rest

end

theorem settleMembers_eq_map (members : List (String × Json)) :
    settleMembers members = members.map fun e => (e.1, e.2.settle) := by
  induction members with
  | nil => rfl
  | cons e rest ih => simp [settleMembers, ih]

def member? (key : String) : Json → Option Json
  | .object members => members.lookup key
  | _ => none

end Json
end PolyglotPages
