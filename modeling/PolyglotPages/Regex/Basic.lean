import PolyglotPages.Regex.Set
import PolyglotPages.Text.Alphanumeric

/-! Which texts are regular expressions. An expression is a choice between branches, each a sequence
of characters, sets, escapes, places and groups, which can be repeated. Flags hold from where they
are set to the end of the group around them. Counts in braces are no part of it. -/
namespace PolyglotPages.Regex

def maxDepth : Nat := 250

structure Item where
  depth : Nat := 0
  canRepeat : Bool := true
deriving DecidableEq, Repr, Inhabited

structure Body where
  mode : Mode := {}
  /-- The names given to groups anywhere before. -/
  names : List (List Char) := []
  branches : List Nat := []
  /-- The parts of the current branch, the last one first. -/
  items : List Item := []
deriving DecidableEq, Repr, Inhabited

namespace Body

def add (b : Body) (depth : Nat) : Body := { b with items := { depth } :: b.items }

def setMode (b : Body) (mode : Mode) : Body :=
  { b with mode, items := { canRepeat := false } :: b.items }

def branchDepth (b : Body) : Nat := nest (b.items.map (·.depth))

def nextBranch (b : Body) : Body := { b with branches := b.branchDepth :: b.branches, items := [] }

def depth (b : Body) : Nat := nest (b.branchDepth :: b.branches)

def repeat? (b : Body) : Option Body :=
  match b.items with
  | item :: items =>
    if item.canRepeat then some { b with items := { depth := item.depth + 1 } :: items } else none
  | [] => none

end Body

inductive Opening where
  | group (mode : Mode) (name : Option (List Char))
  | flags (mode : Mode)
deriving DecidableEq, Repr, Inhabited

def canBeginName (c : Char) : Bool := c = '_' || Text.isAlphanumeric c && !c.isDigit

def canContinueName (c : Char) : Bool := c ∈ ['_', '.', '[', ']'] || Text.isAlphanumeric c

def readName? (cs : List Char) : Option (List Char × List Char) :=
  match cs.takeWhile (· != '>'), cs.dropWhile (· != '>') with
  | c :: name, _ :: rest =>
    if canBeginName c ∧ name.all canContinueName then some (c :: name, rest) else none
  | _, _ => none

namespace Opening

def readFlags? (m : Mode) (cs : List Char) : Option (Opening × List Char) := do
  match ← m.readFlags [] true cs with
  | (mode, ':' :: rest) => return (.group mode none, rest)
  | (mode, _ :: rest) => if cs.head? = some ')' then none else return (.flags mode, rest)
  | (_, []) => none

def read? (m : Mode) (cs : List Char) : Option (Opening × List Char) :=
  match m.skip cs with
  | '?' :: 'P' :: '<' :: rest | '?' :: '<' :: rest =>
    (readName? rest).map fun (name, rest) => (.group m (some name), rest)
  | '?' :: rest => readFlags? m rest
  | rest => some (.group m none, rest)

end Opening

/-- Reads a part that is neither a set nor a group. A dot in ASCII would match half a character. -/
def readSingle? (m : Mode) : List Char → Option (List Char)
  | [] => none
  | '\\' :: cs => do
    let (escape, rest) ← Escape.read m cs
    if escape.isUsable m then return rest else none
  | '.' :: cs => if m.isUnicode then some cs else none
  | '^' :: cs | '$' :: cs => some cs
  | _ :: cs => if m.canCompare then some cs else none

def addName? (names : List (List Char)) : Option (List Char) → Option (List (List Char))
  | none => some names
  | some name => if name ∈ names then none else some (name :: names)

def readBody : Nat → Body → List Char → Option (Body × List Char)
  | 0, _, _ => none
  | fuel + 1, b, cs =>
    match b.mode.skip cs with
    | [] => some (b, [])
    | ')' :: rest => some (b, ')' :: rest)
    | '|' :: rest => readBody fuel b.nextBranch rest
    | '(' :: rest => do
      match ← Opening.read? b.mode rest with
      | (.flags mode, rest) => readBody fuel (b.setMode mode) rest
      | (.group mode name, rest) =>
        match ← readBody fuel { mode, names := ← addName? b.names name } rest with
        | (inner, ')' :: rest) =>
          readBody fuel { b.add (inner.depth + 1) with names := inner.names } rest
        | _ => none
    | '[' :: rest => do
      let (depth, rest) ← Set.read b.mode rest
      readBody fuel (b.add depth) rest
    -- the text ends before the brace that would close a count
    | '\x7b' :: _ => none
    | c :: rest => do
      if c ∈ ['?', '*', '+'] then
        let rest := match rest with
          | '?' :: rest => rest
          | rest => rest
        readBody fuel (← b.repeat?) rest
      else readBody fuel (b.add 0) (← readSingle? b.mode (c :: rest))

def isValid (cs : List Char) : Bool :=
  match readBody (cs.length + 1) {} cs with
  | some (b, []) => decide (b.depth ≤ maxDepth)
  | _ => false

end PolyglotPages.Regex
