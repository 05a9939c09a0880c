import PolyglotPages.Regex.Escape

/-! Sets of characters in brackets. A set has single characters, ranges, classes and other sets;
`&&`, `--` and `~~` join sets. What has been read is told by two things only: how deep it is nested,
since an expression may only be nested so deep, and whether it has what lies beyond ASCII, since
nothing may match half a character. -/
namespace PolyglotPages.Regex

/-- The depth of parts beside each other, from their depths. A single part is no nest. -/
def nest : List Nat → Nat
  | [] => 0
  | [depth] => depth
  | depths => depths.foldl max 0 + 1

namespace Set

structure Extent where
  depth : Nat := 0
  /-- Whether all that is beyond ASCII is in it, or nothing of it. Only used in ASCII. -/
  isWide : Bool := false
deriving DecidableEq, Repr, Inhabited

inductive Operator where
  | both
  | without
  | eitherOne
deriving DecidableEq, Repr, Inhabited

def Operator.join (op : Operator) (a b : Extent) : Extent where
  depth := max a.depth b.depth + 1
  isWide := match op with
    | .both => a.isWide && b.isWide
    | .without => a.isWide && !b.isWide
    | .eitherOne => a.isWide != b.isWide

structure Content where
  /-- Whether nothing but minus signs has been read. They stand for themselves there, and so does a
  closing bracket in front of all. -/
  isOpening : Bool := true
  joined : Option (Extent × Operator) := none
  parts : List Extent := []
deriving DecidableEq, Repr, Inhabited

namespace Content

def add (c : Content) (part : Extent) : Content :=
  { c with isOpening := false, parts := part :: c.parts }

def addDash (c : Content) : Content := { c with parts := {} :: c.parts }

def extent (c : Content) : Extent :=
  let last : Extent := { depth := nest (c.parts.map (·.depth)), isWide := c.parts.any (·.isWide) }
  match c.joined with
  | none => last
  | some (first, op) => op.join first last

def operate (c : Content) (op : Operator) : Content :=
  { isOpening := false, joined := some (c.extent, op) }

def close? (m : Mode) (isNegated : Bool) (c : Content) : Option Extent :=
  let isWide := c.extent.isWide != isNegated
  if isWide && !m.isUnicode then none else some { depth := c.extent.depth + 1 }

end Content

def classNames : List String :=
  ["alnum", "alpha", "ascii", "blank", "cntrl", "digit", "graph", "lower", "print", "punct",
    "space", "upper", "word", "xdigit"]

def readClass? : List Char → Option (Bool × List Char)
  | ':' :: cs =>
    let (isNegated, cs) := match cs with
      | '^' :: cs => (true, cs)
      | cs => (false, cs)
    match cs.dropWhile (· != ':') with
    | ':' :: ']' :: rest =>
      if String.ofList (cs.takeWhile (· != ':')) ∈ classNames then some (isNegated, rest) else none
    | _ => none
  | _ => none

def readMember (m : Mode) : List Char → Option (Option Char × List Char)
  | [] => none
  | '\\' :: cs => do
    match ← Escape.read m cs with
    | (.char c, rest) | (.code c, rest) => return (some c, rest)
    | (.shorthand isNegated, rest) =>
      if Escape.isUsable m (.shorthand isNegated) then return (none, rest) else none
    | _ => none
  | c :: cs => some (some c, cs)

def canHold (m : Mode) (c : Char) : Bool := m.isUnicode || decide (c.toNat < 0x80)

/-- The character that seems to come next. Of a comment only the sign in front is passed over. -/
def peek? (m : Mode) (cs : List Char) : Option Char :=
  if m.isSpaced then
    match cs.dropWhile Text.isBlank with
    | '#' :: rest => (rest.dropWhile Text.isBlank).head?
    | rest => rest.head?
  else cs.head?

def readRange (m : Mode) (cs : List Char) : Option (List Char) := do
  let (first, rest) ← readMember m cs
  if !first.all (canHold m) then none
  else
    match m.skip rest with
    | '-' :: after =>
      -- a minus sign in front of the last bracket or of another one stands for itself
      if peek? m after = some ']' ∨ peek? m after = some '-' then some ('-' :: after)
      else
        match first, ← readMember m (m.skip after) with
        | some low, (some high, rest) =>
          if canHold m high ∧ low.toNat ≤ high.toNat then some rest else none
        | _, _ => none
    | rest => some rest

def readOperator? : List Char → Option (Operator × List Char)
  | '&' :: '&' :: rest => some (.both, rest)
  | '-' :: '-' :: rest => some (.without, rest)
  | '~' :: '~' :: rest => some (.eitherOne, rest)
  | _ => none

def readOpening? (c : Content) : List Char → Option (Content × List Char)
  | '-' :: rest => if c.isOpening then some (c.addDash, rest) else none
  | ']' :: rest => if c.isOpening ∧ c.parts = [] then some (c.add {}, rest) else none
  | _ => none

def readNegation (m : Mode) (cs : List Char) : Bool × List Char :=
  match m.skip cs with
  | '^' :: rest => (true, rest)
  | rest => (false, rest)

def readContent (m : Mode) : Nat → Content → List Char → Option (Content × List Char)
  | 0, _, _ => none
  | fuel + 1, c, cs =>
    let cs := m.skip cs
    match readOpening? c cs, readOperator? cs, cs with
    | some (c, rest), _, _ => if m.canCompare then readContent m fuel c rest else none
    | none, some (op, rest), _ => readContent m fuel (c.operate op) rest
    | none, none, ']' :: rest => some (c, rest)
    | none, none, '[' :: rest =>
      match readClass? rest with
      | some (isNegated, rest) =>
        if m.canCompare then readContent m fuel (c.add { isWide := isNegated }) rest else none
      | none => do
        let (isNegated, rest) := readNegation m rest
        let (inner, rest) ← readContent m fuel {} rest
        readContent m fuel (c.add (← inner.close? m isNegated)) rest
    | none, none, cs =>
      if m.canCompare then do readContent m fuel (c.add {}) (← readRange m cs) else none

def read (m : Mode) (cs : List Char) : Option (Nat × List Char) := do
  let (isNegated, rest) := readNegation m cs
  let (content, rest) ← readContent m (rest.length + 1) {} rest
  return ((← content.close? m isNegated).depth, rest)

end Set
end PolyglotPages.Regex
