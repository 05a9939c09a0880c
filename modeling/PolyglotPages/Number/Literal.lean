import PolyglotPages.Number.Basic

/-! Number literals and the numbers they denote. A literal without fraction and exponent that fits
in 64 bits denotes a whole number. Any other one denotes a double: its leading digits, as many as
fit in 64 bits, are converted to a double and scaled once by a power of ten; the digits after them
count only by their place. A literal whose magnitude would be infinite denotes nothing. -/
namespace PolyglotPages.Number

structure Literal where
  negative : Bool
  whole : List Char
  fraction : Option (List Char)
  /-- Whether the exponent is negative, and its digits. -/
  exponent : Option (Bool × List Char)
deriving DecidableEq, Repr, Inhabited

def digitValue (c : Char) : Nat := c.toNat - '0'.toNat

def ofDigits (digits : List Char) : Nat := digits.foldl (fun n c => n * 10 + digitValue c) 0

/-- Appends digits to `n` while the result fits in 64 bits; the digits that are left. -/
def absorb (n : Nat) : List Char → Nat × List Char
  | [] => (n, [])
  | c :: cs =>
    let longer := n * 10 + digitValue c
    if longer < twoTo 64 then absorb longer cs else (n, c :: cs)

-- the next power of ten is infinite
def maxPower : Nat := 308

/-- The magnitude `m` divided by `10 ^ (maxPower · steps + last)`, one power after the other. -/
def scaleDown (m : Nat) : Nat → Nat → Nat
  | 0, last => Binary64.div m (Binary64.ofNat (tenTo last))
  | steps + 1, last =>
    if m = 0 then 0 else scaleDown (Binary64.div m (Binary64.ofNat (tenTo maxPower))) steps last

def scale? (significand : Nat) (exponent : Int) : Option Nat :=
  let m := Binary64.ofNat significand
  if exponent < 0 then
    let k := (-exponent).toNat - 1
    some (scaleDown m (k / maxPower) (k % maxPower + 1))
  else if exponent ≤ maxPower then
    let product := Binary64.mul m (Binary64.ofNat (tenTo exponent.toNat))
    if product < Binary64.infinity then some product else none
  else if m = 0 then some 0 else none

namespace Literal

/-- The whole number of a literal that has neither fraction nor exponent, if it fits. Zero with a
minus sign is no whole number. -/
def integer? (l : Literal) : Option Int :=
  match l.fraction, l.exponent, absorb 0 l.whole with
  | none, none, (n, []) =>
    if l.negative then
      if n = 0 ∨ twoTo 63 < n then none else some (-n)
    else some n
  | _, _, _ => none

def magnitude? (l : Literal) : Option Nat :=
  let (n, beyond) := absorb 0 l.whole
  let fraction := l.fraction.getD []
  let (significand, dropped) := absorb n fraction
  -- digits that do not fit count only by their place
  let shift : Int := beyond.length - (fraction.length - dropped.length : Nat)
  let power : Int := match l.exponent with
    | none => 0
    | some (true, digits) => -(ofDigits digits : Int)
    | some (false, digits) => ofDigits digits
  scale? significand (shift + power)

def value? (l : Literal) : Option Number :=
  match l.integer? with
  | some n => some (.integer n)
  | none => l.magnitude?.map fun m => .double (.ofMagnitude l.negative m)

end Literal
end PolyglotPages.Number
