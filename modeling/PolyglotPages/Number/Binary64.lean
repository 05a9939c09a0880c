import PolyglotPages.Number.Power

/-! Binary floating point of 64 bits, in exact arithmetic. The bits of a nonnegative double, read as
a number, are its *magnitude*; magnitudes are ordered as the values they stand for. Every operation
computes an exact ratio and takes the nearest magnitude, a tie going to the even one. The shortest
decimal that reads back as a value is found by trying one digit, two digits, and so on: on a decimal
grid, only the two neighbours of the value can be nearest to it. -/
namespace PolyglotPages

structure Binary64 where
  bits : UInt64
deriving DecidableEq, Repr, Inhabited

namespace Binary64

open Number

def infinity : Nat := 2047 * twoTo 52

def ratio (m : Nat) : Nat × Nat :=
  let exponent := m / twoTo 52
  let fraction := m % twoTo 52
  if exponent = 0 then (fraction, twoTo 1074)
  else if 1075 ≤ exponent then ((fraction + twoTo 52) * twoTo (exponent - 1075), 1)
  else (fraction + twoTo 52, twoTo (1075 - exponent))

def roundDiv (num den : Nat) : Nat :=
  let q := num / den
  let r := num % den
  if 2 * r < den then q else if den < 2 * r then q + 1 else q + q % 2

/-- The magnitude nearest to `num / den`. In units of the spacing around the value the significand
has 53 bits (fewer near zero), and a carry out of them moves on to the next exponent. -/
def nearest (num den : Nat) : Nat :=
  let scaled := num * twoTo 1074
  let spacing := (scaled / den).log2 - 52
  min (spacing * twoTo 52 + roundDiv scaled (den * twoTo spacing)) infinity

def ofNat (n : Nat) : Nat := nearest n 1

def mul (a b : Nat) : Nat :=
  let (p, q) := ratio a
  let (r, s) := ratio b
  nearest (p * r) (q * s)

def div (a b : Nat) : Nat :=
  let (p, q) := ratio a
  let (r, s) := ratio b
  nearest (p * s) (q * r)

def ofMagnitude (negative : Bool) (m : Nat) : Binary64 :=
  ⟨UInt64.ofNat (if negative then twoTo 63 + m else m)⟩

def isNegative (d : Binary64) : Bool := twoTo 63 ≤ d.bits.toNat

def magnitude (d : Binary64) : Nat := d.bits.toNat % twoTo 63

def powerOfTen (k : Int) : Nat × Nat := (tenTo k.toNat, tenTo (-k).toNat)

def readsBack (m digits : Nat) (exponent : Int) : Bool :=
  let (p, q) := powerOfTen exponent
  nearest (digits * p) q == m

def onGrid? (m : Nat) (exponent : Int) : Option Nat :=
  let (num, den) := ratio m
  let (p, q) := powerOfTen exponent
  let below := num * q / (den * p)
  -- on a grid finer than the doubles more than one multiple reads back
  match readsBack m below exponent, readsBack m (below + 1) exponent with
  | true, true => some (roundDiv (num * q) (den * p))
  | true, false => some below
  | false, true => some (below + 1)
  | false, false => none

/-- The number of digits before the point of a magnitude other than zero, negative when zeros
follow the point: `10 ^ (place - 1) ≤ value < 10 ^ place`. -/
def place (m : Nat) : Int :=
  let (num, den) := ratio m
  (Nat.toDigits 10 (num * tenTo 324 / den)).length - 324

/-- Digits and exponent of the shortest decimal that reads back as `m`, from the given count of
digits on. Seventeen digits always suffice. -/
def shortestFrom (m : Nat) : Nat → Nat → Nat × Int
  | 0, _ => (m, 0)
  | fuel + 1, count =>
    let exponent := place m - count
    match onGrid? m exponent with
    | some digits => (digits, exponent)
    | none => shortestFrom m fuel (count + 1)

def shortest (m : Nat) : Nat × Int := shortestFrom m 17 1

/-- Digits with a point in them: positional while the first digit stands at most four places after
the point and at most sixteen before it, else with an exponent that has a sign. `point` counts the
digits before the point. -/
def layout (digits : List Char) (point : Int) : List Char :=
  let count : Int := digits.length
  if 0 < point ∧ point ≤ 16 then
    if count ≤ point then digits ++ List.replicate (point - count).toNat '0' ++ ['.', '0']
    else digits.take point.toNat ++ '.' :: digits.drop point.toNat
  else if -5 < point ∧ point ≤ 0 then
    '0' :: '.' :: List.replicate (-point).toNat '0' ++ digits
  else
    let exponent :=
      if 0 < point then 'e' :: '+' :: Nat.toDigits 10 (point - 1).toNat
      else 'e' :: '-' :: Nat.toDigits 10 (1 - point).toNat
    match digits with
    | [] => exponent
    | [d] => d :: exponent
    | d :: more => d :: '.' :: more ++ exponent

def significantDigits (n : Nat) : List Char :=
  ((Nat.toDigits 10 n).reverse.dropWhile (· == '0')).reverse

def text (d : Binary64) : String :=
  let body :=
    if d.magnitude = 0 then ['0', '.', '0']
    else
      let (digits, exponent) := shortest d.magnitude
      layout (significantDigits digits) (exponent + (Nat.toDigits 10 digits).length)
  String.ofList (if d.isNegative then '-' :: body else body)

end Binary64
end PolyglotPages
