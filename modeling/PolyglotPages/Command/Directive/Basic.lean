import PolyglotPages.Command.Event
import PolyglotPages.Number.Literal

/-! Directives about which events are shown. A directive is a level, which holds for every target,
or it has a target, a scope in brackets or both, and perhaps a level: `warn`, `part::of=info`,
`part[{name}]=error`. Of the directives that concern an event the most specific one decides: the one
with the longest target, of these one that asks for a name. -/
namespace PolyglotPages.Command

structure Directive where
  target : String := ""
  carries : Option String := none
  /-- Whether only spans of work are meant, by their name or by a value they carry. The program
  has none. -/
  isForSpans : Bool := false
  /-- The last level shown, counted from one for the gravest. -/
  rank : Nat
deriving DecidableEq, Repr, Inhabited

def Level.rank : Level → Nat
  | .error => 1
  | .warn => 2
  | .info => 3

namespace Directive

/-- The rank that shows `debug` too, a level of which no event is kept here. -/
def detailed : Nat := 4

def everything : Nat := 5

def rankOfNumber? (cs : List Char) : Option Nat :=
  let digits := match cs with
    | '+' :: rest => rest
    | _ => cs
  let rank := Number.ofDigits digits
  if digits ≠ [] ∧ digits.all Char.isDigit ∧ rank ≤ everything then some rank else none

def rank? (cs : List Char) : Option Nat :=
  match String.ofList (cs.map Char.toLower) with
  | "off" => some 0
  | "error" => some 1
  | "warn" => some 2
  | "info" => some 3
  | "debug" => some detailed
  | "trace" => some everything
  | _ => rankOfNumber? cs

def rankOrAll? (cs : List Char) : Option Nat := if cs = [] then some everything else rank? cs

def concerns (d : Directive) (e : Event) : Bool :=
  !d.isForSpans && d.target.toList.isPrefixOf e.target.toList && d.carries.all e.names.contains

/-- Whether `d` comes before `other` where both concern an event: its target is longer, or else it
asks for a name and the other does not or asks for an earlier one. Of two alike, the later given
one comes first. -/
def outweighs (d other : Directive) : Bool :=
  if d.target.length = other.target.length then
    match d.carries, other.carries with
    | _, none => true
    | none, some _ => false
    | some name, some earlier => decide (earlier ≤ name)
  else decide (other.target.length < d.target.length)

end Directive
end PolyglotPages.Command
