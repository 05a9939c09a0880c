import PolyglotPages.Command.Directive.Source

/-! Which events are shown. A filter is a list of directives, written between commas. The most
specific directive that concerns an event decides about it, and an event that none concerns is not
shown. What is malformed is left out of the list. With a torn directive there is no filter at
all. -/
namespace PolyglotPages.Command

structure Filter where
  directives : List Directive
deriving DecidableEq, Repr, Inhabited

namespace Filter

def standard (verbose : Bool) : Filter :=
  ⟨[{ rank := if verbose then Directive.detailed else Level.info.rank }]⟩

def parts : List Char → List (List Char)
  | [] => [[]]
  | c :: cs =>
    if c = ',' then [] :: parts cs
    else
      match parts cs with
      | [] => [[c]]
      | part :: more => (c :: part) :: more

def directives? : List (List Char) → Option (List Directive)
  | [] => some []
  | part :: more =>
    match Directive.ofText part with
    | .ok d => (directives? more).map (d :: ·)
    | .error .malformed => directives? more
    | .error .torn => none

/-- The filter that a text describes. Parts that are no directives are left out; where none is
left the standard filter holds. -/
def ofText? (verbose : Bool) (text : String) : Option Filter :=
  (directives? (parts text.toList)).map fun directives =>
    if directives = [] then standard verbose else ⟨directives⟩

def decisive? (f : Filter) (e : Event) : Option Directive :=
  (f.directives.filter (·.concerns e)).foldl
    (fun best d =>
      match best with
      | none => some d
      | some b => if d.outweighs b then some d else best)
    none

def admits (f : Filter) (e : Event) : Bool := (f.decisive? e).any fun d => e.level.rank ≤ d.rank

end Filter
end PolyglotPages.Command
