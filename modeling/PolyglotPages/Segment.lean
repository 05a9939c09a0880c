import PolyglotPages.Marker.Cursor

/-! A page cut at its markers. The segments lie end to end: each begins where the one before it
ends, and all but the last are named after the marker whose text follows them. -/
namespace PolyglotPages

/-- The bytes of a page from `start` up to `stop`, to be followed by the text of `name`. -/
structure Segment where
  start : Nat
  stop : Nat
  /-- Empty where no text follows. -/
  name : String
deriving DecidableEq, Repr, Inhabited

namespace Segment

def isNamed (s : Segment) : Bool := s.name != ""

def cutFrom (start stop : Nat) : List Marker.Occurrence → List Segment
  | [] => [⟨start, stop, ""⟩]
  | o :: rest => ⟨start, o.position, o.name⟩ :: cutFrom o.position stop rest

def cut (markers : List Marker.Occurrence) (size : Nat) : List Segment := cutFrom 0 size markers

end Segment

def Markup.segments (page : Markup) : List Segment := Segment.cut page.markers page.size

end PolyglotPages
