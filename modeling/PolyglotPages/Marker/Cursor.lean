import PolyglotPages.Marker.Scan
import PolyglotPages.Markup

/-! Asking for the markers of a page one after the other. A cursor keeps its place and the state of
the scan between two questions. At the end of the page a marker whose tag never closed is
dropped. -/
namespace PolyglotPages.Marker

structure Cursor where
  rest : List Char
  offset : Nat := 0
  state : Scan := .start
deriving DecidableEq, Repr

namespace Cursor

def atStart (m : Markup) : Cursor := { rest := m.chars }

def advance (state : Scan) (offset : Nat) : List Char → Option Occurrence × Cursor
  | [] => (none, ⟨[], offset, if state.isInside then .start else state⟩)
  | c :: cs =>
    match state.step offset c with
    | (state', some found) => (some found, ⟨cs, offset + c.utf8Size, state'⟩)
    | (state', none) => advance state' (offset + c.utf8Size) cs

def next (c : Cursor) : Option Occurrence × Cursor := advance c.state c.offset c.rest

def take : Nat → Cursor → List (Option Occurrence)
  | 0, _ => []
  | n + 1, c => c.next.1 :: take n c.next.2

def drain : Nat → Cursor → List Occurrence
  | 0, _ => []
  | n + 1, c =>
    match c.next with
    | (some found, c') => found :: drain n c'
    | (none, _) => []

/-- Every marker that is left. A marker ends with a character of its own, so there is at most one
for each character. -/
def toList (c : Cursor) : List Occurrence := c.drain (c.rest.length + 1)

end Cursor
end PolyglotPages.Marker

namespace PolyglotPages

def Markup.markers (m : Markup) : List Marker.Occurrence := (Marker.Cursor.atStart m).toList

end PolyglotPages
