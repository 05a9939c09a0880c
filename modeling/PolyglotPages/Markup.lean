import PolyglotPages.Text.Blank
import PolyglotPages.Text.Bytes

/-! The text of a page. White space carries no meaning in a page, so a page is kept with every run
of it squeezed to one space; all offsets count UTF-8 bytes of that form. -/
namespace PolyglotPages

structure Markup where
  chars : List Char
deriving DecidableEq, Repr, Inhabited

namespace Markup

def normalize (raw : String) : Markup := ⟨Text.squeeze raw.toList⟩

def text (m : Markup) : String := String.ofList m.chars

def size (m : Markup) : Nat := Text.byteLength m.chars

def isEmpty (m : Markup) : Bool := m.chars.isEmpty

def slice? (m : Markup) (start stop : Nat) : Option (List Char) := Text.slice? m.chars start stop

end Markup
end PolyglotPages
