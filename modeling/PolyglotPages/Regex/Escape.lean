import PolyglotPages.Regex.Mode
import PolyglotPages.Text.Halves

/-! What stands behind a backslash in a regular expression. -/
namespace PolyglotPages.Regex

inductive Escape where
  | char (value : Char)
  /-- A character given by its code in two digits, which in ASCII is a byte. -/
  | code (value : Char)
  | shorthand (isNegated : Bool)
  | edge
  | wordEdge
deriving DecidableEq, Repr, Inhabited

namespace Escape

def readCode (m : Mode) : Nat → Nat → List Char → Option (Char × List Char)
  | 0, n, cs => if n.isValidChar then some (Char.ofNat n, cs) else none
  | count + 1, n, c :: cs => do readCode m count (n * 16 + (← Text.hexDigit? c)) (m.skip cs)
  | _ + 1, _, [] => none

/-- Reads an escape from behind its backslash. A code in braces or a class given by a property is
refused: the one would not end before the text, the other would need a table. -/
def read (m : Mode) : List Char → Option (Escape × List Char)
  | [] => none
  | 'x' :: cs => (readCode m 2 0 (m.skip cs)).map fun (c, rest) => (.code c, rest)
  | 'u' :: cs => (readCode m 4 0 (m.skip cs)).map fun (c, rest) => (.char c, rest)
  | 'U' :: cs => (readCode m 8 0 (m.skip cs)).map fun (c, rest) => (.char c, rest)
  | 'd' :: cs | 's' :: cs | 'w' :: cs => some (.shorthand false, cs)
  | 'D' :: cs | 'S' :: cs | 'W' :: cs => some (.shorthand true, cs)
  | 'a' :: cs => some (.char '\x07', cs)
  | 'f' :: cs => some (.char '\x0c', cs)
  | 't' :: cs => some (.char '\t', cs)
  | 'n' :: cs => some (.char '\n', cs)
  | 'r' :: cs => some (.char '\r', cs)
  | 'v' :: cs => some (.char '\x0b', cs)
  | 'A' :: cs | 'z' :: cs => some (.edge, cs)
  | 'b' :: cs | 'B' :: cs | '<' :: cs | '>' :: cs => some (.wordEdge, cs)
  | c :: cs =>
    if c.toNat < 0x80 ∧ ¬c.isAlphanum then some (.char c, cs) else none

def isUsable (m : Mode) : Escape → Bool
  | .char _ => m.canCompare
  | .code c => m.canCompare && (m.isUnicode || decide (c.toNat < 0x80))
  | .shorthand isNegated => !m.isUnicode && !isNegated
  | .edge => true
  | .wordEdge => !m.isUnicode

end Escape
end PolyglotPages.Regex
