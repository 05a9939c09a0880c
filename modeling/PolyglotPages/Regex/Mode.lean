import PolyglotPages.Text.Blank

/-! The modes in which parts of a regular expression are read, and the flags that change them.
Expressions come without tables of characters. What would need one can only be asked for in ASCII:
classes such as that of digits, the places where words begin and end, and letters of either case. -/
namespace PolyglotPages.Regex

structure Mode where
  isUnicode : Bool := true
  isCaseless : Bool := false
  isSpaced : Bool := false
deriving DecidableEq, Repr, Inhabited

namespace Mode

def skipSpace (inComment : Bool) : List Char → List Char
  | [] => []
  | c :: cs =>
    if inComment then skipSpace (c != '\n') cs
    else if Text.isBlank c then skipSpace false cs
    else if c = '#' then skipSpace true cs
    else c :: cs

def skip (m : Mode) (cs : List Char) : List Char := if m.isSpaced then skipSpace false cs else cs

/-- Whether a character can be compared without regard to its case where that is asked for. -/
def canCompare (m : Mode) : Bool := !(m.isCaseless && m.isUnicode)

def set? (m : Mode) (value : Bool) : Char → Option Mode
  | 'u' => some { m with isUnicode := value }
  | 'i' => some { m with isCaseless := value }
  | 'x' => some { m with isSpaced := value }
  | 'm' | 's' | 'U' | 'R' => some m
  | _ => none

/-- Reads flags up to the colon or the parenthesis behind them. Those behind a minus sign are taken
away. Nothing may be given twice, and a minus sign may not stand last. -/
def readFlags (m : Mode) (seen : List Char) (value : Bool) : List Char → Option (Mode × List Char)
  | [] => none
  | c :: cs =>
    if c = ':' ∨ c = ')' then
      if seen.head? = some '-' then none else some (m, c :: cs)
    else if c ∈ seen then none
    else if c = '-' then m.readFlags (c :: seen) false cs
    else do (← m.set? value c).readFlags (c :: seen) value cs

end Mode
end PolyglotPages.Regex
