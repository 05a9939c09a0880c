import PolyglotPages.Number.Binary64

/-! Numbers of a JSON text: whole numbers that fit in 64 bits, signed or not, and doubles for all
the others. -/
namespace PolyglotPages

inductive Number where
  | integer (value : Int)
  | double (value : Binary64)
deriving DecidableEq, Repr, Inhabited

end PolyglotPages
