/-! Powers of two and of ten. -/
namespace PolyglotPages.Number

def twoTo (k : Nat) : Nat := Nat.pow 2 k

def tenTo (k : Nat) : Nat := Nat.pow 10 k

end PolyglotPages.Number
