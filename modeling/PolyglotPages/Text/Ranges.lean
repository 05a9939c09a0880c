/-! Classes of characters given as a table of code point ranges. A table lists inclusive ranges in
ascending order. -/
namespace PolyglotPages.Text

abbrev Ranges := List (Nat × Nat)

namespace Ranges

def contains (r : Ranges) (c : Char) : Bool := r.any fun (low, high) => low ≤ c.toNat && c.toNat ≤ high

end Ranges
end PolyglotPages.Text
