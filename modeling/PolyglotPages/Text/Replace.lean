/-! Finding and replacing a text within another. Occurrences are taken from the left and do not
overlap; what is put in their place is not searched again. -/
namespace PolyglotPages.Text

/-- Replaces every occurrence of `what`, the first `skip` characters being part of one that has
been replaced already. -/
def replaceFrom (what new : List Char) : Nat → List Char → List Char
  | _, [] => []
  | skip + 1, _ :: cs => replaceFrom what new skip cs
  | 0, c :: cs =>
    if what.isPrefixOf (c :: cs) then new ++ replaceFrom what new (what.length - 1) cs
    else c :: replaceFrom what new 0 cs

def replace (what new cs : List Char) : List Char := replaceFrom what new 0 cs

def occursIn (what : List Char) : List Char → Bool
  | [] => what.isEmpty
  | c :: cs => what.isPrefixOf (c :: cs) || occursIn what cs

theorem occursIn_iff_infix {what cs : List Char} : occursIn what cs = true ↔ what <:+: cs := by
  induction cs with
  | nil => simp [occursIn]
  | cons c cs ih =>
    simp only [occursIn, Bool.or_eq_true, List.isPrefixOf_iff_prefix, ih, List.infix_cons_iff]

end PolyglotPages.Text
