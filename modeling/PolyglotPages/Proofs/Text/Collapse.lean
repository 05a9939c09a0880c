import PolyglotPages.Text.Blank

/-! What squeezing does to a text, told without remembering the character before, and where a text
may be cut without changing what becomes of it. -/
namespace PolyglotPages.Text

/-- A blank becomes one space, together with all the blanks right behind it. -/
def collapse : List Char → List Char
  | [] => []
  | c :: cs =>
    if isBlank c then ' ' :: collapse (cs.dropWhile isBlank)
    else c :: collapse cs
termination_by cs => cs.length
decreasing_by
  · exact Nat.lt_succ_of_le (List.dropWhile_sublist isBlank).length_le
  · exact Nat.lt_succ_self cs.length

theorem squeezeFrom_after_blank (cs : List Char) :
    squeezeFrom true cs = squeezeFrom false (cs.dropWhile isBlank) := by
  induction cs with
  | nil => rfl
  | cons c cs ih =>
    by_cases blank : isBlank c = true
    · simp [squeezeFrom, blank, ih]
    · simp [squeezeFrom, blank]

theorem squeeze_eq_collapse (cs : List Char) : squeeze cs = collapse cs := by
  fun_induction collapse cs with
  | case1 => rfl
  | case2 c cs blank ih =>
    rw [← ih]
    simp [squeeze, squeezeFrom, blank, squeezeFrom_after_blank]
  | case3 c cs solid ih =>
    rw [← ih]
    simp [squeeze, squeezeFrom, solid]

theorem squeezeFrom_append_solid (afterBlank : Bool) (a b : List Char) {c : Char}
    (solid : isBlank c = false) :
    squeezeFrom afterBlank (a ++ c :: b) = squeezeFrom afterBlank a ++ c :: squeeze b := by
  induction a generalizing afterBlank with
  | nil => simp [squeezeFrom, squeeze, solid]
  | cons d a ih =>
    simp only [List.cons_append, squeezeFrom]
    split
    · split
      · exact ih true
      · rw [ih true]; rfl
    · rw [ih false]; rfl

theorem squeeze_append_solid (a b : List Char) {c : Char} (solid : isBlank c = false) :
    squeeze (a ++ [c] ++ b) = squeeze (a ++ [c]) ++ squeeze b := by
  have joined := squeezeFrom_append_solid false a b solid
  have alone := squeezeFrom_append_solid false a [] solid
  simp only [squeeze, List.append_assoc, List.singleton_append] at *
  rw [joined, alone]
  simp [squeezeFrom]

end PolyglotPages.Text
