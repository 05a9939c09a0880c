import Mathlib.Data.List.Basic
import PolyglotPages.Text.Replace

/-! Replacing, occurrence by occurrence. A text is read from the left: either what is sought begins
here, and is passed over as a whole, or one character is. -/
namespace PolyglotPages.Text

variable {what : List Char}

theorem replaceFrom_drop (new : List Char) (skip : Nat) (cs : List Char) :
    replaceFrom what new skip cs = replace what new (cs.drop skip) := by
  induction cs generalizing skip with
  | nil => cases skip <;> simp [replace, replaceFrom]
  | cons c cs ih =>
    cases skip with
    | zero => rfl
    | succ skip => simp [replaceFrom, ih]

theorem replace_found (some : what ≠ []) (new rest : List Char) :
    replace what new (what ++ rest) = new ++ replace what new rest := by
  obtain ⟨w, ws, shape⟩ := List.exists_cons_of_ne_nil some
  have here : what.isPrefixOf (w :: (ws ++ rest)) = true := by
    rw [List.isPrefixOf_iff_prefix, shape]
    exact ⟨rest, by simp⟩
  have behind : (ws ++ rest).drop (what.length - 1) = rest := by simp [shape]
  have whole : what ++ rest = w :: (ws ++ rest) := by simp [shape]
  rw [whole, replace, replaceFrom, if_pos here, replaceFrom_drop, behind]

theorem replace_passed {c : Char} {cs : List Char} (notHere : ¬ what <+: c :: cs)
    (new : List Char) : replace what new (c :: cs) = c :: replace what new cs := by
  rw [← List.isPrefixOf_iff_prefix] at notHere
  rw [replace, replaceFrom, if_neg notHere]
  rfl

/-- Reading a text from the left, with the occurrences of `what` read as a whole. -/
theorem reading_induction (some : what ≠ []) {motive : List Char → Prop} (nil : motive [])
    (found : ∀ rest, motive rest → motive (what ++ rest))
    (passed : ∀ c cs, ¬ what <+: c :: cs → motive cs → motive (c :: cs)) (cs : List Char) :
    motive cs := by
  induction size : cs.length using Nat.strongRecOn generalizing cs with
  | ind n ih =>
    cases cs with
    | nil => exact nil
    | cons c cs =>
      by_cases here : what <+: c :: cs
      · obtain ⟨rest, whole⟩ := here
        have positive := List.length_pos_iff.mpr some
        have shorter : rest.length < n := by
          have := congrArg List.length whole
          simp only [List.length_append] at this
          omega
        rw [← whole]
        exact found rest (ih rest.length shorter rest rfl)
      · have shorter : cs.length < n := by rw [← size]; exact Nat.lt_succ_self _
        exact passed c cs here (ih cs.length shorter cs rfl)

theorem replace_absent (some : what ≠ []) {cs : List Char} (absent : ¬ what <:+: cs)
    (new : List Char) : replace what new cs = cs := by
  induction cs using reading_induction some with
  | nil => rfl
  | found rest ih => exact absurd (List.prefix_append what rest).isInfix absent
  | passed c cs notHere ih =>
    rw [List.infix_cons_iff, not_or] at absent
    rw [replace_passed notHere, ih absent.2]

theorem replace_first (some : what ≠ []) {cs : List Char} (present : what <:+: cs) :
    ∃ before after, cs = before ++ what ++ after ∧
      ∀ new, replace what new cs = before ++ new ++ replace what new after := by
  induction cs using reading_induction some with
  | nil => exact absurd (List.infix_nil.mp present) some
  | found rest ih => exact ⟨[], rest, rfl, fun new => replace_found some new rest⟩
  | passed c cs notHere ih =>
    obtain ⟨before, after, whole, replaced⟩ :=
      ih ((List.infix_cons_iff.mp present).resolve_left notHere)
    refine ⟨c :: before, after, by simp [whole], fun new => ?_⟩
    rw [replace_passed notHere, replaced new]
    rfl

theorem infix_replace (some : what ≠ []) {cs : List Char} (present : what <:+: cs)
    (new : List Char) : new <:+: replace what new cs := by
  obtain ⟨before, after, -, replaced⟩ := replace_first some present
  rw [replaced new]
  exact ⟨before, _, rfl⟩

theorem length_replace_le (some : what ≠ []) {short long : List Char}
    (le : short.length ≤ long.length) (cs : List Char) :
    (replace what short cs).length ≤ (replace what long cs).length := by
  induction cs using reading_induction some with
  | nil => exact Nat.le_refl _
  | found rest ih =>
    simp only [replace_found some, List.length_append]
    omega
  | passed c cs notHere ih =>
    simp only [replace_passed notHere, List.length_cons]
    omega

theorem replace_injective (some : what ≠ []) {cs : List Char} (present : what <:+: cs)
    {a b : List Char} (same : replace what a cs = replace what b cs) : a = b := by
  obtain ⟨before, after, -, replaced⟩ := replace_first some present
  rw [replaced a, replaced b, List.append_assoc, List.append_assoc, List.append_cancel_left_eq]
    at same
  -- were one of the two longer, the rest could not make up for it
  have sizes := congrArg List.length same
  simp only [List.length_append] at sizes
  have length : a.length = b.length := by
    rcases Nat.le_total a.length b.length with le | le
    · have := length_replace_le some le after
      omega
    · have := length_replace_le some le after
      omega
  exact (List.append_inj same length).1

end PolyglotPages.Text
