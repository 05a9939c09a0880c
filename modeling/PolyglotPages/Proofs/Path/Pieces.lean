import PolyglotPages.Path
import PolyglotPages.Proofs.Text.Replacing

/-! The pieces of a path. A slash parts them, whatever stands around it; so texts without a slash
can be put into a path piece by piece. -/
namespace PolyglotPages.Path
open Text (replace replace_found replace_passed reading_induction)

theorem pieces_cons (cs : List Char) : ∃ piece more, pieces cs = piece :: more ∧ piece <+: cs := by
  induction cs with
  | nil => exact ⟨[], [], rfl, List.prefix_rfl⟩
  | cons c cs ih =>
    obtain ⟨piece, more, first, front⟩ := ih
    by_cases slash : c = '/'
    · exact ⟨[], pieces cs, by simp [pieces, slash], List.nil_prefix⟩
    · exact ⟨c :: piece, more, by simp [pieces, slash, first],
        List.cons_prefix_cons.mpr ⟨rfl, front⟩⟩

theorem pieces_of_solid {c : Char} (solid : c ≠ '/') {cs piece : List Char}
    {more : List (List Char)} (first : pieces cs = piece :: more) :
    pieces (c :: cs) = (c :: piece) :: more := by
  simp [pieces, solid, first]

theorem pieces_append_solid {word : List Char} (solid : '/' ∉ word) {cs piece : List Char}
    {more : List (List Char)} (first : pieces cs = piece :: more) :
    pieces (word ++ cs) = (word ++ piece) :: more := by
  induction word with
  | nil => exact first
  | cons c word ih =>
    obtain ⟨other, rest⟩ := List.ne_and_not_mem_of_not_mem_cons solid
    exact pieces_of_solid other.symm (ih rest)

theorem pieces_append_slash (a b : List Char) : pieces (a ++ '/' :: b) = pieces a ++ pieces b := by
  induction a with
  | nil => simp [pieces]
  | cons c a ih =>
    by_cases slash : c = '/'
    · simp [pieces, slash, ih]
    · obtain ⟨piece, more, first, -⟩ := pieces_cons a
      rw [first] at ih
      rw [List.cons_append, pieces_of_solid slash ih, pieces_of_solid slash first]
      rfl

theorem pieces_replace {what new : List Char} (some : what ≠ []) (solid : '/' ∉ what)
    (solidNew : '/' ∉ new) (cs : List Char) :
    pieces (replace what new cs) = (pieces cs).map (replace what new) := by
  induction cs using reading_induction some with
  | nil => rfl
  | found rest ih =>
    obtain ⟨piece, more, first, -⟩ := pieces_cons rest
    rw [first, List.map_cons] at ih
    rw [replace_found some, pieces_append_solid solidNew ih, pieces_append_solid solid first,
      List.map_cons, replace_found some]
  | passed c cs notHere ih =>
    rw [replace_passed notHere]
    obtain ⟨piece, more, first, front⟩ := pieces_cons cs
    by_cases slash : c = '/'
    · subst slash
      have empty : replace what new [] = [] := rfl
      simp [pieces, ih, empty]
    · have stillNot : ¬ what <+: c :: piece := fun here =>
        notHere (here.trans (List.cons_prefix_cons.mpr ⟨rfl, front⟩))
      rw [first, List.map_cons] at ih
      rw [pieces_of_solid slash ih, pieces_of_solid slash first, List.map_cons,
        replace_passed stillNot]

theorem exists_piece_infix {what : List Char} (some : what ≠ []) (solid : '/' ∉ what)
    {cs : List Char} (present : what <:+: cs) : ∃ piece ∈ pieces cs, what <:+: piece := by
  induction cs using reading_induction some with
  | nil => exact absurd (List.infix_nil.mp present) some
  | found rest ih =>
    obtain ⟨piece, more, first, -⟩ := pieces_cons rest
    rw [pieces_append_solid solid first]
    exact ⟨_, List.mem_cons_self, (List.prefix_append what piece).isInfix⟩
  | passed c cs notHere ih =>
    obtain ⟨piece, member, inside⟩ := ih ((List.infix_cons_iff.mp present).resolve_left notHere)
    by_cases slash : c = '/'
    · exact ⟨piece, by simp [pieces, slash, member], inside⟩
    · obtain ⟨head, more, first, -⟩ := pieces_cons cs
      rw [pieces_of_solid slash first]
      rw [first] at member
      rcases List.mem_cons.mp member with here | later
      · exact ⟨c :: head, List.mem_cons_self, List.infix_cons (here ▸ inside)⟩
      · exact ⟨piece, List.mem_cons_of_mem _ later, inside⟩

end PolyglotPages.Path
