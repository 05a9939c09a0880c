import PolyglotPages.Proofs.Marker.Reading

/-! A cursor and the markers it answers with. Ahead of a cursor are the markers that a reading from
its place and in its state finds; a question takes the first of them off and leaves the others
ahead. So the questions put to a page are answered as one reading of the whole page would, and none
of them is answered once its markers are used up. -/
namespace PolyglotPages.Marker

namespace Cursor

theorem next_eq (c : Cursor) : c.next.1 = c.ahead.head? ∧ c.next.2.ahead = c.ahead.tail := by
  rcases c.next_cases with ⟨c', asked, nothing, read, -⟩ | ⟨found, c', asked, more, -⟩
  · have exhausted : c'.ahead = [] := by simp [ahead, read, Scan.run]
    rw [asked, nothing]
    exact ⟨rfl, exhausted⟩
  · rw [asked, more]
    exact ⟨rfl, rfl⟩

theorem next_unanswered {c : Cursor} (unanswered : c.next.1 = none) :
    c.next.2.rest = [] ∧ c.next.2.state.isInside = false := by
  rcases c.next_cases with ⟨c', asked, -, read, outside⟩ | ⟨found, c', asked, -⟩
  · rw [asked]
    exact ⟨read, outside⟩
  · simp [asked] at unanswered

theorem take_eq (n : Nat) (c : Cursor) :
    c.take n = (c.ahead.take n).map some ++ List.replicate (n - c.ahead.length) none := by
  induction n generalizing c with
  | zero => simp [take]
  | succ n ih =>
    obtain ⟨answer, later⟩ := c.next_eq
    rw [take, ih, answer, later]
    cases c.ahead with
    | nil => simp [List.replicate_succ]
    | cons found rest => simp

theorem take_unanswered {c : Cursor} (unanswered : c.next.1 = none) (n : Nat) :
    c.next.2.take n = List.replicate n none := by
  have nothing : c.ahead = [] := List.head?_eq_none_iff.mp (c.next_eq.1.symm.trans unanswered)
  have exhausted : c.next.2.ahead = [] := by rw [c.next_eq.2, nothing, List.tail_nil]
  rw [take_eq, exhausted]
  simp

end Cursor

/-- Any number of questions put to a page are answered by as many of the markers that one reading of
the whole page finds, in their order, and by nothing when these are used up. A question without an
answer leaves nothing for the ones behind it, wherever the cursor stood and also if the page ends
within a marker. So the markers of a page are those of the reading. -/
theorem answers_of_one_reading (page : Markup) :
    (∀ n, (Cursor.atStart page).take n =
      ((Scan.start.run 0 page.chars).1.take n).map some ++
        List.replicate (n - (Scan.start.run 0 page.chars).1.length) none) ∧
    (∀ c : Cursor, c.next.1 = none →
      c.next.2.rest = [] ∧ c.next.2.state.isInside = false ∧
        ∀ n, c.next.2.take n = List.replicate n none) ∧
    page.markers = (Scan.start.run 0 page.chars).1 := by
  refine ⟨fun n => Cursor.take_eq n (Cursor.atStart page), ?_, page.markers_run⟩
  intro c unanswered
  obtain ⟨read, outside⟩ := Cursor.next_unanswered unanswered
  exact ⟨read, outside, Cursor.take_unanswered unanswered⟩

-- the page ends within the name of a second marker
theorem answers_of_one_reading_left_open :
    ∃ page : Markup, page = .normalize "<p m__a>é m__b" ∧
      (Scan.start.run 0 page.chars).2 = .naming "b" ∧
      (Cursor.atStart page).take 3 = [some ⟨8, "a"⟩, none, none] ∧
      (Cursor.atStart page).next.2.next.1 = none ∧
      (∀ n, (Cursor.atStart page).next.2.next.2.take n = List.replicate n none) ∧
      page.markers = [⟨8, "a"⟩] := by
  refine ⟨_, rfl, by decide, ?_⟩
  obtain ⟨answers, unanswered, markers⟩ := answers_of_one_reading (.normalize "<p m__a>é m__b")
  have found : (Scan.start.run 0 (Markup.normalize "<p m__a>é m__b").chars).1 = [⟨8, "a"⟩] := by
    decide
  have second : (Cursor.atStart (.normalize "<p m__a>é m__b")).next.2.next.1 = none := by decide
  refine ⟨?_, second, (unanswered _ second).2.2, markers.trans found⟩
  rw [answers, found]
  rfl

end PolyglotPages.Marker
