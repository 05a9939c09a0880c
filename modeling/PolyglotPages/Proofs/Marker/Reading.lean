import PolyglotPages.Marker.Cursor
import PolyglotPages.Proofs.Marker.Piece

/-! The scan finds the markers of the pieces. What a state knows of the open tag is the name it
would give if the tag went on with a given text; reading a character of that text keeps this
name. -/
namespace PolyglotPages.Marker
open Text (byteLength)

theorem matched_cases {matched : Nat} (proper : matched < opener.length) :
    matched = 0 ∨ matched = 1 ∨ matched = 2 := by
  simp only [opener, List.length_cons, List.length_nil] at proper
  omega

theorem nameIn?_skip {c : Char} {cs : List Char} (notHere : opener.isPrefixOf (c :: cs) = false) :
    nameIn? (c :: cs) = nameIn? cs := by
  simp [nameIn?, afterOpener?, notHere]

theorem nameIn?_of_broken_match {matched : Nat} (proper : matched < opener.length) {c : Char}
    (broken : opener[matched]? ≠ some c) (ahead : List Char) :
    nameIn? (opener.take matched ++ c :: ahead) = nameIn? (c :: ahead) := by
  rcases matched_cases proper with none | one | two
  · subst none; rfl
  · subst one
    have ne : '_' ≠ c := fun e => broken (by rw [← e]; rfl)
    exact nameIn?_skip (by simp [opener, List.isPrefixOf, ne])
  · subst two
    have ne : '_' ≠ c := fun e => broken (by rw [← e]; rfl)
    have skipFirst : nameIn? ('m' :: '_' :: c :: ahead) = nameIn? ('_' :: c :: ahead) :=
      nameIn?_skip (by simp [opener, List.isPrefixOf, ne])
    have skipSecond : nameIn? ('_' :: c :: ahead) = nameIn? (c :: ahead) :=
      nameIn?_skip (by simp [opener, List.isPrefixOf])
    exact skipFirst.trans skipSecond

namespace Scan

/-- The name of the open tag if `ahead` is what is left of it. -/
def nameAhead? (ahead : List Char) : Scan → Option String
  | .seeking matched => nameIn? (opener.take matched ++ ahead)
  | .naming name => some (name ++ String.ofList (ahead.takeWhile fun c => !endsName c))
  | .closing name => some name

/-- Part of the opener may have been read, the whole of it not. -/
def Proper : Scan → Prop
  | .seeking matched => matched < opener.length
  | _ => True

theorem start_proper : start.Proper := by
  show 0 < opener.length
  decide

theorem seek_proper (matched : Nat) (c : Char) : (seek matched c).Proper := by
  unfold seek
  split
  · split
    · trivial
    · rename_i here notWhole
      have inside := (List.getElem?_eq_some_iff.mp here).1
      simp only [Proper]
      omega
  · simp only [Proper, opener]
    split <;> decide

theorem step_proper (s : Scan) (offset : Nat) (c : Char) : (s.step offset c).1.Proper := by
  cases s with
  | seeking matched => exact seek_proper matched c
  | naming name =>
    simp only [step]
    split
    · exact start_proper
    · split <;> trivial
  | closing name =>
    simp only [step]
    split
    · exact start_proper
    · trivial

theorem seek_nameAhead {matched : Nat} (proper : matched < opener.length) (c : Char)
    (ahead : List Char) :
    (seek matched c).nameAhead? ahead = nameIn? (opener.take matched ++ c :: ahead) := by
  unfold seek
  split
  · rename_i goesOn
    have read : opener.take matched ++ c :: ahead = opener.take (matched + 1) ++ ahead := by
      rw [List.take_add_one, goesOn]; simp
    rw [read]
    split
    · rename_i whole
      rw [whole]
      simp [nameAhead?, nameIn?, afterOpener?, opener]
    · rfl
  · rename_i broken
    rw [nameIn?_of_broken_match proper broken]
    by_cases first : c = 'm'
    · subst first; rfl
    · have notHere : opener.isPrefixOf (c :: ahead) = false := by
        simp [opener, List.isPrefixOf, Ne.symm first]
      rw [nameIn?_skip notHere]
      simp [nameAhead?, first]

theorem step_nameAhead {s : Scan} (proper : s.Proper) (offset : Nat) {c : Char} (inside : c ≠ '>')
    (ahead : List Char) : (s.step offset c).1.nameAhead? ahead = s.nameAhead? (c :: ahead) := by
  cases s with
  | seeking matched => exact seek_nameAhead proper c ahead
  | naming name =>
    by_cases ends : endsName c = true
    · simp [step, inside, ends, nameAhead?]
    · simp [step, inside, ends, nameAhead?, ← String.toList_inj]
  | closing name => simp [step, inside, nameAhead?]

theorem step_found_inside (s : Scan) (offset : Nat) {c : Char} (inside : c ≠ '>') :
    (s.step offset c).2 = none := by
  cases s with
  | seeking matched => rfl
  | naming name =>
    simp only [step, inside, if_false]
    split <;> rfl
  | closing name => simp [step, inside]

theorem step_found_iff {s : Scan} {offset : Nat} {c : Char} {o : Occurrence} :
    (s.step offset c).2 = some o ↔ c = '>' ∧ o.position = offset + 1 ∧
      (s = .naming o.name ∨ s = .closing o.name) := by
  by_cases close : c = '>'
  · subst close
    obtain ⟨position, name'⟩ := o
    cases s with
    | seeking matched => simp [step]
    | naming name => simp [step, eq_comm]
    | closing name => simp [step, eq_comm]
  · simp [step_found_inside s offset close, close]

theorem step_found_close {s : Scan} (proper : s.Proper) (offset : Nat) :
    (s.step offset '>').2 = (s.nameAhead? ['>']).map fun name => ⟨offset + 1, name⟩ := by
  cases s with
  | seeking matched =>
    have nothing : nameIn? (opener.take matched ++ ['>']) = none := by
      rw [nameIn?_eq_none_iff]
      rcases matched_cases proper with h | h | h <;> subst h <;> decide
    simp [step, nameAhead?, nothing]
  | naming name => simp [step, nameAhead?]
  | closing name => simp [step, nameAhead?]

theorem run_open (s : Scan) (offset : Nat) {text : List Char} (opened : '>' ∉ text) :
    (s.run offset text).1 = [] := by
  induction text generalizing s offset with
  | nil => rfl
  | cons c cs ih =>
    have inside : c ≠ '>' := (List.ne_of_not_mem_cons opened).symm
    have more : '>' ∉ cs := List.not_mem_of_not_mem_cons opened
    simp [run, step_found_inside s offset inside, ih _ _ more]

theorem run_body {s : Scan} (proper : s.Proper) (offset : Nat) {body : List Char}
    (opened : '>' ∉ body) :
    s.run offset (body ++ ['>']) =
      (((s.nameAhead? (body ++ ['>'])).map
        fun name => ⟨offset + byteLength (body ++ ['>']), name⟩).toList, start) := by
  induction body generalizing s offset with
  | nil =>
    have width : '>'.utf8Size = 1 := by decide
    simp [run, step_close, step_found_close proper, byteLength, width]
  | cons c body ih =>
    have inside : c ≠ '>' := (List.ne_of_not_mem_cons opened).symm
    have more : '>' ∉ body := List.not_mem_of_not_mem_cons opened
    have tail := ih (step_proper s offset c) (offset + c.utf8Size) more
    rw [step_nameAhead proper offset inside] at tail
    simp [run, step_found_inside s offset inside, tail, byteLength, Nat.add_assoc]

theorem run_piece (offset : Nat) {piece : List Char} (closed : IsPiece piece) :
    start.run offset piece =
      (((nameIn? piece).map fun name => ⟨offset + byteLength piece, name⟩).toList, start) := by
  obtain ⟨body, opened, same⟩ := closed
  subst same
  exact run_body start_proper offset opened

theorem run_pieces (offset : Nat) {ps : List (List Char)} (closed : ∀ p ∈ ps, IsPiece p) :
    start.run offset ps.flatten = (located offset ps, start) := by
  induction ps generalizing offset with
  | nil => rfl
  | cons p ps ih =>
    obtain ⟨here, more⟩ := List.forall_mem_cons.mp closed
    rw [List.flatten_cons, run_append, run_piece offset here]
    simp [ih _ more, located]

theorem run_text (offset : Nat) (text : List Char) :
    (start.run offset text).1 = located offset (pieces text) := by
  have cut := cut_text text
  have shape :
      start.run offset text = start.run offset ((pieces text).flatten ++ trailing text) := by
    rw [cut.whole]
  rw [shape, run_append, run_pieces offset cut.closed]
  simp [run_open start _ cut.opened]

end Scan

namespace Cursor

/-- A question reads on to the end of the first marker, or else to the end of the text, where a
marker left open is given up. -/
theorem advance_cases (s : Scan) (offset : Nat) (text : List Char) :
    (∃ last, s.run offset text = ([], last) ∧ advance s offset text =
      (none, ⟨[], offset + byteLength text, if last.isInside then .start else last⟩)) ∨
    ∃ read rest found last, read ≠ [] ∧ text = read ++ rest ∧
      s.run offset read = ([found], last) ∧
      advance s offset text = (some found, ⟨rest, offset + byteLength read, last⟩) := by
  induction text generalizing s offset with
  | nil => exact .inl ⟨s, rfl, rfl⟩
  | cons c cs ih =>
    rcases stepped : s.step offset c with ⟨s', found⟩
    cases found with
    | some found =>
      refine .inr ⟨[c], cs, found, s', by simp, rfl, by simp [Scan.run, stepped], ?_⟩
      simp [advance, stepped, byteLength]
    | none =>
      rcases ih s' (offset + c.utf8Size) with
        ⟨last, ran, asked⟩ | ⟨read, rest, found, last, -, whole, ran, asked⟩
      · refine .inl ⟨last, by simp [Scan.run, stepped, ran], ?_⟩
        simp [advance, stepped, asked, byteLength, Nat.add_assoc]
      · refine .inr ⟨c :: read, rest, found, last, by simp, by simp [whole],
          by simp [Scan.run, stepped, ran], ?_⟩
        simp [advance, stepped, asked, byteLength, Nat.add_assoc]

def ahead (c : Cursor) : List Occurrence := (c.state.run c.offset c.rest).1

theorem next_cases (c : Cursor) :
    (∃ c', c.next = (none, c') ∧ c.ahead = [] ∧ c'.rest = [] ∧ c'.state.isInside = false) ∨
    ∃ found c', c.next = (some found, c') ∧ c.ahead = found :: c'.ahead ∧
      c'.rest.length < c.rest.length := by
  rcases advance_cases c.state c.offset c.rest with
    ⟨last, ran, asked⟩ | ⟨read, rest, found, last, some, whole, ran, asked⟩
  · refine .inl ⟨_, asked, by rw [ahead, ran], rfl, ?_⟩
    split
    · rfl
    · next outside => simpa using outside
  · refine .inr ⟨found, _, asked, ?_, ?_⟩
    · rw [ahead, whole, Scan.run_append, ran]
      rfl
    · show rest.length < c.rest.length
      have positive := List.length_pos_iff.mpr some
      rw [whole, List.length_append]
      omega

theorem drain_eq (n : Nat) (c : Cursor) (enough : c.rest.length < n) : c.drain n = c.ahead := by
  induction n generalizing c with
  | zero => omega
  | succ n ih =>
    rcases c.next_cases with ⟨c', asked, nothing, -, -⟩ | ⟨found, c', asked, more, shorter⟩
    · simp only [drain, asked, nothing]
    · have tail := ih c' (by omega)
      simp only [drain, asked, more, tail]

end Cursor
end PolyglotPages.Marker

namespace PolyglotPages
open Marker

theorem Markup.markers_run (page : Markup) : page.markers = (Scan.start.run 0 page.chars).1 :=
  Cursor.drain_eq _ (Cursor.atStart page) (Nat.lt_succ_self _)

theorem Markup.markers_located (page : Markup) : page.markers = located 0 (pieces page.chars) := by
  rw [page.markers_run, Scan.run_text]

/-- The markers of a page are the first markers of its pieces, each placed at the end of its piece;
what stands behind the last `>` has none. A name goes on to the first quote, angle bracket or white
space. -/
theorem markers_of_pieces (page : Markup) :
    Cut page.chars (pieces page.chars) (trailing page.chars) ∧
      (∀ c, Scan.endsName c = true ↔
        c = '"' ∨ c = '\'' ∨ c = '<' ∨ c = '>' ∨ Text.isBlank c = true) ∧
      (∀ piece, nameIn? piece = none ↔ ¬ opener <:+: piece) ∧
      (∀ piece name,
        nameIn? piece = some name ↔ ∃ before rest, FirstMarker piece before name rest) ∧
      page.markers = located 0 (pieces page.chars) :=
  ⟨cut_text page.chars, fun _ => Scan.endsName_iff, fun _ => nameIn?_eq_none_iff,
    fun _ _ => nameIn?_eq_some_iff, page.markers_located⟩

-- a match that is begun anew, a second opener within the name, and an opener left open
example : (Markup.normalize "<i m_m__x_m__y z>m__").markers = [⟨17, "x_m__y"⟩] := by decide

end PolyglotPages
