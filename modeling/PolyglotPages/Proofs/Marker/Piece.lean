import PolyglotPages.Marker.Scan

/-! The markers of a text, told without a machine. A text is cut behind every `>`. A piece has a
marker when the opener occurs in it; the name is what follows the first opener up to a character
that ends names, and the place of the marker is the end of the piece. -/
namespace PolyglotPages.Marker
open Text (byteLength byteLength_append)

def IsPiece (piece : List Char) : Prop := ∃ body, '>' ∉ body ∧ piece = body ++ ['>']

def pieces : List Char → List (List Char)
  | [] => []
  | c :: cs =>
    if c = '>' then ['>'] :: pieces cs
    else
      match pieces cs with
      | [] => []
      | piece :: more => (c :: piece) :: more

def trailing : List Char → List Char
  | [] => []
  | c :: cs => if '>' ∈ c :: cs then trailing cs else c :: cs

/-- A text cut behind every `>`. -/
structure Cut (text : List Char) (ps : List (List Char)) (rest : List Char) : Prop where
  whole : ps.flatten ++ rest = text
  closed : ∀ p ∈ ps, IsPiece p
  opened : '>' ∉ rest

theorem pieces_of_no_close {text : List Char} (opened : '>' ∉ text) : pieces text = [] := by
  induction text with
  | nil => rfl
  | cons c cs ih =>
    have ne : c ≠ '>' := (List.ne_of_not_mem_cons opened).symm
    have rest : '>' ∉ cs := List.not_mem_of_not_mem_cons opened
    simp [pieces, ne, ih rest]

theorem trailing_of_no_close {text : List Char} (opened : '>' ∉ text) : trailing text = text := by
  cases text with
  | nil => rfl
  | cons c cs => simp [trailing, opened]

theorem pieces_body (body rest : List Char) (opened : '>' ∉ body) :
    pieces (body ++ '>' :: rest) = (body ++ ['>']) :: pieces rest := by
  induction body with
  | nil => simp [pieces]
  | cons c body ih =>
    have ne : c ≠ '>' := (List.ne_of_not_mem_cons opened).symm
    have more : '>' ∉ body := List.not_mem_of_not_mem_cons opened
    simp [pieces, ne, ih more]

theorem trailing_body (body rest : List Char) : trailing (body ++ '>' :: rest) = trailing rest := by
  induction body with
  | nil => simp [trailing]
  | cons c body ih => simp [trailing, ih]

theorem cut_of_no_close {text : List Char} (opened : '>' ∉ text) : Cut text [] text :=
  ⟨rfl, by simp, opened⟩

theorem Cut.cons {body text rest : List Char} {ps : List (List Char)} (opened : '>' ∉ body)
    (cut : Cut text ps rest) : Cut (body ++ '>' :: text) ((body ++ ['>']) :: ps) rest where
  whole := by simp [← cut.whole]
  closed := by
    intro p member
    rcases List.mem_cons.mp member with same | member
    · exact ⟨body, opened, same⟩
    · exact cut.closed p member
  opened := cut.opened

theorem Cut.unique {text rest : List Char} {ps : List (List Char)} (cut : Cut text ps rest) :
    pieces text = ps ∧ trailing text = rest := by
  obtain ⟨whole, closed, opened⟩ := cut
  subst whole
  induction ps with
  | nil => exact ⟨pieces_of_no_close opened, trailing_of_no_close opened⟩
  | cons p ps ih =>
    obtain ⟨⟨body, inside, same⟩, more⟩ := List.forall_mem_cons.mp closed
    subst same
    have tail := ih more
    have shape : ((body ++ ['>']) :: ps).flatten ++ rest = body ++ '>' :: (ps.flatten ++ rest) := by
      simp
    rw [shape]
    exact ⟨by rw [pieces_body _ _ inside, tail.1], by rw [trailing_body, tail.2]⟩

theorem cut_exists (before text : List Char) (opened : '>' ∉ before) :
    ∃ ps rest, Cut (before ++ text) ps rest := by
  induction text generalizing before with
  | nil => exact ⟨[], before, by simpa using cut_of_no_close opened⟩
  | cons c cs ih =>
    by_cases close : c = '>'
    · subst close
      obtain ⟨ps, rest, cut⟩ := ih [] (by simp)
      exact ⟨_, rest, Cut.cons opened cut⟩
    · have longer : '>' ∉ before ++ [c] := by
        simp only [List.mem_append, List.mem_singleton, not_or]
        exact ⟨opened, fun e => close e.symm⟩
      obtain ⟨ps, rest, cut⟩ := ih (before ++ [c]) longer
      exact ⟨ps, rest, by simpa using cut⟩

theorem cut_text (text : List Char) : Cut text (pieces text) (trailing text) := by
  obtain ⟨ps, rest, cut⟩ := cut_exists [] text (by simp)
  obtain ⟨samePieces, sameRest⟩ := Cut.unique cut
  rw [← samePieces, ← sameRest] at cut
  exact cut

theorem cut_append {a b rest : List Char} {ps qs : List (List Char)} (left : Cut a ps [])
    (right : Cut b qs rest) : Cut (a ++ b) (ps ++ qs) rest where
  whole := by simp [← left.whole, ← right.whole]
  closed := by
    intro p member
    rcases List.mem_append.mp member with member | member
    · exact left.closed p member
    · exact right.closed p member
  opened := right.opened

def afterOpener? : List Char → Option (List Char)
  | [] => none
  | c :: cs =>
    if opener.isPrefixOf (c :: cs) then some ((c :: cs).drop opener.length) else afterOpener? cs

/-- The name of the marker in a piece: what stands between the first opener and the first character
listed in `Scan.endsName_iff`. -/
def nameIn? (piece : List Char) : Option String :=
  (afterOpener? piece).map fun rest => String.ofList (rest.takeWhile fun c => !Scan.endsName c)

/-- A piece taken apart at its first opener and at the end of the name behind it, which is a quote,
an angle bracket or white space (`Scan.endsName_iff`). -/
structure FirstMarker (piece before : List Char) (name : String) (rest : List Char) : Prop where
  whole : piece = before ++ opener ++ name.toList ++ rest
  first : ¬ opener <:+: before ++ opener.dropLast
  inside : ∀ c ∈ name.toList, Scan.endsName c = false
  ended : ∀ c ∈ rest.head?, Scan.endsName c = true

theorem afterOpener?_eq_none_iff {text : List Char} :
    afterOpener? text = none ↔ ¬ opener <:+: text := by
  induction text with
  | nil => simp [afterOpener?, opener]
  | cons c cs ih =>
    rw [afterOpener?, List.infix_cons_iff, ← List.isPrefixOf_iff_prefix]
    split
    · rename_i here; simp [here]
    · rename_i here; simp [here, ih]

theorem afterOpener?_eq_some_iff {text rest : List Char} :
    afterOpener? text = some rest ↔
      ∃ before, text = before ++ opener ++ rest ∧ ¬ opener <:+: before ++ opener.dropLast := by
  induction text with
  | nil => simp [afterOpener?, opener]
  | cons c cs ih =>
    rw [afterOpener?]
    split
    · rename_i here
      obtain ⟨tail, same⟩ := List.isPrefixOf_iff_prefix.mp here
      rw [← same]
      constructor
      · intro found
        have : tail = rest := by simpa [opener] using found
        exact ⟨[], by simp [this], by decide⟩
      · intro split
        obtain ⟨before, whole, first⟩ := split
        cases before with
        | nil => simpa [opener] using whole
        | cons d before =>
          -- the opener at the very beginning would end before the one that `before` leads to
          refine absurd ?_ first
          have short : opener <+: d :: before ++ opener.dropLast ++ '_' :: rest :=
            ⟨tail, by rw [whole]; simp [opener]⟩
          have fits : opener.length ≤ (d :: before ++ opener.dropLast).length := by simp [opener]
          exact (List.prefix_of_prefix_length_le short (List.prefix_append _ _) fits).isInfix
    · rename_i here
      have notHere : ¬ opener <+: c :: cs := by
        rw [← List.isPrefixOf_iff_prefix]
        exact here
      rw [ih]
      constructor
      · intro split
        obtain ⟨before, whole, first⟩ := split
        refine ⟨c :: before, by simp [whole], ?_⟩
        rw [List.cons_append, List.infix_cons_iff, not_or]
        refine ⟨?_, first⟩
        intro atFront
        have longer : c :: (before ++ opener.dropLast) <+: c :: cs :=
          ⟨'_' :: rest, by simp [whole, opener]⟩
        exact notHere (atFront.trans longer)
      · intro split
        obtain ⟨before, whole, first⟩ := split
        cases before with
        | nil => exact absurd ⟨rest, by simpa using whole.symm⟩ notHere
        | cons d before =>
          rw [List.cons_append, List.infix_cons_iff, not_or] at first
          exact ⟨before, (List.cons.inj whole).2, first.2⟩

theorem nameIn?_eq_none_iff {piece : List Char} : nameIn? piece = none ↔ ¬ opener <:+: piece := by
  rw [nameIn?, Option.map_eq_none_iff, afterOpener?_eq_none_iff]

theorem nameIn?_eq_some_iff {piece : List Char} {name : String} :
    nameIn? piece = some name ↔ ∃ before rest, FirstMarker piece before name rest := by
  simp only [nameIn?, Option.map_eq_some_iff, afterOpener?_eq_some_iff]
  constructor
  · intro found
    obtain ⟨tail, ⟨before, whole, first⟩, taken⟩ := found
    subst taken
    refine ⟨before, tail.dropWhile fun c => !Scan.endsName c, ?_, first, ?_, ?_⟩
    · simp [whole, List.takeWhile_append_dropWhile]
    · intro c member
      rw [String.toList_ofList] at member
      simpa using List.all_eq_true.mp List.all_takeWhile c member
    · intro c head
      have := List.head?_dropWhile_not (fun c => !Scan.endsName c) tail
      rw [Option.mem_def.mp head] at this
      simpa using this
  · intro marker
    obtain ⟨before, rest, whole, first, inside, ended⟩ := marker
    refine ⟨name.toList ++ rest, ⟨before, by simpa using whole, first⟩, ?_⟩
    have stops : rest.takeWhile (fun c => !Scan.endsName c) = [] := by
      cases rest with
      | nil => rfl
      | cons c rest => simp [ended c (by simp)]
    rw [List.takeWhile_append_of_pos (by simpa using inside), stops]
    simp

/-- The last character of a piece ends every name, so a marker leaves room for it. -/
theorem FirstMarker.size_le {piece before rest : List Char} {name : String}
    (marker : FirstMarker piece before name rest) (closed : IsPiece piece) :
    byteLength name.toList + 4 ≤ byteLength piece := by
  obtain ⟨body, -, same⟩ := closed
  have size := congrArg byteLength marker.whole
  cases rest with
  | nil =>
    have last : (opener ++ name.toList).getLast? = some '>' := by
      have := congrArg List.getLast? (marker.whole.symm.trans same)
      simpa [opener] using this
    rcases List.mem_append.mp (List.mem_of_getLast? last) with member | member
    · simp [opener] at member
    · simpa using marker.inside '>' member
  | cons c rest =>
    have positive := c.utf8Size_pos
    have openerSize : byteLength opener = 3 := by decide
    simp only [byteLength_append, byteLength, openerSize] at size
    omega

/-- The markers of pieces that stand one behind the other from byte `offset` on. -/
def located (offset : Nat) : List (List Char) → List Occurrence
  | [] => []
  | piece :: more =>
    let stop := offset + byteLength piece
    ((nameIn? piece).map fun name => ⟨stop, name⟩).toList ++ located stop more

def Occurrence.shift (bytes : Nat) (o : Occurrence) : Occurrence :=
  { o with position := o.position + bytes }

theorem located_append (offset : Nat) (ps qs : List (List Char)) :
    located offset (ps ++ qs) =
      located offset ps ++ located (offset + byteLength ps.flatten) qs := by
  induction ps generalizing offset with
  | nil => simp [located, byteLength]
  | cons p ps ih =>
    simp only [List.cons_append, located, ih, List.flatten_cons, byteLength_append,
      List.append_assoc, Nat.add_assoc]

theorem located_shift (offset extra : Nat) (ps : List (List Char)) :
    located (offset + extra) ps = (located offset ps).map (·.shift extra) := by
  induction ps generalizing offset with
  | nil => rfl
  | cons p ps ih =>
    have next : offset + extra + byteLength p = offset + byteLength p + extra := by omega
    simp only [located, next, ih, List.map_append]
    cases nameIn? p <;> simp [Occurrence.shift]

theorem located_member {offset : Nat} {ps : List (List Char)} {o : Occurrence}
    (member : o ∈ located offset ps) :
    ∃ front piece back, ps = front ++ piece :: back ∧ nameIn? piece = some o.name ∧
      o.position = offset + byteLength front.flatten + byteLength piece := by
  induction ps generalizing offset with
  | nil => simp [located] at member
  | cons p ps ih =>
    rcases List.mem_append.mp member with here | later
    · obtain ⟨name, named, same⟩ := Option.map_eq_some_iff.mp (Option.mem_toList.mp here)
      subst same
      exact ⟨[], p, ps, rfl, named, by simp [byteLength]⟩
    · obtain ⟨front, piece, back, whole, named, place⟩ := ih later
      refine ⟨p :: front, piece, back, by simp [whole], named, ?_⟩
      simp only [place, List.flatten_cons, byteLength_append]
      omega

end PolyglotPages.Marker
