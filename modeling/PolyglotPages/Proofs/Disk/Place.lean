import PolyglotPages.Disk.Basic
import PolyglotPages.Proofs.Chain
import PolyglotPages.Proofs.Path.Pieces

/-! The places that paths lead to. Without links the place of a path can be told from its names
alone; what the tree holds decides only whether one gets there. -/
namespace PolyglotPages

namespace Path

def names (path : String) : List (List Char) := (pieces path.toList).filter (· ≠ [])

theorem names_join {base path : String} (relative : isAbsolute path = false) :
    names (join base path) = names base ++ names path := by
  simp only [join, relative, Bool.false_eq_true, if_false, names]
  split
  · rename_i plain
    rcases plain with empty | slash
    · subst empty
      simp [pieces]
    · -- the slash at the end of the base is followed by an empty piece, which is no name
      obtain ⟨front, ends⟩ := List.getLast?_eq_some_iff.mp slash
      simp [String.toList_append, ends, pieces_append_slash, pieces]
  · have slash : "/".toList = ['/'] := rfl
    simp [String.toList_append, slash, pieces_append_slash]

theorem isAbsolute_join {base path : String} (relative : isAbsolute path = false) :
    isAbsolute (join base path) = isAbsolute base := by
  simp only [join, relative, Bool.false_eq_true, if_false]
  split
  · rename_i plain
    cases shape : base.toList with
    | nil =>
      have empty : base = "" := by rw [← String.toList_inj, shape]; rfl
      rw [empty, String.empty_append, relative]
      rfl
    | cons c cs => simp [isAbsolute, String.toList_append, shape]
  · rename_i other
    cases shape : base.toList with
    | nil =>
      have empty : base = "" := by rw [← String.toList_inj, shape]; rfl
      exact absurd (.inl empty) other
    | cons c cs => simp [isAbsolute, String.toList_append, shape]

theorem eq_empty_of_names {path : String} (relative : isAbsolute path = false)
    (none : names path = []) : path = "" := by
  rw [← String.toList_inj]
  simp only [isAbsolute, names] at relative none
  cases shape : path.toList with
  | nil => rfl
  | cons c cs =>
    rw [shape] at relative none
    have solid : c ≠ '/' := by simpa using relative
    obtain ⟨piece, more, first, -⟩ := pieces_cons cs
    rw [pieces_of_solid solid first] at none
    simp at none

theorem join_empty (base : String) :
    join base "" = "" ∨ (join base "").toList.getLast? = some '/' := by
  have relative : isAbsolute "" = false := rfl
  simp only [join, relative, Bool.false_eq_true, if_false, String.append_empty]
  split
  · assumption
  · have slash : "/".toList = ['/'] := rfl
    simp [slash]

end Path

namespace Disk

def enter (place : Place) (name : List Char) : Place :=
  if name = ['.'] then place
  else if name = ['.', '.'] then place.dropLast
  else place ++ [String.ofList name]

def start (d : Disk) (path : String) : Place := if Path.isAbsolute path then [] else d.here

/-- The place that a path leads to, whatever the tree holds. -/
def placeOf (d : Disk) (path : String) : Place := (Path.names path).foldl enter (d.start path)

theorem descend_enter {directory place : Place} {name : List Char}
    (found : descend directory name = .ok place) : enter directory name = place := by
  simp only [descend] at found
  simp only [enter]
  split
  · rename_i dot
    rw [if_pos dot] at found
    exact Except.ok.inj found
  · rename_i noDot
    rw [if_neg noDot] at found
    split
    · rename_i dots
      rw [if_pos dots] at found
      exact Except.ok.inj found
    · rename_i noDots
      rw [if_neg noDots] at found
      split at found
      · simp at found
      · exact Except.ok.inj found

theorem directoryAt_eq_ok {d : Disk} {place directory : Place} :
    d.directoryAt place = .ok directory ↔ d.entry? place = some .directory ∧ directory = place := by
  unfold directoryAt
  cases d.entry? place with
  | none => simp
  | some e =>
    cases e with
    | directory => simp [eq_comm]
    | file bytes => simp

theorem follow_cons {d : Disk} {place last : Place} {name : List Char} {rest : List (List Char)} :
    d.follow place (name :: rest) = .ok last ↔
      d.entry? place = some .directory ∧
        ∃ next, descend place name = .ok next ∧ d.follow next rest = .ok last := by
  constructor
  · intro followed
    obtain ⟨directory, here, more⟩ := bind_eq_ok followed
    obtain ⟨next, entered, behind⟩ := bind_eq_ok more
    obtain ⟨there, same⟩ := directoryAt_eq_ok.mp here
    subst same
    exact ⟨there, next, entered, behind⟩
  · rintro ⟨there, next, entered, behind⟩
    have here := directoryAt_eq_ok.mpr ⟨there, rfl⟩
    simp [follow, here, entered, behind, bind, Except.bind]

theorem follow_append {d : Disk} {place last : Place} {front back : List (List Char)} :
    d.follow place (front ++ back) = .ok last ↔
      ∃ middle, d.follow place front = .ok middle ∧ d.follow middle back = .ok last := by
  induction front generalizing place with
  | nil => simp [follow]
  | cons name front ih =>
    simp only [List.cons_append, follow_cons, ih]
    constructor
    · rintro ⟨there, next, entered, middle, first, second⟩
      exact ⟨middle, ⟨there, next, entered, first⟩, second⟩
    · rintro ⟨middle, ⟨there, next, entered, first⟩, second⟩
      exact ⟨there, next, entered, middle, first, second⟩

theorem follow_enter {d : Disk} {place last : Place} {names : List (List Char)}
    (followed : d.follow place names = .ok last) : names.foldl enter place = last := by
  induction names generalizing place with
  | nil => exact Except.ok.inj followed
  | cons name rest ih =>
    obtain ⟨-, next, entered, behind⟩ := follow_cons.mp followed
    rw [List.foldl_cons, descend_enter entered]
    exact ih behind

theorem foldl_enter_down {names : List (List Char)} (down : ['.', '.'] ∉ names) (place : Place) :
    names.foldl enter place = place ++ (names.filter (· ≠ ['.'])).map String.ofList := by
  induction names generalizing place with
  | nil => simp
  | cons name rest ih =>
    obtain ⟨here, more⟩ := List.ne_and_not_mem_of_not_mem_cons down
    rw [List.foldl_cons, ih more]
    by_cases dot : name = ['.']
    · simp [enter, dot]
    · simp [enter, dot, here.symm]

/-- A path that is not absolute leads on from the place of the directory it is joined to. -/
theorem placeOf_join (d : Disk) (base : String) {path : String}
    (relative : Path.isAbsolute path = false) :
    d.placeOf (Path.join base path) = (Path.names path).foldl enter (d.placeOf base) := by
  simp only [placeOf, start, Path.isAbsolute_join relative, Path.names_join relative,
    List.foldl_append]

end Disk
end PolyglotPages
