import Mathlib.Data.List.Nodup
import PolyglotPages.Proofs.Page.Documents

/-! Documents of a page cut in any way. The segments may lie anywhere, in any order, and need not
fit the page: a document has what can be cut out, and it is found exactly where the dictionary finds
its language. -/
namespace PolyglotPages

/-! ### Pieces -/

theorem Markup.slice?_text_iff {page : Markup} {start stop : Nat} {t : String} :
    (page.slice? start stop).map String.ofList = some t ↔ ∃ a b : String,
      page.text = a ++ t ++ b ∧ a.utf8ByteSize = start ∧ (a ++ t).utf8ByteSize = stop := by
  rw [Option.map_eq_some_iff]
  constructor
  · intro told
    obtain ⟨cs, cut, rfl⟩ := told
    obtain ⟨a, b, same, before, upTo⟩ := Text.slice?_eq_some_iff.mp cut
    refine ⟨String.ofList a, String.ofList b, ?_, ?_, ?_⟩
    · rw [text, same, String.ofList_append, String.ofList_append]
    · rw [← Text.byteLength_toList, String.toList_ofList, before]
    · rw [← Text.byteLength_toList, String.toList_append, String.toList_ofList,
        String.toList_ofList, upTo]
  · intro told
    obtain ⟨a, b, same, before, upTo⟩ := told
    have chars : page.chars = a.toList ++ t.toList ++ b.toList := by
      rw [← String.toList_append, ← String.toList_append, ← same, text, String.toList_ofList]
    refine ⟨t.toList, Text.slice?_eq_some_iff.mpr ⟨a.toList, b.toList, chars, ?_, ?_⟩,
      String.ofList_toList⟩
    · rw [Text.byteLength_toList, before]
    · rw [← String.toList_append, Text.byteLength_toList, upTo]

namespace Document

/-- What a segment brings into a document: what it cuts out of the page, if it cuts anything out,
and behind that the text of its name, if there is one. -/
def piece (page : Markup) (d : Dictionary) (index : Nat) (s : Segment) : String :=
  ((page.slice? s.start s.stop).map String.ofList).getD "" ++
    if s.name = "" then "" else (d.content? s.name index).getD ""

theorem toList_piece (page : Markup) (d : Dictionary) (index : Nat) (s : Segment) :
    (piece page d index s).toList =
      (page.slice? s.start s.stop).getD [] ++ d.insertion index s.name := by
  rw [piece, String.toList_append, Dictionary.insertion]
  congr 1
  · cases page.slice? s.start s.stop with
    | none => rfl
    | some cs => exact String.toList_ofList
  · split
    · rfl
    · cases d.content? s.name index with
      | none => rfl
      | some text => rfl

theorem assembled_pieces (page : Markup) (d : Dictionary) (index : Nat) (segments : List Segment) :
    String.ofList (assembled page d index segments) =
      String.join (segments.map (piece page d index)) := by
  have each : assembled page d index segments =
      segments.flatMap fun s => (piece page d index s).toList := by
    simp only [toList_piece, assembled]
  rw [each, ← String.toList_inj, String.toList_ofList, String.toList_join, List.flatMap_map]

end Document

/-! ### Renderings -/

namespace Rendering
variable {segments : List Segment} {page : Markup} {d : Dictionary}

theorem ofSegments_eq_error_iff {e : InputError} : ofSegments segments page d = .error e ↔
    d.header.linebreak ≠ "<br>" ∧ e = .linebreak d.header.linebreak := by
  by_cases standard : d.header.linebreak = Dictionary.standardLinebreak
  · have same : d.header.linebreak = "<br>" := standard
    rw [ofSegments_standard segments page standard]
    simp [same]
  · have other : d.header.linebreak ≠ "<br>" := standard
    have failed : ofSegments segments page d = .error (.linebreak d.header.linebreak) := by
      simp [ofSegments, Dictionary.hasStandardLinebreak, standard]
    rw [failed, Except.error.injEq]
    constructor
    · intro same
      exact ⟨other, same.symm⟩
    · intro told
      exact told.2.symm

theorem standard_of_ok {r : Rendering} (made : ofSegments segments page d = .ok r) :
    d.header.linebreak = "<br>" := by
  by_contra other
  rw [ofSegments_eq_error_iff.mpr ⟨other, rfl⟩] at made
  cases made

theorem get?_eq_some_iff {r : Rendering} (made : ofSegments segments page d = .ok r)
    {language html : String} : r.get? language = some html ↔
      ∃ i, d.index? language = some i ∧
        html = String.join (segments.map (Document.piece page d i)) := by
  constructor
  · intro found
    have declared : language ∈ d.header.languages := by
      by_contra undeclared
      have none : r.get? language = none := by
        rw [get?_eq_none_iff, languages_of_ok made, List.mem_eraseDups]
        exact undeclared
      rw [none] at found
      cases found
    have told := get?_of_documents (documents_of_ok made) (List.mem_eraseDups.mpr declared)
    rw [found] at told
    refine ⟨_, Dictionary.index?_eq_some_iff.mpr ⟨declared, rfl⟩, ?_⟩
    rw [← Document.assembled_pieces]
    exact Option.some.inj told
  · intro declared
    obtain ⟨i, index, rfl⟩ := declared
    obtain ⟨member, rfl⟩ := Dictionary.index?_eq_some_iff.mp index
    rw [← Document.assembled_pieces]
    exact get?_of_documents (documents_of_ok made) (List.mem_eraseDups.mpr member)

/-- A page cut in any way is rendered unless the line break is another one, which is then told. A
document is found for the languages that the dictionary finds, and it has the pieces of the segments
in their order; the languages stand in the order of their first places. A piece cut out of a page is
told by what stands around it. -/
theorem of_any_segments (segments : List Segment) (page : Markup) (d : Dictionary) :
    (∀ e, ofSegments segments page d = .error e ↔
      d.header.linebreak ≠ "<br>" ∧ e = .linebreak d.header.linebreak) ∧
    (d.header.linebreak = "<br>" → ∃ r, ofSegments segments page d = .ok r ∧
      (∀ language, (r.get? language).isSome = (d.index? language).isSome) ∧
      (∀ language i, d.index? language = some i →
        r.get? language = some (String.join (segments.map (Document.piece page d i)))) ∧
      (∀ language, language ∈ r.languages ↔ language ∈ d.header.languages) ∧ r.languages.Nodup ∧
      r.languages.Pairwise fun a b => d.header.languages.idxOf a < d.header.languages.idxOf b) ∧
    ∀ (start stop : Nat) (t : String), (page.slice? start stop).map String.ofList = some t ↔
      ∃ a b : String, page.text = a ++ t ++ b ∧ a.utf8ByteSize = start ∧
        (a ++ t).utf8ByteSize = stop := by
  refine ⟨fun e => ofSegments_eq_error_iff, ?_, fun start stop t => Markup.slice?_text_iff⟩
  intro standard
  have made := ofSegments_standard segments page standard
  refine ⟨_, made, ?_, ?_, ?_, languages_nodup made, ?_⟩
  · intro language
    rw [Bool.eq_iff_iff, Option.isSome_iff_exists, Option.isSome_iff_exists]
    constructor
    · intro found
      obtain ⟨html, found⟩ := found
      obtain ⟨i, index, _⟩ := (get?_eq_some_iff made).mp found
      exact ⟨i, index⟩
    · intro found
      obtain ⟨i, index⟩ := found
      exact ⟨_, (get?_eq_some_iff made).mpr ⟨i, index, rfl⟩⟩
  · intro language i index
    exact (get?_eq_some_iff made).mpr ⟨i, index, rfl⟩
  · intro language
    rw [languages_of_ok made, List.mem_eraseDups]
  · rw [languages_of_ok made]
    exact pairwise_idxOf_eraseDups _

/-- Segments that overlap, lie in no order, end before they begin, reach beyond the page or begin
inside a character. -/
def scattered : List Segment :=
  [⟨3, 4, "a"⟩, ⟨0, 3, ""⟩, ⟨2, 4, "b"⟩, ⟨4, 1, "c"⟩, ⟨1, 9, "a"⟩]

def sparse (linebreak : String) : Dictionary where
  header := { languages := ["en", "fr", "en"], linebreak }
  contents := .ofEntries [("a", .perLanguage ["one"]), ("b", .shared "all")]

theorem of_scattered_segments :
    ofSegments scattered ⟨['a', 'ñ', 'b']⟩ (sparse "\n") = .error (.linebreak "\n") ∧
    ∃ r, ofSegments scattered ⟨['a', 'ñ', 'b']⟩ (sparse "<br>") = .ok r ∧
      r.get? "en" = some "boneañallone" ∧ r.get? "fr" = some "bañall" ∧ r.get? "de" = none := by
  refine ⟨((of_any_segments _ _ _).1 _).mpr ⟨by decide, rfl⟩, ?_⟩
  obtain ⟨r, made, found, told, -⟩ :=
    (of_any_segments scattered ⟨['a', 'ñ', 'b']⟩ (sparse "<br>")).2.1 rfl
  refine ⟨r, made, ?_, ?_, ?_⟩
  · rw [told "en" 0 (by decide)]
    decide +kernel
  · rw [told "fr" 1 (by decide)]
    decide +kernel
  · have none : (r.get? "de").isSome = false := by
      rw [found "de"]
      decide
    exact Option.not_isSome_iff_eq_none.mp (by simp [none])

end Rendering
end PolyglotPages
