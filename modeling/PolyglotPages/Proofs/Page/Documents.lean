import Mathlib.Data.List.Basic
import PolyglotPages.Document

/-! What a rendering is made of. A document is its segments with the texts of one language; the
languages are those of the dictionary, each at its first place. -/
namespace PolyglotPages

theorem pairwise_idxOf_fresh (before rest : List String) :
    (rest.filter (· ∉ before)).eraseDups.Pairwise fun a b =>
      (before ++ rest).idxOf a < (before ++ rest).idxOf b := by
  induction rest generalizing before with
  | nil => exact .nil
  | cons x rest ih =>
    have later := ih (before ++ [x])
    rw [List.append_assoc, List.singleton_append] at later
    -- a value that stands in front is passed over; any other one stands where the front ends
    by_cases old : x ∈ before
    · have same : rest.filter (· ∉ before ++ [x]) = (x :: rest).filter (· ∉ before) := by
        rw [List.filter_cons_of_neg (by simpa using old)]
        apply List.filter_congr
        intro y _
        by_cases here : y = x <;> simp [here, old]
      rw [← same]
      exact later
    · have others : rest.filter (· ∉ before ++ [x]) =
          (rest.filter (· ∉ before)).filter fun y => !y == x := by
        rw [List.filter_filter]
        apply List.filter_congr
        intro y _
        by_cases here : y = x <;> simp [here]
      rw [List.filter_cons_of_pos (by simpa using old), List.eraseDups_cons, ← others]
      refine List.pairwise_cons.mpr ⟨?_, later⟩
      intro y there
      have fresh : y ∉ before ++ [x] := by
        simpa using (List.mem_filter.mp (List.mem_eraseDups.mp there)).2
      have place : (before ++ x :: rest).idxOf y = (before ++ [x]).length + rest.idxOf y := by
        rw [← List.idxOf_append_of_notMem fresh, List.append_assoc, List.singleton_append]
      rw [place, List.idxOf_append_of_notMem old, List.idxOf_cons_self, List.length_append,
        List.length_singleton]
      omega

theorem pairwise_idxOf_eraseDups (xs : List String) :
    xs.eraseDups.Pairwise fun a b => xs.idxOf a < xs.idxOf b := by
  have all := pairwise_idxOf_fresh [] xs
  have none : xs.filter (· ∉ ([] : List String)) = xs := List.filter_eq_self.mpr (by simp)
  rw [none] at all
  exact all

theorem nodup_eraseDups (xs : List String) : xs.eraseDups.Nodup := by
  apply (pairwise_idxOf_eraseDups xs).imp
  intro a b lower same
  rw [same] at lower
  exact Nat.lt_irrefl _ lower

/-- What is put in for a marker in the language at an index; a marker without a name asks for
nothing. -/
def Dictionary.insertion (d : Dictionary) (index : Nat) (name : String) : List Char :=
  if name = "" then [] else ((d.content? name index).map String.toList).getD []

theorem Dictionary.index?_eq_some_iff {d : Dictionary} {language : String} {index : Nat} :
    d.index? language = some index ↔
      language ∈ d.header.languages ∧ d.header.languages.idxOf language = index := by
  rw [index?, List.idxOf_eq_getD_idxOf?, ← List.isSome_idxOf?]
  cases d.header.languages.idxOf? language with
  | none => simp
  | some i => simp

namespace Document

def assembled (page : Markup) (d : Dictionary) (index : Nat) (segments : List Segment) :
    List Char :=
  segments.flatMap fun s => (page.slice? s.start s.stop).getD [] ++ d.insertion index s.name

theorem cutOut_text (page : Markup) (s : Segment) :
    (cutOut page s).1 = (page.slice? s.start s.stop).getD [] := by
  unfold cutOut
  split <;> simp_all

theorem inserted_text (d : Dictionary) (index : Nat) (language : String) (s : Segment) :
    (inserted d index language s).1 = d.insertion index s.name := by
  unfold inserted Segment.isNamed Dictionary.insertion Dictionary.content?
  by_cases unnamed : s.name = ""
  · simp [unnamed]
  · cases d.contents.get? s.name with
    | none => simp [unnamed]
    | some content =>
      cases told : content.text? index with
      | none => simp [unnamed, told]
      | some text => simp [unnamed, told]

theorem assemble_text (page : Markup) (d : Dictionary) (index : Nat) (language : String)
    (segments : List Segment) :
    (assemble page d index language segments).1 = assembled page d index segments := by
  induction segments with
  | nil => rfl
  | cons s rest ih =>
    simp only [assembled] at ih
    simp [assemble, assembled, cutOut_text, inserted_text, ih]

theorem renderFrom_documents (segments : List Segment) (page : Markup) (d : Dictionary)
    (index : Nat) (seen languages : List String) :
    (renderFrom segments page d index seen languages).documents =
      (languages.filter fun l => decide (l ∉ seen)).eraseDups.map fun language =>
        ⟨language,
          String.ofList (assembled page d (index + languages.idxOf language) segments)⟩ := by
  induction languages generalizing index seen with
  | nil => rfl
  | cons first rest ih =>
    -- behind the first language every other one stands one place further on
    have further : ∀ l, l ≠ first → (first :: rest).idxOf l = rest.idxOf l + 1 := by
      intro l ne
      have different : (first == l) = false := by simpa using Ne.symm ne
      simp [List.idxOf_cons, different]
    by_cases old : first ∈ seen
    · simp only [renderFrom, old, if_true, ih]
      rw [List.filter_cons_of_neg (by simpa using old)]
      apply List.map_congr_left
      intro l member
      have fresh : l ∉ seen := by simpa using (List.mem_filter.mp (List.mem_eraseDups.mp member)).2
      have ne : l ≠ first := fun e => fresh (e ▸ old)
      rw [further l ne, Nat.add_assoc, Nat.add_comm 1]
    · simp only [renderFrom, old, if_false, ih]
      rw [List.filter_cons_of_pos (by simpa using old), List.eraseDups_cons, List.map_cons]
      have here : (first :: rest).idxOf first = 0 := List.idxOf_cons_self
      have others : (rest.filter fun l => decide (l ∉ first :: seen)) =
          (rest.filter fun l => decide (l ∉ seen)).filter fun l => !l == first := by
        rw [List.filter_filter]
        apply List.filter_congr
        intro l _
        by_cases e : l = first <;> simp [e]
      rw [here, assemble_text, others]
      congr 1
      apply List.map_congr_left
      intro l member
      have ne : l ≠ first := by
        simpa using (List.mem_filter.mp (List.mem_eraseDups.mp member)).2
      rw [further l ne, Nat.add_assoc, Nat.add_comm 1]

theorem assemble_outside {page : Markup} {d : Dictionary} {index : Nat} {language : String}
    {segments : List Segment} {s : Segment}
    (reported : Warning.segmentOutside s ∈ (assemble page d index language segments).2) :
    s ∈ segments ∧ page.slice? s.start s.stop = none := by
  induction segments with
  | nil => simp [assemble] at reported
  | cons t rest ih =>
    simp only [assemble, List.mem_append] at reported
    rcases reported with (cut | text) | later
    · unfold cutOut at cut
      split at cut
      · simp at cut
      · rename_i outside
        have same : s = t := by simpa using cut
        exact ⟨by simp [same], by rw [same]; exact outside⟩
    · unfold inserted at text
      repeat' split at text
      all_goals simp at text
    · exact ⟨List.mem_cons_of_mem _ (ih later).1, (ih later).2⟩

theorem renderFrom_outside {segments : List Segment} {page : Markup} {d : Dictionary} {index : Nat}
    {seen languages : List String} {s : Segment}
    (reported : Warning.segmentOutside s ∈
      (renderFrom segments page d index seen languages).warnings) :
    s ∈ segments ∧ page.slice? s.start s.stop = none := by
  induction languages generalizing index seen with
  | nil => simp [renderFrom] at reported
  | cons first rest ih =>
    simp only [renderFrom] at reported
    split at reported
    · exact ih (by simpa using reported)
    · rcases List.mem_append.mp reported with here | later
      · exact assemble_outside here
      · exact ih later

end Document

namespace Rendering

theorem ofSegments_standard (segments : List Segment) (page : Markup) {d : Dictionary}
    (standard : d.header.linebreak = Dictionary.standardLinebreak) :
    ofSegments segments page d =
      .ok (Document.renderFrom segments page d 0 [] d.header.languages) := by
  simp [ofSegments, Dictionary.hasStandardLinebreak, standard]

theorem documents_of_ok {segments : List Segment} {page : Markup} {d : Dictionary} {r : Rendering}
    (made : ofSegments segments page d = .ok r) :
    r.documents = d.header.languages.eraseDups.map fun language =>
      ⟨language, String.ofList
        (Document.assembled page d (d.header.languages.idxOf language) segments)⟩ := by
  unfold ofSegments at made
  split at made
  · have unseen : (d.header.languages.filter fun l => decide (l ∉ ([] : List String))) =
        d.header.languages := List.filter_eq_self.mpr (by simp)
    rw [← Except.ok.inj made, Document.renderFrom_documents, unseen]
    simp only [Nat.zero_add]
  · simp at made

theorem languages_of_ok {segments : List Segment} {page : Markup} {d : Dictionary} {r : Rendering}
    (made : ofSegments segments page d = .ok r) : r.languages = d.header.languages.eraseDups := by
  rw [languages, documents_of_ok made, List.map_map]
  exact List.map_id _

theorem languages_nodup {segments : List Segment} {page : Markup} {d : Dictionary} {r : Rendering}
    (made : ofSegments segments page d = .ok r) : r.languages.Nodup := by
  rw [languages_of_ok made]
  exact nodup_eraseDups _

theorem get?_of_documents {r : Rendering} {languages : List String} {html : String → String}
    (made : r.documents = languages.map fun l => ⟨l, html l⟩) {language : String}
    (declared : language ∈ languages) : r.get? language = some (html language) := by
  unfold get?
  rw [made]
  clear made
  induction languages with
  | nil => simp at declared
  | cons first rest ih =>
    by_cases here : first = language
    · simp [here]
    · rcases List.mem_cons.mp declared with e | later
      · exact absurd e.symm here
      · have tail := ih later
        simp only [List.map_cons]
        rw [List.find?_cons_of_neg (by simpa using here)]
        exact tail

theorem get?_eq_none_iff {r : Rendering} {language : String} :
    r.get? language = none ↔ language ∉ r.languages := by
  simp [get?, languages]

theorem mem_of_get? {r : Rendering} {language html : String}
    (told : r.get? language = some html) : ⟨language, html⟩ ∈ r.documents := by
  obtain ⟨document, found, rfl⟩ := Option.map_eq_some_iff.mp told
  have same : document.language = language := by simpa using List.find?_some found
  rw [← same]
  exact List.mem_of_find?_eq_some found

end Rendering
end PolyglotPages
