import PolyglotPages.Output.Writing
import PolyglotPages.Proofs.Disk.Place

/-! The files that a pattern names. The code of a language is put into the pieces of the pattern one
by one; a code that can stand in a file name brings in no slash, so no piece is ever cut in two. -/
namespace PolyglotPages.Output
open Text (replace replace_first replace_absent replace_found replace_passed infix_replace
  reading_induction)
open PolyglotPages.Path (pieces)

theorem languagePlaceholder_some : languagePlaceholder ≠ [] := by decide

theorem stemPlaceholder_some : stemPlaceholder ≠ [] := by decide

theorem isUsable_iff {language : String} : isUsable language = true ↔
    language.toList ≠ [] ∧ language.toList ≠ ['.', '.'] ∧
      '/' ∉ language.toList ∧ '\\' ∉ language.toList := by
  have empty : language ≠ "" ↔ language.toList ≠ [] := by
    rw [Ne, ← String.toList_inj]
    exact Iff.rfl
  have dots : language ≠ ".." ↔ language.toList ≠ ['.', '.'] := by
    rw [Ne, ← String.toList_inj]
    exact Iff.rfl
  simp only [isUsable, Bool.and_eq_true, bne_iff_ne, empty, dots, List.all_eq_true, and_assoc,
    and_congr_right_iff]
  intro _ _
  constructor
  · intro each
    exact ⟨fun slash => (each '/' slash).1 rfl, fun slash => (each '\\' slash).2 rfl⟩
  · rintro ⟨noSlash, noBackslash⟩ c member
    exact ⟨fun e => noSlash (e ▸ member), fun e => noBackslash (e ▸ member)⟩

theorem replace_stem_language (stem rest : List Char) :
    replace stemPlaceholder stem (languagePlaceholder ++ rest) =
      languagePlaceholder ++ replace stemPlaceholder stem rest := by
  simp [languagePlaceholder, stemPlaceholder, replace, Text.replaceFrom, List.isPrefixOf]

namespace Naming

def stemmed (n : Naming) : List Char := replace stemPlaceholder n.stem.toList n.pattern.toList

theorem fileName_toList (n : Naming) (language : String) :
    (n.fileName language).toList = replace languagePlaceholder language.toList n.stemmed := by
  simp [fileName, stemmed]

/-- No occurrence of one placeholder reaches into one of the other, so putting in the name of the
page leaves a place for the language. -/
theorem infix_stemmed {n : Naming} (asked : languagePlaceholder <:+: n.pattern.toList) :
    languagePlaceholder <:+: n.stemmed := by
  rw [stemmed]
  generalize n.pattern.toList = cs at asked ⊢
  induction cs using reading_induction stemPlaceholder_some with
  | nil => exact absurd (List.infix_nil.mp asked) languagePlaceholder_some
  | found rest ih =>
    rw [replace_found stemPlaceholder_some]
    -- the one sought begins nowhere in the one found here
    have behind : languagePlaceholder <:+: rest := by
      simpa [languagePlaceholder, stemPlaceholder, List.infix_cons_iff] using asked
    exact (ih behind).trans (List.suffix_append _ _).isInfix
  | passed c cs notHere ih =>
    rcases List.infix_cons_iff.mp asked with here | behind
    · obtain ⟨rest, whole⟩ := here
      rw [← whole, replace_stem_language]
      exact (List.prefix_append _ _).isInfix
    · rw [replace_passed notHere]
      exact List.infix_cons (ih behind)

theorem pieces_fileName (n : Naming) {language : String} (usable : isUsable language = true) :
    pieces (n.fileName language).toList =
      (pieces n.stemmed).map (replace languagePlaceholder language.toList) := by
  rw [fileName_toList]
  exact Path.pieces_replace languagePlaceholder_some (by decide) (isUsable_iff.mp usable).2.2.1 _

theorem isAbsolute_fileName (n : Naming) {language : String} (usable : isUsable language = true) :
    Path.isAbsolute (n.fileName language) = (n.stemmed.head? == some '/') := by
  obtain ⟨some, -, solid, -⟩ := isUsable_iff.mp usable
  rw [Path.isAbsolute, fileName_toList]
  cases shape : n.stemmed with
  | nil => rfl
  | cons c cs =>
    by_cases here : languagePlaceholder <+: c :: cs
    · obtain ⟨rest, whole⟩ := here
      obtain ⟨first, more, code⟩ := List.exists_cons_of_ne_nil some
      have different : first ≠ '/' := fun e => solid (by simp [code, e])
      rw [← whole, replace_found languagePlaceholder_some, code]
      simp [languagePlaceholder, different]
    · rw [replace_passed here]
      rfl

end Naming
end PolyglotPages.Output
