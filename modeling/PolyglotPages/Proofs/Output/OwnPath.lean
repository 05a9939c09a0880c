import PolyglotPages.Project.Settings
import PolyglotPages.Proofs.Output.FileName

/-! A path for every language. A pattern with the language in it keeps it, whatever the page is
called; so the code can be read off the file name, and two codes never name one path. -/
namespace PolyglotPages

namespace Path

theorem join_injective {base a b : String} (alike : isAbsolute a = isAbsolute b)
    (same : join base a = join base b) : a = b := by
  unfold join at same
  rw [← alike] at same
  cases absolute : isAbsolute a with
  | true =>
    rwa [if_pos absolute, if_pos absolute] at same
  | false =>
    rw [absolute] at same
    simp only [Bool.false_eq_true, if_false] at same
    split at same
    · exact String.append_right_inj base |>.mp same
    · exact String.append_right_inj (base ++ "/") |>.mp same

end Path

namespace Output

theorem patternErrors_eq_nil_iff {s : Project.Settings} :
    s.patternErrors = [] ↔ languagePlaceholder <:+: s.pattern.toList := by
  unfold Project.Settings.patternErrors
  rw [← Text.occursIn_iff_infix]
  by_cases empty : s.pattern = ""
  · simp [empty, Text.occursIn, languagePlaceholder]
  · by_cases asked : Text.occursIn languagePlaceholder s.pattern.toList = true
    · simp [empty, asked]
    · simp [empty, asked]

namespace Naming

theorem fileName_injective {n : Naming} (asked : languagePlaceholder <:+: n.pattern.toList)
    {a b : String} (same : n.fileName a = n.fileName b) : a = b := by
  rw [← String.toList_inj, fileName_toList, fileName_toList] at same
  rw [← String.toList_inj]
  exact Text.replace_injective languagePlaceholder_some (infix_stemmed asked) same

end Naming

/-- The settings take the patterns with the language in them, and under such a pattern every
language has a path of its own: the name of the page leaves the language where it is, the file name
tells the codes apart, and being absolute or not is no matter of the code. -/
theorem languages_have_own_paths (n : Naming) :
    (∀ s : Project.Settings, s.pattern = n.pattern →
      (s.patternErrors = [] ↔ languagePlaceholder <:+: n.pattern.toList)) ∧
    (languagePlaceholder <:+: n.pattern.toList →
      languagePlaceholder <:+: n.stemmed ∧
      (∀ a b, n.fileName a = n.fileName b → a = b) ∧
      ∀ a b, isUsable a = true → isUsable b = true →
        Path.isAbsolute (n.fileName a) = Path.isAbsolute (n.fileName b) ∧
        (a ≠ b → n.path a ≠ n.path b)) := by
  refine ⟨fun s same => same ▸ patternErrors_eq_nil_iff, fun asked => ?_⟩
  refine ⟨Naming.infix_stemmed asked, fun a b => Naming.fileName_injective asked, ?_⟩
  intro a b usableA usableB
  have alike : Path.isAbsolute (n.fileName a) = Path.isAbsolute (n.fileName b) := by
    rw [n.isAbsolute_fileName usableA, n.isAbsolute_fileName usableB]
  refine ⟨alike, fun differ same => differ ?_⟩
  exact Naming.fileName_injective asked (Path.join_injective alike same)

theorem languages_have_own_paths_braced :
    ∃ n : Naming, n.outDir = "d" ∧ n.pattern = "/\x7b\x7bstem\x7d\x7blang\x7d.\x7blang\x7d" ∧
      n.stem = "lang\x7d" ∧ n.path "." = "/...." ∧ n.path "\x7blang\x7d" ≠ n.path "." := by
  let n : Naming := {
    outDir := "d", pattern := "/\x7b\x7bstem\x7d\x7blang\x7d.\x7blang\x7d", stem := "lang\x7d" }
  have asked : languagePlaceholder <:+: n.pattern.toList :=
    Text.occursIn_iff_infix.mp (by decide +kernel)
  have own := ((languages_have_own_paths n).2 asked).2.2 "\x7blang\x7d" "." (by decide) (by decide)
  exact ⟨n, rfl, rfl, rfl, by decide +kernel, own.2 (by decide)⟩

end Output
end PolyglotPages
