import Mathlib.Data.List.Infix
import PolyglotPages.Proofs.Output.FileName

/-! What the placeholders of a pattern give way to. The name of the page is put in first and the
language is then sought in all that has come of it, so a name can bring in places for the language
that the pattern does not have. A file name is compared here with the one that a single pass over
the pattern gives. -/
namespace PolyglotPages.Output
open Text (replace replace_found replace_passed reading_induction)

/-! ### Occurrences of the language -/

def occurrences (what cs : List Char) : Nat := cs.tails.countP (what.isPrefixOf ·)

theorem occurrences_found {what : List Char} {c : Char} {cs : List Char} (here : what <+: c :: cs) :
    occurrences what (c :: cs) = occurrences what cs + 1 := by
  have begins := List.isPrefixOf_iff_prefix.mpr here
  simp [occurrences, List.countP_cons_of_pos, begins]

theorem occurrences_passed {what : List Char} {c : Char} {cs : List Char}
    (notHere : ¬ what <+: c :: cs) : occurrences what (c :: cs) = occurrences what cs := by
  have begins : ¬ what.isPrefixOf (c :: cs) = true := by
    rw [List.isPrefixOf_iff_prefix]
    exact notHere
  simp [occurrences, begins]

theorem occurrences_behind {front : List Char} (solid : '{' ∉ front) (rest : List Char) :
    occurrences languagePlaceholder (front ++ rest) = occurrences languagePlaceholder rest := by
  induction front with
  | nil => rfl
  | cons c front ih =>
    rw [List.mem_cons, not_or] at solid
    have notHere : ¬ languagePlaceholder <+: c :: (front ++ rest) := by
      intro here
      exact solid.1 (List.cons_prefix_cons.mp here).1
    rw [List.cons_append, occurrences_passed notHere]
    exact ih solid.2

theorem occurrences_language (rest : List Char) :
    occurrences languagePlaceholder (languagePlaceholder ++ rest) =
      occurrences languagePlaceholder rest + 1 := by
  have here : languagePlaceholder <+: '{' :: (['l', 'a', 'n', 'g', '}'] ++ rest) := ⟨rest, rfl⟩
  have inside : '{' ∉ ['l', 'a', 'n', 'g', '}'] := by decide
  have counted := occurrences_found here
  rw [occurrences_behind inside] at counted
  exact counted

theorem occurrences_stem (rest : List Char) :
    occurrences languagePlaceholder (stemPlaceholder ++ rest) =
      occurrences languagePlaceholder rest := by
  have notHere : ¬ languagePlaceholder <+: '{' :: (['s', 't', 'e', 'm', '}'] ++ rest) := by
    simp [languagePlaceholder]
  have inside : '{' ∉ ['s', 't', 'e', 'm', '}'] := by decide
  have counted := occurrences_passed notHere
  rw [occurrences_behind inside] at counted
  exact counted

/-! ### One pass over a pattern -/

/-- The characters that a single pass over a pattern copies or takes from the name of the page; a
gap is left for each placeholder of the language. The first `skip` characters have been read. -/
def outlineFrom (stem : List Char) : Nat → List Char → List (Option Char)
  | _, [] => []
  | skip + 1, _ :: cs => outlineFrom stem skip cs
  | 0, c :: cs =>
    if stemPlaceholder.isPrefixOf (c :: cs) then
      stem.map some ++ outlineFrom stem (stemPlaceholder.length - 1) cs
    else if languagePlaceholder.isPrefixOf (c :: cs) then
      none :: outlineFrom stem (languagePlaceholder.length - 1) cs
    else some c :: outlineFrom stem 0 cs

def outline (stem pattern : List Char) : List (Option Char) := outlineFrom stem 0 pattern

/-- An outline with a text in each of its gaps. -/
def fillIn (text : List Char) (o : List (Option Char)) : List Char :=
  o.flatMap fun c => c.elim text ([·])

namespace Naming

/-- The file of a language, if both placeholders were put in at once. -/
def literalName (n : Naming) (language : String) : String :=
  String.ofList (fillIn language.toList (outline n.stem.toList n.pattern.toList))

end Naming

theorem outlineFrom_drop (stem : List Char) (skip : Nat) (cs : List Char) :
    outlineFrom stem skip cs = outline stem (cs.drop skip) := by
  induction cs generalizing skip with
  | nil => cases skip <;> rfl
  | cons c cs ih =>
    cases skip with
    | zero => rfl
    | succ skip => exact ih skip

theorem outline_stem (stem rest : List Char) :
    outline stem (stemPlaceholder ++ rest) = stem.map some ++ outline stem rest := by
  have here : stemPlaceholder.isPrefixOf ('{' :: (['s', 't', 'e', 'm', '}'] ++ rest)) = true :=
    List.isPrefixOf_iff_prefix.mpr ⟨rest, rfl⟩
  show outlineFrom stem 0 ('{' :: (['s', 't', 'e', 'm', '}'] ++ rest)) = _
  rw [outlineFrom, if_pos here, outlineFrom_drop]
  rfl

theorem outline_language (stem rest : List Char) :
    outline stem (languagePlaceholder ++ rest) = none :: outline stem rest := by
  have notStem :
      ¬ stemPlaceholder.isPrefixOf ('{' :: (['l', 'a', 'n', 'g', '}'] ++ rest)) = true := by
    simp [stemPlaceholder]
  have here : languagePlaceholder.isPrefixOf ('{' :: (['l', 'a', 'n', 'g', '}'] ++ rest)) = true :=
    List.isPrefixOf_iff_prefix.mpr ⟨rest, rfl⟩
  show outlineFrom stem 0 ('{' :: (['l', 'a', 'n', 'g', '}'] ++ rest)) = _
  rw [outlineFrom, if_neg notStem, if_pos here, outlineFrom_drop]
  rfl

theorem outline_passed {c : Char} {cs : List Char} (notStem : ¬ stemPlaceholder <+: c :: cs)
    (notLanguage : ¬ languagePlaceholder <+: c :: cs) (stem : List Char) :
    outline stem (c :: cs) = some c :: outline stem cs := by
  rw [← List.isPrefixOf_iff_prefix] at notStem notLanguage
  rw [outline, outlineFrom, if_neg notStem, if_neg notLanguage]
  rfl

theorem pattern_induction {motive : List Char → Prop} (nil : motive [])
    (stem : ∀ rest, motive rest → motive (stemPlaceholder ++ rest))
    (language : ∀ rest, motive rest → motive (languagePlaceholder ++ rest))
    (passed : ∀ c cs, ¬ stemPlaceholder <+: c :: cs → ¬ languagePlaceholder <+: c :: cs →
      motive cs → motive (c :: cs)) (cs : List Char) : motive cs := by
  induction size : cs.length using Nat.strongRecOn generalizing cs with
  | ind n ih =>
    cases cs with
    | nil => exact nil
    | cons c cs =>
      by_cases hereStem : stemPlaceholder <+: c :: cs
      · obtain ⟨rest, whole⟩ := hereStem
        rw [← whole] at size ⊢
        apply stem
        apply ih rest.length _ rest rfl
        simp only [List.length_append, stemPlaceholder, List.length_cons] at size
        omega
      · by_cases hereLanguage : languagePlaceholder <+: c :: cs
        · obtain ⟨rest, whole⟩ := hereLanguage
          rw [← whole] at size ⊢
          apply language
          apply ih rest.length _ rest rfl
          simp only [List.length_append, languagePlaceholder, List.length_cons] at size
          omega
        · apply passed c cs hereStem hereLanguage
          apply ih cs.length _ cs rfl
          rw [← size]
          exact Nat.lt_succ_self _

section
variable (text : List Char) (o : List (Option Char))

@[simp] theorem fillIn_nil : fillIn text [] = [] := rfl

@[simp] theorem fillIn_gap : fillIn text (none :: o) = text ++ fillIn text o := rfl

@[simp] theorem fillIn_some (c : Char) : fillIn text (some c :: o) = c :: fillIn text o := rfl

@[simp] theorem fillIn_kept (cs : List Char) :
    fillIn text (cs.map some ++ o) = cs ++ fillIn text o := by
  induction cs with
  | nil => rfl
  | cons c cs ih => simp [ih]

end

theorem replace_stem_eq_fillIn (stem pattern : List Char) :
    replace stemPlaceholder stem pattern = fillIn languagePlaceholder (outline stem pattern) := by
  induction pattern using pattern_induction with
  | nil => rfl
  | stem rest ih => rw [replace_found stemPlaceholder_some, outline_stem, fillIn_kept, ih]
  | language rest ih => rw [replace_stem_language, outline_language, fillIn_gap, ih]
  | passed c cs notStem notLanguage ih =>
    rw [replace_passed notStem, outline_passed notStem notLanguage, fillIn_some, ih]

theorem count_gaps_outline (stem pattern : List Char) :
    (outline stem pattern).count none = occurrences languagePlaceholder pattern := by
  have kept : (stem.map some).count none = 0 := List.count_eq_zero.mpr (by simp)
  induction pattern using pattern_induction with
  | nil => rfl
  | stem rest ih => rw [outline_stem, List.count_append, kept, occurrences_stem, ih, Nat.zero_add]
  | language rest ih => rw [outline_language, List.count_cons_self, occurrences_language, ih]
  | passed c cs notStem notLanguage ih =>
    rw [outline_passed notStem notLanguage, occurrences_passed notLanguage, ← ih]
    exact List.count_cons_of_ne (by simp)

/-! ### The second pass -/

theorem kept_of_prefix {cs : List Char} (solid : '{' ∉ cs) {o : List (Option Char)}
    (begins : cs <+: fillIn languagePlaceholder o) : ∃ rest, o = cs.map some ++ rest := by
  induction cs generalizing o with
  | nil => exact ⟨o, rfl⟩
  | cons c cs ih =>
    rw [List.mem_cons, not_or] at solid
    cases o with
    | nil => simp at begins
    | cons first o =>
      cases first with
      | none =>
        have same : c = '{' := (List.cons_prefix_cons.mp begins).1
        exact absurd same.symm solid.1
      | some d =>
        obtain ⟨same, more⟩ := List.cons_prefix_cons.mp begins
        obtain ⟨rest, whole⟩ := ih solid.2 more
        exact ⟨rest, by rw [whole, same]; rfl⟩

/-- Reading a filled outline from the left: the placeholder is met at a gap, or spelled out by what
stands in the outline. -/
theorem outline_induction {motive : List (Option Char) → Prop} (nil : motive [])
    (gap : ∀ o, motive o → motive (none :: o))
    (spelled : ∀ o, motive o → motive (languagePlaceholder.map some ++ o))
    (passed : ∀ c o, ¬ languagePlaceholder <+: c :: fillIn languagePlaceholder o → motive o →
      motive (some c :: o)) (o : List (Option Char)) : motive o := by
  induction size : o.length using Nat.strongRecOn generalizing o with
  | ind n ih =>
    cases o with
    | nil => exact nil
    | cons first o =>
      have shorter : o.length < n := by rw [← size]; exact Nat.lt_succ_self _
      cases first with
      | none => exact gap o (ih o.length shorter o rfl)
      | some c =>
        by_cases here : languagePlaceholder <+: c :: fillIn languagePlaceholder o
        · obtain ⟨same, more⟩ := List.cons_prefix_cons.mp here
          obtain ⟨rest, whole⟩ := kept_of_prefix (by decide) more
          rw [← same, whole]
          apply spelled rest
          apply ih rest.length _ rest rfl
          rw [whole, List.length_append] at shorter
          omega
        · exact passed c o here (ih o.length shorter o rfl)

section
variable (code : List Char)

theorem replace_language_spelled (o : List (Option Char)) :
    replace languagePlaceholder code
        (fillIn languagePlaceholder (languagePlaceholder.map some ++ o)) =
      code ++ replace languagePlaceholder code (fillIn languagePlaceholder o) := by
  rw [fillIn_kept, replace_found languagePlaceholder_some]

theorem gaps_le_occurrences (o : List (Option Char)) :
    o.count none ≤ occurrences languagePlaceholder (fillIn languagePlaceholder o) := by
  induction o using outline_induction with
  | nil => exact Nat.le_refl _
  | gap o ih =>
    rw [List.count_cons_self, fillIn_gap, occurrences_language]
    omega
  | spelled o ih =>
    have kept : (languagePlaceholder.map some).count none = 0 := by decide
    rw [List.count_append, kept, fillIn_kept, occurrences_language]
    omega
  | passed c o notHere ih =>
    rw [fillIn_some, occurrences_passed notHere, List.count_cons_of_ne (by simp)]
    exact ih

theorem length_replace_language (cs : List Char) :
    (replace languagePlaceholder code cs).length +
        languagePlaceholder.length * occurrences languagePlaceholder cs =
      cs.length + code.length * occurrences languagePlaceholder cs := by
  induction cs using reading_induction languagePlaceholder_some with
  | nil => rfl
  | found rest ih =>
    rw [replace_found languagePlaceholder_some, occurrences_language]
    simp only [List.length_append, Nat.mul_add]
    omega
  | passed c cs notHere ih =>
    rw [replace_passed notHere, occurrences_passed notHere]
    simp only [List.length_cons]
    omega

theorem length_fillIn (o : List (Option Char)) :
    (fillIn code o).length + languagePlaceholder.length * o.count none =
      (fillIn languagePlaceholder o).length + code.length * o.count none := by
  induction o with
  | nil => rfl
  | cons first o ih =>
    cases first with
    | none =>
      rw [List.count_cons_self, fillIn_gap, fillIn_gap]
      simp only [List.length_append, Nat.mul_add]
      omega
    | some c =>
      rw [List.count_cons_of_ne (by simp), fillIn_some, fillIn_some]
      simp only [List.length_cons]
      omega

theorem length_eq_of_spelled {o : List (Option Char)}
    (same : code ++ replace languagePlaceholder code (fillIn languagePlaceholder o) =
      languagePlaceholder ++ fillIn code o) : code.length = languagePlaceholder.length := by
  have sizes := congrArg List.length same
  have replaced := length_replace_language code (fillIn languagePlaceholder o)
  have filled := length_fillIn code o
  obtain ⟨more, counted⟩ := Nat.exists_eq_add_of_le (gaps_le_occurrences o)
  rw [counted] at replaced
  simp only [List.length_append, Nat.mul_add] at sizes replaced
  apply Nat.eq_of_mul_eq_mul_right (Nat.succ_pos more)
  simp only [Nat.mul_succ]
  omega

/-- Seeking the language in a filled outline finds more than the gaps, unless the language occurs
there no more often than there are gaps. -/
theorem replace_eq_fillIn_iff (o : List (Option Char)) :
    replace languagePlaceholder code (fillIn languagePlaceholder o) = fillIn code o ↔
      code = languagePlaceholder ∨
        occurrences languagePlaceholder (fillIn languagePlaceholder o) = o.count none := by
  induction o using outline_induction with
  | nil => exact iff_of_true rfl (.inr rfl)
  | gap o ih =>
    rw [fillIn_gap, fillIn_gap, replace_found languagePlaceholder_some, List.append_cancel_left_eq,
      ih, occurrences_language, List.count_cons_self, Nat.add_right_cancel_iff]
  | passed c o notHere ih =>
    rw [fillIn_some, fillIn_some, replace_passed notHere, List.cons_inj_right, ih,
      occurrences_passed notHere, List.count_cons_of_ne (by simp)]
  | spelled o ih =>
    rw [replace_language_spelled, fillIn_kept code]
    constructor
    · intro same
      left
      exact (List.append_inj same (length_eq_of_spelled code same)).1
    · intro either
      cases either with
      | inl own => rw [ih.mpr (.inl own), ← own]
      | inr counted =>
        -- one more than the gaps occurs already
        have kept : (languagePlaceholder.map some).count none = 0 := by decide
        have least := gaps_le_occurrences o
        rw [List.count_append, kept, fillIn_kept, occurrences_language] at counted
        omega

end

/-! ### Names that bring in nothing -/

/-- The end of a placeholder that is met in a filled outline was in the pattern, if the name of the
page cannot be a part of it. -/
theorem prefix_of_outline {stem : List Char} (noClose : '}' ∉ stem) {ds pattern : List Char}
    (solid : '{' ∉ ds ++ ['}']) (apart : ¬ stem <:+: ds)
    (begins : ds ++ ['}'] <+: fillIn languagePlaceholder (outline stem pattern)) :
    ds ++ ['}'] <+: pattern := by
  induction pattern using pattern_induction generalizing ds with
  | nil => simp [outline, outlineFrom] at begins
  | language rest ih =>
    rw [outline_language, fillIn_gap] at begins
    cases ds with
    | nil => exact absurd (List.cons_prefix_cons.mp begins).1 (by decide)
    | cons d ds =>
      have same : d = '{' := (List.cons_prefix_cons.mp begins).1
      exact absurd (by simp [same]) solid
  | stem rest ih =>
    rw [outline_stem, fillIn_kept] at begins
    -- the shorter of the two is the beginning of the other
    rcases List.prefix_or_prefix_of_prefix begins (List.prefix_append stem _) with inside | beyond
    · have there : '}' ∈ stem := inside.subset (by simp)
      exact absurd there noClose
    · rcases List.prefix_concat_iff.mp beyond with whole | shorter
      · exact absurd (by simp [whole]) noClose
      · exact absurd shorter.isInfix apart
  | passed c cs notStem notLanguage ih =>
    rw [outline_passed notStem notLanguage, fillIn_some] at begins
    cases ds with
    | nil =>
      obtain ⟨same, -⟩ := List.cons_prefix_cons.mp begins
      exact List.cons_prefix_cons.mpr ⟨same, List.nil_prefix⟩
    | cons d ds =>
      obtain ⟨same, more⟩ := List.cons_prefix_cons.mp begins
      refine List.cons_prefix_cons.mpr ⟨same, ih ?_ ?_ more⟩
      · intro there
        exact solid (List.mem_cons_of_mem d there)
      · intro there
        exact apart (List.infix_cons there)

theorem occurrences_outline {stem : List Char} (noOpen : '{' ∉ stem) (noClose : '}' ∉ stem)
    (apart : ¬ stem <:+: ['l', 'a', 'n', 'g']) (pattern : List Char) :
    occurrences languagePlaceholder (fillIn languagePlaceholder (outline stem pattern)) =
      occurrences languagePlaceholder pattern := by
  induction pattern using pattern_induction with
  | nil => rfl
  | stem rest ih =>
    rw [outline_stem, fillIn_kept, occurrences_behind noOpen, occurrences_stem, ih]
  | language rest ih =>
    rw [outline_language, fillIn_gap, occurrences_language, occurrences_language, ih]
  | passed c cs notStem notLanguage ih =>
    have notHere : ¬ languagePlaceholder <+: c :: fillIn languagePlaceholder (outline stem cs) := by
      intro here
      obtain ⟨same, more⟩ := List.cons_prefix_cons.mp here
      have behind : ['l', 'a', 'n', 'g'] ++ ['}'] <+: cs :=
        prefix_of_outline noClose (by decide) apart more
      exact notLanguage (List.cons_prefix_cons.mpr ⟨same, behind⟩)
    rw [outline_passed notStem notLanguage, fillIn_some, occurrences_passed notHere,
      occurrences_passed notLanguage, ih]

theorem replace_eq_fillIn (cs : List Char) :
    ∃ o : List (Option Char), ∀ code, replace languagePlaceholder code cs = fillIn code o := by
  induction cs using reading_induction languagePlaceholder_some with
  | nil => exact ⟨[], fun code => rfl⟩
  | found rest ih =>
    obtain ⟨o, filled⟩ := ih
    refine ⟨none :: o, fun code => ?_⟩
    rw [replace_found languagePlaceholder_some, filled, fillIn_gap]
  | passed c cs notHere ih =>
    obtain ⟨o, filled⟩ := ih
    refine ⟨some c :: o, fun code => ?_⟩
    rw [replace_passed notHere, filled, fillIn_some]

/-! ### The two passes together -/

theorem Naming.fileName_eq_literalName_iff (n : Naming) (language : String) :
    n.fileName language = n.literalName language ↔
      language.toList = languagePlaceholder ∨
        occurrences languagePlaceholder n.stemmed =
          occurrences languagePlaceholder n.pattern.toList := by
  have decided := replace_eq_fillIn_iff language.toList (outline n.stem.toList n.pattern.toList)
  rw [← replace_stem_eq_fillIn, count_gaps_outline] at decided
  rw [← String.toList_inj, n.fileName_toList, literalName, String.toList_ofList]
  exact decided

/-- The code of a language is put in as it is, at places that do not depend on it. The name of the
page is put in as it is exactly when the text with the name in it asks for the language no more often
than the pattern does (or the code is the placeholder itself). A name without braces that is no part
of the word in the placeholder can stand in every pattern. -/
theorem fileName_of_one_pass (n : Naming) :
    (∃ o, ∀ language, (n.fileName language).toList = fillIn language.toList o) ∧
    (∀ language, n.fileName language = n.literalName language ↔
      language.toList = languagePlaceholder ∨
        occurrences languagePlaceholder n.stemmed =
          occurrences languagePlaceholder n.pattern.toList) ∧
    ('{' ∉ n.stem.toList → '}' ∉ n.stem.toList → ¬ n.stem.toList <:+: "lang".toList →
      ∀ language, n.path language = Path.join n.outDir (n.literalName language)) := by
  refine ⟨?_, n.fileName_eq_literalName_iff, ?_⟩
  · obtain ⟨o, filled⟩ := replace_eq_fillIn n.stemmed
    exact ⟨o, fun language => by rw [n.fileName_toList, filled]⟩
  · intro noOpen noClose apart language
    have counted := occurrences_outline noOpen noClose apart n.pattern.toList
    rw [← replace_stem_eq_fillIn] at counted
    rw [Naming.path, (n.fileName_eq_literalName_iff language).mpr (.inr counted)]

theorem fileName_of_one_pass_between_braces :
    ∃ n m : Naming, n.pattern = "\x7b\x7bstem\x7d\x7d.\x7blang\x7d" ∧ m.pattern = n.pattern ∧
      n.stem = "land" ∧ n.path "\x7bstem\x7d" = "d/\x7bland\x7d.\x7bstem\x7d" ∧
      m.stem = "lang" ∧ m.fileName "en" ≠ m.literalName "en" := by
  let n : Naming := {
    outDir := "d", pattern := "\x7b\x7bstem\x7d\x7d.\x7blang\x7d", stem := "land" }
  let m : Naming := { n with stem := "lang" }
  refine ⟨n, m, rfl, rfl, rfl, ?_, rfl, ?_⟩
  · rw [(fileName_of_one_pass n).2.2 (by decide) (by decide) (by decide)]
    decide +kernel
  · rw [Ne, (fileName_of_one_pass m).2.1]
    decide +kernel

/-- A page may be called like a placeholder; its name does not appear in the name of the file. -/
theorem stem_read_as_language :
    ∃ n : Naming, n.pattern = defaultPattern ∧ n.stem = "a\x7blang\x7d" ∧
      Path.join n.outDir (n.literalName "en") = "d/a\x7blang\x7d.en.html" ∧
      n.path "en" = "d/aen.en.html" ∧
      n.path "en" ≠ Path.join n.outDir (n.literalName "en") := by
  refine ⟨{ outDir := "d", stem := "a\x7blang\x7d" }, rfl, rfl, ?_, ?_, ?_⟩
  · decide +kernel
  · decide +kernel
  · decide +kernel

end PolyglotPages.Output
