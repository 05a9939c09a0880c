import PolyglotPages.Proofs.Output.FileName
import PolyglotPages.Proofs.Output.Outcome
import PolyglotPages.Proofs.Page.Filling

/-! Documents that stay below the output directory. No code that can stand in a file name leads out
of it, with one exception: the code `.`, which turns a piece such as `.{lang}` into `..`. -/
namespace PolyglotPages.Output
open Text (replace replace_first replace_absent infix_replace)
open PolyglotPages.Path (pieces)
open Disk (enter Reaches)

/-- The pieces that the code `.` turns into `..`. -/
def doubling : List (List Char) :=
  ['.' :: languagePlaceholder, languagePlaceholder ++ ['.'],
    languagePlaceholder ++ languagePlaceholder]

theorem replace_eq_nil {new cs : List Char} (some : new ≠ [])
    (gone : replace languagePlaceholder new cs = []) : cs = [] := by
  by_cases present : languagePlaceholder <:+: cs
  · have inside := infix_replace languagePlaceholder_some present new
    rw [gone] at inside
    exact absurd (List.infix_nil.mp inside) some
  · rwa [replace_absent languagePlaceholder_some present] at gone

theorem replace_eq_dot {cs : List Char}
    (dot : replace languagePlaceholder ['.'] cs = ['.']) :
    cs = ['.'] ∨ cs = languagePlaceholder := by
  by_cases present : languagePlaceholder <:+: cs
  · obtain ⟨before, after, whole, replaced⟩ := replace_first languagePlaceholder_some present
    rw [replaced] at dot
    have sizes := congrArg List.length dot
    simp only [List.length_append, List.length_cons, List.length_nil] at sizes
    have first : before = [] := List.length_eq_zero_iff.mp (by omega)
    have rest : replace languagePlaceholder ['.'] after = [] :=
      List.length_eq_zero_iff.mp (by omega)
    exact .inr (by simp [whole, first, replace_eq_nil (by simp) rest])
  · rw [replace_absent languagePlaceholder_some present] at dot
    exact .inl dot

theorem dots_split {before code rest : List Char} (whole : before ++ code ++ rest = ['.', '.'])
    (some : code ≠ []) (noDots : code ≠ ['.', '.']) :
    code = ['.'] ∧ (before = [] ∧ rest = ['.'] ∨ before = ['.'] ∧ rest = []) := by
  match before, code with
  | _, [] => exact absurd rfl some
  | [], [c] => simpa using whole
  | [], c :: c' :: code =>
    simp only [List.nil_append, List.cons_append, List.cons.injEq, List.append_eq_nil_iff] at whole
    exact absurd (by simp [whole]) noDots
  | [b], c :: code =>
    simp only [List.cons_append, List.nil_append, List.cons.injEq, List.append_eq_nil_iff] at whole
    simp [whole]
  | b :: b' :: before, c :: code => simp at whole

/-- How a piece of a pattern can come to lead back up. -/
theorem replace_eq_dots_iff {language : String} (usable : isUsable language = true)
    {piece : List Char} : replace languagePlaceholder language.toList piece = ['.', '.'] ↔
      piece = ['.', '.'] ∨ language = "." ∧ piece ∈ doubling := by
  obtain ⟨some, noDots, -, -⟩ := isUsable_iff.mp usable
  have isDot : language = "." ↔ language.toList = ['.'] := by
    rw [← String.toList_inj]
    exact Iff.rfl
  rw [isDot]
  generalize language.toList = code at some noDots
  constructor
  · intro dots
    by_cases present : languagePlaceholder <:+: piece
    · obtain ⟨before, after, whole, replaced⟩ := replace_first languagePlaceholder_some present
      rw [replaced] at dots
      -- the code is not both of the dots, so it is one, and the rest of the piece makes the other
      obtain ⟨dot, sides⟩ := dots_split dots some noDots
      subst dot
      refine .inr ⟨rfl, ?_⟩
      rcases sides with ⟨front, back⟩ | ⟨front, back⟩
      · rcases replace_eq_dot back with plain | twice
        · simp [whole, front, plain, doubling]
        · simp [whole, front, twice, doubling]
      · simp [whole, front, replace_eq_nil some back, doubling]
    · left
      rwa [replace_absent languagePlaceholder_some present] at dots
  · rintro (same | ⟨dot, member⟩)
    · rw [same]
      exact replace_absent languagePlaceholder_some (by decide) _
    · rw [dot]
      simp only [doubling, List.mem_cons, List.not_mem_nil, or_false] at member
      rcases member with e | e | e <;> subst e <;> decide

namespace Naming

theorem dots_in_fileName_iff {n : Naming} (level : ['.', '.'] ∉ pieces n.stemmed)
    {language : String} (usable : isUsable language = true) :
    ['.', '.'] ∈ pieces (n.fileName language).toList ↔
      language = "." ∧ ∃ piece ∈ pieces n.stemmed, piece ∈ doubling := by
  rw [n.pieces_fileName usable, List.mem_map]
  constructor
  · rintro ⟨piece, member, dots⟩
    rcases (replace_eq_dots_iff usable).mp dots with same | ⟨dot, double⟩
    · exact absurd (same ▸ member) level
    · exact ⟨dot, piece, member, double⟩
  · rintro ⟨dot, piece, member, double⟩
    exact ⟨piece, member, (replace_eq_dots_iff usable).mpr (.inr ⟨dot, double⟩)⟩

end Naming

/-- Of the documents written under a pattern that is relative and has no `..`, each has a path from
the output directory on. It has a `..` in just one case, that of the language code `.` in a piece
that holds the code and one character more, a dot or the code again; in all others the file lies
below the output directory. -/
theorem written_below_output (disk : Disk) (n : Naming) (relative : n.stemmed.head? ≠ some '/')
    (level : ['.', '.'] ∉ pieces n.stemmed) (r : Rendering) :
    ∃ (report : Report) (after : Disk),
      (writeAll n r.documents : StateM Disk Report) disk = (report, after) ∧
      ∀ path ∈ report.written, ∃ document ∈ r.documents,
        path = Path.join n.outDir (n.fileName document.language) ∧
        Path.isAbsolute (n.fileName document.language) = false ∧
        (['.', '.'] ∈ pieces (n.fileName document.language).toList ↔
          document.language = "." ∧ ∃ piece ∈ pieces n.stemmed, piece ∈ doubling) ∧
        (['.', '.'] ∉ pieces (n.fileName document.language).toList →
          ∃ below, below ≠ [] ∧ disk.placeOf path = disk.placeOf n.outDir ++ below ∧
            ∃ text, after.readText path = .ok text) := by
  obtain ⟨kept, done⟩ := writeAll_kept n r.documents disk
  refine ⟨_, _, rfl, fun path member => ?_⟩
  rw [done.written, List.mem_map] at member
  obtain ⟨document, there, same⟩ := member
  subst same
  have usable := done.usable document there
  have notAbsolute : Path.isAbsolute (n.fileName document.language) = false := by
    rw [n.isAbsolute_fileName usable]
    simpa using relative
  refine ⟨document, done.part.subset there, rfl, notAbsolute,
    Naming.dots_in_fileName_iff level usable, fun noDots => ?_⟩
  obtain ⟨last, -, -, told⟩ := done.readText_last there
  have down : ['.', '.'] ∉ Path.names (n.fileName document.language) := fun dots =>
    noDots (List.mem_filter.mp dots).1
  refine ⟨((Path.names (n.fileName document.language)).filter (· ≠ ['.'])).map String.ofList,
    ?_, ?_, last.html, told document there rfl⟩
  · exact fun none => (done.reached document there).names_ne_nil notAbsolute
      (List.map_eq_nil_iff.mp none)
  · rw [Naming.path, disk.placeOf_join n.outDir notAbsolute, Disk.foldl_enter_down down]

theorem written_below_output_hidden :
    ∃ (n : Naming) (d : Dictionary) (r : Rendering) (report : Report) (after : Disk),
      n.outDir = "d" ∧ n.pattern = ".\x7blang\x7d/\x7bstem\x7d" ∧ n.stem = "page" ∧
      n.stemmed.head? ≠ some '/' ∧ ['.', '.'] ∉ pieces n.stemmed ∧
      d.header.languages = ["en", "../en"] ∧ (Site.inline "<p m__a>" d).render = .ok r ∧
      (writeAll n r.documents : StateM Disk Report) ⟨[], []⟩ = (report, after) ∧
      report.written = ["d/.en/page"] ∧
      ∀ path ∈ report.written, ∃ below, below ≠ [] ∧
        Disk.placeOf ⟨[], []⟩ path = Disk.placeOf ⟨[], []⟩ n.outDir ++ below ∧
        ∃ text, after.readText path = .ok text := by
  let n : Naming := { outDir := "d", pattern := ".\x7blang\x7d/\x7bstem\x7d", stem := "page" }
  let d : Dictionary := {
    header := { languages := ["en", "../en"] }
    contents := .ofEntries [("a", .perLanguage ["one"])] }
  let r : Rendering := Document.renderFrom (Site.inline "<p m__a>" d).segments
    (Site.inline "<p m__a>" d).page d 0 [] d.header.languages
  have relative : n.stemmed.head? ≠ some '/' := by decide
  have level : ['.', '.'] ∉ pieces n.stemmed := by decide
  obtain ⟨report, after, wrote, below⟩ := written_below_output ⟨[], []⟩ n relative level r
  have paths : report.written = ["d/.en/page"] := by
    rw [show report = _ from (congrArg Prod.fst wrote).symm]
    decide +kernel
  refine ⟨n, d, r, report, after, rfl, rfl, rfl, relative, level, rfl, rfl, wrote, paths, ?_⟩
  intro path member
  obtain ⟨document, there, same, -, dots, down⟩ := below path member
  refine down fun up => ?_
  have noDot : ∀ document ∈ r.documents, document.language ≠ "." := by decide
  exact noDot document there (dots.mp up).1

/-- The code `.` can stand in a file name, but behind a dot it makes `..`: its document lands beside
the output directory. -/
theorem language_leads_out :
    ∃ (n : Naming) (d : Dictionary) (r : Rendering) (report : Report) (after : Disk),
      n.outDir = "d" ∧ n.pattern = ".\x7blang\x7d/p" ∧
      n.stemmed.head? ≠ some '/' ∧ ['.', '.'] ∉ pieces n.stemmed ∧
      d.header.languages = ["."] ∧ (Site.inline "<p m__a>" d).render = .ok r ∧
      (writeAll n r.documents : StateM Disk Report) ⟨[], []⟩ = (report, after) ∧
      report.written = ["d/../p"] ∧ report.failed = [] ∧
      ['.', '.'] ∈ pieces (n.fileName ".").toList ∧
      after.readText "p" = .ok "<p m__a>one" := by
  let n : Naming := { outDir := "d", pattern := ".\x7blang\x7d/p" }
  let d : Dictionary := {
    header := { languages := ["."] }
    contents := .ofEntries [("a", .perLanguage ["one"])] }
  refine ⟨n, d, _, _, _, rfl, rfl, by decide, by decide, rfl, rfl, rfl, ?_, ?_, by decide, ?_⟩
  · decide +kernel
  · decide +kernel
  · decide +kernel

end PolyglotPages.Output
