import Mathlib.Data.List.TakeWhile
import PolyglotPages.Proofs.Output.Outcome
import PolyglotPages.Proofs.Output.OwnPath
import PolyglotPages.Proofs.Page.Filling

/-! Documents that do not get in each other's way. A pattern with the language in it gives every
language a path of its own, but paths that differ may still lead to one place: behind a piece that
tells the languages apart, `..` leads back to where they are together. -/
namespace PolyglotPages.Output
open Text (replace replace_absent replace_injective infix_replace occursIn_iff_infix)
open PolyglotPages.Path (pieces isIdle)
open Disk (enter)

/-- The language put into pieces, without those that lead nowhere. -/
def solid (language : List Char) (ps : List (List Char)) : List (List Char) :=
  (ps.map (replace languagePlaceholder language)).filter fun piece => !isIdle piece

theorem isIdle_iff {piece : List Char} : isIdle piece = true ↔ piece = [] ∨ piece = ['.'] := by
  simp [isIdle]

theorem solid_of_present {language piece : List Char} (some : language ≠ [])
    (noDot : language ≠ ['.']) (present : languagePlaceholder <:+: piece) :
    isIdle (replace languagePlaceholder language piece) = false := by
  have inside := infix_replace languagePlaceholder_some present language
  rw [Bool.eq_false_iff, Ne, isIdle_iff]
  rintro (empty | dot)
  · rw [empty] at inside
    exact some (List.infix_nil.mp inside)
  · rw [dot] at inside
    rcases List.infix_cons_iff.mp inside with front | rest
    · rcases List.prefix_cons_iff.mp front with empty | ⟨tail, whole, short⟩
      · exact some empty
      · rw [List.prefix_nil.mp short] at whole
        exact noDot whole
    · exact some (List.infix_nil.mp rest)

theorem solid_length_le {a b : List Char} (some : b ≠ []) (noDot : b ≠ ['.'])
    (ps : List (List Char)) : (solid a ps).length ≤ (solid b ps).length := by
  induction ps with
  | nil => exact Nat.le_refl _
  | cons piece ps ih =>
    simp only [solid, List.map_cons, List.filter_cons] at ih ⊢
    by_cases present : languagePlaceholder <:+: piece
    · have kept := solid_of_present some noDot present
      cases isIdle (replace languagePlaceholder a piece) <;> simp [kept] <;> omega
    · rw [replace_absent languagePlaceholder_some present,
        replace_absent languagePlaceholder_some present]
      cases isIdle piece <;> simp <;> omega

theorem solid_injective_of_ne {a b : List Char} (some : b ≠ []) (noDot : b ≠ ['.'])
    {piece : List Char} (present : languagePlaceholder <:+: piece) {more : List (List Char)}
    (same : solid a (piece :: more) = solid b (piece :: more)) : a = b := by
  have kept := solid_of_present some noDot present
  cases idle : isIdle (replace languagePlaceholder a piece) with
  | false =>
    simp only [solid, List.map_cons, List.filter_cons, kept, idle, Bool.not_false, if_true,
      List.cons.injEq] at same
    exact replace_injective languagePlaceholder_some present same.1
  | true =>
    -- one piece is missing for `a`, and no other can be missing for `b` alone
    have shorter : (solid a more).length ≤ (solid b more).length := solid_length_le some noDot more
    have sizes := congrArg List.length same
    simp only [solid, List.map_cons, List.filter_cons, kept, idle, Bool.not_false, Bool.not_true,
      Bool.false_eq_true, if_true, if_false, List.length_cons] at sizes shorter
    omega

theorem solid_injective {a b : List Char} (someA : a ≠ []) (someB : b ≠ []) {piece : List Char}
    (present : languagePlaceholder <:+: piece) {more : List (List Char)}
    (same : solid a (piece :: more) = solid b (piece :: more)) : a = b := by
  by_cases noDot : b = ['.']
  · by_cases noDotToo : a = ['.']
    · rw [noDot, noDotToo]
    · exact (solid_injective_of_ne someA noDotToo present same.symm).symm
  · exact solid_injective_of_ne someB noDot present same

namespace Naming

/-- The pieces of the pattern from the first one on that the language is put into. -/
def telling (n : Naming) : List (List Char) :=
  (pieces n.stemmed).dropWhile fun piece => !Text.occursIn languagePlaceholder piece

def shared (n : Naming) : List (List Char) :=
  ((pieces n.stemmed).takeWhile fun piece => !Text.occursIn languagePlaceholder piece).filter
    (· ≠ [])

/-- From the first piece on that tells languages apart, nothing in the file name of this one leads
back up. -/
def GoesDown (n : Naming) (language : String) : Prop :=
  ∀ piece ∈ n.telling, replace languagePlaceholder language.toList piece ≠ ['.', '.']

instance (n : Naming) (language : String) : Decidable (n.GoesDown language) :=
  inferInstanceAs (Decidable (∀ piece ∈ n.telling, _ ≠ _))

theorem telling_cons {n : Naming} (asked : languagePlaceholder <:+: n.stemmed) :
    ∃ piece more, n.telling = piece :: more ∧ languagePlaceholder <:+: piece := by
  obtain ⟨piece, member, present⟩ :=
    Path.exists_piece_infix languagePlaceholder_some (by decide) asked
  cases shape : n.telling with
  | nil =>
    have absent := List.dropWhile_eq_nil_iff.mp shape piece member
    rw [← occursIn_iff_infix] at present
    simp [present] at absent
  | cons first more =>
    refine ⟨first, more, rfl, ?_⟩
    have stopped := List.head?_dropWhile_not
      (fun piece => !Text.occursIn languagePlaceholder piece) (pieces n.stemmed)
    rw [show (pieces n.stemmed).dropWhile _ = first :: more from shape] at stopped
    rw [← occursIn_iff_infix]
    simpa using stopped

theorem names_fileName (n : Naming) {language : String} (usable : isUsable language = true) :
    Path.names (n.fileName language) = n.shared ++
      (n.telling.map (replace languagePlaceholder language.toList)).filter (· ≠ []) := by
  have fixed : ∀ piece ∈ (pieces n.stemmed).takeWhile
      (fun piece => !Text.occursIn languagePlaceholder piece),
      replace languagePlaceholder language.toList piece = piece := by
    intro piece member
    have absent := List.all_eq_true.mp List.all_takeWhile piece member
    refine replace_absent languagePlaceholder_some ?_ _
    rw [← occursIn_iff_infix]
    simpa using absent
  have cut : pieces n.stemmed = (pieces n.stemmed).takeWhile
      (fun piece => !Text.occursIn languagePlaceholder piece) ++ n.telling :=
    List.takeWhile_append_dropWhile.symm
  rw [Path.names, n.pieces_fileName usable, cut, List.map_append, List.filter_append,
    List.map_congr_left fixed, List.map_id']
  rfl

def origin (n : Naming) (d : Disk) : Disk.Place :=
  if n.stemmed.head? == some '/' then [] else d.placeOf n.outDir

theorem placeOf_path (n : Naming) (d : Disk) {language : String}
    (usable : isUsable language = true) :
    d.placeOf (n.path language) = (Path.names (n.fileName language)).foldl enter (n.origin d) := by
  have absolute := n.isAbsolute_fileName usable
  cases slash : n.stemmed.head? == some '/' with
  | true =>
    rw [slash] at absolute
    simp [path, Path.join, absolute, Disk.placeOf, Disk.start, origin, slash]
  | false =>
    rw [slash] at absolute
    rw [path, d.placeOf_join n.outDir absolute, origin, slash]
    rfl

/-- Where a file name goes down, its place is told by the pieces that depend on the language. -/
theorem placeOf_path_down {n : Naming} {language : String} (usable : isUsable language = true)
    (down : n.GoesDown language) (d : Disk) :
    d.placeOf (n.path language) = n.shared.foldl enter (n.origin d) ++
      (solid language.toList n.telling).map String.ofList := by
  have noDots : ['.', '.'] ∉
      (n.telling.map (replace languagePlaceholder language.toList)).filter (· ≠ []) := by
    intro member
    obtain ⟨piece, there, dots⟩ := List.mem_map.mp (List.mem_filter.mp member).1
    exact down piece there dots
  rw [n.placeOf_path d usable, n.names_fileName usable, List.foldl_append,
    Disk.foldl_enter_down noDots, List.filter_filter]
  congr 2
  refine List.filter_congr fun piece _ => ?_
  by_cases empty : piece = [] <;> by_cases dot : piece = ['.'] <;> simp [isIdle, empty, dot]

theorem placeOf_path_injective {n : Naming} (asked : languagePlaceholder <:+: n.pattern.toList)
    {a b : String} (usableA : isUsable a = true) (usableB : isUsable b = true)
    (downA : n.GoesDown a) (downB : n.GoesDown b) {d : Disk}
    (same : d.placeOf (n.path a) = d.placeOf (n.path b)) : a = b := by
  rw [placeOf_path_down usableA downA, placeOf_path_down usableB downB,
    List.append_cancel_left_eq] at same
  have spelled : solid a.toList n.telling = solid b.toList n.telling :=
    List.map_injective_iff.mpr (fun _ _ => String.ofList_injective) same
  obtain ⟨piece, more, shape, present⟩ := telling_cons (infix_stemmed asked)
  rw [shape] at spelled
  rw [← String.toList_inj]
  exact solid_injective (isUsable_iff.mp usableA).1 (isUsable_iff.mp usableB).1 present spelled

end Naming

theorem pattern_of_valid {s : Project.Settings} (valid : s.isValid = true) :
    languagePlaceholder <:+: s.pattern.toList := by
  have none : s.pageErrors ++ s.patternErrors = [] := List.isEmpty_iff.mp valid
  exact patternErrors_eq_nil_iff.mp (List.append_eq_nil_iff.mp none).2

/-- The documents of a rendering that are written can all be read back from their paths exactly when
documents written to one place are alike. Settings that are valid see to it that this is so, and
that no two documents share a place, as long as no file name leads back up behind the language. -/
theorem written_documents_read_back (disk : Disk) (s : Project.Settings) (valid : s.isValid = true)
    (stem : String) (segments : List Segment) (page : Markup) (d : Dictionary) (r : Rendering)
    (made : Rendering.ofSegments segments page d = .ok r) :
    ∃ (n : Naming) (report : Report) (after : Disk) (kept : List Document),
      n = { outDir := s.outDir, pattern := s.pattern, stem } ∧
      (writeAll n r.documents : StateM Disk Report) disk = (report, after) ∧
      kept.Sublist r.documents ∧
      report.written = kept.map (fun document => n.path document.language) ∧
      (∀ document ∈ r.documents, document ∈ kept ∨ ∃ failure ∈ report.failed,
        failure.language = document.language ∧ failure.path = n.path document.language) ∧
      ((∀ document ∈ kept, after.readText (n.path document.language) = .ok document.html) ↔
        ∀ a ∈ kept, ∀ b ∈ kept, n.place disk a = n.place disk b → a.html = b.html) ∧
      ((∀ document ∈ kept, n.GoesDown document.language) →
        (∀ a ∈ kept, ∀ b ∈ kept, n.place disk a = n.place disk b → a = b) ∧
        ∀ document ∈ kept, after.readText (n.path document.language) = .ok document.html) := by
  let n : Naming := { outDir := s.outDir, pattern := s.pattern, stem }
  obtain ⟨kept, done⟩ := writeAll_kept n r.documents disk
  refine ⟨n, _, _, kept, rfl, rfl, done.part, done.written, done.others, done.reads_back_iff, ?_⟩
  intro down
  have apart : ∀ a ∈ kept, ∀ b ∈ kept, n.place disk a = n.place disk b → a = b := by
    intro a first b second same
    have language : a.language = b.language :=
      Naming.placeOf_path_injective (pattern_of_valid valid) (done.usable a first)
        (done.usable b second) (down a first) (down b second) same
    have documents := Rendering.documents_of_ok made
    have memberA := done.part.subset first
    have memberB := done.part.subset second
    rw [documents, List.mem_map] at memberA memberB
    obtain ⟨l, -, madeA⟩ := memberA
    obtain ⟨k, -, madeB⟩ := memberB
    subst madeA madeB
    rw [show l = k from language]
  refine ⟨apart, done.reads_back_iff.mpr ?_⟩
  intro a first b second same
  rw [apart a first b second same]

theorem written_documents_read_back_beside :
    ∃ (s : Project.Settings) (site : Site) (r : Rendering) (n : Naming) (report : Report)
      (after : Disk) (kept : List Document),
      n = { outDir := s.outDir, pattern := s.pattern, stem := "page" } ∧
      s.pattern = "../\x7blang\x7d.\x7bstem\x7d" ∧ s.isValid = true ∧
      Rendering.ofSegments site.segments site.page site.dictionary = .ok r ∧
      (∀ document ∈ kept, n.GoesDown document.language) ∧
      (writeAll n r.documents : StateM Disk Report) ⟨[], []⟩ = (report, after) ∧
      kept.map (fun document => n.path document.language) = ["d/../en.page", "d/../..page"] ∧
      report.written = kept.map (fun document => n.path document.language) ∧
      ∀ document ∈ kept, after.readText (n.path document.language) = .ok document.html := by
  let d : Dictionary := {
    header := { languages := ["en", "../en", "."] }
    contents := .ofEntries [("a", .perLanguage ["one"])] }
  let s : Project.Settings := {
    options := { page := "<p m__a>", dictionary := d }
    outDir := "d"
    pattern := "../\x7blang\x7d.\x7bstem\x7d" }
  let site := Site.inline "<p m__a>" d
  obtain ⟨n, report, after, kept, named, wrote, part, written, -, -, apart⟩ :=
    written_documents_read_back ⟨[], []⟩ s (by decide) "page" site.segments site.page d _ rfl
  have down : ∀ document ∈ kept, n.GoesDown document.language := by
    intro document member
    have each : ∀ document ∈ (Document.renderFrom site.segments site.page d 0 []
        d.header.languages).documents, n.GoesDown document.language := by
      subst named
      decide
    exact each document (part.subset member)
  have paths : report.written = ["d/../en.page", "d/../..page"] := by
    subst named
    rw [show report = _ from (congrArg Prod.fst wrote).symm]
    decide +kernel
  exact ⟨s, site, _, n, report, after, kept, named, rfl, by decide, rfl, down, wrote,
    written.symm.trans paths, written, (apart down).2⟩

/-- Behind the language, `..` leads every document to the same file: the last one is all that is
left, though all are reported as written. -/
theorem documents_written_over :
    ∃ (s : Project.Settings) (d : Dictionary) (r : Rendering) (report : Report) (after : Disk),
      s.outDir = "d" ∧ s.pattern = "\x7blang\x7d/../p" ∧ s.isValid = true ∧
      d.header.languages = ["en", "fr"] ∧ (Site.inline "<p m__a>" d).render = .ok r ∧
      (writeAll { outDir := s.outDir, pattern := s.pattern, stem := "index" } r.documents :
        StateM Disk Report) ⟨[], []⟩ = (report, after) ∧
      report.written = ["d/en/../p", "d/fr/../p"] ∧ report.failed = [] ∧
      r.get? "en" = some "<p m__a>one" ∧ after.readText "d/en/../p" = .ok "<p m__a>un" := by
  let d : Dictionary := {
    header := { languages := ["en", "fr"] }
    contents := .ofEntries [("a", .perLanguage ["one", "un"])] }
  let s : Project.Settings := {
    options := { page := "<p m__a>", dictionary := d }
    outDir := "d"
    pattern := "\x7blang\x7d/../p" }
  refine ⟨s, d, _, _, _, rfl, rfl, by decide, rfl, rfl, rfl, ?_, ?_, by decide, ?_⟩
  · decide +kernel
  · decide +kernel
  · decide +kernel

end PolyglotPages.Output
