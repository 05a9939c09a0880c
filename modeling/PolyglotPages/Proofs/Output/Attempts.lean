import PolyglotPages.Proofs.Output.FileName
import PolyglotPages.Proofs.Output.Outcome
import PolyglotPages.Proofs.Page.Filling

/-! Every document is tried, each on the tree that the ones before it left, whatever came of them.
So a report holds each document once, and a tree differs afterwards only where something was
written. -/
namespace PolyglotPages.Output
open Disk (Later)

structure Attempt where
  document : Document
  before : Disk
  outcome : Except WriteError Unit
  after : Disk

namespace Attempt

def written? (n : Naming) (a : Attempt) : Option String :=
  match a.outcome with
  | .ok () => some (n.path a.document.language)
  | .error _ => none

def failure? (n : Naming) (a : Attempt) : Option Failure :=
  match a.outcome with
  | .ok () => none
  | .error e => some ⟨a.document.language, n.path a.document.language, e⟩

end Attempt

/-- Attempts that follow each other from one tree to another. -/
inductive InTurn (n : Naming) : Disk → List Attempt → Disk → Prop
  | done (d : Disk) : InTurn n d [] d
  | next {a : Attempt} {rest : List Attempt} {last : Disk}
      (tried : (writeDocument (n.path a.document.language) a.document :
        StateM Disk (Except WriteError Unit)) a.before = (a.outcome, a.after))
      (others : InTurn n a.after rest last) : InTurn n a.before (a :: rest) last

def Report.ofAttempts (n : Naming) (attempts : List Attempt) : Report where
  written := attempts.filterMap (·.written? n)
  failed := attempts.filterMap (·.failure? n)

theorem Report.ofAttempts_cons (n : Naming) (a : Attempt) (rest : List Attempt) :
    Report.ofAttempts n (a :: rest) =
      (Report.ofAttempts n rest).cons a.document.language (n.path a.document.language)
        a.outcome := by
  cases told : a.outcome with
  | ok done => simp [ofAttempts, Report.cons, Attempt.written?, Attempt.failure?, told]
  | error e => simp [ofAttempts, Report.cons, Attempt.written?, Attempt.failure?, told]

theorem Report.ofAttempts_length (n : Naming) (attempts : List Attempt) :
    (Report.ofAttempts n attempts).failed.length +
      (Report.ofAttempts n attempts).written.length = attempts.length := by
  induction attempts with
  | nil => rfl
  | cons a rest ih =>
    rw [ofAttempts_cons]
    cases a.outcome with
    | ok done => simp only [Report.cons, List.length_cons]; omega
    | error e => simp only [Report.cons, List.length_cons]; omega

theorem Report.ofAttempts_isSuccess (n : Naming) (attempts : List Attempt) :
    (Report.ofAttempts n attempts).isSuccess = true ↔ ∀ a ∈ attempts, a.outcome = .ok () := by
  unfold isSuccess
  rw [List.isEmpty_iff, ofAttempts, List.filterMap_eq_nil_iff]
  refine forall₂_congr fun a _ => ?_
  unfold Attempt.failure?
  cases a.outcome with
  | ok done => simp
  | error e => simp

/-- All documents are tried in turn, and the report is that of the attempts. -/
theorem writeAll_attempts (n : Naming) (documents : List Document) (d : Disk) :
    ∃ attempts after, (writeAll n documents : StateM Disk Report) d =
        (Report.ofAttempts n attempts, after) ∧
      InTurn n d attempts after ∧ attempts.map (·.document) = documents := by
  induction documents generalizing d with
  | nil => exact ⟨[], d, rfl, .done d, rfl⟩
  | cons document rest ih =>
    rcases tried : (writeDocument (n.path document.language) document :
      StateM Disk (Except WriteError Unit)) d with ⟨outcome, d'⟩
    obtain ⟨attempts, after, reported, inTurn, each⟩ := ih d'
    let a : Attempt := { document, before := d, outcome, after := d' }
    have first : (writeDocument (n.path a.document.language) a.document :
      StateM Disk (Except WriteError Unit)) a.before = (a.outcome, a.after) := tried
    refine ⟨a :: attempts, after, ?_, InTurn.next first inTurn, congrArg (document :: ·) each⟩
    rw [Report.ofAttempts_cons]
    simp only [writeAll, bind, StateT.bind, tried, reported]
    rfl

theorem InTurn.tried {n : Naming} {d last : Disk} {attempts : List Attempt}
    (inTurn : InTurn n d attempts last) {a : Attempt} (member : a ∈ attempts) :
    (writeDocument (n.path a.document.language) a.document :
      StateM Disk (Except WriteError Unit)) a.before = (a.outcome, a.after) := by
  induction inTurn with
  | done d => simp at member
  | next tried others ih =>
    rcases List.mem_cons.mp member with here | later
    · subst here
      exact tried
    · exact ih later

theorem isUsable_eq_false_iff {language : String} : isUsable language = false ↔
    language = "" ∨ language = ".." ∨ '/' ∈ language.toList ∨ '\\' ∈ language.toList := by
  have empty : language = "" ↔ language.toList = [] := by
    rw [← String.toList_inj]
    exact Iff.rfl
  have dots : language = ".." ↔ language.toList = ['.', '.'] := by
    rw [← String.toList_inj]
    exact Iff.rfl
  rw [Bool.eq_false_iff, Ne, isUsable_iff, empty, dots]
  simp only [not_and_or, ne_eq, not_not]

theorem writeDocument_refused {document : Document} (refused : isUsable document.language = false)
    (path : String) (d : Disk) :
    (writeDocument path document : StateM Disk (Except WriteError Unit)) d =
      (.error (.unusableLanguage document.language), d) := by
  unfold writeDocument
  rw [refused]
  rfl

theorem Wrote.readText {path text : String} {d d' : Disk} (wrote : Wrote path text d d') :
    d'.readText path = .ok text := by
  refine wrote.reached.readText ?_
  rw [wrote.later.placeOf]
  exact wrote.held

theorem InTurn.readText {n : Naming} {d last : Disk} {attempts : List Attempt}
    (inTurn : InTurn n d attempts last) {a : Attempt} (member : a ∈ attempts)
    (succeeded : a.outcome = .ok ()) :
    a.after.readText (n.path a.document.language) = .ok a.document.html := by
  have tried := writeDocument_tried (n.path a.document.language) a.document a.before
  rw [inTurn.tried member, succeeded] at tried
  exact Wrote.readText tried

/-- Every document of a rendering is tried once and in its turn, and stands in the report once: with
its path if its text has been written there, else with its language, its path and the fault. A code
that cannot stand in a file name is always refused, and then the tree is left as it was. In the end
nothing is gone, and files are new or changed only where the written paths lead to. -/
theorem documents_accounted_for (disk : Disk) (n : Naming) (segments : List Segment)
    (page : Markup) (d : Dictionary) (r : Rendering)
    (made : Rendering.ofSegments segments page d = .ok r) :
    ∃ (report : Report) (after : Disk) (attempts : List Attempt),
      (writeAll n r.documents : StateM Disk Report) disk = (report, after) ∧
      InTurn n disk attempts after ∧ attempts.map (·.document) = r.documents ∧
      r.languages.Nodup ∧
      report.written = attempts.filterMap (·.written? n) ∧
      report.failed = attempts.filterMap (·.failure? n) ∧
      (∀ a ∈ attempts, a.outcome = .ok () →
        a.after.readText (n.path a.document.language) = .ok a.document.html) ∧
      (∀ a ∈ attempts, (a.document.language = "" ∨ a.document.language = ".." ∨
          '/' ∈ a.document.language.toList ∨ '\\' ∈ a.document.language.toList) →
        a.outcome = .error (.unusableLanguage a.document.language) ∧ a.after = a.before) ∧
      (∀ path ∈ report.written, ∃ bytes, after.find path = .ok (disk.placeOf path, .file bytes)) ∧
      Later (report.written.map disk.placeOf) disk after := by
  obtain ⟨attempts, after, reported, inTurn, each⟩ := writeAll_attempts n r.documents disk
  obtain ⟨kept, done⟩ := writeAll_kept n r.documents disk
  rw [reported] at done
  refine ⟨_, after, attempts, reported, inTurn, each, Rendering.languages_nodup made, rfl, rfl, ?_,
    ?_, ?_, ?_⟩
  · exact fun a member succeeded => inTurn.readText member succeeded
  · intro a member unusable
    have refused := writeDocument_refused (isUsable_eq_false_iff.mpr unusable)
      (n.path a.document.language) a.before
    rw [inTurn.tried member] at refused
    exact Prod.mk.inj refused
  · exact fun path member => done.find_written member
  · have later := done.later
    rwa [← done.places] at later

theorem documents_accounted_for_between :
    ∃ (disk : Disk) (n : Naming) (site : Site) (r : Rendering) (report : Report) (after : Disk)
      (attempts : List Attempt),
      n = { outDir := "o", pattern := "\x7bstem\x7d/\x7blang\x7d", stem := "p" } ∧
      site.dictionary.header.languages = ["en", "../x", "fr", "ko", "en"] ∧
      Rendering.ofSegments site.segments site.page site.dictionary = .ok r ∧
      (writeAll n r.documents : StateM Disk Report) disk = (report, after) ∧
      InTurn n disk attempts after ∧
      attempts.map (·.document.language) = ["en", "../x", "fr", "ko"] ∧
      report = {
        written := ["o/p/en", "o/p/ko"]
        failed := [⟨"../x", "o/p/../x", .unusableLanguage "../x"⟩,
          ⟨"fr", "o/p/fr", .disk .isDirectory⟩] } ∧
      disk.entry? ["x"] = some (.file "kept".toUTF8) ∧
      after.entry? ["x"] = some (.file "kept".toUTF8) := by
  let d : Dictionary := {
    header := { languages := ["en", "../x", "fr", "ko", "en"] }
    contents := .ofEntries [("a", .perLanguage ["one"])] }
  let n : Naming := { outDir := "o", pattern := "\x7bstem\x7d/\x7blang\x7d", stem := "p" }
  let site := Site.inline "<p m__a>" d
  let disk : Disk := {
    entries := [(["o"], .directory), (["o", "p"], .directory), (["o", "p", "fr"], .directory),
      (["o", "p", "ko"], .file "old".toUTF8), (["x"], .file "kept".toUTF8)]
    here := [] }
  obtain ⟨report, after, attempts, wrote, inTurn, each, -, -, -, -, -, -, later⟩ :=
    documents_accounted_for disk n site.segments site.page d _ rfl
  have reported : report = {
      written := ["o/p/en", "o/p/ko"]
      failed := [⟨"../x", "o/p/../x", .unusableLanguage "../x"⟩,
        ⟨"fr", "o/p/fr", .disk .isDirectory⟩] } := by
    rw [show report = _ from (congrArg Prod.fst wrote).symm]
    decide +kernel
  have languages : attempts.map (·.document.language) = ["en", "../x", "fr", "ko"] := by
    have told := congrArg (List.map (·.language)) each
    rw [List.map_map] at told
    exact told
  have held : disk.entry? ["x"] = some (.file "kept".toUTF8) := rfl
  have outside : ["x"] ∉ report.written.map disk.placeOf := by
    rw [reported]
    decide +kernel
  exact ⟨disk, n, site, _, report, after, attempts, rfl, rfl, rfl, wrote, inTurn, languages,
    reported, held, later.file outside held⟩

end PolyglotPages.Output
