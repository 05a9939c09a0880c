import PolyglotPages.Proofs.Command.Ending
import PolyglotPages.Proofs.Page.Lookup
import PolyglotPages.Proofs.Page.Filling

/-! The warnings of a rendering. They are told language by language in the order of declaration:
that a language has been declared before, or which markers of the page have no text for it, in the
order in which they stand there. -/
namespace PolyglotPages

/-- The name has a list of texts that ends before the language at the index. -/
def Dictionary.Lacks (d : Dictionary) (index : Nat) (name : String) : Prop :=
  name ≠ "" ∧ ∃ texts, d.contents.get? name = some (.perLanguage texts) ∧ texts.length ≤ index

instance (d : Dictionary) (index : Nat) (name : String) : Decidable (d.Lacks index name) :=
  match found : d.contents.get? name with
  | some (.perLanguage texts) =>
    decidable_of_iff (name ≠ "" ∧ texts.length ≤ index) (by simp [Dictionary.Lacks, found])
  | some (.shared text) => isFalse (by simp [Dictionary.Lacks, found])
  | none => isFalse (by simp [Dictionary.Lacks, found])

namespace Document

theorem inserted_warnings (d : Dictionary) (index : Nat) (language : String) (s : Segment) :
    (inserted d index language s).2 =
      if d.Lacks index s.name then [.missingText s.name language] else [] := by
  by_cases unnamed : s.name = ""
  · simp [inserted, Segment.isNamed, Dictionary.Lacks, unnamed]
  · cases found : d.contents.get? s.name with
    | none => simp [inserted, Segment.isNamed, Dictionary.Lacks, unnamed, found]
    | some content =>
      cases content with
      | shared text =>
        simp [inserted, Segment.isNamed, Dictionary.Lacks, unnamed, found, Content.text?]
      | perLanguage texts =>
        by_cases short : texts.length ≤ index
        · simp [inserted, Segment.isNamed, Dictionary.Lacks, unnamed, found, Content.text?, short]
        · have inside : index < texts.length := by omega
          simp [inserted, Segment.isNamed, Dictionary.Lacks, unnamed, found, Content.text?, short,
            inside]

theorem assemble_warnings {page : Markup} {segments : List Segment}
    (fits : ∀ s ∈ segments, ∃ t, page.slice? s.start s.stop = some t) (d : Dictionary)
    (index : Nat) (language : String) :
    (assemble page d index language segments).2 =
      ((segments.map (·.name)).filter (d.Lacks index ·)).map (.missingText · language) := by
  induction segments with
  | nil => rfl
  | cons s rest ih =>
    obtain ⟨first, others⟩ := List.forall_mem_cons.mp fits
    obtain ⟨t, cut⟩ := first
    have inside : (cutOut page s).2 = [] := by simp [cutOut, cut]
    have later := ih others
    simp only [assemble, inside, inserted_warnings, later, List.nil_append, List.map_cons]
    by_cases lacking : d.Lacks index s.name
    · simp [lacking]
    · simp [lacking]

theorem assemble_segments_warnings (page : Markup) (d : Dictionary) (index : Nat)
    (language : String) :
    (assemble page d index language page.segments).2 =
      (page.markers.filter fun o => d.Lacks index o.name).map
        fun o => .missingText o.name language := by
  have unnamed : ¬ d.Lacks index "" := fun lacking => lacking.1 rfl
  rw [assemble_warnings (fun s member => Markup.segments_slice member), Markup.segments, Segment.cut,
    Segment.cutFrom_names, List.filter_append, List.filter_map]
  simp [unnamed, Function.comp_def]

end Document

namespace Command
open Output (Report)

/-! ### Events -/

def Event.repeated (language : String) : Event :=
  ⟨.warn, "mulang::renderer", "Duplicate language in meta.languages, skipping",
    [("language", language)]⟩

def Event.untold (marker language : String) : Event :=
  ⟨.warn, "mulang::renderer", "No content for language, marker left empty",
    [("marker", marker), ("language", language)]⟩

/-- The events of a language: one if it has been declared before; otherwise one for each marker of
the page whose texts end before it. -/
def eventsFor (page : Markup) (d : Dictionary) (earlier : List String) (language : String) :
    List Event :=
  if language ∈ earlier then [.repeated language]
  else (page.markers.filter fun o => d.Lacks earlier.length o.name).map
    fun o => .untold o.name language

def renderingEvents (page : Markup) (d : Dictionary) : List Event :=
  d.header.languages.zipIdx.flatMap fun e =>
    eventsFor page d (d.header.languages.take e.2) e.1

theorem renderFrom_events (page : Markup) (d : Dictionary) (rest : List String)
    {earlier seen : List String} (same : ∀ l, l ∈ seen ↔ l ∈ earlier) :
    (Document.renderFrom page.segments page d earlier.length seen rest).warnings.map .ofWarning =
      (rest.zipIdx earlier.length).flatMap fun e =>
        eventsFor page d ((earlier ++ rest).take e.2) e.1 := by
  induction rest generalizing earlier seen with
  | nil => rfl
  | cons language rest ih =>
    have whole : earlier ++ language :: rest = earlier ++ [language] ++ rest := by simp
    have length : (earlier ++ [language]).length = earlier.length + 1 := by simp
    rw [List.zipIdx_cons, List.flatMap_cons, List.take_left, whole, ← length]
    -- what is still to come has the same languages declared in front of it in both cases
    by_cases old : language ∈ seen
    · have declared := (same language).mp old
      have still : ∀ l, l ∈ seen ↔ l ∈ earlier ++ [language] := by
        intro l
        by_cases here : l = language <;> simp [here, declared, same]
      have later := ih still
      simp only [Document.renderFrom, old, if_true, List.map_cons, eventsFor, declared]
      rw [← length, later]
      rfl
    · have fresh : language ∉ earlier := fun there => old ((same language).mpr there)
      have more : ∀ l, l ∈ language :: seen ↔ l ∈ earlier ++ [language] := by
        intro l
        simp [same, or_comm]
      have later := ih more
      simp only [Document.renderFrom, old, if_false, Document.assemble_segments_warnings,
        List.map_append, List.map_map]
      rw [← length, later, eventsFor, if_neg fresh]
      rfl

theorem rendering_events {site : Site} {r : Rendering} (made : site.render = .ok r) :
    r.warnings.map .ofWarning = renderingEvents site.page site.dictionary := by
  unfold Site.render at made
  rw [Rendering.ofSegments_standard _ _ (Rendering.standard_of_ok made)] at made
  rw [← Except.ok.inj made]
  exact @renderFrom_events site.page site.dictionary _ [] [] (by simp)

theorem mem_renderingEvents {page : Markup} {d : Dictionary} {e : Event}
    (there : e ∈ renderingEvents page d) : (∃ language, e = .repeated language) ∨
      ∃ marker language, e = .untold marker language ∧ ∃ index, d.Lacks index marker := by
  obtain ⟨⟨language, i⟩, _, here⟩ := List.mem_flatMap.mp there
  unfold eventsFor at here
  split at here
  · exact .inl ⟨language, List.mem_singleton.mp here⟩
  · obtain ⟨o, kept, rfl⟩ := List.mem_map.mp here
    have lacking := (List.mem_filter.mp kept).2
    exact .inr ⟨o.name, language, rfl, _, by simpa using lacking⟩

theorem targets_behind (failures : List Output.Failure) (paths messages : List String) :
    ∀ e ∈ failures.map Event.ofFailure ++ paths.map Event.ofWritten ++ messages.map Event.ofError,
      e.target ≠ Event.renderingTarget := by
  have command : Event.commandTarget ≠ Event.renderingTarget := by decide
  have writing : Event.writingTarget ≠ Event.renderingTarget := by decide
  intro e there
  simp only [List.mem_append, List.mem_map] at there
  rcases there with (⟨f, _, rfl⟩ | ⟨path, _, rfl⟩) | ⟨message, _, rfl⟩
  · exact writing
  · exact command
  · exact command

theorem run_events {a : Arguments} {directory : String} {disk : Disk} {s : Project.Settings}
    {site : Site} {r : Rendering} (rendered : Rendered a directory disk s site r) :
    ∃ rest, ((run a directory : StateM Disk Outcome) disk).1.events =
        renderingEvents site.page site.dictionary ++ rest ∧
      ∀ e ∈ rest, e.target ≠ Event.renderingTarget := by
  rw [run_rendered rendered, ← rendering_events rendered.made]
  cases a.print with
  | some language =>
    simp only [printOne]
    cases r.get? language with
    | some html => exact ⟨_, (List.append_nil _).symm, targets_behind [] [] []⟩
    | none => exact ⟨_, rfl, targets_behind [] [] [_]⟩
  | none =>
    obtain ⟨attempts, after, wrote, _⟩ := writeEach_attempts (namingOf s site) r disk
    simp only [wrote]
    have behind := targets_behind (Report.ofAttempts (namingOf s site) attempts).failed
      (Report.ofAttempts (namingOf s site) attempts).written
    split
    · exact ⟨_, by simp [eventsOf], behind []⟩
    · generalize CommandError.incomplete _ _ = error
      exact ⟨_, by simp [eventsOf, Outcome.failed], behind [error.message]⟩

/-- A rendering with the supported line break is told of by exactly the events that are called for,
at the level of warnings, and none of them says that a segment lies outside the page. A command that
makes it begins with them, and nothing behind them comes from that part of the program. -/
theorem warnings_called_for (site : Site)
    (standard : site.dictionary.header.linebreak = "<br>") :
    ∃ r, site.render = .ok r ∧
      r.warnings.map .ofWarning = renderingEvents site.page site.dictionary ∧
      (∀ e ∈ renderingEvents site.page site.dictionary, e.level = .warn ∧
        e.target = Event.renderingTarget ∧
        e.message ≠ "Range does not fit the markup, slice skipped") ∧
      (∀ marker language, Event.untold marker language ∈
        renderingEvents site.page site.dictionary → marker ≠ "" ∧
          ∃ texts, site.dictionary.contents.get? marker = some (.perLanguage texts)) ∧
      ∀ (args : List String) (e : Environment) (a : Arguments) (disk : Disk) (s : Project.Settings),
        Unlogged args e a → Rendered a e.directory disk s site r →
        ∃ rest, ((execute args e : StateM Disk Result) disk).1.events =
            renderingEvents site.page site.dictionary ++ rest ∧
          ∀ told ∈ rest, told.target ≠ Event.renderingTarget := by
  obtain ⟨r, made⟩ := Site.render_standard site standard
  refine ⟨r, made, rendering_events made, ?_, ?_, ?_⟩
  · intro e there
    rcases mem_renderingEvents there with ⟨language, rfl⟩ | ⟨marker, language, rfl, _⟩
    · exact ⟨rfl, rfl, by simp [Event.repeated]⟩
    · exact ⟨rfl, rfl, by simp [Event.untold]⟩
  · intro marker language there
    rcases mem_renderingEvents there with ⟨other, same⟩ | ⟨other, l, same, index, lacking⟩
    · simp [Event.untold, Event.repeated] at same
    · have name : marker = other := by
        simp only [Event.untold, Event.mk.injEq, List.cons.injEq, Prod.mk.injEq] at same
        exact same.2.2.2.1.2
      obtain ⟨texts, found, _⟩ := lacking.2
      rw [name]
      exact ⟨lacking.1, texts, found⟩
  · intro args e a disk s unlogged rendered
    obtain ⟨rest, events, others⟩ := run_events rendered
    refine ⟨rest, ?_, others⟩
    rw [unlogged.execute_eq, ← events]
    unfold Outcome.toResult
    simp only [filter_standard]
    split <;> rfl

theorem warnings_called_for_twice :
    ∃ (args : List String) (e : Environment) (a : Arguments) (disk : Disk) (s : Project.Settings)
      (site : Site) (r : Rendering), Unlogged args e a ∧ Rendered a e.directory disk s site r ∧
      site.dictionary.header.linebreak = "<br>" ∧
      r.warnings.map .ofWarning = renderingEvents site.page site.dictionary ∧
      renderingEvents site.page site.dictionary =
        [.untold "x" "ko", .untold "x" "ko", .repeated "en", .untold "y" "fr", .untold "x" "fr",
          .untold "x" "fr"] := by
  let e : Environment := { directory := "/" }
  let a : Arguments :=
    { page := some "p.html", dictionary := some "d.json", print := some "en" }
  let dictionary := "\x7bmeta: \x7blanguages: ['en', 'ko', 'en', 'fr']\x7d" ++
    " contents: \x7bx: ['é'] y: ['1', '2', '3'] z: 'all'\x7d\x7d"
  let page := "<p m__y><i m__x><i m__z><b m__x><u m__><br m__w>"
  let disk : Disk := {
    entries := [(["d.json"], .file dictionary.toUTF8), (["p.html"], .file page.toUTF8)]
    here := [] }
  have unlogged : Unlogged ["--html", "p.html", "--json=d.json", "--print=en"] e a :=
    ⟨by decide, rfl, rfl⟩
  have printed :
      ((run a e.directory : StateM Disk Outcome) disk).1.result.toOption.isSome = true := by
    decide +kernel
  have rendered : ∃ s site r, Rendered a e.directory disk s site r := by
    by_contra none
    have unrendered : ∀ s site r, ¬Rendered a e.directory disk s site r :=
      fun s site r there => none ⟨s, site, r, there⟩
    obtain ⟨error, failed⟩ := run_unrendered unrendered
    rw [failed] at printed
    cases printed
  obtain ⟨s, site, r, rendered⟩ := rendered
  have standard := Rendering.standard_of_ok rendered.made
  obtain ⟨_, made, same, each, -, commands⟩ := warnings_called_for site standard
  obtain rfl := Except.ok.inj (made.symm.trans rendered.made)
  obtain ⟨rest, events, others⟩ := commands _ e a disk s unlogged rendered
  have shown : ((execute ["--html", "p.html", "--json=d.json", "--print=en"] e :
      StateM Disk Result) disk).1.events.filter (·.target = Event.renderingTarget) =
        [.untold "x" "ko", .untold "x" "ko", .repeated "en", .untold "y" "fr", .untold "x" "fr",
          .untold "x" "fr"] := by decide +kernel
  have front : (renderingEvents site.page site.dictionary).filter
      (·.target = Event.renderingTarget) = renderingEvents site.page site.dictionary :=
    List.filter_eq_self.mpr fun told there => by simpa using (each told there).2.1
  have back : rest.filter (·.target = Event.renderingTarget) = [] :=
    List.filter_eq_nil_iff.mpr fun told there => by simpa using others told there
  rw [events, List.filter_append, front, back, List.append_nil] at shown
  exact ⟨_, e, a, disk, s, site, _, unlogged, rendered, standard, same, shown⟩

end Command
end PolyglotPages
