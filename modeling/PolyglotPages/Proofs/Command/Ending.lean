import PolyglotPages.Proofs.Command.Stages
import PolyglotPages.Proofs.Output.Attempts

/-! How the command ends. Either a stage fails before anything has been printed or written, or there
are documents; then one of them is printed, or each is tried, and the status tells what came of
it. -/
namespace PolyglotPages

namespace Command
open Output (Attempt InTurn Report)

/-! ### What is shown -/

theorem filter_standard (verbose : Bool) (events : List Event) :
    events.filter (Filter.standard verbose).admits = events :=
  List.filter_eq_self.mpr fun e _ => Filter.standard_admits verbose e

theorem toResult_ok (verbose : Bool) (events : List Event) (text : String) :
    Outcome.toResult ⟨events, .ok text⟩ (.standard verbose) none =
      { exit := 0, stdout := text, events := events } := by
  simp [Outcome.toResult, filter_standard]

theorem toResult_failed (verbose : Bool) (events : List Event) (e : CommandError) :
    (Outcome.failed events e).toResult (.standard verbose) none =
      { exit := 1, events := events ++ [.ofError e.message] } := by
  simp [Outcome.failed, Outcome.toResult, filter_standard]

def Result.eventsAt (r : Result) (level : Level) : List Event :=
  r.events.filter (·.level = level)

theorem filter_level {α : Type} {tell : α → Event} {level : Level}
    (all : ∀ x, (tell x).level = level) (xs : List α) (asked : Level) :
    (xs.map tell).filter (·.level = asked) = if level = asked then xs.map tell else [] := by
  by_cases same : level = asked
  · rw [if_pos same]
    exact List.filter_eq_self.mpr (by simp [all, same])
  · rw [if_neg same]
    exact List.filter_eq_nil_iff.mpr (by simp [all, same])

theorem Event.ofWarning_level (w : Warning) : (Event.ofWarning w).level = .warn := by
  cases w with
  | duplicateLanguage language => rfl
  | segmentOutside s => rfl
  | missingText marker language => rfl

/-! ### Printing and writing -/

theorem printOne_toResult (verbose : Bool) (language : String) (r : Rendering) :
    (printOne language r).toResult (.standard verbose) none =
      match r.get? language with
      | some html =>
        { exit := 0, stdout := html ++ "\n", events := r.warnings.map .ofWarning }
      | none => {
          exit := 1
          events := r.warnings.map .ofWarning ++
            [.ofError (CommandError.undeclaredLanguage language).message] } := by
  unfold printOne
  cases r.get? language with
  | some html => exact toResult_ok _ _ _
  | none => exact toResult_failed _ _ _

def eventsOf (n : Output.Naming) (r : Rendering) (attempts : List Attempt) : List Event :=
  r.warnings.map .ofWarning ++ (Report.ofAttempts n attempts).failed.map .ofFailure
    ++ (Report.ofAttempts n attempts).written.map .ofWritten

theorem eventsOf_level (n : Output.Naming) (r : Rendering) (attempts : List Attempt) :
    (eventsOf n r attempts).filter (·.level = .info) =
        (Report.ofAttempts n attempts).written.map .ofWritten ∧
      (eventsOf n r attempts).filter (·.level = .error) = [] := by
  have failed : ∀ f, (Event.ofFailure f).level = .warn := fun _ => rfl
  have written : ∀ path, (Event.ofWritten path).level = .info := fun _ => rfl
  simp [eventsOf, filter_level Event.ofWarning_level, filter_level failed, filter_level written]

theorem writeEach_attempts (n : Output.Naming) (r : Rendering) (d : Disk) :
    ∃ attempts after,
      (writeEach n r : StateM Disk Outcome) d =
        (if ∀ a ∈ attempts, a.outcome = .ok () then ⟨eventsOf n r attempts, .ok ""⟩
          else .failed (eventsOf n r attempts)
            (.incomplete (Report.ofAttempts n attempts).failed.length attempts.length), after) ∧
      InTurn n d attempts after ∧ attempts.map (·.document) = r.documents := by
  obtain ⟨attempts, after, reported, inTurn, each⟩ := Output.writeAll_attempts n r.documents d
  refine ⟨attempts, after, ?_, inTurn, each⟩
  have total : r.documents.length = attempts.length := by rw [← each, List.length_map]
  simp only [writeEach, bind, StateT.bind, reported, Report.ofAttempts_isSuccess, total]
  rfl

/-! ### Ends -/

/-- A stage fails before anything has been printed or written. -/
inductive FailsEarly (a : Arguments) (directory : String) (d : Disk) : Prop
  | settings {e : Project.SettingsError}
      (failed : ((Project.Holder.load a.config directory : StateM Disk _) d).1 = .error e)
  | validation {s : Project.Settings} (found : Found a directory d s) (invalid : s.isValid = false)
  | inputs {s : Project.Settings} (found : Found a directory d s)
      (failed : Site.InputsFail s.options d)
  | rendering {s : Project.Settings} {site : Site} {e : InputError} (found : Found a directory d s)
      (loaded : ((Site.load s.options : StateM Disk _) d).1 = .ok site)
      (failed : site.render = .error e)
  | language {s : Project.Settings} {site : Site} {r : Rendering} {language : String}
      (rendered : Rendered a directory d s site r) (asked : a.print = some language)
      (undeclared : language ∉ site.dictionary.header.languages)

section
variable {a : Arguments} {directory : String} {d : Disk}

theorem failsEarly_of_unrendered (unrendered : ∀ s site r, ¬Rendered a directory d s site r) :
    FailsEarly a directory d := by
  cases loaded : ((Project.Holder.load a.config directory : StateM Disk _) d).1 with
  | error e => exact .settings loaded
  | ok h =>
    have found : Found a directory d (a.override h.settings) := ⟨h, loaded, rfl⟩
    cases valid : (a.override h.settings).isValid with
    | false => exact .validation found valid
    | true =>
      cases read : ((Site.load (a.override h.settings).options : StateM Disk _) d).1 with
      | error e => exact .inputs found (Site.load_error_iff.mp ⟨e, read⟩)
      | ok site =>
        cases made : site.render with
        | error e => exact .rendering found read made
        | ok r => exact absurd ⟨found, valid, read, made⟩ (unrendered _ site r)

theorem failsEarly_rendered_iff {s : Project.Settings} {site : Site} {r : Rendering}
    (rendered : Rendered a directory d s site r) : FailsEarly a directory d ↔
      ∃ language, a.print = some language ∧ language ∉ site.dictionary.header.languages := by
  constructor
  · intro fails
    cases fails with
    | settings failed =>
      obtain ⟨h, loaded, -⟩ := rendered.found
      simp [loaded] at failed
    | validation found invalid =>
      obtain rfl := rendered.found.unique found
      simp [rendered.valid] at invalid
    | inputs found failed =>
      obtain rfl := rendered.found.unique found
      obtain ⟨e, unloaded⟩ := Site.load_error_iff.mpr failed
      simp [rendered.loaded] at unloaded
    | rendering found loaded failed =>
      obtain rfl := rendered.found.unique found
      obtain rfl := Except.ok.inj (rendered.loaded.symm.trans loaded)
      simp [rendered.made] at failed
    | language other asked undeclared =>
      obtain ⟨-, rfl, -⟩ := rendered.unique other
      exact ⟨_, asked, undeclared⟩
  · rintro ⟨language, asked, undeclared⟩
    exact .language rendered asked undeclared

end

/-- The command is to be run; it keeps no log file and shows what it shows by default. -/
structure Unlogged (args : List String) (e : Environment) (a : Arguments) : Prop where
  read : Arguments.read args e.logFile = .ok a
  noLog : a.logFile = none
  noFilter : e.filter = none

section
variable {args : List String} {e : Environment} {a : Arguments} {d : Disk}

theorem Unlogged.execute_eq (unlogged : Unlogged args e a) (d : Disk) :
    (execute args e : StateM Disk Result) d =
      (((run a e.directory : StateM Disk Outcome) d).1.toResult (.standard a.verbose) none,
        ((run a e.directory : StateM Disk Outcome) d).2) := by
  rw [Command.execute_eq unlogged.read unlogged.noLog, Environment.filter?, unlogged.noFilter]
  rfl

theorem Unlogged.fails (unlogged : Unlogged args e a)
    (unrendered : ∀ s site r, ¬Rendered a e.directory d s site r) :
    ∃ failure, (execute args e : StateM Disk Result) d =
      ({ exit := 1, events := [.ofError failure] }, d) := by
  obtain ⟨error, failed⟩ := run_unrendered unrendered
  refine ⟨error.message, ?_⟩
  rw [unlogged.execute_eq, failed, toResult_failed]
  rfl

variable {s : Project.Settings} {site : Site} {r : Rendering}

theorem Unlogged.prints (unlogged : Unlogged args e a)
    (rendered : Rendered a e.directory d s site r) {language : String}
    (asked : a.print = some language) :
    ∃ result, (execute args e : StateM Disk Result) d = (result, d) ∧
      (FailsEarly a e.directory d → result.exit = 1 ∧ result.stdout = "") ∧
      (result.exit = 0 ↔ ¬FailsEarly a e.directory d) ∧
      (result.exit = 0 →
        ∃ html, ⟨language, html⟩ ∈ r.documents ∧ result.stdout = html ++ "\n") := by
  have undeclared : FailsEarly a e.directory d ↔ r.get? language = none := by
    rw [failsEarly_rendered_iff rendered, Rendering.get?_eq_none_iff,
      Rendering.languages_of_ok rendered.made, List.mem_eraseDups]
    simp [asked]
  have ran := unlogged.execute_eq d
  rw [run_rendered rendered, asked] at ran
  refine ⟨_, ran, ?_⟩
  rw [undeclared, printOne_toResult]
  cases got : r.get? language with
  | none => simp
  | some html => simpa using Rendering.mem_of_get? got

theorem Unlogged.writes (unlogged : Unlogged args e a)
    (rendered : Rendered a e.directory d s site r) (noPrint : a.print = none) :
    ∃ result attempts after, (execute args e : StateM Disk Result) d = (result, after) ∧
      InTurn (namingOf s site) d attempts after ∧ attempts.map (·.document) = r.documents ∧
      result.eventsAt .info = (attempts.filterMap (·.written? (namingOf s site))).map
        (fun path => ⟨.info, "mulang", "Wrote " ++ path, []⟩) ∧
      (result.exit = 0 ↔ ∀ t ∈ attempts, t.outcome = .ok ()) ∧
      (result.exit ≠ 0 → result.exit = 1 ∧ result.eventsAt .error = [⟨.error, "mulang",
        toString (attempts.filterMap (·.failure? (namingOf s site))).length ++ " of " ++
          toString attempts.length ++ " documents could not be written", []⟩]) := by
  obtain ⟨attempts, after, wrote, inTurn, each⟩ := writeEach_attempts (namingOf s site) r d
  obtain ⟨info, error⟩ := eventsOf_level (namingOf s site) r attempts
  have ran := unlogged.execute_eq d
  rw [run_rendered rendered, noPrint] at ran
  simp only [wrote] at ran
  refine ⟨_, attempts, after, ran, inTurn, each, ?_⟩
  by_cases complete : ∀ t ∈ attempts, t.outcome = .ok ()
  · rw [if_pos complete, toResult_ok]
    exact ⟨info, iff_of_true rfl complete, by simp⟩
  · rw [if_neg complete, toResult_failed]
    refine ⟨?_, iff_of_false (by simp) complete, fun _ => ⟨rfl, ?_⟩⟩
    · rw [Result.eventsAt, List.filter_append, info]
      simp [Report.ofAttempts, Event.ofError, Event.ofWritten, Event.commandTarget]
    · rw [Result.eventsAt, List.filter_append, error]
      simp [Report.ofAttempts, Event.ofError, Event.commandTarget, CommandError.message]

end

/-- The exit status tells what has happened. A command that fails early ends with status 1, prints
nothing and leaves the tree as it was. A command that prints a document never changes the tree; it
succeeds unless it fails early, and then it prints the very document that would have been written
without the option. A command that writes tries every document, in the order of the languages; it
tells of every file that it has written, it succeeds if none is missing, and otherwise it ends with
status 1 and an error that counts what is missing out of all distinct languages. -/
theorem exit_status_tells {args : List String} {e : Environment} {a : Arguments}
    (unlogged : Unlogged args e a) (disk : Disk) :
    ∃ (result : Result) (after : Disk),
      (execute args e : StateM Disk Result) disk = (result, after) ∧
      (FailsEarly a e.directory disk →
        result.exit = 1 ∧ result.stdout = "" ∧ after = disk) ∧
      (∀ language, a.print = some language →
        after = disk ∧ (result.exit = 0 ↔ ¬FailsEarly a e.directory disk) ∧
        (result.exit = 0 → ∃ s site r html, Rendered a e.directory disk s site r ∧
          r.languages.Nodup ∧ ⟨language, html⟩ ∈ r.documents ∧ result.stdout = html ++ "\n" ∧
          ∀ args', Unlogged args' e { a with print := none } → ∃ attempts,
            InTurn (namingOf s site) disk attempts
              ((execute args' e : StateM Disk Result) disk).2 ∧
            attempts.map (·.document) = r.documents)) ∧
      (a.print = none → ¬FailsEarly a e.directory disk →
        ∃ s site r attempts, Rendered a e.directory disk s site r ∧
          r.languages = site.dictionary.header.languages.eraseDups ∧
          InTurn (namingOf s site) disk attempts after ∧
          attempts.map (·.document) = r.documents ∧
          (∀ t ∈ attempts, t.outcome = .ok () → t.after.readText
            ((namingOf s site).path t.document.language) = .ok t.document.html) ∧
          result.eventsAt .info = (attempts.filterMap (·.written? (namingOf s site))).map
            (fun path => ⟨.info, "mulang", "Wrote " ++ path, []⟩) ∧
          (result.exit = 0 ↔ ∀ t ∈ attempts, t.outcome = .ok ()) ∧
          (result.exit ≠ 0 → result.exit = 1 ∧ ∃ failed total,
            result.eventsAt .error = [⟨.error, "mulang", toString failed ++ " of " ++
              toString total ++ " documents could not be written", []⟩] ∧
            failed + (result.eventsAt .info).length = total ∧
            total = site.dictionary.header.languages.eraseDups.length)) := by
  by_cases some? : ∃ s site r, Rendered a e.directory disk s site r
  · obtain ⟨s, site, r, rendered⟩ := some?
    have languages : r.languages = site.dictionary.header.languages.eraseDups :=
      Rendering.languages_of_ok rendered.made
    cases print : a.print with
    | some language =>
      obtain ⟨result, ran, fails, exit, shown⟩ := unlogged.prints rendered print
      refine ⟨result, disk, ran, fun early => ⟨(fails early).1, (fails early).2, rfl⟩, ?_, nofun⟩
      rintro _ ⟨⟩
      refine ⟨rfl, exit, fun succeeded => ?_⟩
      obtain ⟨html, member, same⟩ := shown succeeded
      refine ⟨s, site, r, html, rendered, Rendering.languages_nodup rendered.made, member, same, ?_⟩
      intro args' other
      -- nothing before the writing depends on the option
      have rendered' : Rendered { a with print := none } e.directory disk s site r :=
        ⟨rendered.found, rendered.valid, rendered.loaded, rendered.made⟩
      obtain ⟨_, attempts, after, wrote, inTurn, each, -⟩ := other.writes rendered' rfl
      rw [wrote]
      exact ⟨attempts, inTurn, each⟩
    | none =>
      obtain ⟨result, attempts, after, ran, inTurn, each, info, exit, error⟩ :=
        unlogged.writes rendered print
      refine ⟨result, after, ran, ?_, nofun, fun _ _ => ?_⟩
      · intro fails
        obtain ⟨language, asked, -⟩ := (failsEarly_rendered_iff rendered).mp fails
        simp [print] at asked
      · refine ⟨s, site, r, attempts, rendered, languages, inTurn, each, ?_, info, exit, ?_⟩
        · exact fun t member succeeded => inTurn.readText member succeeded
        · intro failed
          obtain ⟨status, told⟩ := error failed
          refine ⟨status, _, _, told, ?_, ?_⟩
          · rw [info, List.length_map]
            exact Report.ofAttempts_length (namingOf s site) attempts
          · rw [← languages, Rendering.languages, ← each, List.length_map, List.length_map]
  · have unrendered : ∀ s site r, ¬Rendered a e.directory disk s site r :=
      fun s site r rendered => some? ⟨s, site, r, rendered⟩
    have fails := failsEarly_of_unrendered unrendered
    obtain ⟨failure, ran⟩ := unlogged.fails unrendered
    refine ⟨_, disk, ran, fun _ => ⟨rfl, rfl, rfl⟩, ?_, fun _ kept => absurd fails kept⟩
    exact fun _ _ => ⟨rfl, iff_of_false (by simp) (not_not.mpr fails), by simp⟩

theorem exit_status_tells_partly :
    ∃ (args : List String) (e : Environment) (a : Arguments) (disk : Disk) (result : Result)
      (after : Disk),
      args = ["--html", "p.html", "--json=d.json"] ∧ Unlogged args e a ∧
      Unlogged (args ++ ["--print", "ko"]) e { a with print := some "ko" } ∧
      ¬FailsEarly a e.directory disk ∧
      (execute args e : StateM Disk Result) disk = (result, after) ∧ result.exit = 1 ∧
      result.eventsAt .info = [⟨.info, "mulang", "Wrote ./p.en.html", []⟩,
        ⟨.info, "mulang", "Wrote ./p.ko.html", []⟩] ∧
      result.eventsAt .error = [⟨.error, "mulang", "1 of 3 documents could not be written", []⟩] ∧
      (result.eventsAt .info ++ result.eventsAt .error).map Event.line = [
        "INFO mulang: Wrote ./p.en.html\n", "INFO mulang: Wrote ./p.ko.html\n",
        "ERROR mulang: 1 of 3 documents could not be written\n"] ∧
      (∃ failed total, result.eventsAt .error = [⟨.error, "mulang", toString failed ++ " of " ++
          toString total ++ " documents could not be written", []⟩] ∧
        failed + (result.eventsAt .info).length = total) ∧
      after.readText "p.ko.html" = .ok "<p m__x>é" ∧
      ∃ printed, (execute (args ++ ["--print", "ko"]) e : StateM Disk Result) disk =
        (printed, disk) ∧ printed.exit = 0 ∧ printed.stdout = "<p m__x>é\n" := by
  let e : Environment := { directory := "/" }
  let a : Arguments := { page := some "p.html", dictionary := some "d.json" }
  let dictionary :=
    "\x7bmeta: \x7blanguages: ['en', '..', 'ko', 'en']\x7d contents: \x7bx: 'é'\x7d\x7d"
  let disk : Disk := {
    entries := [(["d.json"], .file dictionary.toUTF8), (["p.html"], .file "<p m__x>".toUTF8)]
    here := [] }
  have writing : Unlogged ["--html", "p.html", "--json=d.json"] e a := ⟨by decide, rfl, rfl⟩
  have printing : Unlogged ["--html", "p.html", "--json=d.json", "--print", "ko"] e
      { a with print := some "ko" } := ⟨by decide, rfl, rfl⟩
  obtain ⟨result, after, ran, early, -, wrote⟩ := exit_status_tells writing disk
  obtain ⟨printed, _, ran', -, print, -⟩ := exit_status_tells printing disk
  obtain ⟨rfl, -, -⟩ := print "ko" rfl
  have made : result = _ := (congrArg Prod.fst ran).symm
  have left : after = _ := (congrArg Prod.snd ran).symm
  have told : printed = _ := (congrArg Prod.fst ran').symm
  have exit : result.exit = 1 := by rw [made]; decide +kernel
  have written : after.readText "p.ko.html" = .ok "<p m__x>é" := by rw [left]; decide +kernel
  have kept : ¬FailsEarly a e.directory disk := by
    intro fails
    rw [(early fails).2.2] at written
    revert written
    decide +kernel
  obtain ⟨_, _, _, _, -, -, -, -, -, -, -, error⟩ := wrote rfl kept
  obtain ⟨-, failed, total, incomplete, sum, -⟩ := error (by simp [exit])
  have info : result.eventsAt .info = [⟨.info, "mulang", "Wrote ./p.en.html", []⟩,
      ⟨.info, "mulang", "Wrote ./p.ko.html", []⟩] := by
    rw [made]
    decide +kernel
  have shown : result.eventsAt .error =
      [⟨.error, "mulang", "1 of 3 documents could not be written", []⟩] := by
    rw [made]
    decide +kernel
  refine ⟨_, e, a, disk, result, after, rfl, writing, printing, kept, ran, exit, info, shown, ?_,
    ⟨failed, total, incomplete, sum⟩, written, printed, ran', ?_⟩
  · rw [info, shown]
    decide +kernel
  · rw [told]
    decide +kernel

end Command
end PolyglotPages
