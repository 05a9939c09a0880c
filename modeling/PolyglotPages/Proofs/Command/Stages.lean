import PolyglotPages.Command.Run
import PolyglotPages.Proofs.Page.Inputs
import PolyglotPages.Proofs.Project.Loading

/-! The stages of a run. Settings, page and dictionary are only read, and the documents are made of
them before anything is written; so a run that gets no documents fails on the tree as it was. -/
namespace PolyglotPages.Command
open FileStore (Reads reads_pure reads_bind)

/-- The settings that a run would use, valid or not. -/
def Found (a : Arguments) (directory : String) (d : Disk) (s : Project.Settings) : Prop :=
  ∃ h, ((Project.Holder.load a.config directory : StateM Disk _) d).1 = .ok h ∧
    s = a.override h.settings

/-- What a run has made when it comes to writing or printing. -/
structure Rendered (a : Arguments) (directory : String) (d : Disk) (s : Project.Settings)
    (site : Site) (r : Rendering) : Prop where
  found : Found a directory d s
  valid : s.isValid = true
  loaded : ((Site.load s.options : StateM Disk _) d).1 = .ok site
  made : site.render = .ok r

section
variable {a : Arguments} {directory : String} {d : Disk} {s s' : Project.Settings}
  {site site' : Site} {r r' : Rendering}

theorem Found.unique (one : Found a directory d s) (other : Found a directory d s') : s = s' := by
  obtain ⟨h, loaded, rfl⟩ := one
  obtain ⟨h', loaded', rfl⟩ := other
  rw [Except.ok.inj (loaded.symm.trans loaded')]

theorem Rendered.unique (one : Rendered a directory d s site r)
    (other : Rendered a directory d s' site' r') : s = s' ∧ site = site' ∧ r = r' := by
  have sameSettings := one.found.unique other.found
  subst sameSettings
  have sameSite := Except.ok.inj (one.loaded.symm.trans other.loaded)
  subst sameSite
  exact ⟨rfl, rfl, Except.ok.inj (one.made.symm.trans other.made)⟩

/-! ### Settings and site -/

theorem findSettings_reads (a : Arguments) (directory : String) :
    Reads (findSettings a directory) :=
  reads_bind (Project.Holder.load_reads a.config directory) fun _ => reads_pure _

theorem findSite_reads (s : Project.Settings) : Reads (findSite s) :=
  reads_bind (Site.load_reads s.options) fun _ => reads_pure _

theorem findSettings_eq_ok_iff :
    ((findSettings a directory : StateM Disk _) d).1 = .ok s ↔
      Found a directory d s ∧ s.isValid = true := by
  have told : ((findSettings a directory : StateM Disk _) d).1 =
      ((Project.Holder.load a.config directory : StateM Disk _) d).1 >>= fun h =>
        (·.settings) <$> h.update (a.override h.settings) := rfl
  rw [told, bind_eq_ok_iff]
  simp only [map_eq_ok_iff, Project.Holder.update_eq_ok_iff]
  constructor
  · rintro ⟨h, loaded, h', ⟨valid, rfl⟩, rfl⟩
    exact ⟨⟨h, loaded, rfl⟩, valid⟩
  · rintro ⟨⟨h, loaded, rfl⟩, valid⟩
    exact ⟨h, loaded, _, ⟨valid, rfl⟩, rfl⟩

theorem findSite_eq_ok_iff :
    ((findSite s : StateM Disk _) d).1 = .ok (site, r) ↔
      ((Site.load s.options : StateM Disk _) d).1 = .ok site ∧ site.render = .ok r := by
  have told : ((findSite s : StateM Disk _) d).1 =
      ((Site.load s.options : StateM Disk _) d).1 >>= fun site => (site, ·) <$> site.render := rfl
  rw [told, bind_eq_ok_iff]
  simp only [map_eq_ok_iff, Prod.mk.injEq]
  constructor
  · rintro ⟨site, loaded, r, made, rfl, rfl⟩
    exact ⟨loaded, made⟩
  · rintro ⟨loaded, made⟩
    exact ⟨site, loaded, r, made, rfl, rfl⟩

/-! ### Runs -/

def namingOf (s : Project.Settings) (site : Site) : Output.Naming :=
  { site.naming s.outDir with pattern := s.pattern }

theorem run_eq (a : Arguments) (directory : String) (d : Disk) :
    (run a directory : StateM Disk Outcome) d =
      match ((findSettings a directory : StateM Disk _) d).1 with
      | .error e => (.failed [] (.settings e), d)
      | .ok s =>
        match ((findSite s : StateM Disk _) d).1 with
        | .error e => (.failed [] (.input e), d)
        | .ok (site, r) =>
          match a.print with
          | some language => (printOne language r, d)
          | none => (writeEach (namingOf s site) r : StateM Disk Outcome) d := by
  have settings := (findSettings_reads a directory).eq d
  simp only [run, bind, StateT.bind]
  rw [settings]
  generalize ((findSettings a directory : StateM Disk _) d).1 = found
  cases found with
  | error e => rfl
  | ok s =>
    have sites := (findSite_reads s).eq d
    simp only [StateT.bind]
    rw [sites]
    generalize ((findSite s : StateM Disk _) d).1 = found
    cases found with
    | error e => rfl
    | ok found =>
      obtain ⟨site, r⟩ := found
      cases a.print with
      | none => rfl
      | some language => rfl

theorem run_rendered (rendered : Rendered a directory d s site r) :
    (run a directory : StateM Disk Outcome) d =
      match a.print with
      | some language => (printOne language r, d)
      | none => (writeEach (namingOf s site) r : StateM Disk Outcome) d := by
  have settings := findSettings_eq_ok_iff.mpr ⟨rendered.found, rendered.valid⟩
  have sites := findSite_eq_ok_iff.mpr ⟨rendered.loaded, rendered.made⟩
  rw [run_eq, settings]
  simp only [sites]

theorem run_unrendered (unrendered : ∀ s site r, ¬Rendered a directory d s site r) :
    ∃ e, (run a directory : StateM Disk Outcome) d = (.failed [] e, d) := by
  rw [run_eq]
  cases settings : ((findSettings a directory : StateM Disk _) d).1 with
  | error e => exact ⟨_, rfl⟩
  | ok s =>
    obtain ⟨found, valid⟩ := findSettings_eq_ok_iff.mp settings
    cases sites : ((findSite s : StateM Disk _) d).1 with
    | error e => exact ⟨.input e, by simp only [sites]⟩
    | ok both =>
      obtain ⟨loaded, made⟩ := findSite_eq_ok_iff.mp sites
      exact absurd ⟨found, valid, loaded, made⟩ (unrendered s both.1 both.2)

end

/-! ### The whole command -/

theorem Filter.standard_admits (verbose : Bool) (e : Event) :
    (Filter.standard verbose).admits e = true := by
  have decided :
      (Filter.standard verbose).decisive? e = (Filter.standard verbose).directives[0]? := by
    simp [decisive?, standard, Directive.concerns]
  rw [admits, decided]
  cases verbose <;> cases e.level <;> rfl

/-- A verbose command would show more of finer levels only. -/
theorem Environment.filter?_admits (e : Environment) (verbose verbose' : Bool) :
    (e.filter? verbose).map Filter.admits = (e.filter? verbose').map Filter.admits := by
  have same : (Filter.standard verbose).admits = (Filter.standard verbose').admits :=
    funext fun told => by rw [Filter.standard_admits, Filter.standard_admits]
  have each (directives : List Directive) :
      (if directives = [] then Filter.standard verbose else ⟨directives⟩).admits =
        (if directives = [] then Filter.standard verbose' else ⟨directives⟩).admits := by
    split
    · exact same
    · rfl
  unfold filter? Filter.ofText?
  cases e.filter with
  | none => simp only [Option.map_some, same]
  | some text => simp only [Option.map_map, Function.comp_def, each]

theorem Outcome.toResult_admits {f f' : Filter} (same : f.admits = f'.admits) (o : Outcome)
    (logFile : Option String) : o.toResult f logFile = o.toResult f' logFile := by
  simp only [toResult, same]

theorem execute_eq {args : List String} {e : Environment} {a : Arguments}
    (read : Arguments.read args e.logFile = .ok a) (noLog : a.logFile = none) (d : Disk) :
    (execute args e : StateM Disk Result) d =
      match e.filter? a.verbose with
      | none => ({ exit := noLogStatus }, d)
      | some filter =>
        let (outcome, after) := (run a e.directory : StateM Disk Outcome) d
        (outcome.toResult filter none, after) := by
  unfold execute
  rw [read]
  simp only
  cases e.filter? a.verbose with
  | none => rfl
  | some filter =>
    simp only [runLogged, noLog, Option.map_none]
    rfl

end PolyglotPages.Command
