import PolyglotPages.Proofs.Command.Stages
import PolyglotPages.Proofs.Path.Pieces

/-! Options and settings files name the same things. An option stands in for its own field and for
no other, and a path that is named comes before what the settings hold in place. -/
namespace PolyglotPages

/-! ### A settings file without directories in its name -/

namespace Path

theorem join_here (path : String) : join "" path = path := by
  unfold join
  split
  · rfl
  · simp

theorem root_bare {cs : List Char} (bare : '/' ∉ cs) (notDot : cs ≠ ['.']) : root cs = [] := by
  unfold root
  split
  · simp at bare
  · exact absurd rfl notDot
  · simp at bare
  · rfl

theorem pieces_bare {cs : List Char} (bare : '/' ∉ cs) : pieces cs = [cs] := by
  have nil : pieces [] = [[]] := rfl
  have one := pieces_append_solid bare nil
  rwa [List.append_nil] at one

theorem splitLast?_bare {cs : List Char} (bare : '/' ∉ cs) (counts : isIdle cs = false) :
    splitLast? cs = some ([], cs) := by
  have notDot : cs ≠ ['.'] := by
    rintro rfl
    cases counts
  unfold splitLast?
  rw [root_bare bare notDot]
  simp [pieces_bare bare, counts, List.dropWhile]

theorem parent?_bare {path : String} (bare : '/' ∉ path.toList) (named : path ≠ "") :
    parent? path = some "" := by
  unfold parent?
  cases counts : isIdle path.toList with
  | false =>
    rw [splitLast?_bare bare counts]
  | true =>
    have dot : path.toList = ['.'] := by
      simpa [isIdle, named] using counts
    rw [dot]
    rfl

end Path

namespace Project

theorem Settings.resolvePaths_here (s : Settings) : s.resolvePaths "" = s := by
  have same : Path.join "" = id := funext Path.join_here
  simp [resolvePaths, same]

theorem loadFile_bare {path text : String} {s : Settings} {disk : Disk}
    (bare : '/' ∉ path.toList) (there : disk.readText path = .ok text)
    (parsed : Settings.parse text = .ok s) :
    (loadFile path : StateM Disk _) disk = (.ok s, disk) := by
  have named : path ≠ "" := by
    rintro rfl
    cases there
  have file : Settings.ofFile path text = .ok s := by
    simp only [Settings.ofFile, parsed, Path.parent?_bare bare named, s.resolvePaths_here]
  have read : (FileStore.readText path : StateM Disk _) disk = (.ok text, disk) := by
    rw [← there]
    rfl
  simp only [loadFile, bind, StateT.bind, read, file]
  rfl

/-! ### Settings that a run cannot tell apart -/

/-- The settings agree in all that is looked at: what is held in place counts only where no path is
named. -/
structure Settings.Alike (s s' : Settings) : Prop where
  pagePath : s.options.pagePath = s'.options.pagePath
  dictionaryPath : s.options.dictionaryPath = s'.options.dictionaryPath
  outDir : s.outDir = s'.outDir
  pattern : s.pattern = s'.pattern
  page : s'.options.pagePath = none → s.options.page = s'.options.page
  dictionary : s'.options.dictionaryPath = none → s.options.dictionary = s'.options.dictionary

theorem Settings.errors_alike {s s' : Settings} (alike : s.Alike s') : s.errors = s'.errors := by
  have page : s.pageErrors = s'.pageErrors := by
    unfold pageErrors
    rw [alike.pagePath]
    by_cases named : s'.options.pagePath = none
    · rw [alike.page named]
    · simp [named]
  have pattern : s.patternErrors = s'.patternErrors := by
    unfold patternErrors
    rw [alike.pattern]
  unfold errors
  rw [page, pattern]

end Project

namespace Site

variable {m : Type → Type} [Monad m] [FileStore m]

theorem load_alike {s s' : Project.Settings} (alike : s.Alike s') :
    (load s.options : m (Except InputError Site)) = load s'.options := by
  have page : (readPage s.options : m _) = readPage s'.options := by
    unfold readPage
    rw [alike.pagePath]
    cases named : s'.options.pagePath with
    | none => rw [alike.page named]
    | some path => rfl
  have dictionary : (chooseDictionary s.options : m _) = chooseDictionary s'.options := by
    unfold chooseDictionary
    rw [alike.dictionaryPath]
    cases named : s'.options.dictionaryPath with
    | none => rw [alike.dictionary named]
    | some path => rfl
  unfold load
  rw [page, dictionary]

end Site

namespace Command

/-! ### Options in place of fields -/

/-- The settings `s'` are `s` with what the options name in the place of what it stands for. What is
held in place may be another where an option names a path. -/
structure Replaced (a : Arguments) (s s' : Project.Settings) : Prop where
  pagePath : s'.options.pagePath = a.page.or s.options.pagePath
  dictionaryPath : s'.options.dictionaryPath = a.dictionary.or s.options.dictionaryPath
  outDir : s'.outDir = a.outDir.getD s.outDir
  pattern : s'.pattern = a.pattern.getD s.pattern
  page : a.page = none → s'.options.page = s.options.page
  dictionary : a.dictionary = none → s'.options.dictionary = s.options.dictionary

theorem Replaced.alike {a : Arguments} {s s' : Project.Settings} (replaced : Replaced a s s') :
    (a.override s).Alike s' where
  pagePath := replaced.pagePath.symm
  dictionaryPath := replaced.dictionaryPath.symm
  outDir := replaced.outDir.symm
  pattern := replaced.pattern.symm
  page := by
    intro unnamed
    rw [replaced.pagePath, Option.or_eq_none_iff] at unnamed
    exact (replaced.page unnamed.1).symm
  dictionary := by
    intro unnamed
    rw [replaced.dictionaryPath, Option.or_eq_none_iff] at unnamed
    exact (replaced.dictionary unnamed.1).symm

structure NamesNoField (a : Arguments) : Prop where
  page : a.page = none
  dictionary : a.dictionary = none
  outDir : a.outDir = none
  pattern : a.pattern = none

theorem NamesNoField.override {a : Arguments} (names : NamesNoField a) (s : Project.Settings) :
    a.override s = s := by
  simp [Arguments.override, names.page, names.dictionary, names.outDir, names.pattern]

/-! ### Runs -/

theorem findSettings_bare {a : Arguments} {c text : String} {s : Project.Settings} {disk : Disk}
    (config : a.config = some c) (bare : '/' ∉ c.toList) (there : disk.readText c = .ok text)
    (parsed : Project.Settings.parse text = .ok s) (directory : String) :
    (findSettings a directory : StateM Disk _) disk = ((a.override s).validate, disk) := by
  have loaded := Project.loadFile_bare bare there parsed
  have updated : ((⟨s, some c⟩ : Project.Holder).update (a.override s)).map (·.settings) =
      (a.override s).validate := by
    unfold Project.Holder.update
    cases (a.override s).validate with
    | error e => rfl
    | ok s => rfl
  simp only [findSettings, Project.Holder.load, config, bind, StateT.bind, loaded]
  exact congrArg (·, disk) updated

theorem run_alike {a a' : Arguments} {s s' : Project.Settings} {disk : Disk} {directory : String}
    (found : (findSettings a directory : StateM Disk _) disk = (s.validate, disk))
    (found' : (findSettings a' directory : StateM Disk _) disk = (s'.validate, disk))
    (alike : s.Alike s') (print : a.print = a'.print) :
    (run a directory : StateM Disk Outcome) disk = (run a' directory : StateM Disk Outcome) disk := by
  simp only [run, bind, StateT.bind, found, found']
  unfold Project.Settings.validate Project.Settings.isValid
  rw [Project.Settings.errors_alike alike]
  by_cases valid : s'.errors.isEmpty = true
  · rw [if_pos valid, if_pos valid]
    have site : (findSite s : StateM Disk _) = findSite s' := by
      unfold findSite
      rw [Site.load_alike alike]
    simp only [site, print, alike.outDir, alike.pattern]
  · rw [if_neg valid, if_neg valid]

/-- The command takes its settings from a file in the directory it works in, and keeps no log file. -/
structure TakesSettings (args : List String) (e : Environment) (disk : Disk) (a : Arguments)
    (s : Project.Settings) : Prop where
  read : Arguments.read args e.logFile = .ok a
  noLog : a.logFile = none
  file : ∃ name text, a.config = some name ∧ '/' ∉ name.toList ∧ disk.readText name = .ok text ∧
    Project.Settings.parse text = .ok s

variable {args args' : List String} {e : Environment} {disk : Disk} {a a' : Arguments}
  {s s' : Project.Settings}

theorem TakesSettings.found (takes : TakesSettings args e disk a s) :
    (findSettings a e.directory : StateM Disk _) disk = ((a.override s).validate, disk) := by
  obtain ⟨name, text, config, bare, there, parsed⟩ := takes.file
  exact findSettings_bare config bare there parsed e.directory

theorem TakesSettings.execute_eq (takes : TakesSettings args e disk a s) :
    (execute args e : StateM Disk Result) disk =
      match e.filter? a.verbose with
      | none => ({ exit := noLogStatus }, disk)
      | some filter =>
        let (outcome, after) := (run a e.directory : StateM Disk Outcome) disk
        (outcome.toResult filter none, after) :=
  Command.execute_eq takes.read takes.noLog disk

/-- A command that names some fields by options does what the command does whose settings file holds
them: it ends alike, prints and tells the same, and leaves the same files. -/
theorem options_for_fields (takes : TakesSettings args e disk a s)
    (takes' : TakesSettings args' e disk a' s') (fieldless : NamesNoField a')
    (replaced : Replaced a s s') (print : a.print = a'.print) :
    (execute args e : StateM Disk Result) disk = (execute args' e : StateM Disk Result) disk := by
  have found' := takes'.found
  rw [fieldless.override] at found'
  rw [takes.execute_eq, takes'.execute_eq, run_alike takes.found found' replaced.alike print]
  have shown := e.filter?_admits a.verbose a'.verbose
  cases filter : e.filter? a.verbose with
  | none =>
    have filter' : e.filter? a'.verbose = none := by simpa [filter, eq_comm] using shown
    rw [filter']
  | some f =>
    rw [filter, Option.map_some, eq_comm, Option.map_eq_some_iff] at shown
    obtain ⟨f', filter', same⟩ := shown
    simp only [filter', Outcome.toResult_admits same]

theorem options_for_fields_path_first :
    ∃ (args args' : List String) (e : Environment) (disk : Disk) (a a' : Arguments)
      (s s' : Project.Settings),
      args = ["-c", "a.json", "--html", "p.html", "--json=d.json", "-oout"] ∧
      args' = ["--config", "b.json"] ∧
      TakesSettings args e disk a s ∧ TakesSettings args' e disk a' s' ∧ NamesNoField a' ∧
      Replaced a s s' ∧ s.options.page = "<i m__x>" ∧ s'.options.page = "" ∧
      (execute args e : StateM Disk Result) disk = (execute args' e : StateM Disk Result) disk ∧
      ((execute args e : StateM Disk Result) disk).1.exit = 0 ∧
      ((execute args e : StateM Disk Result) disk).2.readText "out/en.p" = .ok "<p m__x>é" := by
  let inPlace := "\x7b\"sourceHtml\": \"<i m__x>\", \"pattern\": \"\x7blang\x7d.\x7bstem\x7d\"\x7d"
  let byPath := "\x7b\"sourceHtmlPath\": \"p.html\", \"targetJsonPath\": \"d.json\", " ++
    "\"outDir\": \"out\", \"pattern\": \"\x7blang\x7d.\x7bstem\x7d\"\x7d"
  let dictionary := "\x7bmeta: \x7blanguages: ['en']\x7d contents: \x7bx: 'é'\x7d\x7d"
  let disk : Disk := {
    entries := [(["a.json"], .file inPlace.toUTF8), (["b.json"], .file byPath.toUTF8),
      (["d.json"], .file dictionary.toUTF8), (["p.html"], .file "<p m__x>".toUTF8)]
    here := [] }
  let a : Arguments := {
    config := some "a.json", page := some "p.html", dictionary := some "d.json"
    outDir := some "out" }
  let fields (s : Project.Settings) :=
    (s.options.page, s.options.pagePath, s.options.dictionaryPath, s.outDir, s.pattern)
  have held : fields <$> Project.Settings.parse inPlace =
      .ok ("<i m__x>", none, none, ".", "\x7blang\x7d.\x7bstem\x7d") := by decide +kernel
  have held' : fields <$> Project.Settings.parse byPath =
      .ok ("", some "p.html", some "d.json", "out", "\x7blang\x7d.\x7bstem\x7d") := by
    decide +kernel
  obtain ⟨s, parsed, same⟩ := map_eq_ok_iff.mp held
  obtain ⟨s', parsed', same'⟩ := map_eq_ok_iff.mp held'
  simp only [fields, Prod.mk.injEq] at same same'
  have takes : TakesSettings ["-c", "a.json", "--html", "p.html", "--json=d.json", "-oout"]
      { directory := "/" } disk a s :=
    ⟨by decide, rfl, "a.json", inPlace, rfl, by decide, by decide +kernel, parsed⟩
  have takes' : TakesSettings ["--config", "b.json"] { directory := "/" } disk
      { config := some "b.json" } s' :=
    ⟨by decide, rfl, "b.json", byPath, rfl, by decide, by decide +kernel, parsed'⟩
  have replaced : Replaced a s s' := {
    pagePath := by rw [same.2.1, same'.2.1]; rfl
    dictionaryPath := by rw [same.2.2.1, same'.2.2.1]; rfl
    outDir := by rw [same.2.2.2.1, same'.2.2.2.1]; rfl
    pattern := by rw [same.2.2.2.2, same'.2.2.2.2]; rfl
    page := nofun
    dictionary := nofun }
  have equal := options_for_fields takes takes' ⟨rfl, rfl, rfl, rfl⟩ replaced rfl
  refine ⟨_, _, _, disk, a, _, s, s', rfl, rfl, takes, takes', ⟨rfl, rfl, rfl, rfl⟩, replaced,
    same.1, same'.1, equal, ?_⟩
  decide +kernel

end Command

end PolyglotPages
