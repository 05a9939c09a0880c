import PolyglotPages.Proofs.Chain
import PolyglotPages.Proofs.Disk.Reading
import PolyglotPages.Site

/-! What a site is made from. The page and the dictionary are read, and the tree stays as it is; a
site comes of it unless one of the two cannot be had. -/
namespace PolyglotPages.Site
open FileStore (Reads reads_pure reads_bind)

theorem readInput_reads (path : String) : Reads (readInput path) :=
  reads_bind (FileStore.readText_reads path) fun _ => reads_pure _

theorem readPage_reads (o : Project.Options) : Reads (readPage o) := by
  unfold readPage
  cases o.pagePath with
  | none => exact reads_pure _
  | some path => exact reads_bind (readInput_reads path) fun _ => reads_pure _

theorem chooseDictionary_reads (o : Project.Options) : Reads (chooseDictionary o) := by
  unfold chooseDictionary
  cases o.dictionaryPath with
  | none => exact reads_pure _
  | some path => exact reads_bind (readInput_reads path) fun _ => reads_pure _

theorem load_reads (o : Project.Options) : Reads (load o) := by
  refine reads_bind (readPage_reads o) fun page => ?_
  cases page with
  | error e => exact reads_pure _
  | ok page =>
    refine reads_bind (chooseDictionary_reads o) fun dictionary => ?_
    cases dictionary with
    | error e => exact reads_pure _
    | ok dictionary => exact reads_pure _

theorem readPage_fst (o : Project.Options) (d : Disk) : ((readPage o : StateM Disk _) d).1 =
    match o.pagePath with
    | none => .ok (o.page, none)
    | some path =>
      match d.readText path with
      | .error fault => .error (.unreadable path fault)
      | .ok text => .ok (text, Path.stem? path) := by
  unfold readPage
  cases o.pagePath with
  | none => rfl
  | some path =>
    change ((d.readText path).mapError (InputError.unreadable path)).map _ = _
    dsimp only
    cases d.readText path with
    | error fault => rfl
    | ok text => rfl

theorem chooseDictionary_fst (o : Project.Options) (d : Disk) :
    ((chooseDictionary o : StateM Disk _) d).1 =
      match o.dictionaryPath with
      | none => .ok o.dictionary
      | some path =>
        match d.readText path with
        | .error fault => .error (.unreadable path fault)
        | .ok text => Dictionary.parse ("'" ++ path ++ "'") text := by
  unfold chooseDictionary
  cases o.dictionaryPath with
  | none => rfl
  | some path =>
    change ((d.readText path).mapError (InputError.unreadable path)).bind _ = _
    dsimp only
    cases d.readText path with
    | error fault => rfl
    | ok text => rfl

theorem load_fst (o : Project.Options) (d : Disk) : ((load o : StateM Disk _) d).1 = do
    let (text, stem?) ← ((readPage o : StateM Disk _) d).1
    let dictionary ← ((chooseDictionary o : StateM Disk _) d).1
    return {
      page := .normalize text, dictionary, stem?
      documentMode := o.documentMode, parseMode := o.parseMode, insertMode := o.insertMode } := by
  have page := (readPage_reads o).eq d
  have chosen := (chooseDictionary_reads o).eq d
  simp only [load, bind, StateT.bind]
  rw [page]
  generalize ((readPage o : StateM Disk _) d).1 = read
  cases read with
  | error e => rfl
  | ok read =>
    simp only [StateT.bind]
    rw [chosen]
    generalize ((chooseDictionary o : StateM Disk _) d).1 = answered
    cases answered with
    | error e => rfl
    | ok dictionary => rfl

inductive InputsFail (o : Project.Options) (d : Disk) : Prop
  | page {path : String} {fault : Disk.Fault} (named : o.pagePath = some path)
      (unreadable : d.readText path = .error fault)
  | dictionary {path : String} {fault : Disk.Fault} (named : o.dictionaryPath = some path)
      (unreadable : d.readText path = .error fault)
  | decoding {path text : String} {e : InputError} (named : o.dictionaryPath = some path)
      (read : d.readText path = .ok text)
      (malformed : Dictionary.parse ("'" ++ path ++ "'") text = .error e)

section
variable {o : Project.Options} {d : Disk}

theorem readPage_error_iff : (∃ e, ((readPage o : StateM Disk _) d).1 = .error e) ↔
    ∃ path fault, o.pagePath = some path ∧ d.readText path = .error fault := by
  rw [readPage_fst]
  cases o.pagePath with
  | none => simp
  | some path =>
    cases read : d.readText path with
    | error fault => simp [read]
    | ok text => simp [read]

theorem chooseDictionary_error_iff :
    (∃ e, ((chooseDictionary o : StateM Disk _) d).1 = .error e) ↔
      (∃ path fault, o.dictionaryPath = some path ∧ d.readText path = .error fault) ∨
      ∃ path text e, o.dictionaryPath = some path ∧ d.readText path = .ok text ∧
        Dictionary.parse ("'" ++ path ++ "'") text = .error e := by
  rw [chooseDictionary_fst]
  cases o.dictionaryPath with
  | none => simp
  | some path =>
    cases read : d.readText path with
    | error fault => simp [read]
    | ok text => simp [read]

theorem load_error_iff :
    (∃ e, ((load o : StateM Disk _) d).1 = .error e) ↔ InputsFail o d := by
  have either : (∃ e, ((load o : StateM Disk _) d).1 = .error e) ↔
      (∃ e, ((readPage o : StateM Disk _) d).1 = .error e) ∨
        ∃ e, ((chooseDictionary o : StateM Disk _) d).1 = .error e := by
    rw [load_fst]
    cases ((readPage o : StateM Disk _) d).1 with
    | error e => simp [bind, Except.bind]
    | ok read =>
      cases ((chooseDictionary o : StateM Disk _) d).1 with
      | error e => simp [bind, Except.bind]
      | ok dictionary => simp [bind, Except.bind, pure, Except.pure]
  rw [either, readPage_error_iff, chooseDictionary_error_iff]
  constructor
  · rintro (⟨_, _, named, unreadable⟩ | ⟨_, _, named, unreadable⟩ | ⟨_, _, _, named, read, bad⟩)
    · exact .page named unreadable
    · exact .dictionary named unreadable
    · exact .decoding named read bad
  · rintro (⟨named, unreadable⟩ | ⟨named, unreadable⟩ | ⟨named, read, bad⟩)
    · exact .inl ⟨_, _, named, unreadable⟩
    · exact .inr (.inl ⟨_, _, named, unreadable⟩)
    · exact .inr (.inr ⟨_, _, _, named, read, bad⟩)

end

end PolyglotPages.Site
