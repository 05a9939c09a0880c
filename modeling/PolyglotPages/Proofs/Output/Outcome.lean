import PolyglotPages.Output.Writing
import PolyglotPages.Proofs.Disk.Later

/-! What writing documents comes to, one document after the other. Each is either written, and then
its path leads to a file with its text, or it failed, and then no file has changed. -/
namespace PolyglotPages
open Disk (Later Reaches)

namespace FileStore

def Grows {α : Type} (program : StateM Disk α) : Prop := ∀ d, Later [] d (program d).2

theorem grows_pure {α : Type} (a : α) : Grows (pure a) := fun d => .refl [] d

theorem grows_bind {α β : Type} {first : StateM Disk α} {next : α → StateM Disk β}
    (one : Grows first) (others : ∀ a, Grows (next a)) : Grows (first >>= next) :=
  fun d => (one d).trans (others (first d).1 (first d).2)

theorem isDirectory_grows (path : String) : Grows (isDirectory path) := fun d => .refl [] d

theorem makeDirectory_grows (path : String) : Grows (makeDirectory path) := by
  intro d
  show Later [] d (Disk.change (·.makeDirectory path) d).2
  simp only [Disk.change]
  split
  · rename_i made
    exact Disk.makeDirectory_later made
  · exact .refl [] d

theorem settleDirectory_grows (path : String) (made : Except Disk.Fault Unit) :
    Grows (settleDirectory path made) := by
  unfold settleDirectory
  split
  · refine grows_bind (isDirectory_grows path) fun present => ?_
    split <;> exact grows_pure _
  · exact grows_pure _

theorem makeDirectoriesTo_grows (fuel : Nat) (path : String) :
    Grows (makeDirectoriesTo fuel path) := by
  induction fuel generalizing path with
  | zero => exact grows_pure _
  | succ fuel ih =>
    unfold makeDirectoriesTo
    split
    · exact grows_pure _
    · refine grows_bind (makeDirectory_grows path) fun made => ?_
      split
      · split
        · exact grows_pure _
        · refine grows_bind (ih _) fun above => ?_
          split
          · exact grows_pure _
          · exact grows_bind (makeDirectory_grows path) (settleDirectory_grows path)
      · exact settleDirectory_grows path made

end FileStore

namespace Output
open FileStore (Grows)

/-- A text has been written to a path, and no other file has changed. -/
structure Wrote (path text : String) (d d' : Disk) : Prop where
  later : Later [d.placeOf path] d d'
  reached : Reaches d' path
  held : d'.entry? (d.placeOf path) = some (.file text.toUTF8)

def Tried {ε : Type} (path text : String) (d : Disk) : Except ε Unit × Disk → Prop
  | (.ok (), d') => Wrote path text d d'
  | (.error _, d') => Later [] d d'

theorem Tried.after {ε : Type} {path text : String} {d d' : Disk} (grown : Later [] d d')
    {result : Except ε Unit × Disk} (tried : Tried path text d' result) :
    Tried path text d result := by
  obtain ⟨outcome, d''⟩ := result
  cases outcome with
  | error e => exact grown.trans tried
  | ok done =>
    have same := grown.placeOf path
    exact ⟨same ▸ grown.trans tried.later, tried.reached, same ▸ tried.held⟩

theorem writeText_tried (path text : String) (d : Disk) :
    Tried path text d
      ((FileStore.writeText path text : StateM Disk (Except Disk.Fault Unit)) d) := by
  show Tried path text d (Disk.change (·.write path text.toUTF8) d)
  simp only [Disk.change]
  split
  · rename_i written
    obtain ⟨later, reached, held⟩ := Disk.write_later written
    exact ⟨later, reached, held⟩
  · exact Later.refl [] d

theorem writeFile_tried (path text : String) (d : Disk) :
    Tried path text d ((writeFile path text : StateM Disk (Except Disk.Fault Unit)) d) := by
  unfold writeFile
  cases Path.parent? path with
  | none => exact writeText_tried path text d
  | some directory =>
    -- the directories are made first, which changes no file, even where making them fails
    have grown := FileStore.makeDirectoriesTo_grows (directory.length + 1) directory d
    simp only [bind, StateT.bind, FileStore.makeDirectories]
    generalize (FileStore.makeDirectoriesTo (directory.length + 1) directory :
      StateM Disk (Except Disk.Fault Unit)) d = made at grown ⊢
    obtain ⟨outcome, d'⟩ := made
    cases outcome with
    | error e => exact grown
    | ok done => exact (writeText_tried path text d').after grown

theorem writeDocument_tried (path : String) (document : Document) (d : Disk) :
    Tried path document.html d
      ((writeDocument path document : StateM Disk (Except WriteError Unit)) d) := by
  unfold writeDocument
  cases isUsable document.language with
  | false => exact Later.refl [] d
  | true =>
    have tried := writeFile_tried path document.html d
    simp only [if_true, bind, StateT.bind]
    generalize (writeFile path document.html : StateM Disk (Except Disk.Fault Unit)) d = made
      at tried ⊢
    obtain ⟨outcome, d'⟩ := made
    cases outcome with
    | error e => exact tried
    | ok done => exact tried

theorem writeDocument_usable {path : String} {document : Document} {d d' : Disk}
    (wrote : (writeDocument path document : StateM Disk (Except WriteError Unit)) d =
      (.ok (), d')) : isUsable document.language = true := by
  unfold writeDocument at wrote
  cases usable : isUsable document.language with
  | true => rfl
  | false =>
    rw [usable] at wrote
    have refused : Except.error (WriteError.unusableLanguage document.language) = .ok () :=
      congrArg Prod.fst wrote
    cases refused

def Naming.place (n : Naming) (d : Disk) (document : Document) : Disk.Place :=
  d.placeOf (n.path document.language)

/-- Of all the documents, `kept` have been written: each path leads to a file, and the file has the
text of the document that was written to it last. -/
structure Kept (n : Naming) (d : Disk) (documents : List Document) (result : Report × Disk)
    (kept : List Document) : Prop where
  part : kept.Sublist documents
  written : result.1.written = kept.map fun document => n.path document.language
  others : ∀ document ∈ documents, document ∈ kept ∨ ∃ failure ∈ result.1.failed,
    failure.language = document.language ∧ failure.path = n.path document.language
  usable : ∀ document ∈ kept, isUsable document.language = true
  later : Later (kept.map (n.place d)) d result.2
  reached : ∀ document ∈ kept, Reaches result.2 (n.path document.language)
  last : ∀ front document back, kept = front ++ document :: back →
    (∀ other ∈ back, n.place d other ≠ n.place d document) →
    Disk.entry? result.2 (n.place d document) = some (.file document.html.toUTF8)

theorem Naming.place_later {changed : List Disk.Place} {d d' : Disk} (later : Later changed d d')
    (n : Naming) : n.place d' = n.place d := by
  funext document
  exact later.placeOf _

theorem Kept.after_failure {n : Naming} {d d' : Disk} {document : Document}
    {rest kept : List Document} {report : Report} {last : Disk} {e : WriteError}
    (grown : Later [] d d') (more : Kept n d' rest (report, last) kept) :
    Kept n d (document :: rest)
      (report.cons document.language (n.path document.language) (.error e), last) kept where
  part := more.part.cons document
  written := more.written
  others := by
    intro other member
    rcases List.mem_cons.mp member with first | later
    · subst first
      exact .inr ⟨_, List.mem_cons_self, rfl, rfl⟩
    · rcases more.others other later with here | ⟨failure, there, same⟩
      · exact .inl here
      · exact .inr ⟨failure, List.mem_cons_of_mem _ there, same⟩
  usable := more.usable
  later := by
    have later := grown.trans more.later
    rwa [Naming.place_later grown] at later
  reached := more.reached
  last := by
    have last := more.last
    rwa [Naming.place_later grown] at last

theorem Kept.after_success {n : Naming} {d d' : Disk} {document : Document}
    {rest kept : List Document} {report : Report} {last : Disk}
    (usable : isUsable document.language = true)
    (wrote : Wrote (n.path document.language) document.html d d')
    (more : Kept n d' rest (report, last) kept) :
    Kept n d (document :: rest)
      (report.cons document.language (n.path document.language) (.ok ()), last)
      (document :: kept) where
  part := more.part.cons_cons document
  written := congrArg (n.path document.language :: ·) more.written
  others := by
    intro other member
    rcases List.mem_cons.mp member with first | later
    · exact .inl (by simp [first])
    · rcases more.others other later with here | failed
      · exact .inl (List.mem_cons_of_mem _ here)
      · exact .inr failed
  usable := List.forall_mem_cons.mpr ⟨usable, more.usable⟩
  later := by
    have later := wrote.later.trans more.later
    rwa [Naming.place_later wrote.later] at later
  reached := List.forall_mem_cons.mpr ⟨more.later.reaches wrote.reached, more.reached⟩
  last := by
    intro front other back whole alone
    have same := Naming.place_later wrote.later n
    cases front with
    | nil =>
      obtain ⟨first, rest⟩ := List.cons.inj whole
      subst first rest
      refine more.later.file ?_ wrote.held
      rw [same]
      intro member
      obtain ⟨other, there, place⟩ := List.mem_map.mp member
      exact alone other there place
    | cons first front =>
      have last := more.last front other back (List.cons.inj whole).2
      rw [same] at last
      exact last alone

theorem writeAll_kept (n : Naming) (documents : List Document) (d : Disk) :
    ∃ kept, Kept n d documents ((writeAll n documents : StateM Disk Report) d) kept := by
  induction documents generalizing d with
  | nil =>
    exact ⟨[], List.Sublist.slnil, rfl, by simp, by simp, .refl [] d, by simp, by simp⟩
  | cons document rest ih =>
    have tried := writeDocument_tried (n.path document.language) document d
    simp only [writeAll, bind, StateT.bind]
    rcases wrote : (writeDocument (n.path document.language) document :
      StateM Disk (Except WriteError Unit)) d with ⟨outcome, d'⟩
    rw [wrote] at tried
    -- the other documents are written to the tree that the first one leaves
    obtain ⟨kept, more⟩ := ih d'
    cases outcome with
    | error e => exact ⟨kept, more.after_failure tried⟩
    | ok done => exact ⟨document :: kept, more.after_success (writeDocument_usable wrote) tried⟩

theorem Kept.places {n : Naming} {d : Disk} {documents kept : List Document}
    {result : Report × Disk} (done : Kept n d documents result kept) :
    result.1.written.map d.placeOf = kept.map (n.place d) := by
  rw [done.written, List.map_map]
  refine List.map_congr_left fun document _ => ?_
  rw [Function.comp_apply, Naming.place]

theorem exists_last {α β : Type} (f : α → β) {xs : List α} {x : α} (member : x ∈ xs) :
    ∃ front last back, xs = front ++ last :: back ∧ f last = f x ∧ ∀ y ∈ back, f y ≠ f x := by
  induction xs generalizing x with
  | nil => simp at member
  | cons first rest ih =>
    by_cases later : ∃ y ∈ rest, f y = f x
    · obtain ⟨y, there, same⟩ := later
      obtain ⟨front, last, back, whole, value, alone⟩ := ih there
      rw [same] at value alone
      exact ⟨first :: front, last, back, by simp [whole], value, alone⟩
    · have alone : ∀ y ∈ rest, f y ≠ f x := fun y there same => later ⟨y, there, same⟩
      have here : x = first := by
        rcases List.mem_cons.mp member with here | there
        · exact here
        · exact absurd rfl (alone x there)
      exact ⟨[], first, rest, rfl, by rw [here], alone⟩

/-- Whatever path leads to a place, the file found there is that of the document written last. -/
theorem Kept.find_last {n : Naming} {d : Disk} {documents kept : List Document}
    {result : Report × Disk} (done : Kept n d documents result kept) {document : Document}
    (member : document ∈ kept) :
    ∃ last ∈ kept, n.place d last = n.place d document ∧
      ∀ other ∈ kept, n.place d other = n.place d document →
        result.2.find (n.path other.language) =
          .ok (n.place d document, .file last.html.toUTF8) := by
  obtain ⟨front, last, back, whole, same, alone⟩ := exists_last (n.place d) member
  rw [← same] at alone
  refine ⟨last, by simp [whole], same, fun other there place => ?_⟩
  have held := done.last front last back whole alone
  rw [same, ← place, ← Naming.place_later done.later] at held
  rw [← place, ← Naming.place_later done.later]
  exact (done.reached other there).find held

theorem Kept.find_written {n : Naming} {d : Disk} {documents kept : List Document}
    {result : Report × Disk} (done : Kept n d documents result kept) {path : String}
    (member : path ∈ result.1.written) :
    ∃ bytes, result.2.find path = .ok (d.placeOf path, .file bytes) := by
  rw [done.written, List.mem_map] at member
  obtain ⟨document, there, same⟩ := member
  obtain ⟨last, -, -, found⟩ := done.find_last there
  have here := found document there rfl
  rw [Naming.place, same] at here
  exact ⟨_, here⟩

theorem Kept.readText_last {n : Naming} {d : Disk} {documents kept : List Document}
    {result : Report × Disk} (done : Kept n d documents result kept) {document : Document}
    (member : document ∈ kept) :
    ∃ last ∈ kept, n.place d last = n.place d document ∧
      ∀ other ∈ kept, n.place d other = n.place d document →
        result.2.readText (n.path other.language) = .ok last.html := by
  obtain ⟨last, there, same, found⟩ := done.find_last member
  refine ⟨last, there, same, fun other another place => ?_⟩
  simp only [Disk.readText, found other another place, Disk.fromUTF8?_toUTF8]

theorem Kept.reads_back_iff {n : Naming} {d : Disk} {documents kept : List Document}
    {result : Report × Disk} (done : Kept n d documents result kept) :
    (∀ document ∈ kept, result.2.readText (n.path document.language) = .ok document.html) ↔
      ∀ a ∈ kept, ∀ b ∈ kept, n.place d a = n.place d b → a.html = b.html := by
  constructor
  · intro readBack a first b second same
    obtain ⟨last, -, -, told⟩ := done.readText_last second
    have left := (readBack a first).symm.trans (told a first same)
    have right := (readBack b second).symm.trans (told b second rfl)
    exact (Except.ok.inj left).trans (Except.ok.inj right).symm
  · intro alike document member
    obtain ⟨last, there, same, told⟩ := done.readText_last member
    rw [told document member rfl, alike last there document member same]

end Output
end PolyglotPages
