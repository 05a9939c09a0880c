import PolyglotPages.Project.Load
import PolyglotPages.Proofs.Chain
import PolyglotPages.Proofs.Disk.Reading

/-! What a load finds. It depends on one file alone: the one that is given, or else the settings
file of the directory if there is one. Whether the settings are valid is not asked; only an update
asks. -/
namespace PolyglotPages.Project
open FileStore (Reads reads_pure reads_bind)

theorem loadFile_reads (path : String) : Reads (loadFile path) := by
  refine reads_bind (FileStore.readText_reads path) fun read => ?_
  cases read with
  | error e => exact reads_pure _
  | ok text => exact reads_pure _

theorem loadDirectory_reads (directory : String) : Reads (loadDirectory directory) := by
  refine reads_bind (FileStore.isPresent_reads _) fun present => ?_
  cases present with
  | false => exact reads_pure _
  | true => exact reads_bind (loadFile_reads _) fun _ => reads_pure _

theorem loadDirectory_fst (directory : String) (d : Disk) :
    ((loadDirectory directory : StateM Disk _) d).1 =
      if d.isPresent (Path.join directory fileName) then
        (((loadFile (Path.join directory fileName) : StateM Disk _) d).1).map some
      else .ok none := by
  simp only [loadDirectory, bind, StateT.bind, FileStore.isPresent]
  cases d.isPresent (Path.join directory fileName) with
  | false => rfl
  | true => rfl

namespace Holder

theorem load_reads (explicit : Option String) (directory : String) :
    Reads (load explicit directory) := by
  cases explicit with
  | some path => exact reads_bind (loadFile_reads path) fun _ => reads_pure _
  | none => exact reads_bind (loadDirectory_reads directory) fun _ => reads_pure _

def source (d : Disk) (explicit : Option String) (directory : String) : Option String :=
  explicit.or <|
    if d.isPresent (Path.join directory fileName) then some (Path.join directory fileName)
    else none

theorem load_fst (explicit : Option String) (directory : String) (d : Disk) :
    ((load explicit directory : StateM Disk _) d).1 =
      match source d explicit directory with
      | some path => (((loadFile path : StateM Disk _) d).1).map fun s => ⟨s, some path⟩
      | none => .ok {} := by
  cases explicit with
  | some path => rfl
  | none =>
    have told := loadDirectory_fst directory d
    simp only [load, bind, StateT.bind, source, Option.none_or]
    by_cases present : d.isPresent (Path.join directory fileName) = true
    · rw [if_pos present] at told ⊢
      refine (congrArg (Except.map _) told).trans ?_
      dsimp only
      cases ((loadFile (Path.join directory fileName) : StateM Disk _) d).1 with
      | error e => rfl
      | ok s => rfl
    · rw [if_neg present] at told ⊢
      exact congrArg (Except.map _) told

theorem update_eq_ok_iff {h h' : Holder} {s : Settings} :
    h.update s = .ok h' ↔ s.isValid = true ∧ h' = { h with settings := s } := by
  unfold update Settings.validate
  by_cases valid : s.isValid = true
  · simp [valid, Except.map, eq_comm]
  · simp [valid, Except.map]

end Holder

end PolyglotPages.Project
