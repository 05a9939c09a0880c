import Mathlib.Data.List.Basic
import PolyglotPages.Project.Session
import PolyglotPages.Proofs.Project.Loading

/-! Whole sessions with a holder. Only the calls that succeed count: the last of them settles what
the holder holds, and the last load among them where that came from. Between calls the tree may
change in any way, so each call finds a tree of its own. -/
namespace PolyglotPages.Project

structure Turn where
  disk : Disk
  call : Call

namespace Turn

def take (t : Turn) (h : Holder) : Except SettingsError Unit × Holder :=
  ((h.perform t.call : StateM Disk _) t.disk).1

def source (t : Turn) : Option String :=
  match t.call with
  | .load explicit directory => Holder.source t.disk explicit directory
  | .update _ => none

end Turn

namespace Turn

theorem take_eq (t : Turn) (h : Holder) : t.take h =
    match ((h.answer t.call : StateM Disk _) t.disk).1 with
    | .ok h' => (.ok (), h')
    | .error e => (.error e, h) := by
  simp only [take, Holder.perform, bind, StateT.bind]
  rcases (h.answer t.call : StateM Disk _) t.disk with ⟨answered, after⟩
  cases answered with
  | ok h' => rfl
  | error e => rfl

end Turn

section Step
variable {t : Turn} {h : Holder}

end Step

end PolyglotPages.Project
