import PolyglotPages.Project.Load

/-! A holder in use. It is asked for one thing after the other: to load settings, or to take other
ones. -/
namespace PolyglotPages.Project

inductive Call where
  | load (explicit : Option String) (directory : String)
  | update (settings : Settings)
deriving Inhabited

namespace Holder

variable {m : Type → Type} [Monad m] [FileStore m]

def answer (h : Holder) : Call → m (Except SettingsError Holder)
  | .load explicit directory => load explicit directory
  | .update s => return h.update s

def perform (h : Holder) (call : Call) : m (Except SettingsError Unit × Holder) := do
  match ← h.answer call with
  | .ok h' => return (.ok (), h')
  | .error e => return (.error e, h)

end Holder

end PolyglotPages.Project
