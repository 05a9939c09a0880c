import PolyglotPages.Disk.Store

/-! Programs that only read. They leave the tree as they found it, whatever they are told. -/
namespace PolyglotPages.FileStore

def Reads {α : Type} (program : StateM Disk α) : Prop := ∀ d, (program d).2 = d

theorem Reads.eq {α : Type} {program : StateM Disk α} (reads : Reads program) (d : Disk) :
    program d = ((program d).1, d) := Prod.ext rfl (reads d)

theorem reads_pure {α : Type} (a : α) : Reads (pure a) := fun _ => rfl

theorem reads_bind {α β : Type} {first : StateM Disk α} {next : α → StateM Disk β}
    (one : Reads first) (others : ∀ a, Reads (next a)) : Reads (first >>= next) :=
  fun d => (others (first d).1 (first d).2).trans (one d)

theorem readText_reads (path : String) : Reads (readText path) := fun _ => rfl

theorem isPresent_reads (path : String) : Reads (isPresent path) := fun _ => rfl

end PolyglotPages.FileStore
