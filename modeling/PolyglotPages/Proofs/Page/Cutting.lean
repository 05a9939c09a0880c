import Mathlib.Data.List.Chain
import PolyglotPages.Segment

/-! Cutting at any markers, whether in order or not, within the text or beyond it. The segments tell
the markers they were cut at, and lie end to end even where the places jump back and forth. They are
stretches of the text exactly when the places do not. -/
namespace PolyglotPages
open Marker (Occurrence)

namespace Segment

def marker (s : Segment) : Occurrence := ⟨s.stop, s.name⟩

theorem cutFrom_markers (start stop : Nat) (markers : List Occurrence) :
    (cutFrom start stop markers).map marker = markers ++ [⟨stop, ""⟩] := by
  induction markers generalizing start with
  | nil => rfl
  | cons o rest ih => simp [cutFrom, marker, ih]

theorem cutFrom_length (start stop : Nat) (markers : List Occurrence) :
    (cutFrom start stop markers).length = markers.length + 1 := by
  simpa using congrArg List.length (cutFrom_markers start stop markers)

theorem cutFrom_start (start stop : Nat) (markers : List Occurrence) :
    (cutFrom start stop markers).head?.map (·.start) = some start := by
  cases markers <;> rfl

theorem cutFrom_last (start stop : Nat) (markers : List Occurrence) :
    (cutFrom start stop markers).getLast?.map marker = some ⟨stop, ""⟩ := by
  rw [← List.getLast?_map, cutFrom_markers, List.getLast?_concat]

theorem cutFrom_stop (start stop : Nat) (markers : List Occurrence) :
    (cutFrom start stop markers).getLast?.map (·.stop) = some stop := by
  simpa [Function.comp_def, marker] using
    congrArg (Option.map (·.position)) (cutFrom_last start stop markers)

theorem cutFrom_told (start stop : Nat) (markers : List Occurrence) :
    (cutFrom start stop markers).dropLast.map marker = markers := by
  rw [List.map_dropLast, cutFrom_markers, List.dropLast_concat]

theorem cutFrom_names (start stop : Nat) (markers : List Occurrence) :
    (cutFrom start stop markers).map (·.name) = markers.map (·.name) ++ [""] := by
  simpa [Function.comp_def, marker] using
    congrArg (List.map (·.name)) (cutFrom_markers start stop markers)

theorem cutFrom_joined (start stop : Nat) (markers : List Occurrence) :
    (cutFrom start stop markers).IsChain fun s t => s.stop = t.start := by
  induction markers generalizing start with
  | nil => exact List.isChain_singleton _
  | cons o rest ih =>
    have tail := ih o.position
    cases rest with
    | nil => exact List.isChain_cons_cons.mpr ⟨rfl, tail⟩
    | cons o' rest => exact List.isChain_cons_cons.mpr ⟨rfl, tail⟩

/-- Segments from `start` up to `stop`, each beginning where the one before it ends, that tell the
given markers and end without one. -/
structure CutAt (markers : List Occurrence) (start stop : Nat) (segments : List Segment) :
    Prop where
  first : segments.head?.map (·.start) = some start
  joined : segments.IsChain fun s t => s.stop = t.start
  last : segments.getLast?.map marker = some ⟨stop, ""⟩
  told : segments.dropLast.map marker = markers

theorem cutFrom_cutAt (start stop : Nat) (markers : List Occurrence) :
    CutAt markers start stop (cutFrom start stop markers) where
  first := cutFrom_start start stop markers
  joined := cutFrom_joined start stop markers
  last := cutFrom_last start stop markers
  told := cutFrom_told start stop markers

theorem CutAt.eq_cutFrom {start stop : Nat} {markers : List Occurrence} {segments : List Segment}
    (cutAt : CutAt markers start stop segments) : segments = cutFrom start stop markers := by
  induction segments generalizing start markers with
  | nil => simpa using cutAt.first
  | cons s rest ih =>
    obtain ⟨first, joined, last, told⟩ := cutAt
    obtain rfl : s.start = start := by simpa using first
    subst told
    cases rest with
    | nil =>
      have ending : s.marker = ⟨stop, ""⟩ := by simpa using last
      obtain ⟨rfl, unnamed⟩ : s.stop = stop ∧ s.name = "" := by simpa [marker] using ending
      simp [cutFrom, ← unnamed]
    | cons t rest =>
      obtain ⟨meets, more⟩ := List.isChain_cons_cons.mp joined
      have tail : CutAt ((t :: rest).dropLast.map marker) s.stop stop (t :: rest) :=
        ⟨by simp [meets], more, by simpa using last, rfl⟩
      simpa [cutFrom, marker] using ih tail

theorem cutAt_iff {start stop : Nat} {markers : List Occurrence} {segments : List Segment} :
    CutAt markers start stop segments ↔ segments = cutFrom start stop markers := by
  constructor
  · exact CutAt.eq_cutFrom
  · rintro rfl
    exact cutFrom_cutAt start stop markers

theorem cut_eq_iff {markers other : List Occurrence} {size size' : Nat} :
    cut markers size = cut other size' ↔ markers = other ∧ size = size' := by
  constructor
  · intro same
    have left : CutAt markers 0 size (cut other size') := same ▸ cutFrom_cutAt 0 size markers
    have right : CutAt other 0 size' (cut other size') := cutFrom_cutAt 0 size' other
    have ends := left.last.symm.trans right.last
    exact ⟨left.told.symm.trans right.told, by simpa using ends⟩
  · rintro ⟨rfl, rfl⟩
    rfl

/-- No segment runs backwards exactly when the places never decrease from the beginning to the
end. -/
theorem cutFrom_forward_iff (start stop : Nat) (markers : List Occurrence) :
    (∀ s ∈ cutFrom start stop markers, s.start ≤ s.stop) ↔
      (start :: (markers.map (·.position) ++ [stop])).IsChain (· ≤ ·) := by
  induction markers generalizing start with
  | nil => simp [cutFrom]
  | cons o rest ih => simp [cutFrom, ih]

theorem cut_within_iff {markers : List Occurrence} {size : Nat} :
    (∀ s ∈ cut markers size, s.start ≤ s.stop ∧ s.stop ≤ size) ↔
      (markers.map (·.position)).Pairwise (· ≤ ·) ∧ ∀ o ∈ markers, o.position ≤ size := by
  have forward : (∀ s ∈ cut markers size, s.start ≤ s.stop) ↔
      (markers.map (·.position)).Pairwise (· ≤ ·) ∧ ∀ o ∈ markers, o.position ≤ size := by
    rw [cut, cutFrom_forward_iff, List.isChain_iff_pairwise]
    simp [List.pairwise_append]
  rw [← forward]
  constructor
  · intro within s member
    exact (within s member).1
  · intro ahead s member
    refine ⟨ahead s member, ?_⟩
    have told : s.marker ∈ markers ++ [⟨size, ""⟩] := by
      rw [← cutFrom_markers 0 size markers]
      exact List.mem_map_of_mem member
    rcases List.mem_append.mp told with inside | atEnd
    · exact (forward.mp ahead).2 s.marker inside
    · have ending : s.marker = ⟨size, ""⟩ := List.mem_singleton.mp atEnd
      exact Nat.le_of_eq (congrArg Occurrence.position ending)

/-- Whatever markers a text is cut at, the segments begin at 0, lie end to end, tell the markers and
end without one at the end of the text; there is no other way to do so, and other markers or another
size give other segments. They are stretches of the text exactly when the markers stand in order
within it. -/
theorem cut_of_any_markers (markers : List Occurrence) (size : Nat) :
    (cut markers size).length = markers.length + 1 ∧
    (∀ segments, CutAt markers 0 size segments ↔ segments = cut markers size) ∧
    (∀ other size', cut markers size = cut other size' ↔ markers = other ∧ size = size') ∧
    ((∀ s ∈ cut markers size, s.start ≤ s.stop ∧ s.stop ≤ size) ↔
      (markers.map (·.position)).Pairwise (· ≤ ·) ∧ ∀ o ∈ markers, o.position ≤ size) :=
  ⟨cutFrom_length 0 size markers, fun _ => cutAt_iff, fun _ _ => cut_eq_iff, cut_within_iff⟩

-- the second marker stands before the first, which stands beyond the text
example : cut [⟨7, "b"⟩, ⟨3, "a"⟩] 5 = [⟨0, 7, "b"⟩, ⟨7, 3, "a"⟩, ⟨3, 5, ""⟩] := by decide

end Segment
end PolyglotPages
