import PolyglotPages.Site
import PolyglotPages.Proofs.Marker.Reading
import PolyglotPages.Proofs.Page.Cutting
import PolyglotPages.Proofs.Page.Documents

/-! The segments of a page lie end to end, cover it, and can all be cut out. Each ends at the place
of a marker, which is the end of a piece; what a segment holds is the pieces since the marker
before. -/
namespace PolyglotPages
open Marker
open Text (byteLength byteLength_append slice?_eq_some_iff)

/-- What stands between one marker and the next, and the name of the next; the last stretch has
none. `before` has been passed over since the last marker. -/
def stretches (before : List Char) (rest : List Char) :
    List (List Char) → List (List Char × String)
  | [] => [(before ++ rest, "")]
  | piece :: more =>
    match nameIn? piece with
    | some name => (before ++ piece, name) :: stretches [] rest more
    | none => stretches (before ++ piece) rest more

theorem stretches_whole (before rest : List Char) (ps : List (List Char)) :
    ((stretches before rest ps).map (·.1)).flatten = before ++ ps.flatten ++ rest := by
  induction ps generalizing before with
  | nil => simp [stretches]
  | cons p ps ih =>
    rw [stretches]
    split <;> simp [ih]

theorem cutFrom_stretches {page front before rest : List Char} {ps : List (List Char)}
    (whole : page = front ++ before ++ ps.flatten ++ rest) :
    (Segment.cutFrom (byteLength front) (byteLength page)
        (located (byteLength (front ++ before)) ps)).map
      (fun s => (Text.slice? page s.start s.stop, s.name)) =
    (stretches before rest ps).map fun t => (some t.1, t.2) := by
  induction ps generalizing front before with
  | nil =>
    have last : Text.slice? page (byteLength front) (byteLength page) = some (before ++ rest) :=
      slice?_eq_some_iff.mpr ⟨front, [], by simp [whole], rfl, by simp [whole]⟩
    simp [located, Segment.cutFrom, stretches, last]
  | cons p ps ih =>
    have stop : byteLength (front ++ before) + byteLength p = byteLength (front ++ before ++ p) :=
      (byteLength_append _ _).symm
    cases named : nameIn? p with
    | none =>
      have tail := @ih front (before ++ p) (by simp [whole])
      rw [← List.append_assoc] at tail
      simp only [located, named, Option.map_none, Option.toList_none, List.nil_append, stop,
        stretches]
      exact tail
    | some name =>
      have tail := @ih (front ++ before ++ p) [] (by simp [whole])
      rw [List.append_nil] at tail
      have here : Text.slice? page (byteLength front) (byteLength (front ++ before ++ p)) =
          some (before ++ p) :=
        slice?_eq_some_iff.mpr ⟨front, ps.flatten ++ rest, by simp [whole], rfl, by simp⟩
      simp only [located, named, Option.map_some, Option.toList_some, List.singleton_append, stop,
        Segment.cutFrom, List.map_cons, here, stretches, tail]

namespace Marker

/-- Between two markers there is room for the opener, the name and the `>` of the second. -/
def Apart (a b : Occurrence) : Prop := a.position + 4 + b.name.utf8ByteSize ≤ b.position

theorem located_apart {offset : Nat} {ps : List (List Char)} (closed : ∀ p ∈ ps, IsPiece p)
    (last : Occurrence) (behind : last.position ≤ offset) :
    (last :: located offset ps).IsChain Apart := by
  induction ps generalizing offset last with
  | nil => exact List.isChain_singleton _
  | cons p ps ih =>
    obtain ⟨here, more⟩ := List.forall_mem_cons.mp closed
    cases named : nameIn? p with
    | none =>
      have tail := @ih (offset + byteLength p) more last (by omega)
      simpa [located, named] using tail
    | some name =>
      have tail := ih more ⟨offset + byteLength p, name⟩ (Nat.le_refl _)
      have gap : Apart last ⟨offset + byteLength p, name⟩ := by
        obtain ⟨before, rest, marker⟩ := nameIn?_eq_some_iff.mp named
        have room := marker.size_le here
        rw [Text.byteLength_toList] at room
        simp only [Apart]
        omega
      simpa [located, named] using List.isChain_cons_cons.mpr ⟨gap, tail⟩

end Marker

namespace Markup

def IsBoundary (page : Markup) (offset : Nat) : Prop :=
  ∃ before after, page.chars = before ++ after ∧ byteLength before = offset

/-- Segments that lie end to end from the beginning of a page to its end, each with characters of
the page between its bounds. -/
structure Partitioned (page : Markup) (segments : List Segment) : Prop where
  first : segments.head?.map (·.start) = some 0
  last : segments.getLast?.map (·.stop) = some page.size
  joined : segments.IsChain fun s t => s.stop = t.start
  bounds : ∀ s ∈ segments, s.start ≤ s.stop ∧ page.IsBoundary s.start ∧ page.IsBoundary s.stop
  slices : ∃ parts : List (List Char),
    segments.map (fun s => page.slice? s.start s.stop) = parts.map some ∧ parts.flatten = page.chars

/-- Markers that stand right behind a `>` with room for each before it. -/
structure WellPlaced (page : Markup) (markers : List Occurrence) : Prop where
  behindClose : ∀ o ∈ markers, ∃ before after,
    page.chars = before ++ '>' :: after ∧ byteLength before + 1 = o.position
  room : ∀ o ∈ markers.head?, 4 + o.name.utf8ByteSize ≤ o.position
  apart : markers.IsChain Apart

theorem segments_stretches (page : Markup) :
    page.segments.map (fun s => (page.slice? s.start s.stop, s.name)) =
      (stretches [] (trailing page.chars) (pieces page.chars)).map fun t => (some t.1, t.2) := by
  rw [segments, page.markers_located]
  have whole : page.chars = [] ++ [] ++ (pieces page.chars).flatten ++ trailing page.chars := by
    simp [(cut_text page.chars).whole]
  exact cutFrom_stretches whole

theorem segments_slices (page : Markup) :
    ∃ parts : List (List Char), page.segments.map (fun s => page.slice? s.start s.stop) =
      parts.map some ∧ parts.flatten = page.chars := by
  refine ⟨(stretches [] (trailing page.chars) (pieces page.chars)).map (·.1), ?_, ?_⟩
  · have slices := congrArg (List.map (·.1)) page.segments_stretches
    simpa [List.map_map, Function.comp_def] using slices
  · rw [stretches_whole, List.nil_append, (cut_text page.chars).whole]

theorem segments_slice {page : Markup} {s : Segment} (member : s ∈ page.segments) :
    ∃ t, page.slice? s.start s.stop = some t := by
  obtain ⟨parts, slices, -⟩ := page.segments_slices
  have listed : page.slice? s.start s.stop ∈ parts.map some := by
    rw [← slices]
    exact List.mem_map_of_mem member
  obtain ⟨t, -, same⟩ := List.mem_map.mp listed
  exact ⟨t, same.symm⟩

theorem slice?_bounds {page : Markup} {start stop : Nat} {t : List Char}
    (cut : page.slice? start stop = some t) :
    start ≤ stop ∧ page.IsBoundary start ∧ page.IsBoundary stop := by
  obtain ⟨a, b, whole, sizeA, sizeT⟩ := slice?_eq_some_iff.mp cut
  refine ⟨?_, ⟨a, t ++ b, by simp [whole], sizeA⟩, ⟨a ++ t, b, whole, sizeT⟩⟩
  rw [byteLength_append] at sizeT
  omega

theorem segments_partitioned (page : Markup) : page.Partitioned page.segments where
  first := Segment.cutFrom_start 0 page.size page.markers
  last := Segment.cutFrom_stop 0 page.size page.markers
  joined := Segment.cutFrom_joined 0 page.size page.markers
  bounds := by
    intro s member
    obtain ⟨t, cut⟩ := segments_slice member
    exact slice?_bounds cut
  slices := page.segments_slices

theorem marker_behind_close {page : Markup} {o : Occurrence} (member : o ∈ page.markers) :
    ∃ before after, page.chars = before ++ '>' :: after ∧ byteLength before + 1 = o.position := by
  rw [page.markers_located] at member
  obtain ⟨front, piece, back, cutHere, -, place⟩ := located_member member
  have cut := cut_text page.chars
  obtain ⟨body, -, same⟩ := cut.closed piece (by simp [cutHere])
  have closeSize : byteLength ['>'] = 1 := by decide
  refine ⟨front.flatten ++ body, back.flatten ++ trailing page.chars, ?_, ?_⟩
  · have whole := cut.whole
    rw [cutHere, same] at whole
    simpa using whole.symm
  · rw [place, same, byteLength_append, byteLength_append, closeSize]
    omega

theorem markers_wellPlaced (page : Markup) : page.WellPlaced page.markers := by
  -- the beginning of the page does for a marker in front of the first one
  have spaced := located_apart (cut_text page.chars).closed ⟨0, ""⟩ (Nat.le_refl 0)
  rw [← page.markers_located] at spaced
  constructor
  · intro o member
    exact marker_behind_close member
  · intro o head
    obtain ⟨rest, found⟩ := List.head?_eq_some_iff.mp head
    rw [found] at spaced
    have gap := (List.isChain_cons_cons.mp spaced).1
    simp only [Apart] at gap
    omega
  · exact spaced.tail

end Markup

theorem Site.render_inside {site : Site} {r : Rendering} (made : site.render = .ok r)
    (s : Segment) : Warning.segmentOutside s ∉ r.warnings := by
  intro reported
  unfold render Rendering.ofSegments at made
  split at made
  · rw [← Except.ok.inj made] at reported
    obtain ⟨member, outside⟩ := Document.renderFrom_outside reported
    obtain ⟨t, cut⟩ := Markup.segments_slice member
    simp [cut] at outside
  · simp at made

/-- The segments of a page partition it, its markers stand behind closing brackets with room for
their names, and no rendering ever meets a segment that it cannot cut out. -/
theorem segments_partition_page (raw : String) :
    (Markup.normalize raw).segments.length = (Markup.normalize raw).markers.length + 1 ∧
      (Markup.normalize raw).Partitioned (Markup.normalize raw).segments ∧
      (Markup.normalize raw).WellPlaced (Markup.normalize raw).markers ∧
      ∀ (site : Site) (r : Rendering), site.render = .ok r →
        ∀ s, Warning.segmentOutside s ∉ r.warnings := by
  refine ⟨?_, Markup.segments_partitioned _, Markup.markers_wellPlaced _, ?_⟩
  · exact Segment.cutFrom_length _ _ _
  · intro site r made s
    exact Site.render_inside made s

theorem segments_partition_page_accented :
    ∃ (site : Site) (r : Rendering), site.page = .normalize "<p id='m__a'>\n é</p>" ∧
      site.render = .ok r ∧ r.documents = [⟨"en", "<p id='m__a'>x é</p>"⟩] ∧
      ∀ s, Warning.segmentOutside s ∉ r.warnings := by
  let site : Site := {
    page := .normalize "<p id='m__a'>\n é</p>"
    dictionary := {
      header := { languages := ["en"] }
      contents := .ofEntries [("a", .shared "x")] } }
  refine ⟨site, _, rfl, rfl, by decide, ?_⟩
  exact (segments_partition_page "<p id='m__a'>\n é</p>").2.2.2 site _ rfl

end PolyglotPages
