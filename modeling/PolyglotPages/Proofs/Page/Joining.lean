import PolyglotPages.Proofs.Page.Filling

/-! Texts joined at the end of a tag. Nothing of the first text reaches into the second: no run of
white space, no marker that waits for its `>`, and no segment. -/
namespace PolyglotPages
open Marker
open Text (byteLength)

def EndsWithClose (text : List Char) : Prop := text.getLast? = some '>'

theorem endsWithClose_iff {text : List Char} :
    EndsWithClose text ↔ ∃ front, text = front ++ ['>'] :=
  List.getLast?_eq_some_iff

namespace Marker

theorem trailing_of_close {text : List Char} (closed : EndsWithClose text) :
    trailing text = [] := by
  obtain ⟨front, same⟩ := endsWithClose_iff.mp closed
  rw [same, trailing_body]
  rfl

theorem cut_append_close {a : List Char} (closed : EndsWithClose a) (b : List Char) :
    Cut (a ++ b) (pieces a ++ pieces b) (trailing b) := by
  have left := cut_text a
  rw [trailing_of_close closed] at left
  exact cut_append left (cut_text b)

theorem located_append_close {a : List Char} (closed : EndsWithClose a) (b : List Char) :
    located 0 (pieces (a ++ b)) =
      located 0 (pieces a) ++ (located 0 (pieces b)).map (·.shift (byteLength a)) := by
  have whole : (pieces a).flatten = a := by
    have := (cut_text a).whole
    rwa [trailing_of_close closed, List.append_nil] at this
  rw [(cut_append_close closed b).unique.1, located_append, located_shift, whole]

end Marker

theorem Dictionary.filled_append_close (d : Dictionary) (index : Nat) {a : List Char}
    (closed : EndsWithClose a) (b : List Char) :
    d.filled index (a ++ b) = d.filled index a ++ d.filled index b := by
  obtain ⟨joined, last⟩ := (cut_append_close closed b).unique
  simp [filled, joined, last, trailing_of_close closed]

namespace Text

theorem squeeze_of_close {a : List Char} (closed : EndsWithClose a) (b : List Char) :
    EndsWithClose (squeeze a) ∧ squeeze (a ++ b) = squeeze a ++ squeeze b := by
  obtain ⟨front, same⟩ := endsWithClose_iff.mp closed
  have solid : isBlank '>' = false := by decide
  have kept : squeeze (front ++ ['>']) = squeeze front ++ ['>'] :=
    squeezeFrom_append_solid false front [] solid
  rw [same]
  exact ⟨endsWithClose_iff.mpr ⟨squeeze front, kept⟩, squeeze_append_solid front b solid⟩

end Text

theorem Markup.normalize_append_close {a : String} (closed : EndsWithClose a.toList) (b : String) :
    (normalize (a ++ b)).chars = (normalize a).chars ++ (normalize b).chars := by
  simp only [normalize, String.toList_append]
  exact (Text.squeeze_of_close closed b.toList).2

theorem Markup.markers_append_close {a : String} (closed : EndsWithClose a.toList) (b : String) :
    (normalize (a ++ b)).markers =
      (normalize a).markers ++ (normalize b).markers.map (·.shift (normalize a).size) := by
  have still : EndsWithClose (normalize a).chars := (Text.squeeze_of_close closed []).1
  rw [markers_located, markers_located, markers_located, normalize_append_close closed b]
  exact located_append_close still _

theorem Site.render_get {raw : String} {d : Dictionary} {r : Rendering}
    (made : (inline raw d).render = .ok r) {language : String}
    (declared : language ∈ d.header.languages) :
    r.get? language = some (String.ofList
      (d.filled (d.header.languages.idxOf language) (Markup.normalize raw).chars)) :=
  Rendering.get?_of_documents (render_documents made) (List.mem_eraseDups.mpr declared)

/-- Where the first text ends with a `>`, the pages, the markers and the documents of two texts
joined are those of the texts, joined. -/
theorem rendering_joined_at_close (a b : String) (closed : a.toList.getLast? = some '>') :
    (Markup.normalize (a ++ b)).chars = (Markup.normalize a).chars ++ (Markup.normalize b).chars ∧
      (Markup.normalize (a ++ b)).markers = (Markup.normalize a).markers ++
        (Markup.normalize b).markers.map (·.shift (Markup.normalize a).size) ∧
      (∀ (s : Scan) offset, (s.step offset '>').1 = .start) ∧
      ∀ d : Dictionary, d.header.linebreak = "<br>" →
        ∃ first second joined, (Site.inline a d).render = .ok first ∧
          (Site.inline b d).render = .ok second ∧ (Site.inline (a ++ b) d).render = .ok joined ∧
          ∀ language ∈ d.header.languages, ∃ left right,
            first.get? language = some left ∧ second.get? language = some right ∧
            joined.get? language = some (left ++ right) := by
  refine ⟨Markup.normalize_append_close closed b, Markup.markers_append_close closed b,
    Scan.step_close, ?_⟩
  intro d standard
  obtain ⟨first, madeFirst⟩ := Site.render_standard (Site.inline a d) standard
  obtain ⟨second, madeSecond⟩ := Site.render_standard (Site.inline b d) standard
  obtain ⟨joined, madeJoined⟩ := Site.render_standard (Site.inline (a ++ b) d) standard
  refine ⟨first, second, joined, madeFirst, madeSecond, madeJoined, ?_⟩
  intro language declared
  refine ⟨_, _, Site.render_get madeFirst declared, Site.render_get madeSecond declared, ?_⟩
  have still : EndsWithClose (Markup.normalize a).chars := (Text.squeeze_of_close closed []).1
  rw [Site.render_get madeJoined declared, Markup.normalize_append_close closed b,
    Dictionary.filled_append_close _ _ still, String.ofList_append]

theorem rendering_joined_at_close_blank :
    "<p m__a>".toList.getLast? = some '>' ∧
      ∃ (d : Dictionary) (first second joined : Rendering) (left right : String),
        d.header.linebreak = "<br>" ∧ "fr" ∈ d.header.languages ∧
        (Site.inline "<p m__a>" d).render = .ok first ∧
        (Site.inline "\n\n <i m__b>" d).render = .ok second ∧
        (Site.inline ("<p m__a>" ++ "\n\n <i m__b>") d).render = .ok joined ∧
        first.get? "fr" = some left ∧ second.get? "fr" = some right ∧
        joined.get? "fr" = some (left ++ right) ∧
        left = "<p m__a>un" ∧ right = " <i m__b>deux" := by
  let d : Dictionary := {
    header := { languages := ["en", "fr"] }
    contents := .ofEntries [("a", .perLanguage ["one", "un"]), ("b", .shared "deux")] }
  have closed : "<p m__a>".toList.getLast? = some '>' := by decide
  obtain ⟨first, second, joined, madeFirst, madeSecond, madeJoined, each⟩ :=
    (rendering_joined_at_close "<p m__a>" "\n\n <i m__b>" closed).2.2.2 d rfl
  obtain ⟨left, right, gotLeft, gotRight, gotBoth⟩ := each "fr" (by decide)
  refine ⟨closed, d, first, second, joined, left, right, rfl, by decide, madeFirst, madeSecond,
    madeJoined, gotLeft, gotRight, gotBoth, ?_, ?_⟩
  · rw [← Except.ok.inj madeFirst] at gotLeft
    exact Option.some.inj (gotLeft.symm.trans (by decide))
  · rw [← Except.ok.inj madeSecond] at gotRight
    exact Option.some.inj (gotRight.symm.trans (by decide))

end PolyglotPages
