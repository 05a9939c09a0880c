import PolyglotPages.Proofs.Page.Filling

/-! Markers and white space. Squeezing a text moves its markers and does nothing else to them: a
scan that has read a blank is in a state that further blanks do not change. -/
namespace PolyglotPages
open Marker
open Text (isBlank byteLength byteLength_append squeeze squeezeFrom slice?_eq_some_iff)

namespace Text

theorem byteLength_concat (text : List Char) (c : Char) :
    byteLength text + c.utf8Size = byteLength (text ++ [c]) := by
  simp [byteLength_append, byteLength]

/-- Whether the last character read is a blank, `afterBlank` telling of the one before the text. -/
def endsBlank (afterBlank : Bool) : List Char → Bool
  | [] => afterBlank
  | c :: cs => endsBlank (isBlank c) cs

theorem endsBlank_concat (afterBlank : Bool) (text : List Char) (c : Char) :
    endsBlank afterBlank (text ++ [c]) = isBlank c := by
  induction text generalizing afterBlank with
  | nil => rfl
  | cons d text ih => exact ih (isBlank d)

theorem squeezeFrom_append (afterBlank : Bool) (a b : List Char) :
    squeezeFrom afterBlank (a ++ b) =
      squeezeFrom afterBlank a ++ squeezeFrom (endsBlank afterBlank a) b := by
  induction a generalizing afterBlank with
  | nil => rfl
  | cons c a ih =>
    cases blank : isBlank c with
    | false => simp [squeezeFrom, endsBlank, blank, ih]
    | true => cases afterBlank <;> simp [squeezeFrom, endsBlank, blank, ih]

theorem squeeze_concat (front : List Char) (c : Char) :
    squeeze (front ++ [c]) = squeeze front ++ squeezeFrom (endsBlank false front) [c] :=
  squeezeFrom_append false front [c]

end Text
open Text (byteLength_concat endsBlank endsBlank_concat squeeze_concat)

namespace Marker

namespace Scan

/-- The state once a blank has been read: no match goes on, and a name is complete. -/
def paused : Scan → Scan
  | .seeking _ => .seeking 0
  | .naming name => .closing name
  | .closing name => .closing name

theorem paused_paused (s : Scan) : s.paused.paused = s.paused := by
  cases s <;> rfl

theorem seek_blank (matched : Nat) {c : Char} (blank : isBlank c = true) :
    seek matched c = .seeking 0 := by
  have first : c ≠ 'm' := by rintro rfl; exact absurd blank (by decide)
  have second : c ≠ '_' := by rintro rfl; exact absurd blank (by decide)
  have broken : opener[matched]? ≠ some c := by
    intro goesOn
    have member := List.mem_of_getElem? goesOn
    simp [opener, first, second] at member
  simp [seek, broken, first]

theorem step_blank (s : Scan) (offset : Nat) {c : Char} (blank : isBlank c = true) :
    s.step offset c = (s.paused, none) := by
  have inside : c ≠ '>' := by rintro rfl; exact absurd blank (by decide)
  cases s with
  | seeking matched => simp [step, paused, seek_blank matched blank]
  | naming name => simp [step, paused, inside, endsName_of_isBlank blank]
  | closing name => simp [step, paused, inside]

theorem step_elsewhere (s : Scan) (offset other : Nat) (c : Char) :
    s.step other c =
      ((s.step offset c).1, (s.step offset c).2.map fun o => ⟨other + 1, o.name⟩) := by
  cases s with
  | seeking matched => rfl
  | naming name =>
    simp only [step]
    split
    · rfl
    · split <;> rfl
  | closing name =>
    simp only [step]
    split <;> rfl

theorem step_found {s s' : Scan} {offset : Nat} {c : Char} {o : Occurrence}
    (stepped : s.step offset c = (s', some o)) : c = '>' ∧ o.position = offset + 1 := by
  have found : (s.step offset c).2 = some o := congrArg Prod.snd stepped
  obtain ⟨close, place, -⟩ := step_found_iff.mp found
  exact ⟨close, place⟩

end Scan

/-- What becomes of a marker of a raw text on the page: it keeps its name and stands where the page
of the text in front of it ends. -/
def Occurrence.onPage? (raw : List Char) (o : Occurrence) : Option Occurrence :=
  (Text.slice? raw 0 o.position).map fun front =>
    ⟨(Markup.normalize (String.ofList front)).size, o.name⟩

theorem Occurrence.onPage?_of_front {raw front rest : List Char} (whole : raw = front ++ rest)
    {o : Occurrence} (place : o.position = byteLength front) :
    o.onPage? raw = some ⟨byteLength (squeeze front), o.name⟩ := by
  have cut : Text.slice? raw 0 o.position = some front :=
    slice?_eq_some_iff.mpr ⟨[], rest, whole, rfl, place.symm⟩
  simp [onPage?, cut, Markup.normalize, Markup.size]

namespace Scan

/-- Reading the raw text and reading the page from the same state: `front` has been read, and if it
ends with a blank the state has paused. -/
theorem run_squeezed {raw front rest : List Char} (whole : raw = front ++ rest) (s : Scan)
    (settled : endsBlank false front = true → s.paused = s) :
    (s.run (byteLength front) rest).1.map (·.onPage? raw) =
      (s.run (byteLength (squeeze front))
        (squeezeFrom (endsBlank false front) rest)).1.map some := by
  induction rest generalizing front s with
  | nil => rfl
  | cons c rest ih =>
    have further : raw = (front ++ [c]) ++ rest := by simp [whole]
    have size := byteLength_concat front c
    cases blank : isBlank c with
    | true =>
      have tail := ih further s.paused (fun _ => s.paused_paused)
      rw [endsBlank_concat, blank, squeeze_concat] at tail
      have stepped := s.step_blank (byteLength front) blank
      cases after : endsBlank false front with
      | true =>
        -- the page has no character for this blank, and the state is the one before it
        rw [after] at tail settled
        rw [settled rfl] at tail stepped
        simpa [Scan.run, stepped, size, squeezeFrom, blank] using tail
      | false =>
        have spaced := s.step_blank (c := ' ') (byteLength (squeeze front)) (by decide)
        have pageSize := byteLength_concat (squeeze front) ' '
        rw [after] at tail
        simpa [Scan.run, stepped, spaced, size, pageSize, squeezeFrom, blank] using tail
    | false =>
      have kept : squeeze (front ++ [c]) = squeeze front ++ [c] := by
        simp [squeeze_concat, squeezeFrom, blank]
      have tail := ih further (s.step (byteLength front) c).1
        (by rw [endsBlank_concat, blank]; simp)
      rw [endsBlank_concat, blank, kept] at tail
      have same := s.step_elsewhere (byteLength front) (byteLength (squeeze front)) c
      have pageSize := byteLength_concat (squeeze front) c
      rcases stepped : s.step (byteLength front) c with ⟨s', found⟩
      rw [stepped] at same tail
      cases found with
      | none => simpa [Scan.run, stepped, same, size, pageSize, squeezeFrom, blank] using tail
      | some o =>
        obtain ⟨close, place⟩ := step_found stepped
        subst close
        have width : '>'.utf8Size = 1 := by decide
        have here : o.onPage? raw = some ⟨byteLength (squeeze front) + 1, o.name⟩ := by
          rw [Occurrence.onPage?_of_front further (by rw [place, ← size, width]), kept, ← pageSize,
            width]
        simpa [Scan.run, stepped, same, size, pageSize, squeezeFrom, blank, here] using tail

end Scan
end Marker

theorem Markup.markers_onPage (raw : String) :
    (Scan.start.run 0 raw.toList).1.map (·.onPage? raw.toList) =
      (normalize raw).markers.map some := by
  rw [markers_run]
  have whole : raw.toList = [] ++ raw.toList := rfl
  exact Scan.run_squeezed whole .start (by simp [Text.endsBlank])

/-- The markers of a page are those of the raw text, in their order and under their names, each put
where the page of the raw text up to it ends. Texts with the same page are rendered alike. -/
theorem raw_markers_on_page (m : Type → Type) [Monad m] [LawfulMonad m] [FileStore m]
    (raw : String) :
    (Scan.start.run 0 raw.toList).1.map (·.onPage? raw.toList) =
        (Markup.normalize raw).markers.map some ∧
      ∀ (other : String) (d : Dictionary), Markup.normalize other = Markup.normalize raw →
        ∃ site otherSite : Site,
          (Site.load { page := raw, dictionary := d } : m (Except InputError Site)) =
            pure (.ok site) ∧
          (Site.load { page := other, dictionary := d } : m (Except InputError Site)) =
            pure (.ok otherSite) ∧
          otherSite.render = site.render := by
  refine ⟨Markup.markers_onPage raw, ?_⟩
  intro other d same
  refine ⟨Site.inline raw d, Site.inline other d, Site.load_inline raw d, Site.load_inline other d,
    ?_⟩
  simp only [Site.inline, same]

theorem raw_markers_on_page_wide_blanks :
    Markup.normalize "é<p m__a >" = Markup.normalize "é<p m__a\n\u2003>" ∧
      (Markup.normalize "é<p m__a\n\u2003>").markers = [⟨11, "a"⟩] ∧
      [(⟨14, "a"⟩ : Occurrence)].map (·.onPage? "é<p m__a\n\u2003>".toList) =
        (Markup.normalize "é<p m__a\n\u2003>").markers.map some ∧
      ∃ (d : Dictionary) (site otherSite : Site), d.header.languages = ["en"] ∧
        (Site.load { page := "é<p m__a\n\u2003>", dictionary := d } :
          StateM Disk (Except InputError Site)) = pure (.ok site) ∧
        (Site.load { page := "é<p m__a >", dictionary := d } :
          StateM Disk (Except InputError Site)) = pure (.ok otherSite) ∧
        otherSite.render = site.render := by
  let d : Dictionary := {
    header := { languages := ["en"] }
    contents := .ofEntries [("a", .shared "x")] }
  have same : Markup.normalize "é<p m__a >" = Markup.normalize "é<p m__a\n\u2003>" := by
    decide +kernel
  have read : (Scan.start.run 0 "é<p m__a\n\u2003>".toList).1 = [⟨14, "a"⟩] := by decide
  obtain ⟨found, alike⟩ := raw_markers_on_page (StateM Disk) "é<p m__a\n\u2003>"
  obtain ⟨site, otherSite, loaded, otherLoaded, rendered⟩ := alike "é<p m__a >" d same
  rw [read] at found
  exact ⟨same, by decide, found, d, site, otherSite, rfl, loaded, otherLoaded, rendered⟩

end PolyglotPages
