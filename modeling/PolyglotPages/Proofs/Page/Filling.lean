import PolyglotPages.Proofs.Page.Partition
import PolyglotPages.Proofs.Text.Collapse

/-! Rendering is filling in. The document of a language is the text of the page with what the
dictionary has for it put behind every piece that has a marker. -/
namespace PolyglotPages
open Marker

/-- A text with what the dictionary has for the language at an index put behind the pieces that have
a marker. -/
def Dictionary.filled (d : Dictionary) (index : Nat) (text : List Char) : List Char :=
  ((pieces text).flatMap fun piece => piece ++ (nameIn? piece).elim [] (d.insertion index))
    ++ trailing text

namespace Document

theorem assembled_stretches (page : Markup) (d : Dictionary) (index : Nat)
    (segments : List Segment) :
    assembled page d index segments =
      (segments.map fun s => (page.slice? s.start s.stop, s.name)).flatMap
        fun t => t.1.getD [] ++ d.insertion index t.2 := by
  rw [assembled, List.flatMap_map]

theorem stretches_filled (d : Dictionary) (index : Nat) (before rest : List Char)
    (ps : List (List Char)) :
    ((stretches before rest ps).flatMap fun t => t.1 ++ d.insertion index t.2) =
      before ++ (ps.flatMap fun p => p ++ (nameIn? p).elim [] (d.insertion index)) ++ rest := by
  induction ps generalizing before with
  | nil => simp [stretches, Dictionary.insertion]
  | cons p ps ih =>
    rw [stretches]
    cases named : nameIn? p with
    | none => simp [ih, named]
    | some name => simp [ih, named]

theorem assembled_filled (page : Markup) (d : Dictionary) (index : Nat) :
    assembled page d index page.segments = d.filled index page.chars := by
  rw [assembled_stretches, page.segments_stretches, List.flatMap_map]
  exact stretches_filled d index [] (trailing page.chars) (pieces page.chars)

end Document

namespace Site

def inline (raw : String) (d : Dictionary) : Site := { page := .normalize raw, dictionary := d }

theorem load_inline {m : Type → Type} [Monad m] [LawfulMonad m] [FileStore m] (raw : String)
    (d : Dictionary) :
    (load { page := raw, dictionary := d } : m (Except InputError Site)) =
      pure (.ok (inline raw d)) := by
  simp [load, readPage, chooseDictionary, inline]

theorem render_documents {site : Site} {r : Rendering} (made : site.render = .ok r) :
    r.documents = site.dictionary.header.languages.eraseDups.map fun language =>
      ⟨language, String.ofList (site.dictionary.filled
        (site.dictionary.header.languages.idxOf language) site.page.chars)⟩ := by
  rw [Rendering.documents_of_ok made]
  apply List.map_congr_left
  intro language _
  have same := Document.assembled_filled site.page site.dictionary
    (site.dictionary.header.languages.idxOf language)
  rw [← same]
  rfl

theorem render_standard (site : Site)
    (standard : site.dictionary.header.linebreak = Dictionary.standardLinebreak) :
    ∃ r, site.render = .ok r :=
  ⟨_, Rendering.ofSegments_standard site.segments site.page standard⟩

end Site

/-- Whatever the raw text is, a site made of texts given in place can be rendered: each language in
its first place gets the text with white space collapsed and its own column filled in. A marker name
goes on to the first quote, angle bracket or white space. -/
theorem inline_documents_filled (m : Type → Type) [Monad m] [LawfulMonad m] [FileStore m]
    (raw : String) (d : Dictionary) (standard : d.header.linebreak = "<br>") :
    (∃ (site : Site) (r : Rendering),
      (Site.load { page := raw, dictionary := d } : m (Except InputError Site)) =
        pure (.ok site) ∧
      site.render = .ok r ∧
      r.documents = d.header.languages.eraseDups.map fun language =>
        ⟨language, String.ofList
          (d.filled (d.header.languages.idxOf language) (Text.collapse raw.toList))⟩) ∧
      ∀ c, Scan.endsName c = true ↔
        c = '"' ∨ c = '\'' ∨ c = '<' ∨ c = '>' ∨ Text.isBlank c = true := by
  obtain ⟨r, made⟩ := Site.render_standard (Site.inline raw d) standard
  refine ⟨⟨Site.inline raw d, r, Site.load_inline raw d, made, ?_⟩, fun _ => Scan.endsName_iff⟩
  rw [Site.render_documents made, ← Text.squeeze_eq_collapse]
  rfl

theorem inline_documents_filled_repeated :
    ∃ (d : Dictionary) (site : Site) (r : Rendering),
      d.header.languages = ["ko", "en", "ko"] ∧ d.header.linebreak = "<br>" ∧
      (Site.load { page := "<p m__a>\t é<i m__b m__a>", dictionary := d } :
        StateM Disk (Except InputError Site)) = pure (.ok site) ∧
      site.render = .ok r ∧
      r.documents = [⟨"ko", "<p m__a>가 é<i m__b m__a>B"⟩, ⟨"en", "<p m__a> é<i m__b m__a>B"⟩] := by
  let d : Dictionary := {
    header := { languages := ["ko", "en", "ko"] }
    contents := .ofEntries [("b", .shared "B"), ("a", .perLanguage ["가"])] }
  obtain ⟨⟨site, r, loaded, made, documents⟩, -⟩ :=
    inline_documents_filled (StateM Disk) "<p m__a>\t é<i m__b m__a>" d rfl
  refine ⟨d, site, r, rfl, rfl, loaded, made, ?_⟩
  rw [documents, ← Text.squeeze_eq_collapse]
  decide

end PolyglotPages
