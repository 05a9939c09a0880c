import Mathlib.Data.List.Basic
import PolyglotPages.Proofs.Json.Keys
import PolyglotPages.Proofs.Page.Joining

/-! Columns of a dictionary. The texts that a dictionary has for one language are a column of it. A
document is made of the column of its language, of which it uses what the markers of the page
name. -/
namespace PolyglotPages
open Marker

/-! ### Changing the contents of a dictionary -/

namespace Table

variable {α : Type}

def map (f : String → α → α) (t : Table α) : Table α where
  entries := t.entries.map fun e => (e.1, f e.1 e.2)
  ascending := by
    rw [Entries.Ascending, List.pairwise_map]
    exact t.ascending

theorem get?_map (f : String → α → α) (t : Table α) (key : String) :
    (t.map f).get? key = (t.get? key).map (f key) :=
  Entries.lookup_map f t.entries key

end Table

def pick {α : Type} (order : List Nat) (xs : List α) : List α := order.filterMap (xs[·]?)

namespace Content

/-- The texts at all places but one changed. -/
def changeOthers (index : Nat) (f : Nat → String → String) : Content → Content
  | .shared text => .shared text
  | .perLanguage texts =>
    .perLanguage (texts.mapIdx fun i text => if i = index then text else f i text)

/-- A text shared by all languages written out for each of them. -/
def spread (count : Nat) : Content → Content
  | .shared text => .perLanguage (List.replicate count text)
  | .perLanguage texts => .perLanguage texts

def reorder (count : Nat) (order : List Nat) : Content → Content
  | .shared text => .shared text
  | .perLanguage texts =>
    .perLanguage (if texts.length = count then pick order texts else texts)

end Content

namespace Dictionary

def withHistory (d : Dictionary) (history : List UpdateRecord) : Dictionary :=
  { d with header := { d.header with updateHistory := history } }

def mapContents (f : String → Content → Content) (d : Dictionary) : Dictionary :=
  { d with contents := d.contents.map f }

def reorder (order : List Nat) (d : Dictionary) : Dictionary where
  header := { d.header with languages := pick order d.header.languages }
  contents := d.contents.map fun _ => Content.reorder d.header.languages.length order

theorem content?_mapContents (f : String → Content → Content) (d : Dictionary) (name : String)
    (index : Nat) : (d.mapContents f).content? name index =
      (d.contents.get? name).bind fun content => (f name content).text? index := by
  simp only [content?, mapContents, Table.get?_map]
  cases d.contents.get? name <;> rfl

end Dictionary

/-! ### What a page uses of a column -/

/-- The names that the markers of a page have, in order; a marker without a name asks for nothing
and does not count. -/
def Markup.names (page : Markup) : List String :=
  (page.markers.map (·.name)).filter fun name => name != ""

theorem Marker.located_names (offset : Nat) (ps : List (List Char)) :
    (located offset ps).map (·.name) = ps.filterMap nameIn? := by
  induction ps generalizing offset with
  | nil => rfl
  | cons p ps ih =>
    cases named : nameIn? p with
    | none => simp [located, named, ih]
    | some name => simp [located, named, ih]

theorem Markup.mem_names {page : Markup} {piece : List Char} {name : String}
    (member : piece ∈ pieces page.chars) (named : nameIn? piece = some name) (some : name ≠ "") :
    name ∈ page.names := by
  rw [names, page.markers_located, located_names]
  exact List.mem_filter.mpr ⟨List.mem_filterMap.mpr ⟨piece, member, named⟩, by simpa using some⟩

namespace Dictionary

/-- Two columns, of one dictionary or of two, have the same texts for what a page uses. -/
def SameColumn (page : Markup) (d : Dictionary) (i : Nat) (e : Dictionary) (j : Nat) : Prop :=
  ∀ name ∈ page.names, d.content? name i = e.content? name j

theorem filled_congr {page : Markup} {d e : Dictionary} {i j : Nat}
    (same : SameColumn page d i e j) : d.filled i page.chars = e.filled j page.chars := by
  simp only [filled, List.append_left_inj]
  refine List.flatMap_congr fun piece member => ?_
  cases named : nameIn? piece with
  | none => rfl
  | some name =>
    by_cases unnamed : name = ""
    · simp [insertion, unnamed]
    · have told := same name (Markup.mem_names member named unnamed)
      simp [insertion, told]

end Dictionary

/-! ### Orders of languages -/

theorem pick_map {α β : Type} (order : List Nat) (f : α → β) (xs : List α) :
    pick order (xs.map f) = (pick order xs).map f := by
  simp only [pick, List.map_filterMap, List.getElem?_map]

theorem pick_getElem? {α : Type} {order : List Nat} {xs : List α}
    (inside : ∀ k ∈ order, k < xs.length) (p : Nat) :
    (pick order xs)[p]? = order[p]?.bind (xs[·]?) := by
  induction order generalizing p with
  | nil => rfl
  | cons k order ih =>
    obtain ⟨here, more⟩ := List.forall_mem_cons.mp inside
    have head : pick (k :: order) xs = xs[k] :: pick order xs := by
      simp [pick, List.getElem?_eq_getElem here]
    rw [head]
    cases p with
    | zero => simp [List.getElem?_eq_getElem here]
    | succ p => simpa using ih more p

theorem pick_range {α : Type} (xs : List α) : pick (List.range xs.length) xs = xs := by
  refine List.ext_getElem? fun p => ?_
  rw [pick_getElem? (by simp)]
  by_cases inside : p < xs.length
  · simp [List.getElem?_range inside]
  · simp [inside]

theorem pick_perm {α : Type} {order : List Nat} {xs : List α}
    (whole : order.Perm (List.range xs.length)) : (pick order xs).Perm xs := by
  have moved : (pick order xs).Perm (pick (List.range xs.length) xs) := whole.filterMap _
  rwa [pick_range] at moved

theorem eraseDups_of_nodup {xs : List String} (distinct : xs.Nodup) : xs.eraseDups = xs := by
  induction xs with
  | nil => rfl
  | cons x xs ih =>
    obtain ⟨fresh, rest⟩ := List.nodup_cons.mp distinct
    have kept : xs.filter (fun y => !y == x) = xs := by
      refine List.filter_eq_self.mpr fun y member => ?_
      have ne : y ≠ x := fun e => fresh (e ▸ member)
      simpa using ne
    rw [List.eraseDups_cons, kept, ih rest]

namespace Dictionary

theorem withHistory_column (page : Markup) (d : Dictionary) (history : List UpdateRecord)
    (index : Nat) : SameColumn page (d.withHistory history) index d index := by
  intro name _
  rfl

theorem changeOthers_column (page : Markup) (d : Dictionary) (index : Nat)
    (f : String → Nat → String → String) :
    SameColumn page (d.mapContents fun name => Content.changeOthers index (f name)) index
      d index := by
  intro name _
  rw [content?_mapContents, content?]
  cases d.contents.get? name with
  | none => rfl
  | some content =>
    cases content with
    | shared text => rfl
    | perLanguage texts => simp [Content.changeOthers, Content.text?]

theorem spread_column (page : Markup) (d : Dictionary) (chosen : String → Bool) {count index : Nat}
    (inside : index < count) :
    SameColumn page
      (d.mapContents fun name content => if chosen name then content.spread count else content)
      index d index := by
  intro name _
  rw [content?_mapContents, content?]
  cases d.contents.get? name with
  | none => rfl
  | some content =>
    cases content with
    | shared text => cases chosen name <;> simp [Content.spread, Content.text?, inside]
    | perLanguage texts => simp [Content.spread]

/-- Every array that a page uses has one text for each language. -/
def IsFull (page : Markup) (d : Dictionary) : Prop :=
  ∀ name ∈ page.names, ∀ texts, d.contents.get? name = some (.perLanguage texts) →
    texts.length = d.header.languages.length

theorem reorder_column {page : Markup} {d : Dictionary} {order : List Nat}
    (whole : order.Perm (List.range d.header.languages.length))
    (distinct : d.header.languages.Nodup) (full : d.IsFull page) {language : String}
    (declared : language ∈ d.header.languages) :
    SameColumn page (d.reorder order) ((d.reorder order).header.languages.idxOf language)
      d (d.header.languages.idxOf language) := by
  have inside : ∀ k ∈ order, k < d.header.languages.length := by
    intro k member
    simpa using whole.mem_iff.mp member
  have moved : language ∈ pick order d.header.languages := (pick_perm whole).mem_iff.mpr declared
  -- the language stands at place `p` of the new order, which takes it from place `k` of the old
  have stands := List.getElem?_idxOf moved
  rw [pick_getElem? inside, Option.bind_eq_some_iff] at stands
  obtain ⟨k, atPlace, came⟩ := stands
  have index : d.header.languages.idxOf language = k := by
    obtain ⟨bound, same⟩ := List.getElem?_eq_some_iff.mp came
    rw [← same]
    exact distinct.idxOf_getElem k bound
  intro name member
  rw [index]
  simp only [content?, reorder, Table.get?_map]
  cases told : d.contents.get? name with
  | none => rfl
  | some content =>
    cases content with
    | shared text => rfl
    | perLanguage texts =>
      have length := full name member texts told
      have texts_inside : ∀ k ∈ order, k < texts.length := by rwa [length]
      simp [Content.reorder, Content.text?, length, pick_getElem? texts_inside, atPlace]

end Dictionary

namespace Site

theorem get?_of_column {raw : String} {d e : Dictionary} {l k : String} {i j : Nat}
    (standard : d.header.linebreak = "<br>") (standardToo : e.header.linebreak = "<br>")
    (first : d.index? l = some i) (second : e.index? k = some j)
    (same : Dictionary.SameColumn (Markup.normalize raw) d i e j) :
    ∃ r q html, (inline raw d).render = .ok r ∧ (inline raw e).render = .ok q ∧
      r.get? l = some html ∧ q.get? k = some html := by
  obtain ⟨r, made⟩ := render_standard (inline raw d) standard
  obtain ⟨q, madeToo⟩ := render_standard (inline raw e) standardToo
  obtain ⟨declared, index⟩ := Dictionary.index?_eq_some_iff.mp first
  obtain ⟨declaredToo, indexToo⟩ := Dictionary.index?_eq_some_iff.mp second
  refine ⟨r, q, _, made, madeToo, render_get made declared, ?_⟩
  rw [render_get madeToo declaredToo, index, indexToo, Dictionary.filled_congr same]

def SameDocuments (s t : Site) : Prop :=
  ∃ r q, s.render = .ok r ∧ t.render = .ok q ∧ q.documents = r.documents

theorem documents_of_columns {raw : String} {d e : Dictionary} {q : Rendering}
    (made : (inline raw e).render = .ok q)
    (same : ∀ l ∈ e.header.languages, Dictionary.SameColumn (Markup.normalize raw)
      e (e.header.languages.idxOf l) d (d.header.languages.idxOf l)) :
    q.documents = e.header.languages.eraseDups.map fun l =>
      ⟨l, String.ofList
        (d.filled (d.header.languages.idxOf l) (Markup.normalize raw).chars)⟩ := by
  rw [render_documents made]
  refine List.map_congr_left fun l member => ?_
  have told := Dictionary.filled_congr (same l (List.mem_eraseDups.mp member))
  simp only [inline] at told ⊢
  rw [told]

theorem sameDocuments_of_columns {raw : String} {d e : Dictionary}
    (standard : d.header.linebreak = "<br>")
    (header : e.header.linebreak = d.header.linebreak ∧ e.header.languages = d.header.languages)
    (same : ∀ i < d.header.languages.length,
      Dictionary.SameColumn (Markup.normalize raw) e i d i) :
    SameDocuments (inline raw d) (inline raw e) := by
  obtain ⟨r, made⟩ := render_standard (inline raw d) standard
  obtain ⟨q, madeToo⟩ := render_standard (inline raw e) (header.1.trans standard)
  refine ⟨r, q, made, madeToo, ?_⟩
  have columns : ∀ l ∈ e.header.languages, Dictionary.SameColumn (Markup.normalize raw)
      e (e.header.languages.idxOf l) d (d.header.languages.idxOf l) := by
    intro l member
    rw [header.2] at member ⊢
    exact same _ (List.idxOf_lt_length_of_mem member)
  rw [documents_of_columns madeToo columns, render_documents made, header.2]
  rfl

theorem documents_reordered {raw : String} {d : Dictionary} {order : List Nat} {r q : Rendering}
    (whole : order.Perm (List.range d.header.languages.length))
    (distinct : d.header.languages.Nodup) (full : d.IsFull (Markup.normalize raw))
    (made : (inline raw d).render = .ok r)
    (madeToo : (inline raw (d.reorder order)).render = .ok q) :
    q.documents = pick order r.documents := by
  have columns : ∀ l ∈ (d.reorder order).header.languages,
      Dictionary.SameColumn (Markup.normalize raw)
        (d.reorder order) ((d.reorder order).header.languages.idxOf l)
        d (d.header.languages.idxOf l) := by
    intro l member
    exact Dictionary.reorder_column whole distinct full ((pick_perm whole).mem_iff.mp member)
  have still : (d.reorder order).header.languages.Nodup := (pick_perm whole).nodup_iff.mpr distinct
  have before := render_documents made
  simp only [inline] at before
  rw [documents_of_columns madeToo columns, before, eraseDups_of_nodup still,
    eraseDups_of_nodup distinct, pick_map]
  rfl

end Site

/-- A document depends on nothing of a dictionary but the texts that its own column has for the
markers of the page: not on the history, on names that the page does not use, on the texts of other
languages, nor on whether a text is shared or repeated. Languages that change places with their
texts take their documents with them. -/
theorem document_of_own_column (raw : String) :
    (∀ (d e : Dictionary) (l k : String) (i j : Nat),
      d.header.linebreak = "<br>" → e.header.linebreak = "<br>" →
      d.index? l = some i → e.index? k = some j →
      Dictionary.SameColumn (Markup.normalize raw) d i e j →
      ∃ r q html, (Site.inline raw d).render = .ok r ∧ (Site.inline raw e).render = .ok q ∧
        r.get? l = some html ∧ q.get? k = some html) ∧
    ∀ d : Dictionary, d.header.linebreak = "<br>" →
      (∀ history, Site.SameDocuments (.inline raw d) (.inline raw (d.withHistory history))) ∧
      (∀ contents : Table Content,
        (∀ name ∈ (Markup.normalize raw).names, contents.get? name = d.contents.get? name) →
        Site.SameDocuments (.inline raw d) (.inline raw { d with contents })) ∧
      (∀ (f : String → Nat → String → String) (l : String) (i : Nat), d.index? l = some i →
        ∃ r q html, (Site.inline raw d).render = .ok r ∧
          (Site.inline raw
            (d.mapContents fun name => Content.changeOthers i (f name))).render = .ok q ∧
          r.get? l = some html ∧ q.get? l = some html) ∧
      (∀ chosen : String → Bool, Site.SameDocuments (.inline raw d) (.inline raw
        (d.mapContents fun name content =>
          if chosen name then content.spread d.header.languages.length else content))) ∧
      ∀ order : List Nat, order.Perm (List.range d.header.languages.length) →
        d.header.languages.Nodup → d.IsFull (Markup.normalize raw) →
        ∃ r q, (Site.inline raw d).render = .ok r ∧
          (Site.inline raw (d.reorder order)).render = .ok q ∧
          q.documents = pick order r.documents := by
  refine ⟨?_, fun d standard => ⟨?_, ?_, ?_, ?_, ?_⟩⟩
  · intro d e l k i j standard standardToo first second same
    exact Site.get?_of_column standard standardToo first second same
  · intro history
    exact Site.sameDocuments_of_columns standard ⟨rfl, rfl⟩ fun i _ =>
      d.withHistory_column _ history i
  · intro contents same
    refine Site.sameDocuments_of_columns standard ⟨rfl, rfl⟩ fun i _ name member => ?_
    simp only [Dictionary.content?, same name member]
  · intro f l i found
    exact Site.get?_of_column standard standard found found fun name member =>
      (d.changeOthers_column _ i f name member).symm
  · intro chosen
    exact Site.sameDocuments_of_columns standard ⟨rfl, rfl⟩ fun i inside =>
      d.spread_column _ chosen inside
  · intro order whole distinct full
    obtain ⟨r, made⟩ := Site.render_standard (.inline raw d) standard
    obtain ⟨q, madeToo⟩ := Site.render_standard (.inline raw (d.reorder order)) standard
    exact ⟨r, q, made, madeToo, Site.documents_reordered whole distinct full made madeToo⟩

theorem document_of_own_column_repeated :
    ∃ (d e : Dictionary) (r q : Rendering) (html : String),
      d.header.languages = ["en", "fr"] ∧ e.header.languages = ["ko", "ko", "de"] ∧
      d.header.linebreak = "<br>" ∧ e.header.linebreak = "<br>" ∧
      d.index? "fr" = some 1 ∧ e.index? "de" = some 2 ∧
      Dictionary.SameColumn (Markup.normalize "<p m__a>") d 1 e 2 ∧
      (Site.inline "<p m__a>" d).render = .ok r ∧ (Site.inline "<p m__a>" e).render = .ok q ∧
      r.get? "fr" = some html ∧ q.get? "de" = some html ∧
      [1, 0].Perm (List.range d.header.languages.length) ∧ d.header.languages.Nodup ∧
      d.IsFull (Markup.normalize "<p m__a>") ∧
      ∃ r q, (Site.inline "<p m__a>" d).render = .ok r ∧
        (Site.inline "<p m__a>" (d.reorder [1, 0])).render = .ok q ∧
        q.documents = pick [1, 0] r.documents := by
  let d : Dictionary := {
    header := { languages := ["en", "fr"] }
    contents := .ofEntries [("a", .perLanguage ["one", "un"]), ("b", .perLanguage ["two"])] }
  let e : Dictionary := {
    header := { languages := ["ko", "ko", "de"] }
    contents := .ofEntries [("a", .perLanguage ["", "", "un"])] }
  have names : (Markup.normalize "<p m__a>").names = ["a"] := by decide
  have same : Dictionary.SameColumn (Markup.normalize "<p m__a>") d 1 e 2 := by
    intro name member
    rw [names, List.mem_singleton] at member
    subst member
    decide
  have full : d.IsFull (Markup.normalize "<p m__a>") := by
    intro name member texts listed
    rw [names, List.mem_singleton] at member
    subst member
    have told : d.contents.get? "a" = some (.perLanguage ["one", "un"]) := by decide
    have written : texts = ["one", "un"] :=
      Content.perLanguage.inj (Option.some.inj (listed.symm.trans told))
    subst written
    rfl
  have whole : [1, 0].Perm (List.range d.header.languages.length) := by decide
  obtain ⟨columns, edits⟩ := document_of_own_column "<p m__a>"
  obtain ⟨r, q, html, made, madeToo, got, gotToo⟩ :=
    columns d e "fr" "de" 1 2 rfl rfl (by decide) (by decide) same
  have reordered := (edits d rfl).2.2.2.2 [1, 0] whole (by decide) full
  exact ⟨d, e, r, q, html, rfl, rfl, rfl, rfl, by decide, by decide, same, made, madeToo, got,
    gotToo, whole, by decide, full, reordered⟩

end PolyglotPages
