import PolyglotPages.Proofs.Dictionary.Described

/-! The written form of a dictionary. A dictionary that is written and read again is the same, in
whatever order its contents are enumerated and whether or not the members of objects are sorted. -/
namespace PolyglotPages
open Entries (keys)
open Json (HasDistinctKeys Lasting ListOf Steady check settle settleItems settleMembers)

/-! ### Reading the settled form of a value -/

namespace Json

theorem field?_settle (fields : List (String × Shape)) (name : String) {v : Json}
    (distinct : v.HasDistinctKeys) :
    v.settle.field? fields name = (v.field? fields name).map settle := by
  cases v with
  | object members =>
    have nodup : (keys (settleMembers members)).Nodup := by
      rw [keys_settleMembers]
      exact distinct.keys
    rw [settle, field?, field?, Entries.lookup_sort nodup, settleMembers_eq_map]
    exact Entries.lookup_map (fun _ v => v.settle) members name
  | array items => simp [settle, field?, settleItems_eq_map]
  | _ => rfl

theorem asText_settle (v : Json) : asText v.settle = asText v := by
  cases v <;> rfl

theorem asTexts_settle (v : Json) : asTexts v.settle = asTexts v := by
  cases v with
  | array items => simp [settle, asTexts, settleItems_eq_map, asText_settle]
  | _ => rfl

theorem elim_field?_settle {α : Type} (fields : List (String × Shape)) (name : String) {v : Json}
    (distinct : v.HasDistinctKeys) (default : α) {ofShaped : Json → α}
    (same : ∀ w, v.field? fields name = some w → ofShaped w.settle = ofShaped w) :
    (v.settle.field? fields name).elim default ofShaped =
      (v.field? fields name).elim default ofShaped := by
  rw [field?_settle fields name distinct]
  cases found : v.field? fields name with
  | none => rfl
  | some w => exact same w found

theorem field?_distinct {fields : List (String × Shape)} {name : String} {v w : Json}
    (distinct : v.HasDistinctKeys) (found : v.field? fields name = some w) :
    w.HasDistinctKeys := by
  cases v with
  | object members => exact distinct.value (Entries.mem_of_lookup found)
  | array items => exact distinct.item (List.mem_of_getElem? found)
  | _ => cases found

end Json

theorem UpdateRecord.ofShaped_settle {v : Json} (distinct : v.HasDistinctKeys) :
    ofShaped v.settle = ofShaped v := by
  have text : ∀ name, (v.settle.field? fields name).elim "" Json.asText =
      (v.field? fields name).elim "" Json.asText := fun name =>
    Json.elim_field?_settle fields name distinct "" fun w _ => Json.asText_settle w
  have contents : SettledJson.ofJson ((v.settle.field? fields "contents").getD .null) =
      .ofJson ((v.field? fields "contents").getD .null) := by
    rw [Json.field?_settle fields "contents" distinct]
    cases v.field? fields "contents" with
    | none => rfl
    | some w => simp [SettledJson.ofJson, Json.settle_settle]
  simp only [ofShaped, text, contents]

theorem Content.ofShaped_settle (v : Json) : ofShaped v.settle = ofShaped v := by
  cases v with
  | array items => exact congrArg perLanguage (Json.asTexts_settle (.array items))
  | _ => rfl

namespace Dictionary

namespace Header

theorem historyOfShaped_settle {v : Json} (distinct : v.HasDistinctKeys) :
    historyOfShaped v.settle = historyOfShaped v := by
  cases v with
  | array items =>
    simp only [settle, historyOfShaped, Json.settleItems_eq_map, List.map_map]
    exact List.map_congr_left fun w there => UpdateRecord.ofShaped_settle (distinct.item there)
  | _ => rfl

theorem ofShaped_settle {v : Json} (distinct : v.HasDistinctKeys) :
    ofShaped v.settle = ofShaped v := by
  have languages := Json.elim_field?_settle fields "languages" distinct [] fun w _ =>
    Json.asTexts_settle w
  have linebreak := Json.elim_field?_settle fields "linebreak" distinct standardLinebreak
    fun w _ => Json.asText_settle w
  have history := Json.elim_field?_settle fields "updateHistory" distinct [] fun w found =>
    historyOfShaped_settle (Json.field?_distinct distinct found)
  simp only [ofShaped, languages, linebreak, history]

end Header

theorem contentsOfShaped_settle {v : Json} (distinct : v.HasDistinctKeys) :
    contentsOfShaped v.settle = contentsOfShaped v := by
  cases v with
  | object members =>
    have nodup : (keys (settleMembers members)).Nodup := by
      rw [Json.keys_settleMembers]
      exact distinct.keys
    have perm := (Entries.sort_perm nodup).map fun e => (e.1, Content.ofShaped e.2)
    have apart : (keys ((Entries.sort (settleMembers members)).map
        fun e => (e.1, Content.ofShaped e.2))).Nodup := by
      rw [Entries.keys_map fun _ v => Content.ofShaped v]
      exact Entries.keys_nodup_of_ascending (Entries.ascending_sort _)
    simp only [settle, contentsOfShaped]
    rw [Table.ofEntries_eq_of_perm apart perm, Json.settleMembers_eq_map, List.map_map]
    refine congrArg Table.ofEntries (List.map_congr_left fun e _ => ?_)
    simp [Content.ofShaped_settle]
  | _ => rfl

theorem ofShaped_settle {v : Json} (distinct : v.HasDistinctKeys) :
    ofShaped v.settle = ofShaped v := by
  have header := Json.elim_field?_settle fields "meta" distinct {} fun w found =>
    Header.ofShaped_settle (Json.field?_distinct distinct found)
  have contents := Json.elim_field?_settle fields "contents" distinct .empty fun w found =>
    contentsOfShaped_settle (Json.field?_distinct distinct found)
  simp only [ofShaped, header, contents]

theorem shape_built {P : Json.Shape → Prop} (any : P .any) (text : P .text)
    (texts : ∀ type, P (.textOrTexts type)) (list : ∀ {item}, P item → P (.list item))
    (map : ∀ {value}, P value → P (.map value))
    (record : ∀ {fields} (type : String), (∀ e ∈ fields, P e.2) → P (.record type fields)) :
    P shape := by
  have note : P UpdateRecord.shape := by
    refine record _ fun e there => ?_
    simp only [UpdateRecord.fields, List.mem_cons, List.not_mem_nil, or_false] at there
    rcases there with rfl | rfl | rfl | rfl
    · exact text
    · exact text
    · exact text
    · exact any
  have header : P Header.shape := by
    refine record _ fun e there => ?_
    simp only [Header.fields, List.mem_cons, List.not_mem_nil, or_false] at there
    rcases there with rfl | rfl | rfl
    · exact list text
    · exact text
    · exact list note
  refine record _ fun e there => ?_
  simp only [fields, List.mem_cons, List.not_mem_nil, or_false] at there
  rcases there with rfl | rfl
  · exact header
  · exact map (texts _)

theorem lasting_shape : Lasting shape :=
  shape_built Json.lasting_any Json.lasting_text Json.lasting_texts Lasting.list Lasting.map
    Lasting.record

theorem steady_shape : Steady shape :=
  shape_built Json.steady_any Json.steady_text Json.steady_texts Steady.list Steady.map
    Steady.record

theorem ofValue_settle {origin : String} {v : Json} {d : Dictionary}
    (distinct : v.HasDistinctKeys) (read : ofValue origin v = .ok d) :
    ofValue origin v.settle = .ok d := by
  obtain ⟨passed, same⟩ := ofValue_eq_ok_iff.mp read
  refine ofValue_eq_ok_iff.mpr ⟨lasting_shape .decoded .decoded v passed, ?_⟩
  rw [ofShaped_settle distinct, same]

end Dictionary

/-! ### What is written describes what it was written from -/

theorem Json.listOf_map {α : Type} {reads : Json → α → Prop} {toJson : α → Json} (as : List α)
    (each : ∀ a ∈ as, reads (toJson a) a) : ListOf reads (.array (as.map toJson)) as :=
  .array (List.forall₂_map_left_iff.mpr (List.forall₂_same.mpr each))

theorem Json.hasDistinctKeys_texts (texts : List String) :
    HasDistinctKeys (.array (texts.map .string)) :=
  .array (by simp [HasDistinctKeys.string])

namespace UpdateRecord

theorem hasDistinctKeys_toJson (r : UpdateRecord) : r.toJson.HasDistinctKeys := by
  have contents : r.contents.value.HasDistinctKeys := by
    rw [← r.contents.settled]
    exact Json.hasDistinctKeys_settle _
  exact .object (by simp [keys]) (by simp [HasDistinctKeys.string, contents])

theorem describes_toJson (r : UpdateRecord) : Describes r.toJson r where
  form := .object _
  user := .given (.member (by simp)) rfl
  time := .given (.member (by simp)) rfl
  comment := .given (.member (by simp)) rfl
  contents := .given (.member (by simp)) r.contents.ofJson_value.symm

end UpdateRecord

namespace Content

theorem hasDistinctKeys_toJson (c : Content) : c.toJson.HasDistinctKeys := by
  cases c with
  | shared text => exact .string text
  | perLanguage texts => exact Json.hasDistinctKeys_texts texts

theorem describes_toJson (c : Content) : Describes c.toJson c := by
  cases c with
  | shared text => exact .shared text
  | perLanguage texts => exact .perLanguage (Json.listOf_map texts fun _ _ => rfl)

theorem describes_toJson_iff {c d : Content} : Describes c.toJson d ↔ c = d := by
  constructor
  · intro described
    have distinct := c.hasDistinctKeys_toJson
    have one := ((readBy _ _ distinct).mp c.describes_toJson).2
    have other := ((readBy _ _ distinct).mp described).2
    exact one.symm.trans other
  · rintro rfl
    exact c.describes_toJson

end Content

namespace Dictionary

namespace Header

theorem hasDistinctKeys_toJson (h : Header) : h.toJson.HasDistinctKeys := by
  have records : HasDistinctKeys (.array (h.updateHistory.map UpdateRecord.toJson)) :=
    .array (by simp [UpdateRecord.hasDistinctKeys_toJson])
  rw [toJson]
  split
  · exact .object (by simp [keys]) (by simp [Json.hasDistinctKeys_texts, HasDistinctKeys.string])
  · exact .object (by simp [keys])
      (by simp [Json.hasDistinctKeys_texts, records, HasDistinctKeys.string])

theorem describes_toJson (h : Header) : Describes h.toJson h where
  form := .object _
  languages := .given (.member (by simp)) (Json.listOf_map h.languages fun _ _ => rfl)
  linebreak := .given (.member (by simp)) rfl
  updateHistory := by
    rw [toJson]
    cases written : h.updateHistory with
    | nil =>
      -- a history without records is left out, and read as the default
      refine .missing fun w given => ?_
      simpa using Json.gives_object_iff.mp given
    | cons r rest =>
      exact .given (.member (by simp))
        (Json.listOf_map (r :: rest) fun r _ => r.describes_toJson)

end Header

/-- The written form of a dictionary with its contents enumerated in the given order. -/
def writtenIn (d : Dictionary) (entries : List (String × Content)) : Json :=
  .object [("meta", d.header.toJson), ("contents", .object (entries.map fun e => (e.1, e.2.toJson)))]

theorem writtenIn_entries (d : Dictionary) : d.writtenIn d.contents.entries = d.toJson := rfl

variable {d : Dictionary} {entries : List (String × Content)}

theorem hasDistinctKeys_writtenIn (perm : entries.Perm d.contents.entries) :
    (d.writtenIn entries).HasDistinctKeys := by
  have nodup : (keys (entries.map fun e => (e.1, e.2.toJson))).Nodup := by
    rw [Entries.keys_map fun _ c => Content.toJson c]
    exact (perm.map _).nodup_iff.mpr (Entries.keys_nodup_of_ascending d.contents.ascending)
  have contents : HasDistinctKeys (.object (entries.map fun e => (e.1, e.2.toJson))) :=
    .object nodup fun e there => by
      obtain ⟨⟨name, c⟩, -, rfl⟩ := List.mem_map.mp there
      exact c.hasDistinctKeys_toJson
  exact .object (by simp [keys]) (by simp [d.header.hasDistinctKeys_toJson, contents])

theorem describes_writtenIn (perm : entries.Perm d.contents.entries) :
    Describes (d.writtenIn entries) d where
  form := .object _
  header := .given (.member (by simp)) d.header.describes_toJson
  contents := by
    have nodup := Entries.keys_nodup_of_ascending d.contents.ascending
    refine .given (.member (List.mem_cons_of_mem _ List.mem_cons_self)) (.object ?_ ?_)
    · intro e there
      obtain ⟨⟨name, c⟩, -, rfl⟩ := List.mem_map.mp there
      exact ⟨c, c.describes_toJson⟩
    · intro name c
      rw [Table.get?, Entries.lookup_eq_some_iff nodup, ← perm.mem_iff]
      constructor
      · intro there
        exact ⟨c.toJson, List.mem_map_of_mem there, c.describes_toJson⟩
      · rintro ⟨w, there, described⟩
        obtain ⟨⟨name', c'⟩, member, same⟩ := List.mem_map.mp there
        obtain ⟨rfl, rfl⟩ := Prod.mk.inj same
        rw [Content.describes_toJson_iff] at described
        exact described ▸ member

theorem ofValue_writtenIn (origin : String) (perm : entries.Perm d.contents.entries) :
    ofValue origin (d.writtenIn entries) = .ok d := by
  rw [ofValue_eq_ok_iff]
  exact (readBy _ d (hasDistinctKeys_writtenIn perm)).mp (describes_writtenIn perm)

/-- What is written of a dictionary is read as that dictionary, in whatever order its contents are
enumerated and with the members of objects sorted or not. So a value that was read may be written
and read again without a change, and writing it once more gives the same. -/
theorem written_read_back (origin : String) :
    (∀ (d : Dictionary) (entries : List (String × Content)), entries.Perm d.contents.entries →
      ofValue origin (d.writtenIn entries) = .ok d ∧
        ofValue origin (d.writtenIn entries).settle = .ok d) ∧
      ∀ (v : Json) (d : Dictionary), ofValue origin v = .ok d →
        ofValue origin d.toJson = .ok d ∧ ofValue origin d.toJson.settle = .ok d ∧
          (ofValue origin d.toJson).map toJson = .ok d.toJson := by
  have back : ∀ (d : Dictionary) (entries : List (String × Content)),
      entries.Perm d.contents.entries → ofValue origin (d.writtenIn entries) = .ok d ∧
        ofValue origin (d.writtenIn entries).settle = .ok d := by
    intro d entries perm
    have read := ofValue_writtenIn origin perm
    exact ⟨read, ofValue_settle (hasDistinctKeys_writtenIn perm) read⟩
  refine ⟨back, fun v d _ => ?_⟩
  obtain ⟨read, sorted⟩ := back d _ (List.Perm.refl d.contents.entries)
  rw [writtenIn_entries] at read sorted
  exact ⟨read, sorted, by rw [read]; rfl⟩

theorem written_read_back_reordered :
    ∃ (d : Dictionary) (entries : List (String × Content)),
      d.header.languages = ["en", "en", ""] ∧
        d.header.updateHistory.map (fun r => r.contents.value) =
          [.object [("k", .array [.null, .bool true])]] ∧
        entries = [("b", .perLanguage ["x", ""]), ("a", .perLanguage []), ("", .shared "y")] ∧
        entries.Perm d.contents.entries ∧ entries ≠ d.contents.entries ∧
        ofValue "<inline>" (d.writtenIn entries) = .ok d ∧
        ofValue "<inline>" (d.writtenIn entries).settle = .ok d ∧
        (ofValue "<inline>" d.toJson).map toJson = .ok d.toJson := by
  let entries : List (String × Content) :=
    [("b", .perLanguage ["x", ""]), ("a", .perLanguage []), ("", .shared "y")]
  let noted : Json := .object [("k", .array [.null, .bool true])]
  let d : Dictionary := {
    header := {
      languages := ["en", "en", ""], linebreak := "\n"
      updateHistory := [{ user := "ann", contents := .ofJson noted }] }
    contents := .ofEntries entries }
  have perm : entries.Perm d.contents.entries := (Entries.sort_perm (by decide)).symm
  have reordered : entries ≠ d.contents.entries := by decide +kernel
  obtain ⟨read, sorted⟩ := (written_read_back "<inline>").1 d entries perm
  have again := (written_read_back "<inline>").2 (d.writtenIn entries) d read
  exact ⟨d, entries, rfl, rfl, rfl, perm, reordered, read, sorted, again.2.2⟩

end Dictionary

end PolyglotPages
