import PolyglotPages.Dictionary.Form
import PolyglotPages.Proofs.Json.Accepting

/-! Which values describe a dictionary, and which dictionary that is, said without the decoder. A
dictionary is read from exactly those values, and what it is read as is what they describe. -/
namespace PolyglotPages
open Entries (keys)
open Json (Gives IsRecord HasDistinctKeys check)

namespace Json

/-! ### Reading values -/

def IsText (v : Json) (text : String) : Prop := v = .string text

inductive ListOf {α : Type} (reads : Json → α → Prop) : Json → List α → Prop
  | array {items : List Json} {as : List α} (each : List.Forall₂ reads items as) :
    ListOf reads (.array items) as

/-- A field of a record reads as what is given for it, or has its default if nothing is given. -/
inductive Field {α : Type} (names : List String) (name : String) (v : Json)
    (reads : Json → α → Prop) (default : α) : α → Prop
  | given {w : Json} {a : α} (here : Gives names name v w) (read : reads w a) :
    Field names name v reads default a
  | missing (absent : ∀ w, ¬ Gives names name v w) : Field names name v reads default default

/-- What values read as is what the decoder makes of those that pass the check for a shape. -/
def ReadBy {α : Type} (reads : Json → α → Prop) (shape : Shape) (ofShaped : Json → α) : Prop :=
  ∀ (v : Json) (a : α), v.HasDistinctKeys →
    (reads v a ↔ check .decoded shape v = .ok () ∧ ofShaped v = a)

theorem readBy_text : ReadBy IsText .text asText := by
  intro v text distinct
  rw [check_text_eq_ok_iff]
  constructor
  · rintro rfl
    exact ⟨⟨text, rfl⟩, rfl⟩
  · rintro ⟨⟨s, rfl⟩, rfl⟩
    rfl

theorem ReadBy.list {α : Type} {reads : Json → α → Prop} {shape : Shape} {ofShaped : Json → α}
    (readBy : ReadBy reads shape ofShaped) {ofList : Json → List α}
    (mapped : ∀ items, ofList (.array items) = items.map ofShaped) :
    ReadBy (ListOf reads) (.list shape) ofList := by
  intro v as distinct
  constructor
  · rintro ⟨each⟩
    rename_i items
    rw [mapped, check, checkItems_eq_ok_iff]
    clear mapped
    induction each with
    | nil => simp
    | cons first rest ih =>
      rename_i item a items as
      obtain ⟨passed, rfl⟩ := (readBy item a (distinct.item List.mem_cons_self)).mp first
      obtain ⟨others, rfl⟩ := ih (.array fun v there => distinct.item (List.mem_cons_of_mem _ there))
      exact ⟨List.forall_mem_cons.mpr ⟨passed, others⟩, rfl⟩
  · rintro ⟨passed, rfl⟩
    obtain ⟨items, rfl, each⟩ := check_list_eq_ok_iff.mp passed
    rw [mapped]
    refine .array (List.forall₂_map_right_iff.mpr (List.forall₂_same.mpr fun v there => ?_))
    exact (readBy v _ (distinct.item there)).mpr ⟨each v there, rfl⟩

theorem ReadBy.field {α : Type} {reads : Json → α → Prop} {shape : Shape} {ofShaped : Json → α}
    (readBy : ReadBy reads shape ofShaped) {fields : List (String × Shape)}
    (nodup : (keys fields).Nodup) (name : String) (named : name ∈ keys fields) {v : Json}
    (distinct : v.HasDistinctKeys) (default a : α) :
    Field (keys fields) name v reads default a ↔
      (∀ w, Gives (keys fields) name v w → check .decoded shape w = .ok ()) ∧
        (v.field? fields name).elim default ofShaped = a := by
  constructor
  · intro field
    cases field with
    | given here read =>
      rename_i w
      have found := (field?_eq_some_iff nodup named distinct).mpr here
      obtain ⟨passed, same⟩ := (readBy w a (here.distinct distinct)).mp read
      refine ⟨fun w' here' => ?_, by rw [found]; exact same⟩
      have found' := (field?_eq_some_iff nodup named distinct).mpr here'
      obtain rfl : w = w' := Option.some.inj (found.symm.trans found')
      exact passed
    | missing absent =>
      have nothing : v.field? fields name = none := by
        rw [Option.eq_none_iff_forall_not_mem]
        intro w found
        exact absent w ((field?_eq_some_iff nodup named distinct).mp found)
      exact ⟨fun w here => absurd here (absent w), by rw [nothing]; rfl⟩
  · rintro ⟨each, rfl⟩
    cases found : v.field? fields name with
    | none =>
      refine .missing fun w here => ?_
      rw [(field?_eq_some_iff nodup named distinct).mpr here] at found
      cases found
    | some w =>
      have here := (field?_eq_some_iff nodup named distinct).mp found
      exact .given here ((readBy w _ (here.distinct distinct)).mpr ⟨each w here, rfl⟩)

end Json

open Json (IsText ListOf Field ReadBy)

/-! ### What a value describes -/

namespace UpdateRecord

def fieldNames : List String := ["user", "time", "comment", "contents"]

structure Describes (v : Json) (r : UpdateRecord) : Prop where
  form : IsRecord fieldNames v
  user : Field fieldNames "user" v IsText "" r.user
  time : Field fieldNames "time" v IsText "" r.time
  comment : Field fieldNames "comment" v IsText "" r.comment
  contents : Field fieldNames "contents" v (fun w s => s = .ofJson w) (.ofJson .null) r.contents

end UpdateRecord

inductive Content.Describes : Json → Content → Prop
  | shared (text : String) : Describes (.string text) (.shared text)
  | perLanguage {v : Json} {texts : List String} (each : ListOf IsText v texts) :
    Describes v (.perLanguage texts)

namespace Dictionary

inductive DescribesContents : Json → Table Content → Prop
  | object {members : List (String × Json)} {contents : Table Content}
    (each : ∀ e ∈ members, ∃ c, Content.Describes e.2 c)
    (same : ∀ name c, contents.get? name = some c ↔
      ∃ w, (name, w) ∈ members ∧ Content.Describes w c) :
    DescribesContents (.object members) contents

namespace Header

def fieldNames : List String := ["languages", "linebreak", "updateHistory"]

structure Describes (v : Json) (h : Header) : Prop where
  form : IsRecord fieldNames v
  languages : Field fieldNames "languages" v (ListOf IsText) [] h.languages
  linebreak : Field fieldNames "linebreak" v IsText "<br>" h.linebreak
  updateHistory :
    Field fieldNames "updateHistory" v (ListOf UpdateRecord.Describes) [] h.updateHistory

end Header

def fieldNames : List String := ["meta", "contents"]

structure Describes (v : Json) (d : Dictionary) : Prop where
  form : IsRecord fieldNames v
  header : Field fieldNames "meta" v Header.Describes ⟨[], "<br>", []⟩ d.header
  contents : Field fieldNames "contents" v DescribesContents .empty d.contents

end Dictionary

/-! ### The decoder reads what is described -/

section
variable {origin : Json.Origin} {v : Json}

theorem UpdateRecord.check_eq_ok_iff (distinct : v.HasDistinctKeys) :
    check origin shape v = .ok () ↔ IsRecord fieldNames v ∧
      (∀ w, Gives fieldNames "user" v w → check origin .text w = .ok ()) ∧
      (∀ w, Gives fieldNames "time" v w → check origin .text w = .ok ()) ∧
      ∀ w, Gives fieldNames "comment" v w → check origin .text w = .ok () := by
  have split : ∀ P : String × Json.Shape → Prop, (∀ e ∈ fields, P e) ↔
      P ("user", .text) ∧ P ("time", .text) ∧ P ("comment", .text) ∧ P ("contents", .any) := by
    intro P
    simp [fields]
  have nodup : (keys fields).Nodup := by decide
  rw [shape, Json.check_record_eq_ok_iff nodup distinct, split]
  have any : ∀ w, check origin .any w = .ok () := fun w => by simp [check]
  simp only [any, implies_true, and_true]
  exact Iff.rfl

theorem Dictionary.Header.check_eq_ok_iff (distinct : v.HasDistinctKeys) :
    check origin shape v = .ok () ↔ IsRecord fieldNames v ∧
      (∀ w, Gives fieldNames "languages" v w → check origin (.list .text) w = .ok ()) ∧
      (∀ w, Gives fieldNames "linebreak" v w → check origin .text w = .ok ()) ∧
      ∀ w, Gives fieldNames "updateHistory" v w →
        check origin (.list UpdateRecord.shape) w = .ok () := by
  have split : ∀ P : String × Json.Shape → Prop, (∀ e ∈ fields, P e) ↔
      P ("languages", .list .text) ∧ P ("linebreak", .text) ∧
        P ("updateHistory", .list UpdateRecord.shape) := by
    intro P
    simp [fields]
  have nodup : (keys fields).Nodup := by decide
  rw [shape, Json.check_record_eq_ok_iff nodup distinct, split]
  exact Iff.rfl

theorem Dictionary.check_eq_ok_iff (distinct : v.HasDistinctKeys) :
    check origin shape v = .ok () ↔ IsRecord fieldNames v ∧
      (∀ w, Gives fieldNames "meta" v w → check origin Header.shape w = .ok ()) ∧
      ∀ w, Gives fieldNames "contents" v w → check origin (.map Content.shape) w = .ok () := by
  have split : ∀ P : String × Json.Shape → Prop, (∀ e ∈ fields, P e) ↔
      P ("meta", Header.shape) ∧ P ("contents", .map Content.shape) := by
    intro P
    simp [fields]
  have nodup : (keys fields).Nodup := by decide
  rw [shape, Json.check_record_eq_ok_iff nodup distinct, split]
  exact Iff.rfl

theorem Content.check_eq_ok_iff : check origin shape v = .ok () ↔
    (∃ s, v = .string s) ∨ ∃ items, v = .array items ∧ ∀ item ∈ items, ∃ s, item = .string s := by
  simp only [shape, check, Json.checkTexts_eq_ok_iff, Json.isText_iff]

end

theorem UpdateRecord.readBy : ReadBy Describes shape ofShaped := by
  intro v r distinct
  have nodup : (keys fields).Nodup := by decide
  have any : ReadBy (fun w s => s = .ofJson w) .any SettledJson.ofJson := by
    intro w s _
    simp [check, eq_comm]
  have user := Json.readBy_text.field nodup "user" (by decide) distinct
    "" r.user
  have time := Json.readBy_text.field nodup "time" (by decide) distinct
    "" r.time
  have comment := Json.readBy_text.field nodup "comment" (by decide) distinct
    "" r.comment
  have contents := any.field nodup "contents" (by decide) distinct
    (.ofJson .null) r.contents
  have defaulted : (ofShaped v).contents =
      (v.field? fields "contents").elim (.ofJson .null) SettledJson.ofJson := by
    rw [ofShaped]
    cases v.field? fields "contents" <;> rfl
  rw [check_eq_ok_iff distinct]
  constructor
  · intro described
    obtain ⟨userPassed, sameUser⟩ := user.mp described.user
    obtain ⟨timePassed, sameTime⟩ := time.mp described.time
    obtain ⟨commentPassed, sameComment⟩ := comment.mp described.comment
    obtain ⟨-, sameContents⟩ := contents.mp described.contents
    refine ⟨⟨described.form, userPassed, timePassed, commentPassed⟩, ?_⟩
    obtain ⟨ru, rt, rc, rs⟩ := r
    rw [← defaulted] at sameContents
    subst sameUser sameTime sameComment sameContents
    rfl
  · rintro ⟨⟨form, userPassed, timePassed, commentPassed⟩, rfl⟩
    exact ⟨form, user.mpr ⟨userPassed, rfl⟩, time.mpr ⟨timePassed, rfl⟩,
      comment.mpr ⟨commentPassed, rfl⟩,
      contents.mpr ⟨fun w _ => by simp [check], defaulted.symm⟩⟩

theorem Dictionary.Header.readBy : ReadBy Describes shape ofShaped := by
  intro v h distinct
  have nodup : (keys fields).Nodup := by decide
  have texts : ReadBy (ListOf IsText) (.list .text) Json.asTexts :=
    Json.readBy_text.list fun _ => rfl
  have records : ReadBy (ListOf UpdateRecord.Describes) (.list UpdateRecord.shape)
      historyOfShaped := UpdateRecord.readBy.list fun _ => rfl
  have languages := texts.field nodup "languages" (by decide) distinct
    [] h.languages
  have linebreak := Json.readBy_text.field nodup "linebreak" (by decide) distinct
    "<br>" h.linebreak
  have history := records.field nodup "updateHistory" (by decide) distinct
    [] h.updateHistory
  rw [check_eq_ok_iff distinct]
  constructor
  · intro described
    obtain ⟨languagesPassed, sameLanguages⟩ := languages.mp described.languages
    obtain ⟨linebreakPassed, sameLinebreak⟩ := linebreak.mp described.linebreak
    obtain ⟨historyPassed, sameHistory⟩ := history.mp described.updateHistory
    refine ⟨⟨described.form, languagesPassed, linebreakPassed, historyPassed⟩, ?_⟩
    obtain ⟨hl, hb, hh⟩ := h
    subst sameLanguages sameLinebreak sameHistory
    rfl
  · rintro ⟨⟨form, languagesPassed, linebreakPassed, historyPassed⟩, rfl⟩
    exact ⟨form, languages.mpr ⟨languagesPassed, rfl⟩, linebreak.mpr ⟨linebreakPassed, rfl⟩,
      history.mpr ⟨historyPassed, rfl⟩⟩

theorem Content.readBy : ReadBy Describes shape ofShaped := by
  intro v c distinct
  have texts : ReadBy (ListOf IsText) (.list .text) Json.asTexts :=
    Json.readBy_text.list fun _ => rfl
  rw [check_eq_ok_iff]
  constructor
  · intro described
    cases described with
    | shared text => exact ⟨.inl ⟨text, rfl⟩, rfl⟩
    | perLanguage each =>
      obtain ⟨passed, rfl⟩ := (texts v _ distinct).mp each
      obtain ⟨items, rfl, strings⟩ := Json.check_list_eq_ok_iff.mp passed
      refine ⟨.inr ⟨items, rfl, fun item there => ?_⟩, rfl⟩
      exact Json.check_text_eq_ok_iff.mp (strings item there)
  · rintro ⟨⟨s, rfl⟩ | ⟨items, rfl, each⟩, rfl⟩
    · exact .shared s
    · refine .perLanguage ((texts _ _ distinct).mpr ⟨?_, rfl⟩)
      exact Json.check_list_eq_ok_iff.mpr ⟨items, rfl, fun item there =>
        Json.check_text_eq_ok_iff.mpr (each item there)⟩

namespace Dictionary

theorem get?_contentsOfShaped {members : List (String × Json)}
    (distinct : HasDistinctKeys (.object members))
    (passed : ∀ e ∈ members, check .decoded Content.shape e.2 = .ok ()) (name : String)
    (c : Content) : (contentsOfShaped (.object members)).get? name = some c ↔
      ∃ w, (name, w) ∈ members ∧ Content.Describes w c := by
  have kept : keys (members.map fun e => (e.1, Content.ofShaped e.2)) = keys members := by
    simp [keys]
  have nodup := distinct.keys
  rw [← kept] at nodup
  show (Table.ofEntries (members.map fun e => (e.1, Content.ofShaped e.2))).get? name = some c ↔ _
  rw [Table.get?_ofEntries nodup, Entries.lookup_eq_some_iff nodup, List.mem_map]
  constructor
  · rintro ⟨⟨key, w⟩, there, same⟩
    obtain ⟨rfl, rfl⟩ := Prod.mk.inj same
    exact ⟨w, there, (Content.readBy w _ (distinct.value there)).mpr ⟨passed _ there, rfl⟩⟩
  · rintro ⟨w, there, described⟩
    have same := ((Content.readBy w c (distinct.value there)).mp described).2
    exact ⟨(name, w), there, by rw [same]⟩

theorem readBy_contents : ReadBy DescribesContents (.map Content.shape) contentsOfShaped := by
  intro v contents distinct
  constructor
  · intro described
    cases described with
    | object each same =>
      rename_i members
      have passed : ∀ e ∈ members, check .decoded Content.shape e.2 = .ok () := by
        intro e there
        obtain ⟨c, described⟩ := each e there
        exact ((Content.readBy e.2 c (distinct.value there)).mp described).1
      refine ⟨Json.check_map_eq_ok_iff.mpr ⟨members, rfl, passed⟩, ?_⟩
      apply Table.eq_of_get?
      intro name
      apply Option.ext
      intro c
      rw [get?_contentsOfShaped distinct passed, same]
  · rintro ⟨passed, rfl⟩
    obtain ⟨members, rfl, each⟩ := Json.check_map_eq_ok_iff.mp passed
    refine .object (fun e there => ?_) (get?_contentsOfShaped distinct each)
    exact ⟨_, (Content.readBy e.2 _ (distinct.value there)).mpr ⟨each e there, rfl⟩⟩

theorem readBy : ReadBy Describes shape ofShaped := by
  intro v d distinct
  have nodup : (keys fields).Nodup := by decide
  have header := Header.readBy.field nodup "meta" (by decide) distinct
    ⟨[], "<br>", []⟩ d.header
  have contents := readBy_contents.field nodup "contents" (by decide) distinct
    .empty d.contents
  rw [check_eq_ok_iff distinct]
  constructor
  · intro described
    obtain ⟨headerPassed, sameHeader⟩ := header.mp described.header
    obtain ⟨contentsPassed, sameContents⟩ := contents.mp described.contents
    refine ⟨⟨described.form, headerPassed, contentsPassed⟩, ?_⟩
    obtain ⟨dh, dc⟩ := d
    subst sameHeader sameContents
    rfl
  · rintro ⟨⟨form, headerPassed, contentsPassed⟩, rfl⟩
    exact ⟨form, header.mpr ⟨headerPassed, rfl⟩, contents.mpr ⟨contentsPassed, rfl⟩⟩

theorem ofValue_eq_ok_iff {origin : String} {v : Json} {d : Dictionary} :
    ofValue origin v = .ok d ↔ check .decoded shape v = .ok () ∧ ofShaped v = d := by
  rw [ofValue, ofJson]
  cases check .decoded shape v with
  | error e => simp [Except.mapError, bind, Except.bind]
  | ok a => simp [Except.mapError, bind, Except.bind, pure, Except.pure]

theorem ofValue_eq_error {origin : String} {v : Json} {e : InputError}
    (failed : ofValue origin v = .error e) : ∃ detail, e = .malformed origin detail := by
  rw [ofValue] at failed
  cases read : ofJson v with
  | ok d => simp [read, Except.mapError] at failed
  | error cause =>
    simp only [read, Except.mapError, Except.error.injEq] at failed
    exact ⟨cause.message, failed.symm⟩

end Dictionary
end PolyglotPages
