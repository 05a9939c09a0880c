import PolyglotPages.Proofs.Dictionary.Described

/-! The parts of a value that is to be a dictionary, and what is wanted of each. A dictionary is
read exactly when every part is of its type, however deep it stands: one that is not, and null among
them, makes the whole value be refused. -/
namespace PolyglotPages
open Json (Gives IsRecord HasDistinctKeys check)

namespace Dictionary

/-! ### The parts of a value -/

inductive Part where
  | dictionary
  | header
  | languages
  | history
  | record
  | contents
  | content
  | text

namespace Part

/-- Whether a value is of the type that is wanted, whatever it holds. -/
def Admits : Part → Json → Prop
  | .dictionary, v => IsRecord Dictionary.fieldNames v
  | .header, v => IsRecord Header.fieldNames v
  | .record, v => IsRecord UpdateRecord.fieldNames v
  | .languages, v | .history, v => ∃ items, v = .array items
  | .contents, v => ∃ members, v = .object members
  | .content, v => (∃ s, v = .string s) ∨ ∃ items, v = .array items
  | .text, v => ∃ s, v = .string s

/-- In `v`, of which `p` is wanted, `w` stands where `q` is wanted. -/
inductive Holds : Part → Json → Part → Json → Prop
  | header {v w : Json} (here : Gives Dictionary.fieldNames "meta" v w) :
    Holds .dictionary v .header w
  | contents {v w : Json} (here : Gives Dictionary.fieldNames "contents" v w) :
    Holds .dictionary v .contents w
  | languages {v w : Json} (here : Gives Header.fieldNames "languages" v w) :
    Holds .header v .languages w
  | linebreak {v w : Json} (here : Gives Header.fieldNames "linebreak" v w) :
    Holds .header v .text w
  | history {v w : Json} (here : Gives Header.fieldNames "updateHistory" v w) :
    Holds .header v .history w
  | language {items : List Json} {w : Json} (here : w ∈ items) :
    Holds .languages (.array items) .text w
  | record {items : List Json} {w : Json} (here : w ∈ items) :
    Holds .history (.array items) .record w
  | note {name : String} (named : name ∈ ["user", "time", "comment"]) {v w : Json}
    (here : Gives UpdateRecord.fieldNames name v w) : Holds .record v .text w
  | content {members : List (String × Json)} {e : String × Json} (here : e ∈ members) :
    Holds .contents (.object members) .content e.2
  | translation {items : List Json} {w : Json} (here : w ∈ items) :
    Holds .content (.array items) .text w

/-- Somewhere inside `v`, which is to be a dictionary, `w` stands where `p` is wanted. -/
inductive Within (v : Json) : Part → Json → Prop
  | whole : Within v .dictionary v
  | part {p q : Part} {u w : Json} (inside : Within v p u) (held : Holds p u q w) : Within v q w

def shape : Part → Json.Shape
  | .dictionary => Dictionary.shape
  | .header => Header.shape
  | .languages => .list .text
  | .history => .list UpdateRecord.shape
  | .record => UpdateRecord.shape
  | .contents => .map Content.shape
  | .content => Content.shape
  | .text => .text

def rank : Part → Nat
  | .dictionary => 4
  | .header | .contents => 3
  | .history => 2
  | .languages | .record | .content => 1
  | .text => 0

theorem Holds.distinct {p q : Part} {u w : Json} (held : Holds p u q w)
    (distinct : u.HasDistinctKeys) : w.HasDistinctKeys := by
  cases held with
  | header here => exact here.distinct distinct
  | contents here => exact here.distinct distinct
  | languages here => exact here.distinct distinct
  | linebreak here => exact here.distinct distinct
  | history here => exact here.distinct distinct
  | note named here => exact here.distinct distinct
  | language here => exact distinct.item here
  | record here => exact distinct.item here
  | translation here => exact distinct.item here
  | content here => exact distinct.value here

/-- A part passes when it is of its type and all that it holds passes. -/
theorem check_eq_ok_iff {p : Part} {u : Json} (distinct : u.HasDistinctKeys) :
    check .decoded p.shape u = .ok () ↔
      p.Admits u ∧ ∀ q w, Holds p u q w → check .decoded q.shape w = .ok () := by
  cases p with
  | dictionary =>
    rw [shape, Dictionary.check_eq_ok_iff distinct]
    constructor
    · rintro ⟨form, header, contents⟩
      refine ⟨form, fun q w held => ?_⟩
      cases held with
      | header here => exact header w here
      | contents here => exact contents w here
    · rintro ⟨form, each⟩
      exact ⟨form, fun w here => each _ w (.header here), fun w here => each _ w (.contents here)⟩
  | header =>
    rw [shape, Header.check_eq_ok_iff distinct]
    constructor
    · rintro ⟨form, languages, linebreak, history⟩
      refine ⟨form, fun q w held => ?_⟩
      cases held with
      | languages here => exact languages w here
      | linebreak here => exact linebreak w here
      | history here => exact history w here
    · rintro ⟨form, each⟩
      exact ⟨form, fun w here => each _ w (.languages here),
        fun w here => each _ w (.linebreak here), fun w here => each _ w (.history here)⟩
  | record =>
    rw [shape, UpdateRecord.check_eq_ok_iff distinct]
    constructor
    · rintro ⟨form, user, time, comment⟩
      refine ⟨form, fun q w held => ?_⟩
      cases held with
      | note named here =>
        simp only [List.mem_cons, List.not_mem_nil, or_false] at named
        rcases named with rfl | rfl | rfl
        · exact user w here
        · exact time w here
        · exact comment w here
    · rintro ⟨form, each⟩
      exact ⟨form, fun w here => each _ w (.note (by simp) here),
        fun w here => each _ w (.note (by simp) here), fun w here => each _ w (.note (by simp) here)⟩
  | languages =>
    rw [shape, Json.check_list_eq_ok_iff]
    constructor
    · rintro ⟨items, rfl, passed⟩
      refine ⟨⟨items, rfl⟩, fun q w held => ?_⟩
      cases held with
      | language here => exact passed w here
    · rintro ⟨⟨items, rfl⟩, each⟩
      exact ⟨items, rfl, fun w here => each _ w (.language here)⟩
  | history =>
    rw [shape, Json.check_list_eq_ok_iff]
    constructor
    · rintro ⟨items, rfl, passed⟩
      refine ⟨⟨items, rfl⟩, fun q w held => ?_⟩
      cases held with
      | record here => exact passed w here
    · rintro ⟨⟨items, rfl⟩, each⟩
      exact ⟨items, rfl, fun w here => each _ w (.record here)⟩
  | contents =>
    rw [shape, Json.check_map_eq_ok_iff]
    constructor
    · rintro ⟨members, rfl, passed⟩
      refine ⟨⟨members, rfl⟩, fun q w held => ?_⟩
      cases held with
      | content here => exact passed _ here
    · rintro ⟨⟨members, rfl⟩, each⟩
      exact ⟨members, rfl, fun e here => each _ e.2 (.content here)⟩
  | content =>
    rw [shape, Content.check_eq_ok_iff]
    constructor
    · rintro (⟨s, rfl⟩ | ⟨items, rfl, passed⟩)
      · exact ⟨.inl ⟨s, rfl⟩, nofun⟩
      · refine ⟨.inr ⟨items, rfl⟩, fun q w held => ?_⟩
        cases held with
        | translation here => exact Json.check_text_eq_ok_iff.mpr (passed w here)
    · rintro ⟨⟨s, rfl⟩ | ⟨items, rfl⟩, each⟩
      · exact .inl ⟨s, rfl⟩
      · exact .inr ⟨items, rfl, fun w here =>
          Json.check_text_eq_ok_iff.mp (each _ w (.translation here))⟩
  | text =>
    rw [shape, Json.check_text_eq_ok_iff]
    exact ⟨fun passed => ⟨passed, nofun⟩, fun passed => passed.1⟩

theorem Within.passed {v : Json} (distinct : v.HasDistinctKeys)
    (passed : check .decoded Dictionary.shape v = .ok ()) {p : Part} {w : Json}
    (inside : Within v p w) : w.HasDistinctKeys ∧ check .decoded p.shape w = .ok () := by
  induction inside with
  | whole => exact ⟨distinct, passed⟩
  | part inside held ih =>
    obtain ⟨distinct, passed⟩ := ih
    exact ⟨held.distinct distinct, ((check_eq_ok_iff distinct).mp passed).2 _ _ held⟩

end Part

open Dictionary.Part (Within)

end Dictionary
end PolyglotPages
