import PolyglotPages.Json.Shape
import PolyglotPages.Proofs.Chain
import PolyglotPages.Proofs.Json.Keys

/-! Which values pass a check for a shape. The check stops at the first thing that is wrong; what it
comes to is said here part by part, without the order. -/
namespace PolyglotPages.Json
open Entries (keys)

/-! ### What each check asks for -/

theorem checkText_eq_ok_iff {wanted : Wanted} {v : Json} :
    checkText wanted v = .ok () ↔ ∃ s, v = .string s := by
  cases v <;> simp [checkText]

theorem isText_iff {v : Json} : isText v = true ↔ ∃ s, v = .string s := by
  cases v <;> simp [isText]

theorem checkTexts_eq_ok_iff {type : String} {v : Json} :
    checkTexts type v = .ok () ↔
      (∃ s, v = .string s) ∨ ∃ items, v = .array items ∧ ∀ item ∈ items, isText item = true := by
  cases v <;> simp [checkTexts]

section
variable {origin : Origin}

theorem checkItems_eq_ok_iff {item : Shape} {items : List Json} :
    checkItems origin item items = .ok () ↔ ∀ v ∈ items, check origin item v = .ok () := by
  induction items with
  | nil => simp [checkItems]
  | cons v rest ih => simp [checkItems, then_eq_ok_iff, ih]

theorem checkValues_eq_ok_iff {value : Shape} {members : List (String × Json)} :
    checkValues origin value members = .ok () ↔
      ∀ e ∈ members, check origin value e.2 = .ok () := by
  induction members with
  | nil => simp [checkValues]
  | cons e rest ih => simp [checkValues, then_eq_ok_iff, ih]

theorem check_text_eq_ok_iff {v : Json} : check origin .text v = .ok () ↔ ∃ s, v = .string s := by
  rw [check, checkText_eq_ok_iff]

theorem check_list_eq_ok_iff {item : Shape} {v : Json} :
    check origin (.list item) v = .ok () ↔
      ∃ items, v = .array items ∧ ∀ w ∈ items, check origin item w = .ok () := by
  cases v <;> simp [check, checkItems_eq_ok_iff]

theorem check_map_eq_ok_iff {value : Shape} {v : Json} :
    check origin (.map value) v = .ok () ↔
      ∃ members, v = .object members ∧ ∀ e ∈ members, check origin value e.2 = .ok () := by
  cases v <;> simp [check, checkValues_eq_ok_iff]

theorem checkFields_eq_ok_iff {fields : List (String × Shape)} {items : List Json} :
    checkFields origin fields items = .ok () ↔
      ∀ (i : Nat) (e : String × Shape) (v : Json), fields[i]? = some e → items[i]? = some v →
        check origin e.2 v = .ok () := by
  induction fields generalizing items with
  | nil => simp [checkFields]
  | cons field fields ih =>
    cases items with
    | nil => simp [checkFields]
    | cons item rest =>
      simp only [checkFields, then_eq_ok_iff, ih]
      constructor
      · rintro ⟨first, others⟩ i e v named there
        cases i with
        | zero =>
          obtain rfl : field = e := by simpa using named
          obtain rfl : item = v := by simpa using there
          exact first
        | succ i => exact others i e v (by simpa using named) (by simpa using there)
      · intro each
        exact ⟨each 0 field item rfl rfl, fun i e v named there =>
          each (i + 1) e v (by simpa using named) (by simpa using there)⟩

def known (fields : List (String × Shape)) (members : List (String × Json)) : List String :=
  (keys members).filter fun key => (fields.lookup key).isSome

theorem checkMembers_eq_ok_iff {fields : List (String × Shape)} {seen : List String}
    {members : List (String × Json)} :
    checkMembers origin fields seen members = .ok () ↔
      (known fields members).Nodup ∧ (∀ key ∈ known fields members, key ∉ seen) ∧
        ∀ e ∈ members, ∀ shape, fields.lookup e.1 = some shape →
          check origin shape e.2 = .ok () := by
  induction members generalizing seen with
  | nil => simp [checkMembers, known]
  | cons e rest ih =>
    obtain ⟨key, v⟩ := e
    cases named : fields.lookup key with
    | none => simp [checkMembers, known, named, ih]
    | some shape =>
      by_cases again : key ∈ seen
      · simp [checkMembers, known, named, again]
      · have apart : (∀ k ∈ known fields rest, k ∉ key :: seen) ↔
            key ∉ known fields rest ∧ ∀ k ∈ known fields rest, k ∉ seen := by
          simp only [List.mem_cons, not_or]
          constructor
          · intro each
            exact ⟨fun there => (each key there).1 rfl, fun k there => (each k there).2⟩
          · rintro ⟨fresh, others⟩ k there
            exact ⟨fun same => fresh (same ▸ there), others k there⟩
        have split : known fields ((key, v) :: rest) = key :: known fields rest := by
          simp [known, keys, named]
        simp only [checkMembers, named, again, if_false, then_eq_ok_iff, ih, apart,
          split, List.nodup_cons, List.forall_mem_cons, Option.some.injEq, forall_eq']
        tauto

end

/-! ### Records -/

/-- A record with the given fields is an object, or an array that has no item beyond them. -/
inductive IsRecord (names : List String) : Json → Prop
  | object (members : List (String × Json)) : IsRecord names (.object members)
  | array {items : List Json} (short : items.length ≤ names.length) : IsRecord names (.array items)

/-- What a record gives for a field: a member of its name, or the item at its place. -/
inductive Gives (names : List String) (name : String) : Json → Json → Prop
  | member {members : List (String × Json)} {w : Json} (there : (name, w) ∈ members) :
    Gives names name (.object members) w
  | item {items : List Json} {i : Nat} {w : Json} (place : names[i]? = some name)
    (there : items[i]? = some w) : Gives names name (.array items) w

theorem gives_object_iff {names : List String} {name : String} {members : List (String × Json)}
    {w : Json} : Gives names name (.object members) w ↔ (name, w) ∈ members := by
  constructor
  · intro given
    cases given with
    | member there => exact there
  · exact .member

theorem gives_array_iff {names : List String} {name : String} {items : List Json} {w : Json} :
    Gives names name (.array items) w ↔ ∃ i : Nat, names[i]? = some name ∧ items[i]? = some w := by
  constructor
  · intro given
    cases given with
    | item place there => exact ⟨_, place, there⟩
  · rintro ⟨i, place, there⟩
    exact .item place there

theorem Gives.distinct {names : List String} {name : String} {v w : Json}
    (given : Gives names name v w) (distinct : v.HasDistinctKeys) : w.HasDistinctKeys := by
  cases given with
  | member there => exact distinct.value there
  | item place there => exact distinct.item (List.mem_of_getElem? there)

theorem getElem?_eq_some_iff_idxOf {names : List String} (nodup : names.Nodup) {name : String}
    (named : name ∈ names) {i : Nat} : names[i]? = some name ↔ i = names.idxOf name := by
  constructor
  · intro place
    obtain ⟨inside, here⟩ := List.getElem?_eq_some_iff.mp place
    rw [← here, nodup.idxOf_getElem]
  · rintro rfl
    exact List.getElem?_idxOf named

variable {fields : List (String × Shape)}

theorem field?_eq_some_iff (nodup : (keys fields).Nodup) {name : String}
    (named : name ∈ keys fields) {v w : Json} (distinct : v.HasDistinctKeys) :
    v.field? fields name = some w ↔ Gives (keys fields) name v w := by
  cases v with
  | object members => rw [field?, Entries.lookup_eq_some_iff distinct.keys, gives_object_iff]
  | array items =>
    simp only [field?, keys, gives_array_iff, getElem?_eq_some_iff_idxOf nodup named, exists_eq_left]
  | null => exact ⟨nofun, nofun⟩
  | bool b => exact ⟨nofun, nofun⟩
  | number n => exact ⟨nofun, nofun⟩
  | string s => exact ⟨nofun, nofun⟩

theorem check_record_eq_ok_iff {origin : Origin} {type : String} (nodup : (keys fields).Nodup)
    {v : Json} (distinct : v.HasDistinctKeys) :
    check origin (.record type fields) v = .ok () ↔ IsRecord (keys fields) v ∧
      ∀ e ∈ fields, ∀ w, Gives (keys fields) e.1 v w → check origin e.2 w = .ok () := by
  cases v with
  | object members =>
    have fresh : (known fields members).Nodup := distinct.keys.filter _
    simp only [check, checkMembers_eq_ok_iff, fresh, List.not_mem_nil, not_false_eq_true,
      implies_true, true_and, IsRecord.object, gives_object_iff, Entries.lookup_eq_some_iff nodup]
    constructor
    · intro each e field w there
      exact each (e.1, w) there e.2 field
    · intro each e there shape field
      exact each (e.1, shape) field e.2 there
  | array items =>
    have form : IsRecord (keys fields) (.array items) ↔ items.length ≤ fields.length := by
      constructor
      · intro record
        cases record with
        | array short => simpa using short
      · intro short
        exact .array (by simpa using short)
    have field_at : ∀ (i : Nat) (e : String × Shape), e ∈ fields →
        ((keys fields)[i]? = some e.1 ↔ fields[i]? = some e) := by
      intro i e field
      rw [List.getElem?_map, Option.map_eq_some_iff]
      constructor
      · rintro ⟨e', place, same⟩
        have there := List.mem_of_getElem? place
        rw [place, List.inj_on_of_nodup_map nodup there field same]
      · intro place
        exact ⟨e, place, rfl⟩
    simp only [form, check, then_eq_ok_iff, checkFields_eq_ok_iff]
    by_cases long : fields.length < items.length
    · simp [long, Nat.not_le.mpr long]
    · simp only [long, if_false, Nat.not_lt.mp long, true_and, gives_array_iff]
      constructor
      · rintro ⟨each, -⟩ e field w ⟨i, place, there⟩
        exact each i e w ((field_at i e field).mp place) there
      · intro each
        refine ⟨fun i e w place there => ?_, rfl⟩
        have field := List.mem_of_getElem? place
        exact each e field w ⟨i, (field_at i e field).mpr place, there⟩
  | null => exact ⟨nofun, nofun⟩
  | bool b => exact ⟨nofun, nofun⟩
  | number n => exact ⟨nofun, nofun⟩
  | string s => exact ⟨nofun, nofun⟩

/-! ### Settling -/

/-- Whatever passes a check for the shape passes any such check when it has been settled. -/
def Lasting (s : Shape) : Prop :=
  ∀ (origin other : Origin) (v : Json), check origin s v = .ok () → check other s v.settle = .ok ()

theorem lasting_any : Lasting .any := by
  intro origin other v passed
  simp [check]

theorem lasting_text : Lasting .text := by
  intro origin other v passed
  obtain ⟨s, rfl⟩ := check_text_eq_ok_iff.mp passed
  exact check_text_eq_ok_iff.mpr ⟨s, rfl⟩

theorem lasting_texts (type : String) : Lasting (.textOrTexts type) := by
  intro origin other v passed
  rcases checkTexts_eq_ok_iff.mp (by simpa [check] using passed) with ⟨s, rfl⟩ | ⟨items, rfl, each⟩
  · simp [settle, check, checkTexts]
  · simp only [settle, check]
    refine checkTexts_eq_ok_iff.mpr (.inr ⟨settleItems items, rfl, ?_⟩)
    intro item there
    rw [settleItems_eq_map, List.mem_map] at there
    obtain ⟨v, member, rfl⟩ := there
    obtain ⟨s, rfl⟩ := isText_iff.mp (each v member)
    rfl

theorem Lasting.list {item : Shape} (lasting : Lasting item) : Lasting (.list item) := by
  intro origin other v passed
  obtain ⟨items, rfl, each⟩ := check_list_eq_ok_iff.mp passed
  refine check_list_eq_ok_iff.mpr ⟨settleItems items, rfl, fun w there => ?_⟩
  rw [settleItems_eq_map, List.mem_map] at there
  obtain ⟨v, member, rfl⟩ := there
  exact lasting origin other v (each v member)

theorem mem_of_mem_sort_settleMembers {members : List (String × Json)} {e : String × Json}
    (there : e ∈ Entries.sort (settleMembers members)) :
    ∃ v, (e.1, v) ∈ members ∧ v.settle = e.2 := by
  have kept := Entries.mem_of_mem_sort there
  rw [settleMembers_eq_map, List.mem_map] at kept
  obtain ⟨⟨key, v⟩, member, rfl⟩ := kept
  exact ⟨v, member, rfl⟩

theorem Lasting.map {value : Shape} (lasting : Lasting value) : Lasting (.map value) := by
  intro origin other v passed
  obtain ⟨members, rfl, each⟩ := check_map_eq_ok_iff.mp passed
  refine check_map_eq_ok_iff.mpr ⟨Entries.sort (settleMembers members), rfl, fun e there => ?_⟩
  obtain ⟨v, member, settled⟩ := mem_of_mem_sort_settleMembers there
  rw [← settled]
  exact lasting origin other v (each _ member)

theorem Lasting.record (type : String) (lasting : ∀ e ∈ fields, Lasting e.2) :
    Lasting (.record type fields) := by
  intro origin other v passed
  cases v with
  | object members =>
    simp only [check, checkMembers_eq_ok_iff] at passed
    obtain ⟨-, -, each⟩ := passed
    have sorted := Entries.keys_nodup_of_ascending (Entries.ascending_sort (settleMembers members))
    simp only [settle, check, checkMembers_eq_ok_iff]
    refine ⟨sorted.filter _, by simp, fun e there shape named => ?_⟩
    obtain ⟨v, member, settled⟩ := mem_of_mem_sort_settleMembers there
    rw [← settled]
    exact lasting (e.1, shape) (Entries.mem_of_lookup named) origin other v
      (each _ member shape named)
  | array items =>
    simp only [check, then_eq_ok_iff, checkFields_eq_ok_iff] at passed
    obtain ⟨each, short⟩ := passed
    have few : ¬ fields.length < items.length := by
      intro long
      simp [long] at short
    simp only [settle, check, then_eq_ok_iff, checkFields_eq_ok_iff, settleItems_eq_map,
      List.length_map, few, if_false]
    refine ⟨fun i e w place there => ?_, rfl⟩
    rw [List.getElem?_map, Option.map_eq_some_iff] at there
    obtain ⟨v, here, rfl⟩ := there
    exact lasting e (List.mem_of_getElem? place) origin other v (each i e v place here)
  | _ => simp [check] at passed

/-! ### Origins -/

/-- Where a value comes from is no matter to a check for the shape. -/
def Steady (s : Shape) : Prop :=
  ∀ (origin other : Origin) (v : Json), check origin s v = .ok () → check other s v = .ok ()

theorem steady_any : Steady .any := by
  intro origin other v passed
  simp [check]

theorem steady_text : Steady .text := by
  intro origin other v passed
  simpa [check] using passed

theorem steady_texts (type : String) : Steady (.textOrTexts type) := by
  intro origin other v passed
  simpa [check] using passed

theorem steady_optionalPath : Steady .optionalPath := by
  intro origin other v passed
  cases v with
  | null => simp [check]
  | _ => simpa [check] using passed

theorem Steady.list {item : Shape} (steady : Steady item) : Steady (.list item) := by
  intro origin other v passed
  obtain ⟨items, rfl, each⟩ := check_list_eq_ok_iff.mp passed
  exact check_list_eq_ok_iff.mpr ⟨items, rfl, fun w there => steady _ _ w (each w there)⟩

theorem Steady.map {value : Shape} (steady : Steady value) : Steady (.map value) := by
  intro origin other v passed
  obtain ⟨members, rfl, each⟩ := check_map_eq_ok_iff.mp passed
  exact check_map_eq_ok_iff.mpr ⟨members, rfl, fun e there => steady _ _ e.2 (each e there)⟩

theorem Steady.record (type : String) (steady : ∀ e ∈ fields, Steady e.2) :
    Steady (.record type fields) := by
  intro origin other v passed
  cases v with
  | object members =>
    simp only [check, checkMembers_eq_ok_iff] at passed ⊢
    obtain ⟨known, fresh, each⟩ := passed
    refine ⟨known, fresh, fun e there shape named => ?_⟩
    exact steady (e.1, shape) (Entries.mem_of_lookup named) _ _ e.2 (each e there shape named)
  | array items =>
    simp only [check, then_eq_ok_iff, checkFields_eq_ok_iff] at passed ⊢
    obtain ⟨each, short⟩ := passed
    have few : ¬ fields.length < items.length := by
      intro long
      simp [long] at short
    refine ⟨fun i e w place there => ?_, by rw [if_neg few]; rfl⟩
    exact steady e (List.mem_of_getElem? place) _ _ w (each i e w place there)
  | _ => simp [check] at passed

/-! ### Members that no field names -/

theorem checkMembers_filter {origin : Origin} (kept : String → Bool)
    (own : ∀ key ∈ keys fields, kept key = true) (members : List (String × Json))
    (seen : List String) :
    checkMembers origin fields seen (members.filter fun e => kept e.1) =
      checkMembers origin fields seen members := by
  induction members generalizing seen with
  | nil => rfl
  | cons e rest ih =>
    obtain ⟨key, v⟩ := e
    cases named : fields.lookup key with
    | none =>
      cases stays : kept key <;> simp [stays, checkMembers, named, ih]
    | some shape =>
      have stays := own key (List.mem_map_of_mem (Entries.mem_of_lookup named))
      simp [stays, checkMembers, named, ih]

end PolyglotPages.Json
