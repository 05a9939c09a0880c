import Mathlib.Data.List.Nodup
import PolyglotPages.Json.Settled

/-! Keys that are met once. Entries whose keys all differ make one table in whatever order they are
entered, and an object without a repeated key means what its members say one by one. -/
namespace PolyglotPages

namespace Entries

variable {α : Type}

abbrev keys (entries : List (String × α)) : List String := entries.map Prod.fst

theorem keys_nodup_of_ascending {entries : List (String × α)} (ascending : Ascending entries) :
    (keys entries).Nodup := by
  rw [List.Nodup, List.pairwise_map]
  apply ascending.imp
  intro a b lower same
  rw [same] at lower
  exact String.lt_irrefl b.1 lower

theorem lookup_eq_some_iff {entries : List (String × α)} (distinct : (keys entries).Nodup)
    {key : String} {value : α} : entries.lookup key = some value ↔ (key, value) ∈ entries := by
  induction entries with
  | nil => simp
  | cons e rest ih =>
    obtain ⟨k, v⟩ := e
    simp only [keys, List.map_cons, List.nodup_cons] at distinct
    by_cases here : key = k
    · subst here
      have alone : (key, value) ∉ rest := fun there => distinct.1 (List.mem_map_of_mem there)
      simp [alone, eq_comm]
    · simp [List.lookup_cons, beq_false_of_ne here, here, ih distinct.2]

theorem mem_of_lookup {entries : List (String × α)} {key : String} {value : α}
    (found : entries.lookup key = some value) : (key, value) ∈ entries := by
  obtain ⟨front, back, rfl, -⟩ := List.lookup_eq_some_iff.mp found
  simp

theorem lookup_eq_none_iff {entries : List (String × α)} {key : String} :
    entries.lookup key = none ↔ key ∉ keys entries := by
  rw [List.lookup_eq_none_iff]
  constructor
  · intro other there
    obtain ⟨e, member, rfl⟩ := List.mem_map.mp there
    simpa using other e member
  · intro absent e member
    have ne : key ≠ e.1 := fun same => absent (same ▸ List.mem_map_of_mem member)
    simpa using ne

section
variable {β : Type} (f : String → α → β) (entries : List (String × α))

theorem keys_map : keys (entries.map fun e => (e.1, f e.1 e.2)) = keys entries := by
  simp [keys]

theorem lookup_map (key : String) :
    (entries.map fun e => (e.1, f e.1 e.2)).lookup key = (entries.lookup key).map (f key) := by
  induction entries with
  | nil => rfl
  | cons e rest ih =>
    obtain ⟨k, value⟩ := e
    simp only [List.map_cons, List.lookup_cons]
    cases here : key == k with
    | true => simp [LawfulBEq.eq_of_beq here]
    | false => simp [ih]

end

section
variable {key : String} {value : α}

theorem mem_insert_self (entries : List (String × α)) : (key, value) ∈ insert key value entries := by
  induction entries with
  | nil => exact List.mem_cons_self
  | cons e rest ih =>
    obtain ⟨k, v⟩ := e
    simp only [insert]
    split
    · exact List.mem_cons_self
    · split
      · exact List.mem_cons_self
      · exact List.mem_cons_of_mem _ ih

theorem mem_insert_of_ne {other : String} {v : α} {entries : List (String × α)} (ne : key ≠ other)
    (there : (key, value) ∈ entries) : (key, value) ∈ insert other v entries := by
  induction entries with
  | nil => cases there
  | cons e rest ih =>
    obtain ⟨k, w⟩ := e
    simp only [insert]
    split
    · exact List.mem_cons_of_mem _ there
    · split
      · next same =>
        rcases List.mem_cons.mp there with here | there
        · exact absurd ((congrArg Prod.fst here).trans same.symm) ne
        · exact List.mem_cons_of_mem _ there
      · rcases List.mem_cons.mp there with here | there
        · rw [here]
          exact List.mem_cons_self
        · exact List.mem_cons_of_mem _ (ih there)

theorem mem_foldl_insert_of_fresh {entries sorted : List (String × α)} (fresh : key ∉ keys entries)
    (there : (key, value) ∈ sorted) :
    (key, value) ∈ entries.foldl (fun sorted e => insert e.1 e.2 sorted) sorted := by
  induction entries generalizing sorted with
  | nil => exact there
  | cons e rest ih =>
    simp only [keys, List.map_cons, List.mem_cons, not_or] at fresh
    exact ih fresh.2 (mem_insert_of_ne fresh.1 there)

theorem mem_sort_of_last (before : List (String × α)) {after : List (String × α)}
    (last : key ∉ keys after) : (key, value) ∈ sort (before ++ (key, value) :: after) := by
  rw [sort, List.foldl_append, List.foldl_cons]
  exact mem_foldl_insert_of_fresh last (mem_insert_self _)

end

theorem insert_perm {key : String} (value : α) {entries : List (String × α)}
    (fresh : key ∉ keys entries) : (insert key value entries).Perm ((key, value) :: entries) := by
  induction entries with
  | nil => rfl
  | cons e rest ih =>
    obtain ⟨k, v⟩ := e
    simp only [keys, List.map_cons, List.mem_cons, not_or] at fresh
    simp only [insert, fresh.1, if_false]
    split
    · rfl
    · exact ((ih fresh.2).cons (k, v)).trans (.swap (key, value) (k, v) rest)

theorem foldl_insert_perm {entries sorted : List (String × α)}
    (distinct : (keys (entries ++ sorted)).Nodup) :
    (entries.foldl (fun sorted e => insert e.1 e.2 sorted) sorted).Perm (entries ++ sorted) := by
  induction entries generalizing sorted with
  | nil => rfl
  | cons e rest ih =>
    simp only [keys, List.cons_append, List.map_cons, List.nodup_cons] at distinct
    have fresh : e.1 ∉ keys sorted := fun there =>
      distinct.1 (by rw [List.map_append]; exact List.mem_append_right _ there)
    have entered := insert_perm e.2 fresh
    have moved : (rest ++ insert e.1 e.2 sorted).Perm (e :: (rest ++ sorted)) :=
      (entered.append_left rest).trans List.perm_middle
    have still : (keys (rest ++ insert e.1 e.2 sorted)).Nodup :=
      (moved.map Prod.fst).nodup_iff.mpr (List.nodup_cons.mpr distinct)
    exact (ih still).trans moved

theorem sort_perm {entries : List (String × α)} (distinct : (keys entries).Nodup) :
    (sort entries).Perm entries := by
  have apart : (keys (entries ++ [])).Nodup := by simpa using distinct
  simpa [sort] using foldl_insert_perm apart

theorem lookup_sort {entries : List (String × α)} (distinct : (keys entries).Nodup)
    (key : String) : (sort entries).lookup key = entries.lookup key := by
  have sorted := keys_nodup_of_ascending (ascending_sort entries)
  apply Option.ext
  intro value
  rw [lookup_eq_some_iff sorted, lookup_eq_some_iff distinct, (sort_perm distinct).mem_iff]

theorem sort_eq_of_perm {a b : List (String × α)} (distinct : (keys a).Nodup) (perm : a.Perm b) :
    sort a = sort b := by
  have other : (keys b).Nodup := (perm.map Prod.fst).nodup_iff.mp distinct
  have whole : (sort a).Perm (sort b) :=
    (sort_perm distinct).trans (perm.trans (sort_perm other).symm)
  exact whole.eq_of_pairwise (fun _ _ _ _ lower higher => absurd higher (String.lt_asymm lower))
    (ascending_sort a) (ascending_sort b)

end Entries

theorem Table.ofEntries_eq_of_perm {α : Type} {a b : List (String × α)}
    (distinct : (Entries.keys a).Nodup) (perm : a.Perm b) : ofEntries a = ofEntries b := by
  simp only [ofEntries, Entries.sort_eq_of_perm distinct perm]

theorem Table.get?_ofEntries {α : Type} {entries : List (String × α)}
    (distinct : (Entries.keys entries).Nodup) (key : String) :
    (ofEntries entries).get? key = entries.lookup key :=
  Entries.lookup_sort distinct key

theorem Table.eq_of_get? {α : Type} {a b : Table α} (same : ∀ key, a.get? key = b.get? key) :
    a = b := by
  obtain ⟨entries, ascending⟩ := a
  obtain ⟨others, ascending'⟩ := b
  have nodup := Entries.keys_nodup_of_ascending ascending
  have nodup' := Entries.keys_nodup_of_ascending ascending'
  have member : ∀ e, e ∈ entries ↔ e ∈ others := by
    rintro ⟨key, value⟩
    have found : entries.lookup key = others.lookup key := same key
    rw [← Entries.lookup_eq_some_iff nodup, ← Entries.lookup_eq_some_iff nodup', found]
  have perm : entries.Perm others :=
    (List.perm_ext_iff_of_nodup (List.Nodup.of_map _ nodup) (List.Nodup.of_map _ nodup')).mpr member
  have equal : entries = others :=
    perm.eq_of_pairwise (fun _ _ _ _ lower higher => absurd higher (String.lt_asymm lower))
      ascending ascending'
  subst equal
  rfl

namespace Json

/-- No object in the value has two members with one key. -/
inductive HasDistinctKeys : Json → Prop
  | null : HasDistinctKeys .null
  | bool (value : Bool) : HasDistinctKeys (.bool value)
  | number (value : Number) : HasDistinctKeys (.number value)
  | string (text : String) : HasDistinctKeys (.string text)
  | array {items : List Json} (each : ∀ v ∈ items, HasDistinctKeys v) :
    HasDistinctKeys (.array items)
  | object {members : List (String × Json)} (keys : (Entries.keys members).Nodup)
    (each : ∀ e ∈ members, HasDistinctKeys e.2) : HasDistinctKeys (.object members)

theorem HasDistinctKeys.item {items : List Json} (distinct : HasDistinctKeys (.array items))
    {v : Json} (there : v ∈ items) : v.HasDistinctKeys := by
  cases distinct with
  | array each => exact each v there

theorem HasDistinctKeys.keys {members : List (String × Json)}
    (distinct : HasDistinctKeys (.object members)) : (Entries.keys members).Nodup := by
  cases distinct with
  | object keys each => exact keys

theorem HasDistinctKeys.value {members : List (String × Json)}
    (distinct : HasDistinctKeys (.object members)) {e : String × Json} (there : e ∈ members) :
    e.2.HasDistinctKeys := by
  cases distinct with
  | object keys each => exact each e there

theorem keys_settleMembers (members : List (String × Json)) :
    Entries.keys (settleMembers members) = Entries.keys members := by
  rw [settleMembers_eq_map]
  exact Entries.keys_map (fun _ v => v.settle) members

mutual

theorem hasDistinctKeys_settle : (v : Json) → v.settle.HasDistinctKeys
  | .null => .null
  | .bool b => .bool b
  | .number n => .number n
  | .string s => .string s
  | .array items => .array (hasDistinctKeys_settleItems items)
  | .object members =>
    .object (Entries.keys_nodup_of_ascending (Entries.ascending_sort _))
      fun e there => hasDistinctKeys_settleMembers members e (Entries.mem_of_mem_sort there)

theorem hasDistinctKeys_settleItems : (items : List Json) →
    ∀ v ∈ settleItems items, v.HasDistinctKeys
  | [], _, there => nomatch there
  | item :: rest, v, there => by
    rcases List.mem_cons.mp there with rfl | there
    · exact hasDistinctKeys_settle item
    · exact hasDistinctKeys_settleItems rest v there

theorem hasDistinctKeys_settleMembers : (members : List (String × Json)) →
    ∀ e ∈ settleMembers members, e.2.HasDistinctKeys
  | [], _, there => nomatch there
  | (key, v) :: rest, e, there => by
    rcases List.mem_cons.mp there with rfl | there
    · exact hasDistinctKeys_settle v
    · exact hasDistinctKeys_settleMembers rest e there

end

end Json
end PolyglotPages
