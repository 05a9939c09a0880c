/-! Finite tables keyed by text. The entries of a table ascend by key, so each key has one entry and
two tables with the same entries in any order are equal. `ofEntries` enters a list of entries one by
one, a later one of the same key taking the place of the earlier; entries that ascend already are
kept as they are. -/
namespace PolyglotPages

namespace Entries

variable {α : Type}

def Ascending (entries : List (String × α)) : Prop :=
  entries.Pairwise fun a b => a.1 < b.1

/-- Enters a value, in place of the one its key had. -/
def insert (key : String) (value : α) : List (String × α) → List (String × α)
  | [] => [(key, value)]
  | (k, v) :: rest =>
    if key < k then (key, value) :: (k, v) :: rest
    else if key = k then (key, value) :: rest
    else (k, v) :: insert key value rest

def sort (entries : List (String × α)) : List (String × α) :=
  entries.foldl (fun sorted e => insert e.1 e.2 sorted) []

theorem mem_insert {key : String} {value : α} {entries : List (String × α)} {e : String × α}
    (h : e ∈ insert key value entries) : e = (key, value) ∨ e ∈ entries := by
  induction entries with
  | nil => simpa [insert] using h
  | cons head rest ih =>
    obtain ⟨k, v⟩ := head
    simp only [insert] at h
    split at h
    · simpa using h
    · split at h
      · rcases List.mem_cons.mp h with h | h
        · exact .inl h
        · exact .inr (List.mem_cons_of_mem _ h)
      · rcases List.mem_cons.mp h with h | h
        · exact .inr (by simp [h])
        · rcases ih h with h | h
          · exact .inl h
          · exact .inr (List.mem_cons_of_mem _ h)

theorem mem_foldl_insert {entries sorted : List (String × α)} {e : String × α}
    (h : e ∈ entries.foldl (fun sorted e => insert e.1 e.2 sorted) sorted) :
    e ∈ entries ∨ e ∈ sorted := by
  induction entries generalizing sorted with
  | nil => exact .inr h
  | cons head rest ih =>
    rcases ih h with h | h
    · exact .inl (List.mem_cons_of_mem _ h)
    · rcases mem_insert h with rfl | h
      · exact .inl List.mem_cons_self
      · exact .inr h

theorem mem_of_mem_sort {entries : List (String × α)} {e : String × α} (h : e ∈ sort entries) :
    e ∈ entries := by
  simpa using mem_foldl_insert h

theorem ascending_insert (key : String) (value : α) {entries : List (String × α)}
    (h : Ascending entries) : Ascending (insert key value entries) := by
  induction entries with
  | nil => simp [insert, Ascending]
  | cons head rest ih =>
    obtain ⟨k, v⟩ := head
    have hk : ∀ e ∈ rest, k < e.1 := (List.pairwise_cons.mp h).1
    have hrest : Ascending rest := (List.pairwise_cons.mp h).2
    simp only [insert]
    split
    · next lower =>
      refine List.pairwise_cons.mpr ⟨fun e he => ?_, h⟩
      rcases List.mem_cons.mp he with rfl | he
      · exact lower
      · exact String.lt_trans lower (hk e he)
    · next notLower =>
      split
      · next same =>
        exact List.pairwise_cons.mpr ⟨fun e he => same ▸ hk e he, hrest⟩
      · next different =>
        have higher : k < key :=
          Std.lt_of_le_of_ne (String.not_lt.mp notLower) (fun eq => different eq.symm)
        refine List.pairwise_cons.mpr ⟨fun e he => ?_, ih hrest⟩
        rcases mem_insert he with rfl | he
        · exact higher
        · exact hk e he

theorem ascending_foldl_insert (entries : List (String × α)) {sorted : List (String × α)}
    (h : Ascending sorted) :
    Ascending (entries.foldl (fun sorted e => insert e.1 e.2 sorted) sorted) := by
  induction entries generalizing sorted with
  | nil => exact h
  | cons e rest ih => exact ih (ascending_insert e.1 e.2 h)

theorem ascending_sort (entries : List (String × α)) : Ascending (sort entries) :=
  ascending_foldl_insert entries List.Pairwise.nil

theorem insert_of_forall_lt {key : String} {value : α} {entries : List (String × α)}
    (h : ∀ e ∈ entries, e.1 < key) : insert key value entries = entries ++ [(key, value)] := by
  induction entries with
  | nil => rfl
  | cons head rest ih =>
    obtain ⟨k, v⟩ := head
    have hk : k < key := h (k, v) List.mem_cons_self
    have different : key ≠ k := fun eq => String.lt_irrefl k (eq ▸ hk)
    simp only [insert, String.lt_asymm hk, different, if_false, List.cons_append]
    rw [ih fun e he => h e (List.mem_cons_of_mem _ he)]

theorem foldl_insert_of_ascending (entries sorted : List (String × α))
    (h : Ascending (sorted ++ entries)) :
    entries.foldl (fun sorted e => insert e.1 e.2 sorted) sorted = sorted ++ entries := by
  induction entries generalizing sorted with
  | nil => simp
  | cons e rest ih =>
    have below : ∀ a ∈ sorted, a.1 < e.1 := fun a ha =>
      (List.pairwise_append.mp h).2.2 a ha e List.mem_cons_self
    simp only [List.foldl_cons, insert_of_forall_lt below]
    rw [ih _ (by simpa using h)]
    simp

theorem sort_of_ascending {entries : List (String × α)} (h : Ascending entries) :
    sort entries = entries := by
  simpa [sort] using foldl_insert_of_ascending entries [] (by simpa using h)

end Entries

structure Table (α : Type) where
  entries : List (String × α)
  ascending : Entries.Ascending entries

namespace Table

variable {α : Type}

instance [DecidableEq α] : DecidableEq (Table α) := fun a b =>
  decidable_of_iff (a.entries = b.entries)
    ⟨fun h => by cases a; cases b; simp_all, fun h => h ▸ rfl⟩

def empty : Table α := ⟨[], List.Pairwise.nil⟩

instance : Inhabited (Table α) := ⟨empty⟩

def ofEntries (entries : List (String × α)) : Table α :=
  ⟨Entries.sort entries, Entries.ascending_sort entries⟩

def get? (t : Table α) (key : String) : Option α := t.entries.lookup key

theorem ofEntries_entries (t : Table α) : ofEntries t.entries = t := by
  cases t with
  | mk entries ascending => simp [ofEntries, Entries.sort_of_ascending ascending]

end Table
end PolyglotPages
