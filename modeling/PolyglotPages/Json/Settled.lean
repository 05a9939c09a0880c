import PolyglotPages.Json.Basic

/-! JSON values in settled form, which tell what a value means and nothing of how it was written. -/
namespace PolyglotPages

namespace Json

theorem settleItems_eq_map (items : List Json) : settleItems items = items.map settle := by
  induction items with
  | nil => rfl
  | cons v rest ih => simp [settleItems, ih]

theorem settleMembers_of_settled {members : List (String × Json)}
    (h : ∀ e ∈ members, e.2.settle = e.2) : settleMembers members = members := by
  rw [settleMembers_eq_map]
  exact (List.map_congr_left fun e he => by rw [h e he]; rfl).trans (List.map_id _)

mutual

theorem settle_settle : (v : Json) → v.settle.settle = v.settle
  | .null | .bool _ | .number _ | .string _ => rfl
  | .array items => by simp only [settle, settleItems_settleItems items]
  | .object members => by
    have settled : ∀ e ∈ Entries.sort (settleMembers members), e.2.settle = e.2 :=
      fun e he => settle_of_mem_settleMembers members e (Entries.mem_of_mem_sort he)
    simp only [settle, settleMembers_of_settled settled,
      Entries.sort_of_ascending (Entries.ascending_sort _)]

theorem settleItems_settleItems : (items : List Json) →
    settleItems (settleItems items) = settleItems items
  | [] => rfl
  | v :: rest => by simp only [settleItems, settle_settle v, settleItems_settleItems rest]

theorem settle_of_mem_settleMembers : (members : List (String × Json)) →
    ∀ e ∈ settleMembers members, e.2.settle = e.2
  | [], _, he => nomatch he
  | (key, v) :: rest, e, he => by
    rcases List.mem_cons.mp he with rfl | he
    · exact settle_settle v
    · exact settle_of_mem_settleMembers rest e he

end

end Json

structure SettledJson where
  value : Json
  settled : value.settle = value

namespace SettledJson

def ofJson (v : Json) : SettledJson := ⟨v.settle, v.settle_settle⟩

instance : Inhabited SettledJson := ⟨.ofJson .null⟩

theorem ofJson_value (s : SettledJson) : ofJson s.value = s := by
  cases s with
  | mk value settled => simp [ofJson, settled]

end SettledJson
end PolyglotPages
