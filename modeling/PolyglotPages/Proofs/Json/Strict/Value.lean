import PolyglotPages.Json.Strict.Value
import PolyglotPages.Proofs.Json.Strict.Token

/-! A strict JSON text that has a value is a text of the grammar, and stands there for that
value. -/
namespace PolyglotPages.Json.Strict
open Grammar

theorem itemFault?_eq_none {ending : Ending} (h : refuse ending.itemFault? = .ok ()) :
    ending = .closed := by
  cases ending with
  | closed => rfl
  | _ => cases h

theorem memberFault?_eq_none {ending : Ending} (h : refuse ending.memberFault? = .ok ()) :
    ending = .closed := by
  cases ending with
  | closed => rfl
  | _ => cases h

namespace Tree

theorem readConstant_ok {letters cs : List Char} {constant tree : Tree}
    {after : Option (List Char)} (h : readConstant letters constant cs = (tree, after)) {depth : Nat}
    {v : Json} (has : tree.value depth = .ok v) :
    ∃ rest, after = some rest ∧ tree = constant ∧ cs = letters ++ rest := by
  unfold readConstant at h
  split at h
  · next rest read =>
    obtain ⟨rfl, rfl⟩ := Prod.mk.inj h
    exact ⟨rest, rfl, rfl, readWord_ok read⟩
  · obtain ⟨rfl, rfl⟩ := Prod.mk.inj h
    cases has

theorem valueItems_cons_ok {item : Tree} {rest : List Tree} {depth : Nat} {vs : List Json}
    (h : valueItems depth (item :: rest) = .ok vs) :
    ∃ v more, vs = v :: more ∧ item.value depth = .ok v ∧ valueItems depth rest = .ok more := by
  obtain ⟨v, has, h⟩ := bind_eq_ok h
  obtain ⟨more, each, h⟩ := bind_eq_ok h
  exact ⟨v, more, (Except.ok.inj h).symm, has, each⟩

theorem valueMembers_cons_ok {key : Except Fault String} {item : Tree}
    {rest : List (Except Fault String × Tree)} {depth : Nat} {vs : List (String × Json)}
    (h : valueMembers depth ((key, item) :: rest) = .ok vs) :
    ∃ name v more, vs = (name, v) :: more ∧ key = .ok name ∧ item.value depth = .ok v ∧
      valueMembers depth rest = .ok more := by
  obtain ⟨name, named, h⟩ := bind_eq_ok h
  obtain ⟨v, has, h⟩ := bind_eq_ok h
  obtain ⟨more, each, h⟩ := bind_eq_ok h
  exact ⟨name, v, more, (Except.ok.inj h).symm, named, has, each⟩

theorem value_array_ok {items : List Tree} {ending : Ending} {depth : Nat} {v : Json}
    (h : (array items ending).value depth = .ok v) :
    ∃ vs, v = .array vs ∧ valueItems (depth - 1) items = .ok vs ∧ ending = .closed := by
  simp only [value] at h
  split at h
  · cases h
  · obtain ⟨vs, each, h⟩ := bind_eq_ok h
    obtain ⟨closed, h⟩ := then_eq_ok_iff.mp h
    exact ⟨vs, (Except.ok.inj h).symm, each, itemFault?_eq_none closed⟩

theorem value_object_ok {members : List (Except Fault String × Tree)} {ending : Ending}
    {depth : Nat} {v : Json} (h : (object members ending).value depth = .ok v) :
    ∃ vs, v = .object vs ∧ valueMembers (depth - 1) members = .ok vs ∧ ending = .closed := by
  simp only [value] at h
  split at h
  · cases h
  · obtain ⟨vs, each, h⟩ := bind_eq_ok h
    obtain ⟨closed, h⟩ := then_eq_ok_iff.mp h
    exact ⟨vs, (Except.ok.inj h).symm, each, memberFault?_eq_none closed⟩

/-- A text that begins with a value, perhaps after white space, and what follows the value. -/
def Begins (v : Json) (cs : List Char) (after : Option (List Char)) : Prop :=
  ∃ gap body rest, Spaces gap ∧ ValueText v body ∧ cs = gap ++ (body ++ rest) ∧ after = some rest

theorem Begins.item {v : Json} {cs rest : List Char} (h : Begins v cs (some rest)) :
    ∃ body, ItemText v body ∧ cs = body ++ skipSpace rest := by
  obtain ⟨gap, body, rest, blank, value, rfl, same⟩ := h
  obtain rfl := Option.some.inj same
  obtain ⟨gap', blank', split⟩ := skipSpace_split rest
  refine ⟨gap ++ (body ++ gap'), .mk blank value blank', ?_⟩
  rw [List.append_assoc, List.append_assoc, ← split]

theorem Begins.whole {v : Json} {cs : List Char} {after : Option (List Char)}
    (h : Begins v cs after) (ended : finish after = .ok ()) : ItemText v cs := by
  cases after with
  | none =>
    obtain ⟨gap, body, rest, -, -, -, same⟩ := h
    cases same
  | some rest =>
    have nothing : skipSpace rest = [] := by simpa [finish] using ended
    obtain ⟨body, item, split⟩ := h.item
    rw [split, nothing, List.append_nil]
    exact item

mutual

/-- A tree that has a value was read off a text of that value. -/
theorem read_value (fuel : Nat) {cs : List Char} {tree : Tree} {after : Option (List Char)}
    (h : read fuel cs = (tree, after)) {depth : Nat} {v : Json} (has : tree.value depth = .ok v) :
    Begins v cs after := by
  suffices ∃ body rest, ValueText v body ∧ skipSpace cs = body ++ rest ∧ after = some rest by
    obtain ⟨body, rest, value, start, left⟩ := this
    obtain ⟨gap, blank, split⟩ := skipSpace_split cs
    exact ⟨gap, body, rest, blank, value, by rw [← start]; exact split, left⟩
  cases fuel with
  | zero =>
    obtain ⟨rfl, rfl⟩ := Prod.mk.inj h
    cases has
  | succ fuel =>
    rw [read.eq_def] at h
    simp only at h
    split at h
    · obtain ⟨rfl, rfl⟩ := Prod.mk.inj h
      cases has
    · next start =>
      obtain ⟨rest, rfl, rfl, rfl⟩ := readConstant_ok h has
      obtain rfl := Except.ok.inj has
      exact ⟨_, rest, .null, start, rfl⟩
    · next start =>
      obtain ⟨rest, rfl, rfl, rfl⟩ := readConstant_ok h has
      obtain rfl := Except.ok.inj has
      exact ⟨_, rest, .true, start, rfl⟩
    · next start =>
      obtain ⟨rest, rfl, rfl, rfl⟩ := readConstant_ok h has
      obtain rfl := Except.ok.inj has
      exact ⟨_, rest, .false, start, rfl⟩
    · next rest start =>
      split at h
      · next text after read =>
        obtain ⟨rfl, rfl⟩ := Prod.mk.inj h
        obtain ⟨s, rfl, rfl⟩ := map_eq_ok_iff.mp has
        obtain ⟨body, string, rfl⟩ := readText_ok read
        exact ⟨_, after, .string string, by rw [start]; simp, rfl⟩
      · obtain ⟨rfl, rfl⟩ := Prod.mk.inj h
        cases has
    · next rest start =>
      obtain ⟨gap, blank, split⟩ := skipSpace_split rest
      split at h
      · obtain ⟨rfl, rfl⟩ := Prod.mk.inj h
        obtain ⟨-, -, -, closed⟩ := value_array_ok has
        cases closed
      · next more found =>
        obtain ⟨rfl, rfl⟩ := Prod.mk.inj h
        obtain ⟨vs, rfl, each, -⟩ := value_array_ok has
        obtain rfl := Except.ok.inj each
        exact ⟨_, more, .emptyArray blank, by rw [start, split, found]; simp, rfl⟩
      · obtain ⟨rfl, rfl⟩ := Prod.mk.inj h
        obtain ⟨vs, rfl, each, closed⟩ := value_array_ok has
        obtain ⟨body, more, items, found, left⟩ :=
          read_items fuel (by rw [← closed]) each
        exact ⟨_, more, .array (items.behind blank), by rw [start, split, found]; simp, left⟩
    · next rest start =>
      obtain ⟨gap, blank, split⟩ := skipSpace_split rest
      split at h
      · obtain ⟨rfl, rfl⟩ := Prod.mk.inj h
        obtain ⟨-, -, -, closed⟩ := value_object_ok has
        cases closed
      · next more found =>
        obtain ⟨rfl, rfl⟩ := Prod.mk.inj h
        obtain ⟨vs, rfl, each, -⟩ := value_object_ok has
        obtain rfl := Except.ok.inj each
        exact ⟨_, more, .emptyObject blank, by rw [start, split, found]; simp, rfl⟩
      · obtain ⟨rfl, rfl⟩ := Prod.mk.inj h
        obtain ⟨vs, rfl, each, closed⟩ := value_object_ok has
        obtain ⟨body, more, members, found, left⟩ :=
          read_members fuel (by rw [← closed]) each
        exact ⟨_, more, .object (members.behind blank), by rw [start, split, found]; simp, left⟩
    · next c rest _ _ _ _ _ _ start =>
      split at h
      · split at h
        · next l after read =>
          obtain ⟨rfl, rfl⟩ := Prod.mk.inj h
          obtain ⟨body, number, split⟩ := readNumber_ok read
          simp only [value] at has
          split at has
          · next n denotes =>
            obtain rfl := Except.ok.inj has
            exact ⟨body, after, .number number denotes, start.trans split, rfl⟩
          · cases has
        · obtain ⟨rfl, rfl⟩ := Prod.mk.inj h
          cases has
      · obtain ⟨rfl, rfl⟩ := Prod.mk.inj h
        cases has

theorem read_items (fuel : Nat) {cs : List Char} {items : List Tree}
    {after : Option (List Char)} (h : readItems fuel cs = (items, .closed, after)) {depth : Nat}
    {vs : List Json} (each : valueItems depth items = .ok vs) :
    ∃ body rest, ItemsText vs body ∧ cs = body ++ ']' :: rest ∧ after = some rest := by
  cases fuel with
  | zero => cases h
  | succ fuel =>
    rw [readItems.eq_def] at h
    simp only at h
    split at h
    · cases h
    · next item rest read =>
      split at h
      · cases h
      · next more found =>
        cases h
        obtain ⟨v, vs, rfl, has, last⟩ := valueItems_cons_ok each
        cases last
        obtain ⟨body, item, rfl⟩ := (read_value fuel read has).item
        exact ⟨body, more, .last item, by rw [found], rfl⟩
      · next more found =>
        obtain ⟨gap, blank, split⟩ := skipSpace_split more
        split at h
        · cases h
        · cases h
        · obtain ⟨rfl, same⟩ := Prod.mk.inj h
          obtain ⟨closed, rfl⟩ := Prod.mk.inj same
          obtain ⟨v, vs, rfl, has, each⟩ := valueItems_cons_ok each
          obtain ⟨body, item, rfl⟩ := (read_value fuel read has).item
          obtain ⟨bodies, last, items, further, left⟩ := read_items fuel (by rw [← closed]) each
          refine ⟨_, last, .cons item (items.behind blank), ?_, left⟩
          rw [found, split, further]
          simp
      · cases h

theorem read_members (fuel : Nat) {cs : List Char} {members : List (Except Fault String × Tree)}
    {after : Option (List Char)} (h : readMembers fuel cs = (members, .closed, after))
    {depth : Nat} {vs : List (String × Json)} (each : valueMembers depth members = .ok vs) :
    ∃ body rest, MembersText vs body ∧ cs = body ++ '}' :: rest ∧ after = some rest := by
  rw [readMembers.eq_def] at h
  split at h
  · cases h
  · next fuel cs =>
    split at h
    · cases h
    · next key afterKey readKey =>
      obtain ⟨gapKey, blankKey, splitKey⟩ := skipSpace_split afterKey
      split at h
      · cases h
      · next afterColon colon =>
        split at h
        · cases h
        · next item afterItem read =>
          split at h
          · cases h
          · next more found =>
            cases h
            obtain ⟨name, v, vs, rfl, rfl, has, last⟩ := valueMembers_cons_ok each
            cases last
            obtain ⟨keyText, string, rfl⟩ := readText_ok readKey
            obtain ⟨body, item, rfl⟩ := (read_value fuel read has).item
            refine ⟨_, more, .last (.mk spaces_nil string blankKey item), ?_, rfl⟩
            rw [splitKey, colon, found]
            simp
          · next more found =>
            obtain ⟨gap, blank, split⟩ := skipSpace_split more
            split at h
            · cases h
            · cases h
            · obtain ⟨rfl, same⟩ := Prod.mk.inj h
              obtain ⟨closed, rfl⟩ := Prod.mk.inj same
              obtain ⟨name, v, vs, rfl, rfl, has, each⟩ := valueMembers_cons_ok each
              obtain ⟨keyText, string, rfl⟩ := readText_ok readKey
              obtain ⟨body, item, rfl⟩ := (read_value fuel read has).item
              obtain ⟨bodies, last, members, further, left⟩ :=
                read_members fuel (by rw [← closed]) each
              have member := MemberText.mk spaces_nil string blankKey item
              refine ⟨_, last, .cons member (members.behind blank), ?_, left⟩
              rw [splitKey, colon, found, split, further]
              simp
          · cases h
      · cases h
  · cases h

end

end Tree

theorem parse_eq_ok_iff {text : String} {v : Json} : parse text = .ok v ↔
    ∃ tree after, Tree.ofText text.toList = (tree, after) ∧ tree.value maxDepth = .ok v ∧
      finish after = .ok () := by
  rcases read : Tree.ofText text.toList with ⟨tree, after⟩
  simp only [parse, read]
  constructor
  · intro h
    obtain ⟨w, has, h⟩ := bind_eq_ok h
    obtain ⟨ended, h⟩ := then_eq_ok_iff.mp h
    obtain rfl := Except.ok.inj h
    exact ⟨tree, after, rfl, has, ended⟩
  · rintro ⟨_, _, ⟨rfl, rfl⟩, has, ended⟩
    exact bind_eq_ok_iff.mpr ⟨v, has, then_eq_ok_iff.mpr ⟨ended, rfl⟩⟩

theorem text_of_parse {text : String} {v : Json} (h : parse text = .ok v) :
    ItemText v text.toList := by
  obtain ⟨tree, after, read, has, ended⟩ := parse_eq_ok_iff.mp h
  exact (Tree.read_value _ read has).whole ended

end PolyglotPages.Json.Strict
