import PolyglotPages.Json.Strict.Kept
import PolyglotPages.Proofs.Json.Accepting
import PolyglotPages.Proofs.Json.Strict.Value

/-! An object that is read with its own fields checked on the way has the members of its value, as
long as the fields are texts. So the value may be read first and be checked then. -/
namespace PolyglotPages.Json.Strict

theorem plain_eq_ok_iff {α : Type} {x : Except Fault α} {a : α} :
    plain x = .ok a ↔ x = .ok a := by
  cases x with
  | error fault => simp [plain]
  | ok b => simp [plain]

theorem shaped_eq_ok_iff {α : Type} {x : Except ShapeError α} {a : α} :
    shaped x = .ok a ↔ x = .ok a := by
  cases x with
  | error e => simp [shaped]
  | ok b => simp [shaped]

theorem mismatch_ne_ok {α : Type} (found : Except Fault Found) (wanted : Wanted) (a : α) :
    mismatch found wanted ≠ .ok a := by
  cases found with
  | error fault => nofun
  | ok found => nofun

def IsTextual (s : Shape) : Prop := s = .text ∨ s = .path

namespace Tree

theorem value_cases {tree : Tree} {depth : Nat} {v : Json} (has : tree.value depth = .ok v) :
    (∃ s, tree = .string (.ok s) ∧ v = .string s) ∨
    (∃ members vs, tree = .object members .closed ∧
      valueMembers (depth - 1) members = .ok vs ∧ v = .object vs) ∨
    ((∀ s, v ≠ .string s) ∧ ∀ vs, v ≠ .object vs) := by
  cases tree with
  | string text =>
    obtain ⟨s, rfl, same⟩ := map_eq_ok_iff.mp has
    exact .inl ⟨s, rfl, same.symm⟩
  | object members ending =>
    obtain ⟨vs, same, each, rfl⟩ := value_object_ok has
    exact .inr (.inl ⟨members, vs, rfl, each, same⟩)
  | array items ending =>
    obtain ⟨vs, rfl, -⟩ := value_array_ok has
    exact .inr (.inr (by simp))
  | number literal =>
    simp only [value] at has
    split at has
    · cases has
      exact .inr (.inr (by simp))
    · cases has
  | null =>
    cases has
    exact .inr (.inr (by simp))
  | bool b =>
    cases has
    exact .inr (.inr (by simp))
  | broken cause => cases has

theorem string_of_value {tree : Tree} {depth : Nat} {s : String}
    (has : tree.value depth = .ok (.string s)) : tree = .string (.ok s) := by
  rcases value_cases has with ⟨t, rfl, same⟩ | ⟨members, vs, -, -, same⟩ | ⟨other, -⟩
  · obtain rfl := Json.string.inj same
    rfl
  · cases same
  · exact absurd rfl (other s)

theorem object_of_value {tree : Tree} {depth : Nat} {vs : List (String × Json)}
    (has : tree.value depth = .ok (.object vs)) :
    ∃ members, tree = .object members .closed ∧ valueMembers (depth - 1) members = .ok vs := by
  rcases value_cases has with ⟨s, -, same⟩ | ⟨members, ws, rfl, each, same⟩ | ⟨-, other⟩
  · cases same
  · obtain rfl := Json.object.inj same
    exact ⟨members, rfl, each⟩
  · exact absurd rfl (other vs)

theorem readAsText_eq_ok_iff {wanted : Wanted} {tree : Tree} {v : Json} (depth : Nat) :
    readAsText wanted tree = .ok v ↔ tree.value depth = .ok v ∧ ∃ s, v = .string s := by
  constructor
  · intro read
    unfold readAsText at read
    split at read
    · next text =>
      have has := plain_eq_ok_iff.mp read
      obtain ⟨s, -, same⟩ := map_eq_ok_iff.mp has
      exact ⟨has, s, same.symm⟩
    · exact absurd read (mismatch_ne_ok _ _ _)
  · rintro ⟨has, s, rfl⟩
    rw [string_of_value has]
    rfl

theorem shapedValue_textual {s : Shape} (textual : IsTextual s) {depth : Nat} {tree : Tree}
    {v : Json} : shapedValue depth s tree = .ok v ↔
      tree.value depth = .ok v ∧ check .decoded s v = .ok () := by
  rcases textual with rfl | rfl
  · rw [shapedValue, readAsText_eq_ok_iff depth, check, checkText_eq_ok_iff]
  · rw [shapedValue, readAsText_eq_ok_iff depth, check, checkText_eq_ok_iff]

theorem valueMembers_cons {depth : Nat} {name : String} {tree : Tree} {v : Json}
    {rest : List (Except Fault String × Tree)} {more : List (String × Json)}
    (has : tree.value depth = .ok v) (each : valueMembers depth rest = .ok more) :
    valueMembers depth ((.ok name, tree) :: rest) = .ok ((name, v) :: more) := by
  rw [valueMembers, has, each]
  rfl

theorem keptMembers_eq_ok_iff {fields : List (String × Shape)}
    (textual : ∀ e ∈ fields, IsTextual e.2) {depth : Nat}
    {members : List (Except Fault String × Tree)} {seen : List String}
    {vs : List (String × Json)} : keptMembers depth fields seen members = .ok vs ↔
      valueMembers depth members = .ok vs ∧ checkMembers .decoded fields seen vs = .ok () := by
  induction members generalizing seen vs with
  | nil =>
    rw [keptMembers, valueMembers]
    constructor
    · intro same
      obtain rfl := Except.ok.inj same
      exact ⟨rfl, rfl⟩
    · rintro ⟨same, -⟩
      exact congrArg _ (Except.ok.inj same)
  | cons member rest ih =>
    obtain ⟨key, tree⟩ := member
    constructor
    · intro h
      obtain ⟨name, named, kept⟩ := bind_eq_ok h
      obtain rfl := plain_eq_ok_iff.mp named
      split at kept
      · next unknown =>
        obtain ⟨v, has, kept⟩ := bind_eq_ok kept
        obtain ⟨more, further, all⟩ := bind_eq_ok kept
        obtain rfl := Except.ok.inj all
        obtain ⟨each, passed⟩ := ih.mp further
        refine ⟨valueMembers_cons (plain_eq_ok_iff.mp has) each, ?_⟩
        simpa [checkMembers, unknown] using passed
      · next shape field =>
        split at kept
        · cases kept
        · next fresh =>
          obtain ⟨v, read, kept⟩ := bind_eq_ok kept
          obtain ⟨more, further, all⟩ := bind_eq_ok kept
          obtain rfl := Except.ok.inj all
          obtain ⟨each, passed⟩ := ih.mp further
          have own := textual _ (Entries.mem_of_lookup field)
          obtain ⟨has, here⟩ := (shapedValue_textual own).mp read
          refine ⟨valueMembers_cons has each, ?_⟩
          simp only [checkMembers, field, fresh, if_false]
          exact then_eq_ok_iff.mpr ⟨here, passed⟩
    · rintro ⟨value, passed⟩
      obtain ⟨name, v, more, rfl, rfl, has, each⟩ := valueMembers_cons_ok value
      have read : plain (tree.value depth) = .ok v := plain_eq_ok_iff.mpr has
      rw [keptMembers]
      refine bind_eq_ok_iff.mpr ⟨name, rfl, ?_⟩
      cases field : fields.lookup name with
      | none =>
        simp only [checkMembers, field] at passed
        exact bind_eq_ok_iff.mpr ⟨v, read, bind_eq_ok_iff.mpr ⟨more, ih.mpr ⟨each, passed⟩, rfl⟩⟩
      | some shape =>
        by_cases again : name ∈ seen
        · simp [checkMembers, field, again] at passed
        · simp only [checkMembers, field, again, if_false, then_eq_ok_iff] at passed
          have own := textual _ (Entries.mem_of_lookup field)
          have here := (shapedValue_textual own).mpr ⟨has, passed.1⟩
          simp only [again, if_false]
          exact bind_eq_ok_iff.mpr
            ⟨v, here, bind_eq_ok_iff.mpr ⟨more, ih.mpr ⟨each, passed.2⟩, rfl⟩⟩

end Tree

section
variable {type : String} {fields : List (String × Shape)} {text : String}
  {members : List (String × Json)} {after : Option (List Char)}

/-- Reading an object and checking its own fields go together as they would one after the other. -/
theorem readKept_eq_ok_iff (textual : ∀ e ∈ fields, IsTextual e.2) :
    readKept type fields text = .ok (members, after) ↔
      ∃ tree, Tree.ofText text.toList = (tree, after) ∧
        tree.value maxDepth = .ok (.object members) ∧
        checkMembers .decoded fields [] members = .ok () := by
  rcases read : Tree.ofText text.toList with ⟨tree, rest⟩
  simp only [readKept, read, Prod.mk.injEq]
  constructor
  · intro h
    split at h
    · next trees ending rest' same =>
      obtain ⟨rfl, rfl⟩ := Prod.mk.inj same
      obtain ⟨vs, kept, h⟩ := bind_eq_ok h
      obtain ⟨closed, h⟩ := then_eq_ok_iff.mp h
      obtain ⟨rfl, rfl⟩ := Prod.mk.inj (Except.ok.inj h)
      obtain ⟨each, passed⟩ := (Tree.keptMembers_eq_ok_iff textual).mp kept
      refine ⟨_, ⟨rfl, rfl⟩, ?_, passed⟩
      rw [Tree.value, if_neg (by decide), each]
      exact then_eq_ok_iff.mpr ⟨plain_eq_ok_iff.mp closed, rfl⟩
    · exact absurd h (mismatch_ne_ok _ _ _)
  · rintro ⟨_, ⟨rfl, rfl⟩, has, passed⟩
    obtain ⟨trees, rfl, each⟩ := Tree.object_of_value has
    have kept := (Tree.keptMembers_eq_ok_iff textual).mpr ⟨each, passed⟩
    exact bind_eq_ok_iff.mpr ⟨members, kept, rfl⟩

theorem exists_readKept_iff (textual : ∀ e ∈ fields, IsTextual e.2) :
    (∃ after, readKept type fields text = .ok (members, after) ∧ finish after = .ok ()) ↔
      parse text = .ok (.object members) ∧
        checkMembers .decoded fields [] members = .ok () := by
  constructor
  · rintro ⟨after, kept, ended⟩
    obtain ⟨tree, read, value, own⟩ := (readKept_eq_ok_iff textual).mp kept
    exact ⟨parse_eq_ok_iff.mpr ⟨tree, after, read, value, ended⟩, own⟩
  · rintro ⟨whole, own⟩
    obtain ⟨tree, after, read, value, ended⟩ := parse_eq_ok_iff.mp whole
    exact ⟨after, (readKept_eq_ok_iff textual).mpr ⟨tree, read, value, own⟩, ended⟩

end

end PolyglotPages.Json.Strict
