/-! Lengths and cuts of a text in UTF-8 bytes. A cut succeeds only where it falls between two
characters: `slice?` yields `t` exactly when the text is `a ++ t ++ b` with `a` ending at the first
offset and `t` at the second. -/
namespace PolyglotPages.Text

def byteLength : List Char → Nat
  | [] => 0
  | c :: cs => c.utf8Size + byteLength cs

def dropBytes? : Nat → List Char → Option (List Char)
  | 0, cs => some cs
  | _ + 1, [] => none
  | n + 1, c :: cs => if c.utf8Size ≤ n + 1 then dropBytes? (n + 1 - c.utf8Size) cs else none

def takeBytes? : Nat → List Char → Option (List Char)
  | 0, _ => some []
  | _ + 1, [] => none
  | n + 1, c :: cs =>
    if c.utf8Size ≤ n + 1 then (takeBytes? (n + 1 - c.utf8Size) cs).map (c :: ·) else none

def slice? (cs : List Char) (start stop : Nat) : Option (List Char) :=
  if start ≤ stop then (dropBytes? start cs).bind (takeBytes? (stop - start)) else none

theorem byteLength_append (a b : List Char) : byteLength (a ++ b) = byteLength a + byteLength b := by
  induction a with
  | nil => simp [byteLength]
  | cons c cs ih => simp only [List.cons_append, byteLength, ih]; omega

theorem byteLength_toList (s : String) : byteLength s.toList = s.utf8ByteSize := by
  have spelled : ∀ cs, byteLength cs = (String.ofList cs).utf8ByteSize := by
    intro cs
    induction cs with
    | nil => rfl
    | cons c cs ih =>
      rw [String.ofList_cons, String.utf8ByteSize_append, String.utf8ByteSize_singleton, byteLength, ih]
  rw [spelled, String.ofList_toList]

theorem dropBytes?_eq_some_iff {n : Nat} {cs rest : List Char} :
    dropBytes? n cs = some rest ↔ ∃ a, cs = a ++ rest ∧ byteLength a = n := by
  induction cs generalizing n with
  | nil =>
    cases n with
    | zero =>
      constructor
      · intro h
        exact ⟨[], by simpa [dropBytes?] using h, rfl⟩
      · rintro ⟨a, h, -⟩
        have : rest = [] := (List.append_eq_nil_iff.mp h.symm).2
        simp [dropBytes?, this]
    | succ n =>
      constructor
      · intro h
        simp [dropBytes?] at h
      · rintro ⟨a, h, size⟩
        have : a = [] := (List.append_eq_nil_iff.mp h.symm).1
        simp [this, byteLength] at size
  | cons c cs ih =>
    have positive := c.utf8Size_pos
    cases n with
    | zero =>
      constructor
      · intro h
        exact ⟨[], by simpa [dropBytes?] using h, rfl⟩
      · rintro ⟨a, h, size⟩
        cases a with
        | nil => simp [dropBytes?, h]
        | cons d a =>
          have := d.utf8Size_pos
          simp only [byteLength] at size
          omega
    | succ n =>
      simp only [dropBytes?]
      split
      · next fits =>
        rw [ih]
        constructor
        · rintro ⟨a, rfl, size⟩
          exact ⟨c :: a, rfl, by simp only [byteLength]; omega⟩
        · rintro ⟨a, h, size⟩
          cases a with
          | nil => simp [byteLength] at size
          | cons d a =>
            obtain ⟨rfl, rfl⟩ := List.cons.inj h
            exact ⟨a, rfl, by simp only [byteLength] at size; omega⟩
      · next large =>
        constructor
        · intro h
          simp at h
        · rintro ⟨a, h, size⟩
          cases a with
          | nil => simp [byteLength] at size
          | cons d a =>
            obtain ⟨rfl, rfl⟩ := List.cons.inj h
            simp only [byteLength] at size
            omega

theorem takeBytes?_eq_some_iff {n : Nat} {cs t : List Char} :
    takeBytes? n cs = some t ↔ ∃ b, cs = t ++ b ∧ byteLength t = n := by
  induction cs generalizing n t with
  | nil =>
    cases n with
    | zero =>
      constructor
      · intro h
        have : t = [] := by simpa [takeBytes?] using h.symm
        exact ⟨[], by simp [this], by simp [this, byteLength]⟩
      · rintro ⟨b, h, -⟩
        have : t = [] := (List.append_eq_nil_iff.mp h.symm).1
        simp [takeBytes?, this]
    | succ n =>
      constructor
      · intro h
        simp [takeBytes?] at h
      · rintro ⟨b, h, size⟩
        have : t = [] := (List.append_eq_nil_iff.mp h.symm).1
        simp [this, byteLength] at size
  | cons c cs ih =>
    have positive := c.utf8Size_pos
    cases n with
    | zero =>
      constructor
      · intro h
        have : t = [] := by simpa [takeBytes?] using h.symm
        exact ⟨c :: cs, by simp [this], by simp [this, byteLength]⟩
      · rintro ⟨b, h, size⟩
        cases t with
        | nil => simp [takeBytes?]
        | cons d t =>
          have := d.utf8Size_pos
          simp only [byteLength] at size
          omega
    | succ n =>
      simp only [takeBytes?]
      split
      · next fits =>
        rw [Option.map_eq_some_iff]
        constructor
        · rintro ⟨t, h, rfl⟩
          obtain ⟨b, rfl, size⟩ := ih.mp h
          exact ⟨b, rfl, by simp only [byteLength]; omega⟩
        · rintro ⟨b, h, size⟩
          cases t with
          | nil => simp [byteLength] at size
          | cons d t =>
            obtain ⟨rfl, rfl⟩ := List.cons.inj h
            exact ⟨t, ih.mpr ⟨b, rfl, by simp only [byteLength] at size; omega⟩, rfl⟩
      · next large =>
        constructor
        · intro h
          simp at h
        · rintro ⟨b, h, size⟩
          cases t with
          | nil => simp [byteLength] at size
          | cons d t =>
            obtain ⟨rfl, rfl⟩ := List.cons.inj h
            simp only [byteLength] at size
            omega

theorem slice?_eq_some_iff {cs t : List Char} {start stop : Nat} :
    slice? cs start stop = some t ↔
      ∃ a b, cs = a ++ t ++ b ∧ byteLength a = start ∧ byteLength (a ++ t) = stop := by
  simp only [slice?]
  split
  · next ordered =>
    rw [Option.bind_eq_some_iff]
    constructor
    · rintro ⟨rest, dropped, taken⟩
      obtain ⟨a, rfl, sizeA⟩ := dropBytes?_eq_some_iff.mp dropped
      obtain ⟨b, rfl, sizeT⟩ := takeBytes?_eq_some_iff.mp taken
      exact ⟨a, b, by simp, sizeA, by rw [byteLength_append]; omega⟩
    · rintro ⟨a, b, rfl, sizeA, sizeT⟩
      rw [byteLength_append] at sizeT
      exact ⟨t ++ b, dropBytes?_eq_some_iff.mpr ⟨a, by simp, sizeA⟩,
        takeBytes?_eq_some_iff.mpr ⟨b, rfl, by omega⟩⟩
  · next reversed =>
    constructor
    · intro h
      simp at h
    · rintro ⟨a, b, -, sizeA, sizeT⟩
      rw [byteLength_append] at sizeT
      omega

end PolyglotPages.Text
