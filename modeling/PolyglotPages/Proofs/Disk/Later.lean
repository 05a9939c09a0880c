import PolyglotPages.Proofs.Disk.Place

/-! What a change leaves as it was. A tree only grows: directories stay, files stay, and a file is
new or has other bytes only where it was written. So a path that led somewhere leads there ever
after. -/
namespace PolyglotPages.Disk

/-- The second tree has all that the first has, files outside `changed` with the same bytes, and no
other files there. -/
structure Later (changed : List Place) (d d' : Disk) : Prop where
  here : d'.here = d.here
  directories : ∀ place, d.entry? place = some .directory → d'.entry? place = some .directory
  files : ∀ place bytes, d.entry? place = some (.file bytes) →
    ∃ bytes', d'.entry? place = some (.file bytes') ∧ (place ∉ changed → bytes' = bytes)
  noOthers : ∀ place bytes, place ∉ changed → d'.entry? place = some (.file bytes) →
    d.entry? place = some (.file bytes)

namespace Later

theorem refl (changed : List Place) (d : Disk) : Later changed d d where
  here := rfl
  directories := fun _ there => there
  files := fun _ bytes held => ⟨bytes, held, fun _ => rfl⟩
  noOthers := fun _ _ _ held => held

theorem trans {first second : List Place} {d d' d'' : Disk} (one : Later first d d')
    (two : Later second d' d'') : Later (first ++ second) d d'' where
  here := two.here.trans one.here
  directories := fun place there => two.directories place (one.directories place there)
  files := by
    intro place bytes held
    obtain ⟨bytes', held', same⟩ := one.files place bytes held
    obtain ⟨bytes'', held'', same'⟩ := two.files place bytes' held'
    refine ⟨bytes'', held'', fun outside => ?_⟩
    rw [List.mem_append, not_or] at outside
    rw [same' outside.2, same outside.1]
  noOthers := by
    intro place bytes outside held
    rw [List.mem_append, not_or] at outside
    exact one.noOthers place bytes outside.1 (two.noOthers place bytes outside.2 held)

theorem start {changed : List Place} {d d' : Disk} (later : Later changed d d') (path : String) :
    d'.start path = d.start path := by
  rw [Disk.start, Disk.start, later.here]

theorem placeOf {changed : List Place} {d d' : Disk} (later : Later changed d d')
    (path : String) : d'.placeOf path = d.placeOf path := by
  rw [Disk.placeOf, Disk.placeOf, later.start]

theorem follow {changed : List Place} {d d' : Disk} (later : Later changed d d')
    {place last : Place} {names : List (List Char)} (followed : d.follow place names = .ok last) :
    d'.follow place names = .ok last := by
  induction names generalizing place with
  | nil => exact followed
  | cons name rest ih =>
    obtain ⟨there, next, entered, behind⟩ := follow_cons.mp followed
    exact follow_cons.mpr ⟨later.directories place there, next, entered, ih behind⟩

theorem file {changed : List Place} {d d' : Disk} (later : Later changed d d') {place : Place}
    {bytes : ByteArray} (outside : place ∉ changed) (held : d.entry? place = some (.file bytes)) :
    d'.entry? place = some (.file bytes) := by
  obtain ⟨bytes', held', same⟩ := later.files place bytes held
  rw [held', same outside]

end Later

/-! ### Putting an entry in its place -/

theorem lookup_insert (place other : Place) (e : Entry) (entries : List (Place × Entry)) :
    (put.insert place e entries).lookup other =
      if other = place then some e else entries.lookup other := by
  induction entries with
  | nil =>
    by_cases same : other = place
    · simp [put.insert, same]
    · simp [put.insert, List.lookup_cons, beq_false_of_ne same, same]
  | cons head rest ih =>
    obtain ⟨p, old⟩ := head
    by_cases here : p = place
    · subst here
      by_cases same : other = p
      · simp [put.insert, same]
      · simp [put.insert, List.lookup_cons, beq_false_of_ne same, same]
    · simp only [put.insert, here, if_false, List.lookup_cons, ih]
      by_cases same : other = place
      · subst same
        simp [beq_false_of_ne (Ne.symm here)]
      · simp [same]

@[simp] theorem entry?_nil (d : Disk) : d.entry? [] = some .directory := rfl

theorem entry?_put (d : Disk) {place : Place} (below : place ≠ []) (e : Entry) (other : Place) :
    Disk.entry? (d.put place e) other = if other = place then some e else d.entry? other := by
  cases other with
  | nil => simp [below.symm]
  | cons name rest => exact lookup_insert place (name :: rest) e d.entries

/-- What is put where no directory was leaves everything else as it was. -/
theorem later_put {d : Disk} {place : Place} (below : place ≠ []) {e : Entry}
    (free : d.entry? place ≠ some .directory)
    (file : ∀ old, d.entry? place = some (.file old) → ∃ bytes, e = .file bytes) :
    Later [place] d (d.put place e) where
  here := rfl
  directories := by
    intro other there
    have ne : other ≠ place := fun same => free (same ▸ there)
    rw [entry?_put d below, if_neg ne, there]
  files := by
    intro other bytes held
    by_cases same : other = place
    · subst same
      obtain ⟨bytes', new⟩ := file bytes held
      exact ⟨bytes', by rw [entry?_put d below, if_pos rfl, new], fun outside => by simp at outside⟩
    · exact ⟨bytes, by rw [entry?_put d below, if_neg same, held], fun _ => rfl⟩
  noOthers := by
    intro other bytes outside held
    rwa [entry?_put d below, if_neg (by simpa using outside)] at held

/-! ### The operations -/

theorem makeDirectory_later {d d' : Disk} {path : String} (made : d.makeDirectory path = .ok d') :
    Later [] d d' := by
  obtain ⟨⟨start, names, slash⟩, -, made⟩ := bind_eq_ok made
  obtain ⟨directory, -, made⟩ := bind_eq_ok made
  cases last : names.getLast? with
  | none => simp [last] at made
  | some name =>
    simp only [last] at made
    split at made
    · simp at made
    · obtain ⟨place, -, made⟩ := bind_eq_ok made
      cases free : d.entry? place with
      | some e => simp [free] at made
      | none =>
        simp only [free, Except.ok.injEq] at made
        subst made
        have below : place ≠ [] := by rintro rfl; simp at free
        have grown : Later [place] d (d.put place .directory) :=
          later_put below (by simp [free]) (by simp [free])
        refine ⟨grown.here, grown.directories, fun other bytes held => ?_,
          fun other bytes _ held => ?_⟩
        · have outside : other ∉ [place] := by
            rintro member
            rw [List.mem_singleton.mp member, free] at held
            simp at held
          exact ⟨bytes, grown.file outside held, fun _ => rfl⟩
        · -- what has been put there is no file
          have outside : other ∉ [place] := by
            rintro member
            rw [List.mem_singleton.mp member, entry?_put d below, if_pos rfl] at held
            simp at held
          exact grown.noOthers other bytes outside held

/-- A path leads to where a file can be. -/
structure Reaches (d : Disk) (path : String) : Prop where
  route : d.route path = .ok (d.start path, Path.names path, false)
  last : ∃ name, (Path.names path).getLast? = some name ∧ isDots name = false
  follow : d.follow (d.start path) (Path.names path) = .ok (d.placeOf path)

theorem Later.reaches {changed : List Place} {d d' : Disk} (later : Later changed d d')
    {path : String} (reached : Reaches d path) : Reaches d' path where
  route := by
    have same := reached.route
    simp only [Disk.route, ← later.here] at same ⊢
    rwa [← later.start] at same
  last := reached.last
  follow := by
    rw [later.start, later.placeOf]
    exact later.follow reached.follow

theorem route_eq_ok {d : Disk} {path : String} {place : Place} {names : List (List Char)}
    {slash : Bool} (found : d.route path = .ok (place, names, slash)) :
    place = d.start path ∧ names = Path.names path ∧
      slash = decide (path.toList.getLast? = some '/') := by
  simp only [Disk.route] at found
  split at found
  · simp at found
  · split at found
    · simp at found
    · split at found
      · simp at found
      · simp only [Except.ok.injEq, Prod.mk.injEq] at found
        exact ⟨found.1.symm, found.2.1.symm, found.2.2.symm⟩

theorem Reaches.names_ne_nil {d : Disk} {base path : String}
    (relative : Path.isAbsolute path = false) (reached : Reaches d (Path.join base path)) :
    (Path.names path).filter (· ≠ ['.']) ≠ [] := by
  intro none
  obtain ⟨name, last, plain⟩ := reached.last
  cases shape : Path.names path with
  | nil =>
    have empty := Path.eq_empty_of_names relative shape
    subst empty
    rcases Path.join_empty base with nothing | slash
    · rw [nothing] at last
      simp [Path.names, Path.pieces] at last
    · obtain ⟨-, -, open?⟩ := route_eq_ok reached.route
      simp [slash] at open?
  | cons first rest =>
    have member : name ∈ Path.names path := by
      rw [Path.names_join relative, List.getLast?_append, shape] at last
      rw [shape]
      refine List.mem_of_getLast? ?_
      simpa [List.getLast?_cons] using last
    have kept := List.filter_eq_nil_iff.mp none name member
    have dot : name = ['.'] := by simpa using kept
    simp [isDots, dot] at plain

theorem placeToWrite_reaches {d : Disk} {path : String} {place : Place}
    (found : d.placeToWrite path = .ok place) :
    place = d.placeOf path ∧ place ≠ [] ∧ d.entry? place ≠ some .directory ∧ Reaches d path := by
  obtain ⟨⟨start, names, slash⟩, routed, found⟩ := bind_eq_ok found
  obtain ⟨directory, led, found⟩ := bind_eq_ok found
  obtain ⟨parent, followed, isDirectory⟩ := bind_eq_ok led
  obtain ⟨there, same⟩ := directoryAt_eq_ok.mp isDirectory
  subst same
  obtain ⟨startEq, namesEq, -⟩ := route_eq_ok routed
  cases last : names.getLast? with
  | none => simp [last] at found
  | some name =>
    cases slash with
    | true => simp [last] at found
    | false =>
      simp only [last] at found
      split at found
      · simp at found
      · rename_i plain
        obtain ⟨target, entered, found⟩ := bind_eq_ok found
        have free : d.entry? target ≠ some .directory := by
          intro occupied
          simp [occupied] at found
        -- a file is written where its name leads, whether there is an old one or not
        have same : target = place := by
          cases held : d.entry? target with
          | none => simpa [held] using found
          | some e =>
            cases e with
            | directory => exact absurd held free
            | file bytes => simpa [held] using found
        subst same
        have whole : names.dropLast ++ [name] = names := List.dropLast_append_getLast? name last
        have led : d.follow start names = .ok target := by
          rw [← whole]
          have behind : d.follow directory [name] = .ok target :=
            follow_cons.mpr ⟨there, target, entered, rfl⟩
          exact follow_append.mpr ⟨directory, followed, behind⟩
        have place : target = d.placeOf path := by
          rw [← follow_enter led, startEq, namesEq]
          rfl
        subst startEq namesEq
        refine ⟨place, ?_, free, ⟨routed, ⟨name, last, by simpa using plain⟩, place ▸ led⟩⟩
        rintro root
        rw [root] at free
        exact free rfl

theorem write_later {d d' : Disk} {path : String} {bytes : ByteArray}
    (written : d.write path bytes = .ok d') :
    Later [d.placeOf path] d d' ∧ Reaches d' path ∧
      d'.entry? (d.placeOf path) = some (.file bytes) := by
  obtain ⟨place, found, put⟩ := bind_eq_ok written
  obtain ⟨same, below, free, reached⟩ := placeToWrite_reaches found
  have result : d' = d.put place (.file bytes) := (Except.ok.inj put).symm
  subst same result
  have grown : Later [d.placeOf path] d (d.put (d.placeOf path) (.file bytes)) :=
    later_put below free fun _ _ => ⟨bytes, rfl⟩
  exact ⟨grown, grown.reaches reached, by rw [entry?_put d below, if_pos rfl]⟩

/-! ### Reading -/

theorem fromUTF8?_toUTF8 (text : String) : String.fromUTF8? text.toUTF8 = some text := by
  simp [String.fromUTF8?, String.fromUTF8, text.isValidUTF8]

theorem Reaches.find {d : Disk} {path : String} (reached : Reaches d path) {bytes : ByteArray}
    (held : d.entry? (d.placeOf path) = some (.file bytes)) :
    d.find path = .ok (d.placeOf path, .file bytes) := by
  simp [Disk.find, reached.route, reached.follow, held, bind, Except.bind]

theorem Reaches.readText {d : Disk} {path text : String} (reached : Reaches d path)
    (held : d.entry? (d.placeOf path) = some (.file text.toUTF8)) : d.readText path = .ok text := by
  simp only [Disk.readText, reached.find held, fromUTF8?_toUTF8]

end PolyglotPages.Disk
