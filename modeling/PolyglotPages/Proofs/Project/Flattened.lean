import PolyglotPages.Project.Form
import PolyglotPages.Proofs.Dictionary.Written
import PolyglotPages.Proofs.Json.Strict.Kept

/-! Settings written flat. The fields of the options stand beside those of the settings and are read
in two steps, yet nothing is lost by it: an object is read as settings exactly when it is read as
options and the fields of the settings are texts, and settings that are written are read again. -/
namespace PolyglotPages
open Entries (keys)
open Json (Field HasDistinctKeys IsText ReadBy Steady check checkMembers settle settleMembers)

theorem Entries.lookup_filter {α : Type} (kept : String → Bool) {key : String}
    (stays : kept key = true) (entries : List (String × α)) :
    (entries.filter fun e => kept e.1).lookup key = entries.lookup key := by
  induction entries with
  | nil => rfl
  | cons e rest ih =>
    obtain ⟨k, value⟩ := e
    by_cases here : key = k
    · subst here
      simp [stays]
    · cases other : kept k <;> simp [other, List.lookup_cons, beq_false_of_ne here, ih]

namespace Project

/-! ### Options -/

namespace Options

theorem ofJson_eq_ok_iff {v : Json} {o : Options} :
    ofJson v = .ok o ↔ check .decoded shape v = .ok () ∧ ofShaped v = o := by
  rw [ofJson, then_eq_ok_iff]
  exact and_congr_right fun _ => ⟨Except.ok.inj, congrArg Except.ok⟩

theorem ofShaped_filter (kept : String → Bool) (own : ∀ key ∈ keys fields, kept key = true)
    (members : List (String × Json)) :
    ofShaped (.object (members.filter fun e => kept e.1)) = ofShaped (.object members) := by
  have found : ∀ name ∈ keys fields,
      (members.filter fun e => kept e.1).lookup name = members.lookup name :=
    fun name named => Entries.lookup_filter kept (own name named) members
  simp only [keys, fields, List.map_cons, List.map_nil, List.forall_mem_cons] at found
  obtain ⟨page, dictionary, pagePath, dictionaryPath, -⟩ := found
  simp only [ofShaped, Json.field?, page, dictionary, pagePath, dictionaryPath]

theorem ofJson_filter (kept : String → Bool) (own : ∀ key ∈ keys fields, kept key = true)
    (members : List (String × Json)) :
    ofJson (.object (members.filter fun e => kept e.1)) = ofJson (.object members) := by
  rw [ofJson, ofJson, ofShaped_filter kept own, shape, check, check,
    Json.checkMembers_filter kept own]

def modes : List String := ["documentMode", "parseMode", "insertMode"]

/-- Where a mode is given it is a word that stands alone. -/
def ModesAreWords (members : List (String × Json)) : Prop :=
  ∀ name ∈ modes, ∀ w, (name, w) ∈ members → ∃ word, w = .string word

theorem check_object_eq_ok_iff {origin : Json.Origin} {members : List (String × Json)}
    (distinct : HasDistinctKeys (.object members)) :
    check origin shape (.object members) = .ok () ↔
      ∀ e ∈ fields, ∀ w, (e.1, w) ∈ members → check origin e.2 w = .ok () := by
  have nodup : (keys fields).Nodup := by decide
  simp only [shape, Json.check_record_eq_ok_iff nodup distinct, Json.IsRecord.object, true_and,
    Json.gives_object_iff]

/-- Only an object in place of a mode tells whether it was set aside. -/
theorem check_origin {origin other : Json.Origin} {members : List (String × Json)}
    (distinct : HasDistinctKeys (.object members)) (words : ModesAreWords members)
    (passed : check origin shape (.object members) = .ok ()) :
    check other shape (.object members) = .ok () := by
  rw [check_object_eq_ok_iff distinct] at passed ⊢
  have kinds : ∀ e ∈ fields, (e.1 ∈ modes ∧ ∃ word, e.2 = .constant word) ∨ Steady e.2 := by
    simp [fields, modes, Json.steady_text, Json.steady_optionalPath, Dictionary.steady_shape]
  intro e field w there
  have here := passed e field w there
  rcases kinds e field with ⟨mode, _, constant⟩ | steady
  · obtain ⟨_, rfl⟩ := words e.1 mode w there
    rw [constant] at here ⊢
    simpa [check, Json.checkConstant] using here
  · exact steady origin other w here

theorem ofShaped_settle {v : Json} (distinct : v.HasDistinctKeys) :
    ofShaped v.settle = ofShaped v := by
  have page := Json.elim_field?_settle fields "sourceHtml" distinct "" fun w _ =>
    Json.asText_settle w
  have dictionary := Json.elim_field?_settle fields "targetJson" distinct {} fun w found =>
    Dictionary.ofShaped_settle (Json.field?_distinct distinct found)
  have path : ∀ name, (v.settle.field? fields name).bind Json.asPath? =
      (v.field? fields name).bind Json.asPath? := by
    intro name
    have same : ∀ w : Json, w.settle.asPath? = w.asPath? := fun w => by cases w <;> rfl
    rw [Json.field?_settle fields name distinct]
    cases v.field? fields name with
    | none => rfl
    | some w => exact same w
  simp only [ofShaped, page, dictionary, path]

end Options

/-! ### Settings -/

namespace Settings

section
variable {members : List (String × Json)} {s : Settings}

theorem check_setAside (origin : Json.Origin) (members : List (String × Json)) :
    check origin Options.shape (.object (setAside members)) =
      check origin Options.shape (.object members) := by
  have apart : ∀ key ∈ keys Options.fields, (fields.lookup key).isNone = true := by decide
  rw [Options.shape, check, check, setAside]
  exact Json.checkMembers_filter (fun key => (fields.lookup key).isNone) apart members []

theorem ofJson_object_eq_ok_iff : ofJson (.object members) = .ok s ↔
    checkMembers .decoded fields [] members = .ok () ∧
      check .setAside Options.shape (.object members) = .ok () ∧ ofMembers members = s := by
  rw [ofJson, then_eq_ok_iff, then_eq_ok_iff, check_setAside]
  exact and_congr_right fun _ => and_congr_right fun _ => ⟨Except.ok.inj, congrArg Except.ok⟩

theorem checkMembers_eq_ok_iff (distinct : HasDistinctKeys (.object members)) :
    checkMembers .decoded fields [] members = .ok () ↔
      ∀ name ∈ keys fields, ∀ w, (name, w) ∈ members → ∃ text, w = .string text := by
  have nodup : (keys fields).Nodup := by decide
  have record : check .decoded (.record typeName fields) (.object members) = .ok () ↔ _ :=
    Json.check_record_eq_ok_iff nodup distinct
  simp only [Json.IsRecord.object, true_and, Json.gives_object_iff] at record
  rw [check] at record
  simpa [fields, check, Json.checkText_eq_ok_iff] using record

theorem ofMembers_eq_iff : ofMembers members = s ↔
    Options.ofShaped (.object members) = s.options ∧
      (members.lookup "outDir").elim "." Json.asText = s.outDir ∧
      (members.lookup "pattern").elim Output.defaultPattern Json.asText = s.pattern := by
  obtain ⟨options, outDir, pattern⟩ := s
  simp [ofMembers]

theorem textField_iff (distinct : HasDistinctKeys (.object members)) {name : String}
    (named : name ∈ keys fields) (default text : String) :
    Field (keys fields) name (.object members) IsText default text ↔
      (∀ w, (name, w) ∈ members → ∃ text, w = .string text) ∧
        (members.lookup name).elim default Json.asText = text := by
  have nodup : (keys fields).Nodup := by decide
  have field := Json.readBy_text.field nodup name named distinct default text
  simpa only [Json.gives_object_iff, Json.check_text_eq_ok_iff, Json.field?] using field

/-- Settings are read from an object that options are read from, if the fields of their own are
texts where they are given. -/
theorem ofJson_eq_ok_iff (distinct : HasDistinctKeys (.object members))
    (words : Options.ModesAreWords members) : ofJson (.object members) = .ok s ↔
      Options.ofJson (.object members) = .ok s.options ∧
        Field (keys fields) "outDir" (.object members) IsText "." s.outDir ∧
        Field (keys fields) "pattern" (.object members) IsText Output.defaultPattern s.pattern := by
  have own : (∀ name ∈ keys fields, ∀ w, (name, w) ∈ members → ∃ text, w = .string text) ↔
      (∀ w, ("outDir", w) ∈ members → ∃ text, w = .string text) ∧
        ∀ w, ("pattern", w) ∈ members → ∃ text, w = .string text := by
    simp [fields]
  have origin : check .setAside Options.shape (.object members) = .ok () ↔
      check .decoded Options.shape (.object members) = .ok () :=
    ⟨Options.check_origin distinct words, Options.check_origin distinct words⟩
  rw [ofJson_object_eq_ok_iff, checkMembers_eq_ok_iff distinct, own, origin, ofMembers_eq_iff,
    Options.ofJson_eq_ok_iff, textField_iff distinct (by decide),
    textField_iff distinct (by decide)]
  tauto

theorem ofJson_isOk_iff (distinct : HasDistinctKeys (.object members))
    (words : Options.ModesAreWords members) : (∃ s, ofJson (.object members) = .ok s) ↔
      (∃ o, Options.ofJson (.object members) = .ok o) ∧
        ∀ name ∈ keys fields, ∀ w, (name, w) ∈ members → ∃ text, w = .string text := by
  rw [← checkMembers_eq_ok_iff distinct]
  constructor
  · rintro ⟨s, read⟩
    exact ⟨⟨_, ((ofJson_eq_ok_iff distinct words).mp read).1⟩, (ofJson_object_eq_ok_iff.mp read).1⟩
  · rintro ⟨⟨o, read⟩, own⟩
    have passed := (Options.ofJson_eq_ok_iff.mp read).1
    exact ⟨ofMembers members, ofJson_object_eq_ok_iff.mpr
      ⟨own, Options.check_origin distinct words passed, rfl⟩⟩

theorem ofJson_filter (kept : String → Bool) (own : ∀ key ∈ keys fields, kept key = true)
    (options : ∀ key ∈ keys Options.fields, kept key = true) (members : List (String × Json)) :
    ofJson (.object (members.filter fun e => kept e.1)) = ofJson (.object members) := by
  have outDir := Entries.lookup_filter kept (own "outDir" (by decide)) members
  have pattern := Entries.lookup_filter kept (own "pattern" (by decide)) members
  have same : ofMembers (members.filter fun e => kept e.1) = ofMembers members := by
    rw [ofMembers, ofMembers, Options.ofShaped_filter kept options, outDir, pattern]
  rw [ofJson, ofJson, Json.checkMembers_filter kept own, check_setAside, check_setAside, same,
    Options.shape, check, check, Json.checkMembers_filter kept options]

/-! ### Settings in a text -/

theorem ofMembers_settle (distinct : HasDistinctKeys (.object members)) :
    ofMembers (Entries.sort (settleMembers members)) = ofMembers members := by
  have options := Options.ofShaped_settle distinct
  have outDir := Json.elim_field?_settle fields "outDir" distinct "."
    fun w _ => Json.asText_settle w
  have pattern := Json.elim_field?_settle fields "pattern" distinct Output.defaultPattern
    fun w _ => Json.asText_settle w
  simp only [settle, Json.field?] at options outDir pattern
  simp only [ofMembers, options, outDir, pattern]

theorem fields_textual : ∀ e ∈ fields, Json.Strict.IsTextual e.2 := by
  simp [fields, Json.Strict.IsTextual]

theorem parse_eq_ok_iff {text : String} : parse text = .ok s ↔
    ∃ members, Json.Strict.parse text = .ok (.object members) ∧
      checkMembers .decoded fields [] members = .ok () ∧
      check .setAside Options.shape (.object (setAside members)) = .ok () ∧
      ofMembers (Entries.sort (settleMembers members)) = s := by
  constructor
  · intro h
    obtain ⟨⟨members, after⟩, kept, h⟩ := bind_eq_ok h
    obtain ⟨passed, h⟩ := then_eq_ok_iff.mp h
    obtain ⟨ended, h⟩ := then_eq_ok_iff.mp h
    obtain ⟨whole, own⟩ := (Json.Strict.exists_readKept_iff fields_textual).mp
      ⟨after, kept, Json.Strict.plain_eq_ok_iff.mp ended⟩
    exact ⟨members, whole, own, Json.Strict.shaped_eq_ok_iff.mp passed, Except.ok.inj h⟩
  · rintro ⟨members, whole, own, passed, rfl⟩
    obtain ⟨after, kept, ended⟩ :=
      (Json.Strict.exists_readKept_iff fields_textual).mpr ⟨whole, own⟩
    exact bind_eq_ok_iff.mpr ⟨(members, after), kept, then_eq_ok_iff.mpr
      ⟨Json.Strict.shaped_eq_ok_iff.mpr passed, then_eq_ok_iff.mpr
        ⟨Json.Strict.plain_eq_ok_iff.mpr ended, rfl⟩⟩⟩

theorem parse_value_eq_ok_iff {text : String}
    (value : Json.Strict.parse text = .ok (.object members))
    (distinct : HasDistinctKeys (.object members)) :
    parse text = .ok s ↔ ofJson (.object members) = .ok s := by
  rw [parse_eq_ok_iff, ofJson_object_eq_ok_iff, ← ofMembers_settle distinct, ← check_setAside]
  constructor
  · rintro ⟨others, value', rest⟩
    obtain rfl := Json.object.inj (Except.ok.inj (value.symm.trans value'))
    exact rest
  · intro rest
    exact ⟨members, value, rest⟩

end

/-! ### Settings that are written -/

/-- The members of settings that are written, with the dictionary given by `dictionary`. -/
def membersWith (s : Settings) (dictionary : Json) : List (String × Json) :=
  [("sourceHtml", .string s.options.page), ("targetJson", dictionary),
    ("sourceHtmlPath", .ofPath? s.options.pagePath),
    ("targetJsonPath", .ofPath? s.options.dictionaryPath),
    ("documentMode", .string s.options.documentMode.name),
    ("parseMode", .string s.options.parseMode.name),
    ("insertMode", .string s.options.insertMode.name), ("outDir", .string s.outDir),
    ("pattern", .string s.pattern)]

theorem toJson_membersWith (s : Settings) :
    s.toJson = .object (s.membersWith s.options.dictionary.toJson) := rfl

theorem ofPath?_settle (path? : Option String) :
    (Json.ofPath? path?).settle = .ofPath? path? := by
  cases path? <;> rfl

theorem asPath?_ofPath? (path? : Option String) : Json.asPath? (.ofPath? path?) = path? := by
  cases path? <;> rfl

theorem settleMembers_membersWith (s : Settings) (dictionary : Json) :
    settleMembers (s.membersWith dictionary) = s.membersWith dictionary.settle := by
  simp [membersWith, Json.settleMembers_eq_map, ofPath?_settle, settle]

theorem keys_membersWith_nodup (s : Settings) (dictionary : Json) :
    (keys (s.membersWith dictionary)).Nodup := by
  have names : keys (s.membersWith dictionary) = keys Options.fields ++ keys fields := rfl
  rw [names]
  decide

section
variable {s : Settings} {dictionary : Json} {members : List (String × Json)}

theorem hasDistinctKeys_of_perm (distinct : dictionary.HasDistinctKeys)
    (perm : members.Perm (s.membersWith dictionary)) : HasDistinctKeys (.object members) := by
  have path : ∀ path? : Option String, (Json.ofPath? path?).HasDistinctKeys := by
    intro path?
    cases path? with
    | none => exact .null
    | some path => exact .string path
  have each : ∀ e ∈ s.membersWith dictionary, e.2.HasDistinctKeys := by
    simp [membersWith, distinct, path, HasDistinctKeys.string]
  exact .object ((perm.map _).nodup_iff.mpr (s.keys_membersWith_nodup dictionary))
    fun e there => each e (perm.mem_iff.mp there)

theorem ofJson_membersWith (distinct : dictionary.HasDistinctKeys)
    (described : Dictionary.Describes dictionary s.options.dictionary)
    (perm : members.Perm (s.membersWith dictionary)) : ofJson (.object members) = .ok s := by
  have apart := hasDistinctKeys_of_perm distinct perm
  have given : ∀ e ∈ s.membersWith dictionary, members.lookup e.1 = some e.2 := fun e there =>
    (Entries.lookup_eq_some_iff apart.keys).mpr (perm.mem_iff.mpr there)
  obtain ⟨⟨_, _, _, _, ⟨⟩, ⟨⟩, ⟨⟩⟩, _, _⟩ := s
  simp only [membersWith, List.forall_mem_cons] at given
  obtain ⟨page, dict, pagePath, dictionaryPath, documentMode, parseMode, insertMode, outDir,
    pattern, -⟩ := given
  obtain ⟨passed, same⟩ := (Dictionary.readBy dictionary _ distinct).mp described
  have held : check .setAside Dictionary.shape dictionary = .ok () :=
    Dictionary.steady_shape .decoded .setAside dictionary passed
  have own : checkMembers .decoded fields [] members = .ok () := by
    simp only [checkMembers_eq_ok_iff apart, ← Entries.lookup_eq_some_iff apart.keys]
    simp [fields, outDir, pattern]
  have options : check .setAside Options.shape (.object members) = .ok () := by
    have path : ∀ path?, check .setAside .optionalPath (.ofPath? path?) = .ok () := by
      intro path?
      cases path? <;> rfl
    simp only [Options.check_object_eq_ok_iff apart, ← Entries.lookup_eq_some_iff apart.keys]
    simp [Options.fields, page, dict, pagePath, dictionaryPath, documentMode, parseMode, insertMode,
      held, path, check, Json.checkText, Json.checkConstant, Json.checkWord]
  rw [ofJson_object_eq_ok_iff]
  refine ⟨own, options, ?_⟩
  simp [ofMembers, Options.ofShaped, Json.field?, page, dict, pagePath, dictionaryPath, outDir,
    pattern, same, asPath?_ofPath?, Json.asText]

theorem ofJson_membersWith_settle (distinct : dictionary.HasDistinctKeys)
    (described : Dictionary.Describes dictionary s.options.dictionary)
    (perm : members.Perm (s.membersWith dictionary)) :
    ofJson (Json.object members).settle = .ok s := by
  have again : Dictionary.Describes dictionary.settle s.options.dictionary := by
    obtain ⟨passed, same⟩ := (Dictionary.readBy dictionary _ distinct).mp described
    refine (Dictionary.readBy _ _ (Json.hasDistinctKeys_settle dictionary)).mpr
      ⟨Dictionary.lasting_shape .decoded .decoded dictionary passed, ?_⟩
    rw [Dictionary.ofShaped_settle distinct, same]
  have apart := (hasDistinctKeys_of_perm distinct perm).keys
  rw [← Json.keys_settleMembers] at apart
  have settled : (settleMembers members).Perm (s.membersWith dictionary.settle) := by
    rw [← settleMembers_membersWith, Json.settleMembers_eq_map, Json.settleMembers_eq_map]
    exact perm.map _
  exact ofJson_membersWith (Json.hasDistinctKeys_settle dictionary) again
    ((Entries.sort_perm apart).trans settled)

end

/-- Settings that are written are read again, in whatever order their members stand. An object, the
modes in it given as words, is read as settings exactly when it is read as options and the fields of
the settings are texts if they are given; these options are those of the settings. Members that no
field names change nothing, and a text is read as its value is. -/
theorem flat_form_faithful :
    (∀ s : Settings, ∃ members, s.toJson = .object members ∧
      ∀ others : List (String × Json), others.Perm members →
        ofJson (.object others) = .ok s ∧ ofJson (Json.object others).settle = .ok s) ∧
    (∀ members : List (String × Json), HasDistinctKeys (.object members) →
      Options.ModesAreWords members →
      (∀ s, ofJson (.object members) = .ok s ↔ Options.ofJson (.object members) = .ok s.options ∧
        Field (keys fields) "outDir" (.object members) IsText "." s.outDir ∧
        Field (keys fields) "pattern" (.object members) IsText Output.defaultPattern s.pattern) ∧
      ((∃ s, ofJson (.object members) = .ok s) ↔
        (∃ o, Options.ofJson (.object members) = .ok o) ∧
          ∀ name ∈ ["outDir", "pattern"], ∀ w, (name, w) ∈ members → ∃ text, w = .string text)) ∧
    (∀ members : List (String × Json),
      Options.ofJson (.object (members.filter fun e => e.1 ∈ keys Options.fields)) =
        Options.ofJson (.object members) ∧
      ofJson (.object (members.filter fun e => e.1 ∈ keys Options.fields ++ keys fields)) =
        ofJson (.object members)) ∧
    ∀ (text : String) (members : List (String × Json)),
      Json.Strict.parse text = .ok (.object members) → HasDistinctKeys (.object members) →
      ∀ s, parse text = .ok s ↔ ofJson (.object members) = .ok s := by
  refine ⟨?_, ?_, ?_, fun text members value distinct s => parse_value_eq_ok_iff value distinct⟩
  · intro s
    have whole := List.Perm.refl s.options.dictionary.contents.entries
    have distinct := Dictionary.hasDistinctKeys_writtenIn whole
    have described := Dictionary.describes_writtenIn whole
    rw [Dictionary.writtenIn_entries] at distinct described
    exact ⟨_, s.toJson_membersWith, fun others perm =>
      ⟨ofJson_membersWith distinct described perm,
        ofJson_membersWith_settle distinct described perm⟩⟩
  · intro members distinct words
    exact ⟨fun s => ofJson_eq_ok_iff distinct words, ofJson_isOk_iff distinct words⟩
  · intro members
    have options : ∀ key ∈ keys Options.fields, decide (key ∈ keys Options.fields) = true := by
      simp
    have both : ∀ key ∈ keys Options.fields ++ keys fields,
        decide (key ∈ keys Options.fields ++ keys fields) = true := by
      simp
    obtain ⟨inOptions, own⟩ := List.forall_mem_append.mp both
    exact ⟨Options.ofJson_filter _ options members, ofJson_filter _ own inOptions members⟩

def besideUnknown : List (String × Json) :=
  [("outDir", .string "d"), ("else", .null), ("documentMode", .string "html"),
    ("targetJson", .object [("contents", .object [("a", .string "t")])])]

def besideUnknownText : String :=
  "\x7b\"outDir\": \"d\", \"else\": null, \"documentMode\": \"html\", " ++
    "\"targetJson\": \x7b\"contents\": \x7b\"a\": \"t\"\x7d\x7d\x7d"

theorem besideUnknown_parse :
    Json.Strict.parse besideUnknownText = .ok (.object besideUnknown) := by
  have spelled : besideUnknownText.toList = _ ++ _ :=
    String.toList_append.trans (congrArg₂ (· ++ ·) String.toList_ofList String.toList_ofList)
  rw [Json.Strict.parse, spelled]
  rfl

theorem besideUnknown_distinct : HasDistinctKeys (.object besideUnknown) := by
  refine .object (by decide) ?_
  have contents : HasDistinctKeys (.object [("a", .string "t")]) :=
    .object (by decide) (by simp [HasDistinctKeys.string])
  have dictionary : HasDistinctKeys (.object [("contents", .object [("a", .string "t")])]) :=
    .object (by decide) (by simp [contents])
  simp [besideUnknown, dictionary, HasDistinctKeys.string, HasDistinctKeys.null]

theorem flat_form_faithful_beside_unknown :
    ∃ s : Settings, Json.Strict.parse besideUnknownText = .ok (.object besideUnknown) ∧
      HasDistinctKeys (.object besideUnknown) ∧ Options.ModesAreWords besideUnknown ∧
      Options.ofJson (.object besideUnknown) = .ok s.options ∧ parse besideUnknownText = .ok s ∧
      s.outDir = "d" ∧ s.pattern = Output.defaultPattern ∧ s.options.pagePath = none ∧
      s.options.dictionary.content? "a" 1 = some "t" ∧
      ofJson s.toJson = .ok s ∧
      ¬ ∃ s, ofJson (.object [("outDir", .null)]) = .ok s := by
  have words : Options.ModesAreWords besideUnknown := by
    simp [Options.ModesAreWords, Options.modes, besideUnknown]
  have read : ofJson (.object besideUnknown) = .ok (ofMembers besideUnknown) := rfl
  obtain ⟨written, each, -, texts⟩ := flat_form_faithful
  obtain ⟨members, same, back⟩ := written (ofMembers besideUnknown)
  have options := ((each _ besideUnknown_distinct words).1 _).mp read
  have parsed := (texts _ _ besideUnknown_parse besideUnknown_distinct _).mpr read
  refine ⟨ofMembers besideUnknown, besideUnknown_parse, besideUnknown_distinct, words, options.1,
    parsed, rfl, rfl, rfl, by decide +kernel,
    same ▸ (back members (List.Perm.refl members)).1, ?_⟩
  have lone : HasDistinctKeys (.object [("outDir", .null)]) :=
    .object (by decide) (by simp [HasDistinctKeys.null])
  rw [(each [("outDir", .null)] lone (by simp [Options.ModesAreWords, Options.modes])).2]
  simp

end Settings

end Project
end PolyglotPages
