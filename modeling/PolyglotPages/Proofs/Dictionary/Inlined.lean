import PolyglotPages.Proofs.Json.Relaxed.Value
import PolyglotPages.Proofs.Page.Inputs
import PolyglotPages.Proofs.Project.Flattened

/-! A dictionary in a file of its own and the same text within a settings file. The one is read as
relaxed JSON, the other as strict JSON and by way of the options, and both give the same
dictionary. -/
namespace PolyglotPages
open Json (check settle settleMembers)
open Json.Grammar

namespace Json.Grammar

def isPlain (c : Char) : Bool := c ≠ '"' && c ≠ '\\' && !decide (c < ' ')

theorem stringText_plain {cs : List Char} (plain : cs.all isPlain = true) : StringText cs cs := by
  induction cs with
  | nil => exact .nil
  | cons c cs ih =>
    simp only [List.all_cons, Bool.and_eq_true] at plain
    have char : CharText c [c] := by
      simp only [isPlain, Bool.and_eq_true, decide_eq_true_eq, Bool.not_eq_true',
        decide_eq_false_iff_not] at plain
      exact .plain plain.1.1.1 plain.1.1.2 plain.1.2
    exact .cons char (ih plain.2)

end Json.Grammar

namespace Dictionary

theorem parse_of_strict {t : String} {v : Json} (read : Json.Strict.parse t = .ok v)
    (origin : String) : parse origin t = ofValue origin v.settle := by
  have relaxed : Json.Relaxed.parse t = .ok v.settle := by
    rw [Json.Relaxed.parse, Json.Relaxed.read_of_strict read]
    rfl
  rw [parse, relaxed]

end Dictionary

namespace Project

/-- The text of a settings file with nothing but a dictionary in it. -/
def inlined (dictionary : String) : String := "\x7b\"targetJson\": " ++ dictionary ++ "\x7d"

theorem text_inlined {t : String} {v : Json} (text : ItemText v t.toList) :
    ItemText (.object [("targetJson", v)]) (inlined t).toList := by
  have key : StringText "targetJson".toList "targetJson".toList := stringText_plain (by decide)
  have space : Spaces [' '] := by decide
  have member := MemberText.mk spaces_nil key spaces_nil (text.behind space)
  have object := ItemText.mk spaces_nil (.object (.last member)) spaces_nil
  have spelled : "\x7b\"targetJson\": ".toList =
      '{' :: '"' :: ("targetJson".toList ++ ['"', ':', ' ']) := by decide
  have close : "\x7d".toList = ['}'] := by decide
  -- written out, for a rewrite would compare the two texts at length
  have whole : (inlined t).toList =
      '{' :: '"' :: ("targetJson".toList ++ ['"', ':', ' ']) ++ t.toList ++ ['}'] :=
    calc (inlined t).toList = ("\x7b\"targetJson\": " ++ t).toList ++ "\x7d".toList :=
          String.toList_append
      _ = ("\x7b\"targetJson\": ".toList ++ t.toList) ++ "\x7d".toList :=
          congrArg (· ++ _) String.toList_append
      _ = _ := congrArg₂ (· ++ t.toList ++ ·) spelled close
  rw [whole]
  simpa only [List.nil_append, List.append_nil, List.append_assoc, List.cons_append] using object

namespace Settings

theorem parse_inlined {t : String} {v : Json} {s : Settings} (text : ItemText v t.toList)
    (read : parse (inlined t) = .ok s) :
    check .setAside Dictionary.shape v = .ok () ∧
      s.options.dictionary = Dictionary.ofShaped v.settle := by
  obtain ⟨members, value, -, passed, rfl⟩ := parse_eq_ok_iff.mp read
  have whole : ItemText (.object members) (inlined t).toList := Json.Strict.text_of_parse value
  have both := (Json.Relaxed.read_of_text whole).symm.trans
    (Json.Relaxed.read_of_text (text_inlined text))
  obtain rfl := Json.object.inj (Except.ok.inj both)
  refine ⟨?_, rfl⟩
  have only : setAside [("targetJson", v)] = [("targetJson", v)] := by simp [setAside, fields]
  rw [only, Options.shape, check, Json.checkMembers_eq_ok_iff] at passed
  exact passed.2.2 _ List.mem_cons_self _ rfl

end Settings

end Project

namespace Site

theorem load_read {path t : String} {d : Dictionary} {disk : Disk}
    (there : disk.readText path = .ok t) (read : Dictionary.parse ("'" ++ path ++ "'") t = .ok d)
    (o : Project.Options) :
    (load { o with dictionaryPath := some path } : StateM Disk _) disk =
      (load { o with dictionary := d, dictionaryPath := none } : StateM Disk _) disk := by
  have pageRead := (readPage_reads o).eq disk
  generalize ((readPage o : StateM Disk _) disk).1 = page at pageRead
  have chosen : (readDictionary path : StateM Disk _) disk = (.ok d, disk) := by
    show ((disk.readText path).mapError (InputError.unreadable path) >>=
      Dictionary.parse ("'" ++ path ++ "'"), disk) = _
    rw [there]
    exact congrArg (·, disk) read
  have fromFile : (readPage { o with dictionaryPath := some path } : StateM Disk _) disk =
      (page, disk) := pageRead
  have inPlace : (readPage { o with dictionary := d, dictionaryPath := none } :
      StateM Disk _) disk = (page, disk) := pageRead
  simp only [load, bind, StateT.bind, fromFile, inPlace]
  cases page with
  | error e => rfl
  | ok page =>
    simp only [chooseDictionary, StateT.bind, chosen]
    rfl

end Site

/-- A dictionary file is read as its text would be decoded, and as it is read where it stands in
the settings; so a page is made the same with either. -/
theorem inlined_dictionary_read {t : String} {v : Json} (read : Json.Strict.parse t = .ok v)
    (origin : String) :
    Dictionary.parse origin t = Dictionary.ofValue origin v.settle ∧
      ∀ s, Project.Settings.parse (Project.inlined t) = .ok s →
        Dictionary.parse origin t = .ok s.options.dictionary ∧
          ∀ (o : Project.Options) (path : String) (disk : Disk), disk.readText path = .ok t →
            (Site.load { o with dictionaryPath := some path } : StateM Disk _) disk =
              (Site.load { o with dictionary := s.options.dictionary, dictionaryPath := none } :
                StateM Disk _) disk := by
  refine ⟨Dictionary.parse_of_strict read origin, ?_⟩
  intro s parsed
  have text := Json.Strict.text_of_parse read
  obtain ⟨passed, same⟩ := Project.Settings.parse_inlined text parsed
  have decoded : ∀ origin, Dictionary.parse origin t = .ok s.options.dictionary := by
    intro origin
    rw [Dictionary.parse_of_strict read, Dictionary.ofValue_eq_ok_iff, same]
    exact ⟨Dictionary.lasting_shape .setAside .decoded v passed, rfl⟩
  exact ⟨decoded origin, fun o path disk there => Site.load_read there (decoded _) o⟩

theorem inlined_dictionary_read_escaped :
    ∃ (t : String) (v : Json) (s : Project.Settings) (disk : Disk),
      t = "\x7b\"contents\": \x7b\"a\": [\"\\uD83D\\uDE00\", \"\\/\"]\x7d\x7d" ∧
      Json.Strict.parse t = .ok v ∧ Project.Settings.parse (Project.inlined t) = .ok s ∧
      Dictionary.ofValue "'d.json'" v.settle = .ok s.options.dictionary ∧
      s.options.dictionary.content? "a" 0 = some "😀" ∧
      disk.readText "d.json" = .ok t ∧
      (Site.load { page := "<p m__a>", dictionaryPath := some "d.json" } : StateM Disk _) disk =
        (Site.load { page := "<p m__a>", dictionary := s.options.dictionary } :
          StateM Disk _) disk := by
  let t := "\x7b\"contents\": \x7b\"a\": [\"\\uD83D\\uDE00\", \"\\/\"]\x7d\x7d"
  let disk : Disk := ⟨[(["d.json"], .file t.toUTF8)], []⟩
  have there : disk.readText "d.json" = .ok t := by decide +kernel
  have held : (·.options.dictionary.content? "a" 0) <$> Project.Settings.parse (Project.inlined t) =
      .ok (some "😀") := by decide +kernel
  have decoded : (fun _ => ()) <$> Json.Strict.parse t = .ok () := by decide +kernel
  obtain ⟨s, parsed, text⟩ := map_eq_ok_iff.mp held
  obtain ⟨v, read, -⟩ := map_eq_ok_iff.mp decoded
  obtain ⟨same, inPlace⟩ := inlined_dictionary_read read "'d.json'"
  obtain ⟨given, loaded⟩ := inPlace s parsed
  exact ⟨t, v, s, disk, rfl, read, parsed, same ▸ given, text, there,
    loaded { page := "<p m__a>" } "d.json" disk there⟩

end PolyglotPages
