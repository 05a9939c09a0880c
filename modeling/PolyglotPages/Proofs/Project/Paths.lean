import PolyglotPages.Project.Settings
import PolyglotPages.Proofs.Disk.Place

/-! The paths of settings, seen from one directory after the other. Joining is associative, however
a base is written, so what was seen from two directories might have been seen from both joined; an
absolute path is seen alike from everywhere. -/
namespace PolyglotPages

namespace Path

theorem join_absolute {path : String} (absolute : isAbsolute path = true) (base : String) :
    join base path = path := by
  simp [join, absolute]

theorem join_relative {path : String} (relative : isAbsolute path = false) (base : String) :
    join base path = join base "" ++ path := by
  have nothing : isAbsolute "" = false := rfl
  simp only [join, relative, nothing, Bool.false_eq_true, if_false, String.append_empty]
  split
  · rfl
  · rfl

/-- A directory put behind another one asks for a slash where it would ask for one alone. -/
theorem join_empty_append {front path : String}
    (ended : front = "" ∨ front.toList.getLast? = some '/') :
    join (front ++ path) "" = front ++ join path "" := by
  have nothing : isAbsolute "" = false := rfl
  simp only [join, nothing, Bool.false_eq_true, if_false, String.append_empty]
  by_cases empty : path = ""
  · subst empty
    simp [ended]
  · have whole : front ++ path ≠ "" := by simp [empty]
    have some : path.toList ≠ [] := by simpa using empty
    have last : (front ++ path).toList.getLast? = path.toList.getLast? := by
      rw [String.toList_append, List.getLast?_append_of_ne_nil _ some]
    rw [last]
    simp only [whole, empty, false_or]
    split
    · rfl
    · exact String.append_assoc

theorem join_join (a b path : String) : join a (join b path) = join (join a b) path := by
  cases place : isAbsolute path with
  | true => rw [join_absolute place, join_absolute place, join_absolute place]
  | false =>
    have seen : isAbsolute (join b path) = isAbsolute b := isAbsolute_join place
    cases base : isAbsolute b with
    | true => rw [join_absolute base, join_absolute (seen.trans base)]
    | false =>
      calc join a (join b path) = join a "" ++ join b path := join_relative (seen.trans base) a
        _ = join a "" ++ (join b "" ++ path) := by rw [join_relative place b]
        _ = join (join a "" ++ b) "" ++ path := by
          rw [join_empty_append (join_empty a), String.append_assoc]
        _ = join (join a b) path := by
          rw [join_relative place (join a b), join_relative base a]

theorem isAbsolute_join_base {base : String} (absolute : isAbsolute base = true) (path : String) :
    isAbsolute (join base path) = true := by
  cases place : isAbsolute path with
  | true => rw [join_absolute place, place]
  | false => rw [isAbsolute_join place, absolute]

end Path

namespace Project.Settings

inductive PathField where
  | page
  | dictionary
  | outDir

def path? (s : Settings) : PathField → Option String
  | .page => s.options.pagePath
  | .dictionary => s.options.dictionaryPath
  | .outDir => some s.outDir

def withPaths (s : Settings) (page dictionary : Option String) (outDir : String) : Settings :=
  { s with options := { s.options with pagePath := page, dictionaryPath := dictionary }, outDir }

theorem path?_resolvePaths (s : Settings) (base : String) (field : PathField) :
    (s.resolvePaths base).path? field = (s.path? field).map (Path.join base) := by
  cases field with
  | page => rfl
  | dictionary => rfl
  | outDir => rfl

theorem resolvePaths_resolvePaths (s : Settings) (first second : String) :
    (s.resolvePaths first).resolvePaths second = s.resolvePaths (Path.join second first) := by
  have joined : Path.join second ∘ Path.join first = Path.join (Path.join second first) := by
    funext path
    exact Path.join_join second first path
  simp only [resolvePaths, Option.map_map, joined, Path.join_join]

theorem isAbsolute_of_resolvePaths {base : String} (absolute : Path.isAbsolute base = true)
    {s : Settings} {field : PathField} {path : String}
    (given : (s.resolvePaths base).path? field = some path) : Path.isAbsolute path = true := by
  rw [path?_resolvePaths, Option.map_eq_some_iff] at given
  obtain ⟨path', -, rfl⟩ := given
  exact Path.isAbsolute_join_base absolute path'

/-- Paths that are seen from one directory and then from another are seen once, from the other one
with the first joined to it. Seen from an absolute directory all of them are absolute, and there it
ends: an absolute path stays as it is. Nothing but the paths is touched. -/
theorem paths_seen_from_joined_base (s : Settings) :
    (∀ first second, (s.resolvePaths first).resolvePaths second =
      s.resolvePaths (Path.join second first)) ∧
    (∀ base, Path.isAbsolute base = true →
      (∀ field path, (s.resolvePaths base).path? field = some path →
        Path.isAbsolute path = true) ∧
      ∀ other, (s.resolvePaths base).resolvePaths other = s.resolvePaths base) ∧
    (∀ base field path, s.path? field = some path → Path.isAbsolute path = true →
      (s.resolvePaths base).path? field = some path) ∧
    ∀ base, (s.resolvePaths base).withPaths s.options.pagePath s.options.dictionaryPath s.outDir
      = s := by
  refine ⟨s.resolvePaths_resolvePaths, ?_, ?_, fun base => rfl⟩
  · intro base absolute
    refine ⟨fun field path => isAbsolute_of_resolvePaths absolute, fun other => ?_⟩
    rw [resolvePaths_resolvePaths, Path.join_absolute absolute]
  · intro base field path given absolute
    rw [path?_resolvePaths, given, Option.map_some, Path.join_absolute absolute]

theorem paths_seen_from_joined_base_mixed :
    ∃ s : Settings, s.options.pagePath = some "a.html" ∧ s.outDir = "" ∧
      s.path? .dictionary = some "/c.json" ∧ Path.isAbsolute "/c.json" = true ∧
      Path.isAbsolute "/site" = true ∧
      ((s.resolvePaths "en/").resolvePaths "/site").path? .page = some "/site/en/a.html" ∧
      ((s.resolvePaths "en/").resolvePaths "/site").path? .outDir = some "/site/en/" ∧
      (s.resolvePaths "en/").path? .dictionary = some "/c.json" ∧
      ((s.resolvePaths "/site").resolvePaths "en/").path? .page = some "/site/a.html" ∧
      Path.isAbsolute "/site/" = true := by
  let s : Settings := {
    options := { pagePath := some "a.html", dictionaryPath := some "/c.json" }, outDir := "" }
  obtain ⟨twice, ended, kept, -⟩ := paths_seen_from_joined_base s
  obtain ⟨absolute, settled⟩ := ended "/site" (by decide)
  refine ⟨s, rfl, rfl, rfl, by decide, by decide, ?_, ?_,
    kept "en/" .dictionary "/c.json" rfl (by decide), ?_, absolute .outDir "/site/" (by decide)⟩
  · rw [twice]
    decide
  · rw [twice]
    decide
  · rw [settled]
    decide

end Project.Settings
end PolyglotPages
