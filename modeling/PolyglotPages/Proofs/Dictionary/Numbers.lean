import PolyglotPages.Proofs.Dictionary.Parts
import PolyglotPages.Proofs.Json.Relaxed.Numeral

/-! Numbers where the text of a dictionary wants a text. What counts is the value that a number is
read for: a literal that denotes a number is refused, and one that denotes none is taken for the
text it is written with, as if it stood in quotes. -/
namespace PolyglotPages
open Entries (keys)
open Json.Relaxed (MembersTokens Numeral Spelled Token Tree TreeTokens Written)

/-! ### What stands in a tree -/

namespace Json.Relaxed.Tree

/-- What a tree gives for a field of a record: the last member of its name, or the item at its
place. -/
inductive Gives (names : List String) (name : String) : Tree → Tree → Prop
  | member {before after : List (String × Tree)} {t : Tree} (last : name ∉ keys after) :
    Gives names name (.object (before ++ (name, t) :: after)) t
  | item {items : List Tree} {i : Nat} {t : Tree} (place : names[i]? = some name)
    (there : items[i]? = some t) : Gives names name (.array items) t

theorem Gives.tokens {names : List String} {name : String} {t u : Tree} {toks : List Token}
    (given : Gives names name t u) (phrase : TreeTokens t toks) :
    ∃ ts, TreeTokens u ts ∧ ts ⊆ toks := by
  cases given with
  | @member before after _ last =>
    exact @TreeTokens.value _ _ (name, u) phrase (by simp)
  | item place there => exact phrase.item (List.mem_of_getElem? there)

theorem mem_settled_of_last {before after : List (String × Tree)} {name : String} {t : Tree}
    (last : name ∉ keys after) :
    ∃ members, (Tree.object (before ++ (name, t) :: after)).value.settle = .object members ∧
      (name, t.value.settle) ∈ members := by
  refine ⟨_, rfl, ?_⟩
  rw [memberValues_eq_map, settleMembers_eq_map]
  simp only [List.map_append, List.map_cons, List.map_map]
  apply Entries.mem_sort_of_last
  simpa [keys] using last

theorem Gives.settled {names : List String} {name : String} {t u : Tree}
    (given : Gives names name t u) : Json.Gives names name t.value.settle u.value.settle := by
  cases given with
  | member last =>
    obtain ⟨members, same, there⟩ := mem_settled_of_last last
    rw [same]
    exact .member there
  | item place there =>
    refine .item place ?_
    rw [itemValues_eq_map, settleItems_eq_map, List.getElem?_map, List.getElem?_map, there]
    rfl

mutual

/-- The tree with every number that denotes none as a string of what it is written with. -/
def quoted : Tree → Tree
  | .number n =>
    match n.value? with
    | some _ => .number n
    | none => .string n.source
  | .array items => .array (quotedItems items)
  | .object members => .object (quotedMembers members)
  | t => t

def quotedItems : List Tree → List Tree
  | [] => []
  | t :: rest => t.quoted :: quotedItems rest

def quotedMembers : List (String × Tree) → List (String × Tree)
  | [] => []
  | (key, t) :: rest => (key, t.quoted) :: quotedMembers rest

end

mutual

theorem value_quoted : (t : Tree) → t.quoted.value = t.value
  | .null | .bool _ | .string _ => rfl
  | .number n => by
    simp only [quoted]
    split
    · rfl
    · next unknown => simp [value, Numeral.json, unknown]
  | .array items => by simp only [quoted, value, itemValues_quotedItems items]
  | .object members => by simp only [quoted, value, memberValues_quotedMembers members]

theorem itemValues_quotedItems : (items : List Tree) →
    itemValues (quotedItems items) = itemValues items
  | [] => rfl
  | t :: rest => by simp only [quotedItems, itemValues, value_quoted t, itemValues_quotedItems rest]

theorem memberValues_quotedMembers : (members : List (String × Tree)) →
    memberValues (quotedMembers members) = memberValues members
  | [] => rfl
  | (key, t) :: rest => by
    simp only [quotedMembers, memberValues, value_quoted t, memberValues_quotedMembers rest]

end

end Json.Relaxed.Tree

namespace Dictionary
open Json.Relaxed.Tree (Gives)
open Dictionary.Part (Within)

/-- In the tree of a dictionary, a value that is to be a text or, of a content, texts. Of members
with one key only the last counts. -/
inductive TextPlace (t : Tree) : Tree → Prop
  | language {header u : Tree} {items : List Tree} (inHeader : Gives fieldNames "meta" t header)
    (inLanguages : Gives Header.fieldNames "languages" header (.array items)) (there : u ∈ items) :
    TextPlace t u
  | linebreak {header u : Tree} (inHeader : Gives fieldNames "meta" t header)
    (there : Gives Header.fieldNames "linebreak" header u) : TextPlace t u
  | content {before after : List (String × Tree)} {name : String} {u : Tree}
    (inContents : Gives fieldNames "contents" t (.object (before ++ (name, u) :: after)))
    (last : name ∉ keys after) : TextPlace t u
  | translation {before after : List (String × Tree)} {name : String} {u : Tree}
    {items : List Tree}
    (inContents : Gives fieldNames "contents" t (.object (before ++ (name, .array items) :: after)))
    (last : name ∉ keys after) (there : u ∈ items) : TextPlace t u

namespace TextPlace
variable {t u : Tree}

theorem tokens (place : TextPlace t u) {toks : List Token} (phrase : TreeTokens t toks) :
    ∃ ts, TreeTokens u ts ∧ ts ⊆ toks := by
  cases place with
  | language inHeader inLanguages there =>
    obtain ⟨_, header, inside⟩ := inHeader.tokens phrase
    obtain ⟨_, languages, inside'⟩ := inLanguages.tokens header
    obtain ⟨ts, item, inside''⟩ := languages.item there
    exact ⟨ts, item, List.Subset.trans inside'' (List.Subset.trans inside' inside)⟩
  | linebreak inHeader there =>
    obtain ⟨_, header, inside⟩ := inHeader.tokens phrase
    obtain ⟨ts, linebreak, inside'⟩ := there.tokens header
    exact ⟨ts, linebreak, List.Subset.trans inside' inside⟩
  | @content before after name _ inContents last =>
    obtain ⟨_, contents, inside⟩ := inContents.tokens phrase
    obtain ⟨ts, content, inside'⟩ := @TreeTokens.value _ _ (name, u) contents (by simp)
    exact ⟨ts, content, List.Subset.trans inside' inside⟩
  | @translation before after name _ items inContents last there =>
    obtain ⟨_, contents, inside⟩ := inContents.tokens phrase
    obtain ⟨_, content, inside'⟩ := @TreeTokens.value _ _ (name, .array items) contents (by simp)
    obtain ⟨ts, item, inside''⟩ := content.item there
    exact ⟨ts, item, List.Subset.trans inside'' (List.Subset.trans inside' inside)⟩

theorem mem_settleItems {items : List Tree} (there : u ∈ items) :
    u.value.settle ∈ Json.settleItems (Tree.itemValues items) := by
  rw [Tree.itemValues_eq_map, Json.settleItems_eq_map]
  exact List.mem_map_of_mem (List.mem_map_of_mem there)

theorem within (place : TextPlace t u) :
    Within t.value.settle .text u.value.settle ∨ Within t.value.settle .content u.value.settle := by
  cases place with
  | language inHeader inLanguages there =>
    left
    have header := Within.whole.part (.header inHeader.settled)
    have languages := header.part (.languages inLanguages.settled)
    exact languages.part (.language (mem_settleItems there))
  | linebreak inHeader there =>
    left
    have header := Within.whole.part (.header inHeader.settled)
    exact header.part (.linebreak there.settled)
  | content inContents last =>
    right
    obtain ⟨members, same, there⟩ := Tree.mem_settled_of_last last
    have contents := Within.whole.part (.contents inContents.settled)
    rw [same] at contents
    exact contents.part (.content there)
  | @translation before after name _ items inContents last there =>
    left
    obtain ⟨members, same, inside⟩ := Tree.mem_settled_of_last last
    have contents := Within.whole.part (.contents inContents.settled)
    rw [same] at contents
    have content := contents.part (.content inside)
    exact content.part (.translation (mem_settleItems there))

theorem refused (place : TextPlace t u) {n : Number} (number : u.value = .number n)
    (origin : String) :
    ∃ detail, ofValue origin t.value.settle = .error (.malformed origin detail) := by
  cases read : ofValue origin t.value.settle with
  | error e =>
    obtain ⟨detail, rfl⟩ := ofValue_eq_error read
    exact ⟨detail, rfl⟩
  | ok d =>
    have passed := (ofValue_eq_ok_iff.mp read).1
    have distinct := Json.hasDistinctKeys_settle t.value
    -- a number is admitted neither as a text nor as a content
    rcases place.within with inside | inside
    · obtain ⟨apart, here⟩ := inside.passed distinct passed
      obtain ⟨s, text⟩ := ((Part.check_eq_ok_iff apart).mp here).1
      rw [number] at text
      cases text
    · obtain ⟨apart, here⟩ := inside.passed distinct passed
      rw [number] at here apart
      rcases ((Part.check_eq_ok_iff apart).mp here).1 with ⟨s, text⟩ | ⟨items, texts⟩
      · cases text
      · cases texts

end TextPlace

theorem parse_of_written {t : Tree} {text : String} (written : Written t text) (origin : String) :
    parse origin text = ofValue origin t.value.settle := by
  have read : Json.Relaxed.read text = .ok t.value :=
    Json.Relaxed.read_eq_ok_iff.mpr ⟨t, written, rfl⟩
  rw [parse, Json.Relaxed.parse, read]
  rfl

theorem parse_of_not_written {text : String} (noTree : ¬ ∃ t, Written t text) (origin : String) :
    ∃ detail, parse origin text = .error (.malformed origin detail) := by
  cases read : Json.Relaxed.read text with
  | error e =>
    rw [parse, Json.Relaxed.parse, read]
    exact ⟨_, rfl⟩
  | ok v =>
    obtain ⟨t, written, _⟩ := Json.Relaxed.read_eq_ok_iff.mp read
    exact absurd ⟨t, written⟩ noTree

/-- A text is read for the dictionaries that its tree describes. Where a text is wanted, a literal
that denotes a number makes it be refused; one that denotes none, being beyond all numbers, is read as
if it stood in quotes. A text without a tree is refused as well. -/
theorem number_at_text_place (origin text : String) :
    (∀ t, Written t text → ∀ d, parse origin text = .ok d ↔ Describes t.value.settle d) ∧
    (∀ t, Written t text → ∀ n, TextPlace t (.number n) → Spelled n ∧
      ∀ m, n.value? = some m → ∃ detail, parse origin text = .error (.malformed origin detail)) ∧
    (∀ t, Written t text → ∀ other, Written t.quoted other →
      parse origin other = parse origin text) ∧
    ((¬ ∃ t, Written t text) → ∃ detail, parse origin text = .error (.malformed origin detail)) := by
  refine ⟨?_, ?_, ?_, fun noTree => parse_of_not_written noTree origin⟩
  · intro t written d
    rw [parse_of_written written, ofValue_eq_ok_iff, readBy _ d (Json.hasDistinctKeys_settle _)]
  · intro t written n place
    constructor
    · obtain ⟨ts, number, inside⟩ := place.tokens written.phrase
      cases number with
      | number => exact Json.Relaxed.tokens_spelled (inside List.mem_cons_self)
    · intro m denotes
      have number : (Tree.number n).value = .number m := by
        simp [Tree.value, Numeral.json, denotes]
      rw [parse_of_written written]
      exact place.refused number origin
  · intro t written other quoted
    rw [parse_of_written written, parse_of_written quoted, Tree.value_quoted]

def titled (title : String) : String := "\x7b\"contents\": \x7b\"title\": " ++ title ++ "\x7d\x7d"

def titledTree (title : Tree) : Tree := .object [("contents", .object [("title", title)])]

theorem titledTree_written {title : Tree} {token : Token} (one : TreeTokens title [token])
    {text : String} (complete : (Json.Relaxed.tokens text.toList).2 = none)
    (same : (Json.Relaxed.tokens text.toList).1.map (·.token) =
      [.openBrace, .string "contents", .colon, .openBrace, .string "title", .colon, token,
        .closeBrace, .closeBrace]) : Written (titledTree title) text := by
  constructor
  · exact complete
  · rw [same]
    have contents := MembersTokens.cons (.string "title") one .none .nil
    exact .object (.cons (.string "contents") (.object contents) .none .nil)

theorem titledTree_place (title : Tree) : TextPlace (titledTree title) title := by
  have inContents : Gives fieldNames "contents" (titledTree title) (.object [("title", title)]) :=
    @Gives.member _ _ [] [] _ (by simp)
  exact @TextPlace.content _ [] [] "title" _ inContents (by simp)

theorem boundless_written : Written (titledTree (.number ⟨"1e999", none⟩)) (titled "1e999") :=
  titledTree_written (.number _) (by decide +kernel) (by decide +kernel)

theorem parse_boundless :
    ∃ d, parse "<inline>" (titled "1e999") = .ok d ∧ d.content? "title" 0 = some "1e999" := by
  have title : (parse "<inline>" (titled "1e999")).toOption.bind (·.content? "title" 0) =
      some "1e999" := by decide +kernel
  cases read : parse "<inline>" (titled "1e999") with
  | error e =>
    rw [read] at title
    cases title
  | ok d =>
    rw [read] at title
    exact ⟨d, rfl, title⟩

theorem number_at_text_place_of_title :
    (∃ d, Describes (titledTree (.number ⟨"1e999", none⟩)).value.settle d ∧
      d.content? "title" 0 = some "1e999") ∧
    (∃ detail, parse "<inline>" (titled "42") = .error (.malformed "<inline>" detail)) ∧
    (∃ detail, parse "<inline>" (titled "-0x7F") = .error (.malformed "<inline>" detail)) ∧
    parse "<inline>" (titled "\"1e999\"") = parse "<inline>" (titled "1e999") ∧
    ∃ detail, parse "<inline>" "42 0x2A" = .error (.malformed "<inline>" detail) := by
  refine ⟨?_, ?_, ?_, ?_, ?_⟩
  · obtain ⟨d, read, title⟩ := parse_boundless
    exact ⟨d, ((number_at_text_place "<inline>" _).1 _ boundless_written d).mp read, title⟩
  · have written : Written (titledTree (.number ⟨"42", some (.integer 42)⟩)) (titled "42") :=
      titledTree_written (.number _) (by decide +kernel) (by decide +kernel)
    have each := (number_at_text_place "<inline>" _).2.1 _ written _ (titledTree_place _)
    exact each.2 _ rfl
  · have written :
        Written (titledTree (.number ⟨"-0x7F", some (.integer (-127))⟩)) (titled "-0x7F") :=
      titledTree_written (.number _) (by decide +kernel) (by decide +kernel)
    have each := (number_at_text_place "<inline>" _).2.1 _ written _ (titledTree_place _)
    exact each.2 _ rfl
  · have quoted : Written (titledTree (.string "1e999")) (titled "\"1e999\"") :=
      titledTree_written (.string _) (by decide +kernel) (by decide +kernel)
    exact (number_at_text_place "<inline>" _).2.2.1 _ boundless_written _ quoted
  · apply (number_at_text_place "<inline>" _).2.2.2
    intro written
    obtain ⟨t, written⟩ := written
    have read := Json.Relaxed.read_eq_ok_iff.mpr ⟨t, written, rfl⟩
    have failed : (Json.Relaxed.read "42 0x2A").toOption.isSome = false := by decide +kernel
    rw [read] at failed
    cases failed

theorem boundless_title_accepted :
    Written (titledTree (.number ⟨"1e999", none⟩)) (titled "1e999") ∧
      TextPlace (titledTree (.number ⟨"1e999", none⟩)) (.number ⟨"1e999", none⟩) ∧
      Spelled ⟨"1e999", none⟩ ∧
      (∃ d, parse "<inline>" (titled "1e999") = .ok d ∧ d.content? "title" 0 = some "1e999") ∧
      ¬ ∃ detail, parse "<inline>" (titled "1e999") = .error (.malformed "<inline>" detail) := by
  have number : Token.number ⟨"1e999", none⟩ ∈
      (Json.Relaxed.tokens (titled "1e999").toList).1.map (·.token) := by decide +kernel
  refine ⟨boundless_written, titledTree_place _, Json.Relaxed.tokens_spelled number,
    parse_boundless, ?_⟩
  intro failed
  obtain ⟨d, read, _⟩ := parse_boundless
  obtain ⟨detail, failed⟩ := failed
  rw [read] at failed
  cases failed

end Dictionary
end PolyglotPages
