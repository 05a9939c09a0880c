import PolyglotPages.Json.Basic
import PolyglotPages.Json.Strict.Token

/-! The grammar of JSON: which texts stand for a value. White space belongs to what it stands
around, so a phrase is its parts one after the other and needs no look at what follows it. Keys may
repeat and nesting has no limit here. -/
namespace PolyglotPages.Json.Grammar
open Strict (escaped? isSpace)

/-! ### Strings -/

inductive CharText : Char → List Char → Prop where
  | plain {c : Char} : c ≠ '"' → c ≠ '\\' → ¬ c < ' ' → CharText c [c]
  | escape {letter c : Char} : escaped? letter = some c → CharText c ['\\', letter]
  | code {a b c d : Char} {n : Nat} : Text.hexFour? a b c d = some n →
      Text.isFirstHalf n = false → Text.isSecondHalf n = false →
      CharText (Char.ofNat n) ['\\', 'u', a, b, c, d]
  | halves {a b c d a' b' c' d' : Char} {first second : Nat} :
      Text.hexFour? a b c d = some first → Text.isFirstHalf first = true →
      Text.hexFour? a' b' c' d' = some second → Text.isSecondHalf second = true →
      CharText (Text.joinHalves first second)
        ['\\', 'u', a, b, c, d, '\\', 'u', a', b', c', d']

inductive StringText : List Char → List Char → Prop where
  | nil : StringText [] []
  | cons {c : Char} {unit s body : List Char} : CharText c unit → StringText s body →
      StringText (c :: s) (unit ++ body)

/-! ### Numbers -/

structure Digits (ds : List Char) : Prop where
  some : ds ≠ []
  each : ∀ c ∈ ds, c.isDigit = true

inductive WholeText : List Char → Prop where
  | zero : WholeText ['0']
  | other {c : Char} {ds : List Char} : c ≠ '0' → Digits (c :: ds) → WholeText (c :: ds)

inductive FractionText : Option (List Char) → List Char → Prop where
  | none : FractionText none []
  | some {ds : List Char} : Digits ds → FractionText (some ds) ('.' :: ds)

inductive SignText : Bool → List Char → Prop where
  | none : SignText false []
  | plus : SignText false ['+']
  | minus : SignText true ['-']

inductive ExponentText : Option (Bool × List Char) → List Char → Prop where
  | none : ExponentText none []
  | some {e : Char} {negative : Bool} {sign ds : List Char} : e = 'e' ∨ e = 'E' →
      SignText negative sign → Digits ds → ExponentText (some (negative, ds)) (e :: (sign ++ ds))

inductive MinusText : Bool → List Char → Prop where
  | none : MinusText false []
  | minus : MinusText true ['-']

inductive NumberText : Number.Literal → List Char → Prop where
  | mk {negative : Bool} {fraction : Option (List Char)} {exponent : Option (Bool × List Char)}
      {sign whole fractionText exponentText : List Char} : MinusText negative sign →
      WholeText whole → FractionText fraction fractionText → ExponentText exponent exponentText →
      NumberText ⟨negative, whole, fraction, exponent⟩
        (sign ++ (whole ++ (fractionText ++ exponentText)))

/-! ### Values -/

def Spaces (cs : List Char) : Prop := ∀ c ∈ cs, isSpace c = true

instance (cs : List Char) : Decidable (Spaces cs) :=
  decidable_of_iff (cs.all isSpace = true) List.all_eq_true

mutual

inductive ValueText : Json → List Char → Prop where
  | null : ValueText .null ['n', 'u', 'l', 'l']
  | true : ValueText (.bool true) ['t', 'r', 'u', 'e']
  | false : ValueText (.bool false) ['f', 'a', 'l', 's', 'e']
  | number {l : Number.Literal} {n : Number} {body : List Char} : NumberText l body →
      l.value? = some n → ValueText (.number n) body
  | string {s : String} {body : List Char} : StringText s.toList body →
      ValueText (.string s) ('"' :: (body ++ ['"']))
  | emptyArray {gap : List Char} : Spaces gap → ValueText (.array []) ('[' :: (gap ++ [']']))
  | array {items : List Json} {body : List Char} : ItemsText items body →
      ValueText (.array items) ('[' :: (body ++ [']']))
  | emptyObject {gap : List Char} : Spaces gap → ValueText (.object []) ('{' :: (gap ++ ['}']))
  | object {members : List (String × Json)} {body : List Char} : MembersText members body →
      ValueText (.object members) ('{' :: (body ++ ['}']))

inductive ItemText : Json → List Char → Prop where
  | mk {v : Json} {before body after : List Char} : Spaces before → ValueText v body → Spaces after →
      ItemText v (before ++ (body ++ after))

inductive ItemsText : List Json → List Char → Prop where
  | last {v : Json} {body : List Char} : ItemText v body → ItemsText [v] body
  | cons {v : Json} {rest : List Json} {body more : List Char} : ItemText v body →
      ItemsText rest more → ItemsText (v :: rest) (body ++ ',' :: more)

inductive MemberText : String × Json → List Char → Prop where
  | mk {key : String} {v : Json} {before keyText after body : List Char} : Spaces before →
      StringText key.toList keyText → Spaces after → ItemText v body →
      MemberText (key, v) (before ++ '"' :: (keyText ++ '"' :: (after ++ ':' :: body)))

inductive MembersText : List (String × Json) → List Char → Prop where
  | last {member : String × Json} {body : List Char} : MemberText member body →
      MembersText [member] body
  | cons {member : String × Json} {rest : List (String × Json)} {body more : List Char} :
      MemberText member body → MembersText rest more →
      MembersText (member :: rest) (body ++ ',' :: more)

end

/-! ### White space in front -/

theorem spaces_nil : Spaces [] := by
  intro c there
  cases there

theorem Spaces.append {a b : List Char} (ha : Spaces a) (hb : Spaces b) : Spaces (a ++ b) := by
  intro c there
  cases List.mem_append.mp there with
  | inl there => exact ha c there
  | inr there => exact hb c there

theorem ItemText.behind {v : Json} {gap body : List Char} (blank : Spaces gap)
    (item : ItemText v body) : ItemText v (gap ++ body) := by
  cases item with
  | mk before value after =>
    rw [← List.append_assoc]
    exact .mk (blank.append before) value after

theorem ItemsText.behind {items : List Json} {gap body : List Char} (blank : Spaces gap)
    (text : ItemsText items body) : ItemsText items (gap ++ body) := by
  cases text with
  | last item => exact .last (item.behind blank)
  | cons item more =>
    rw [← List.append_assoc]
    exact .cons (item.behind blank) more

theorem MemberText.behind {member : String × Json} {gap body : List Char} (blank : Spaces gap)
    (text : MemberText member body) : MemberText member (gap ++ body) := by
  cases text with
  | mk before key after item =>
    rw [← List.append_assoc]
    exact .mk (blank.append before) key after item

theorem MembersText.behind {members : List (String × Json)} {gap body : List Char}
    (blank : Spaces gap) (text : MembersText members body) : MembersText members (gap ++ body) := by
  cases text with
  | last member => exact .last (member.behind blank)
  | cons member more =>
    rw [← List.append_assoc]
    exact .cons (member.behind blank) more

end PolyglotPages.Json.Grammar
