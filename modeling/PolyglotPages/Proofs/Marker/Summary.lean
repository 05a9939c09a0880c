import Mathlib.Data.List.Induction
import PolyglotPages.Proofs.Marker.Reading

/-! What the state of a scan says. A state tells of the open tag, which is all that has been read
since the last `>`, whether it has an opener, how much of one it ends with, and which name follows
the first. It tells nothing else, so the open tag decides the state. -/
namespace PolyglotPages.Marker

/-- The first `matched` characters of the opener end the text, and no longer part short of the whole
does. -/
structure LongestMatch (text : List Char) (matched : Nat) : Prop where
  proper : matched < opener.length
  here : opener.take matched <:+ text
  longest : ∀ other < opener.length, opener.take other <:+ text → other ≤ matched

theorem LongestMatch.unique {text : List Char} {a b : Nat} (left : LongestMatch text a)
    (right : LongestMatch text b) : a = b :=
  Nat.le_antisymm (right.longest a left.proper left.here) (left.longest b right.proper right.here)

theorem take_suffix_concat_iff {text : List Char} {c : Char} {matched : Nat}
    (proper : matched < opener.length) :
    opener.take (matched + 1) <:+ text ++ [c] ↔
      opener.take matched <:+ text ∧ opener[matched]? = some c := by
  have single : [opener[matched]].length = [c].length := rfl
  rw [List.take_add_one, List.getElem?_eq_getElem proper, Option.toList_some,
    List.suffix_append_inj_of_length_eq single, List.singleton_inj, Option.some.injEq]

theorem opener_infix_concat_iff {text : List Char} {c : Char} : opener <:+: text ++ [c] ↔
    (opener.take 2 <:+ text ∧ opener[2]? = some c) ∨ opener <:+: text := by
  rw [List.infix_concat_iff, ← take_suffix_concat_iff (by decide)]
  exact Iff.rfl

theorem trailing_concat (text : List Char) {c : Char} (inside : c ≠ '>') :
    trailing (text ++ [c]) = trailing text ++ [c] := by
  obtain ⟨whole, closed, opened⟩ := cut_text text
  have longer : Cut (text ++ [c]) (pieces text) (trailing text ++ [c]) :=
    ⟨by rw [← List.append_assoc, whole], closed, by simp [opened, Ne.symm inside]⟩
  exact longer.unique.2

namespace FirstMarker
variable {tag before rest : List Char} {name : String}

theorem opener_infix (marker : FirstMarker tag before name rest) : opener <:+: tag :=
  ⟨before, name.toList ++ rest, by rw [marker.whole, List.append_assoc _ name.toList]⟩

theorem unique {other more : List Char} {name' : String}
    (left : FirstMarker tag before name rest) (right : FirstMarker tag other name' more) :
    name = name' ∧ rest = more := by
  have after : afterOpener? tag = some (name.toList ++ rest) :=
    afterOpener?_eq_some_iff.mpr ⟨before, by simpa using left.whole, left.first⟩
  have after' : afterOpener? tag = some (name'.toList ++ more) :=
    afterOpener?_eq_some_iff.mpr ⟨other, by simpa using right.whole, right.first⟩
  have named : nameIn? tag = some name := nameIn?_eq_some_iff.mpr ⟨before, rest, left⟩
  have named' : nameIn? tag = some name' := nameIn?_eq_some_iff.mpr ⟨other, more, right⟩
  obtain rfl : name = name' := Option.some.inj (named.symm.trans named')
  exact ⟨rfl, List.append_cancel_left (Option.some.inj (after.symm.trans after'))⟩

end FirstMarker

namespace Scan

/-- What a state tells of the open tag. -/
def Tells : Scan → List Char → Prop
  | .seeking matched, tag => ¬ opener <:+: tag ∧ LongestMatch tag matched
  | .naming name, tag => ∃ before, FirstMarker tag before name []
  | .closing name, tag => ∃ before rest, rest ≠ [] ∧ FirstMarker tag before name rest

theorem start_tells : start.Tells [] := by
  refine ⟨by decide, by decide, List.nil_suffix, fun other proper ends => ?_⟩
  have short := ends.length_le
  simp only [List.length_take, List.length_nil] at short
  omega

/-- A match that goes on: it is complete, or it is the longest one still. -/
theorem seek_tells_further {tag : List Char} {matched : Nat} {c : Char}
    (unopened : ¬ opener <:+: tag) (longest : LongestMatch tag matched)
    (goesOn : opener[matched]? = some c) : (seek matched c).Tells (tag ++ [c]) := by
  have further := (take_suffix_concat_iff longest.proper).mpr ⟨longest.here, goesOn⟩
  by_cases whole : matched + 1 = opener.length
  · have ends : opener <:+ tag ++ [c] := by simpa [whole] using further
    obtain ⟨before, same⟩ := ends
    have front : tag = before ++ opener.dropLast := by
      have := congrArg List.dropLast same
      simpa [List.dropLast_append_of_ne_nil, opener] using this.symm
    have marker : FirstMarker (tag ++ [c]) before "" [] :=
      ⟨by simpa using same.symm, front ▸ unopened, by simp, by simp⟩
    simpa [seek, goesOn, whole, Tells] using ⟨before, marker⟩
  · have proper : matched + 1 < opener.length := by have := longest.proper; omega
    have still : ¬ opener <:+: tag ++ [c] := by
      rw [opener_infix_concat_iff, not_or]
      refine ⟨fun complete => ?_, unopened⟩
      have := longest.longest 2 (by decide) complete.1
      simp only [opener, List.length_cons, List.length_nil] at proper
      omega
    have told : LongestMatch (tag ++ [c]) (matched + 1) := by
      refine ⟨proper, further, fun other short ends => ?_⟩
      cases other with
      | zero => omega
      | succ other =>
        have before := (take_suffix_concat_iff (by omega)).mp ends
        have := longest.longest other (by omega) before.1
        omega
    simpa [seek, goesOn, whole, Tells] using ⟨still, told⟩

/-- A match that breaks off: what is left is the first character of another one, or nothing. -/
theorem seek_tells_anew {tag : List Char} {matched : Nat} {c : Char}
    (unopened : ¬ opener <:+: tag) (longest : LongestMatch tag matched)
    (broken : opener[matched]? ≠ some c) : (seek matched c).Tells (tag ++ [c]) := by
  have still : ¬ opener <:+: tag ++ [c] := by
    rw [opener_infix_concat_iff, not_or]
    refine ⟨fun complete => ?_, unopened⟩
    have two : matched = 2 := by
      have atLeast := longest.longest 2 (by decide) complete.1
      have proper := longest.proper
      simp only [opener, List.length_cons, List.length_nil] at proper
      omega
    exact broken (two ▸ complete.2)
  have told : LongestMatch (tag ++ [c]) (if c = 'm' then 1 else 0) := by
    refine ⟨by split <;> decide, ?_, fun other short ends => ?_⟩
    · split
      · next first => exact ⟨tag, by simp [opener, first]⟩
      · exact List.nil_suffix
    · cases other with
      | zero => exact Nat.zero_le _
      | succ other =>
        obtain ⟨here, goesOn⟩ := (take_suffix_concat_iff (by omega)).mp ends
        have shorter : other < matched :=
          Nat.lt_of_le_of_ne (longest.longest other (by omega) here)
            fun same => broken (same ▸ goesOn)
        have few : matched < 3 := longest.proper
        cases other with
        | zero =>
          have first : 'm' = c := Option.some.inj goesOn
          simp [← first]
        | succ other =>
          -- the opener goes on from its second character as it does from its first
          obtain rfl : other = 0 := by omega
          obtain rfl : matched = 2 := by omega
          exact absurd goesOn broken
  simpa [seek, broken, Tells] using ⟨still, told⟩

theorem step_tells {s : Scan} {tag : List Char} (tells : s.Tells tag) (offset : Nat) {c : Char}
    (inside : c ≠ '>') : (s.step offset c).1.Tells (tag ++ [c]) := by
  cases s with
  | seeking matched =>
    obtain ⟨unopened, longest⟩ := tells
    by_cases goesOn : opener[matched]? = some c
    · exact seek_tells_further unopened longest goesOn
    · exact seek_tells_anew unopened longest goesOn
  | naming name =>
    obtain ⟨before, marker⟩ := tells
    have whole := marker.whole
    by_cases ends : endsName c = true
    · have named : FirstMarker (tag ++ [c]) before name [c] :=
        ⟨by simp [whole], marker.first, marker.inside, by simpa using ends⟩
      simpa [step, inside, ends, Tells] using ⟨before, [c], by simp, named⟩
    · have longer : FirstMarker (tag ++ [c]) before (name.push c) [] := by
        refine ⟨by simp [whole], marker.first, fun d member => ?_, by simp⟩
        rw [String.toList_push, List.mem_append, List.mem_singleton] at member
        rcases member with early | rfl
        · exact marker.inside d early
        · simpa using ends
      simpa [step, inside, ends, Tells] using ⟨before, longer⟩
  | closing name =>
    obtain ⟨before, rest, some, marker⟩ := tells
    have later : FirstMarker (tag ++ [c]) before name (rest ++ [c]) := by
      refine ⟨by simp [marker.whole], marker.first, marker.inside, ?_⟩
      obtain ⟨d, more, rfl⟩ := List.exists_cons_of_ne_nil some
      exact marker.ended
    simpa [step, inside, Tells] using ⟨before, rest ++ [c], by simp, later⟩

theorem run_concat (s : Scan) (offset : Nat) (text : List Char) (c : Char) :
    (s.run offset (text ++ [c])).2 =
      ((s.run offset text).2.step (offset + Text.byteLength text) c).1 := by
  rw [run_append]
  rfl

theorem run_tells (offset : Nat) (text : List Char) :
    (start.run offset text).2.Tells (trailing text) := by
  -- by the last character: every earlier part of the text is told of already
  induction text using List.reverseRecOn with
  | nil => exact start_tells
  | append_singleton text c ih =>
    rw [run_concat]
    by_cases close : c = '>'
    · subst close
      rw [step_close, trailing_body]
      exact start_tells
    · rw [trailing_concat text close]
      exact step_tells ih _ close

theorem Tells.opener_infix_iff {s : Scan} {tag : List Char} (tells : s.Tells tag) :
    opener <:+: tag ↔ s.isInside = true := by
  cases s with
  | seeking matched => simp [isInside, tells.1]
  | naming name =>
    obtain ⟨before, marker⟩ := tells
    simp [isInside, marker.opener_infix]
  | closing name =>
    obtain ⟨before, rest, -, marker⟩ := tells
    simp [isInside, marker.opener_infix]

theorem Tells.unique {s s' : Scan} {tag : List Char} (left : s.Tells tag) (right : s'.Tells tag) :
    s = s' := by
  have alike : s.isInside = s'.isInside := by
    rw [Bool.eq_iff_iff, ← left.opener_infix_iff, ← right.opener_infix_iff]
  cases s with
  | seeking matched =>
    cases s' with
    | seeking matched' => rw [left.2.unique right.2]
    | naming name => cases alike
    | closing name => cases alike
  | naming name =>
    obtain ⟨before, marker⟩ := left
    cases s' with
    | seeking matched => cases alike
    | naming name' =>
      obtain ⟨before', marker'⟩ := right
      rw [(marker.unique marker').1]
    | closing name' =>
      obtain ⟨before', rest, some, marker'⟩ := right
      exact absurd (marker.unique marker').2.symm some
  | closing name =>
    obtain ⟨before, rest, some, marker⟩ := left
    cases s' with
    | seeking matched => cases alike
    | naming name' =>
      obtain ⟨before', marker'⟩ := right
      exact absurd (marker.unique marker').2 some
    | closing name' =>
      obtain ⟨before', rest', -, marker'⟩ := right
      rw [(marker.unique marker').1]

theorem run_eq_iff {offset : Nat} {text : List Char} {s : Scan} :
    (start.run offset text).2 = s ↔ s.Tells (trailing text) := by
  constructor
  · rintro rfl
    exact run_tells offset text
  · exact (run_tells offset text).unique

end Scan

/-- After any text the state is told by what stands behind its last `>`, and tells it: whether there
is an opener, the longest part of one at the end, and the name behind the first opener, complete or
not. A marker is found exactly when a `>` is read behind an opener. -/
theorem state_tells_open_tag (text : List Char) :
    Cut text (pieces text) (trailing text) ∧
    (∀ matched, (Scan.start.run 0 text).2 = .seeking matched ↔
      ¬ opener <:+: trailing text ∧ LongestMatch (trailing text) matched) ∧
    (∀ name, (Scan.start.run 0 text).2 = .naming name ↔
      ∃ before, FirstMarker (trailing text) before name []) ∧
    (∀ name, (Scan.start.run 0 text).2 = .closing name ↔
      ∃ before rest, rest ≠ [] ∧ FirstMarker (trailing text) before name rest) ∧
    ((Scan.start.run 0 text).2.isInside = true ↔ opener <:+: trailing text) ∧
    ∀ (s : Scan) (offset : Nat) (c : Char) (o : Occurrence), (s.step offset c).2 = some o ↔
      c = '>' ∧ o.position = offset + 1 ∧ (s = .naming o.name ∨ s = .closing o.name) :=
  ⟨cut_text text, fun _ => Scan.run_eq_iff, fun _ => Scan.run_eq_iff, fun _ => Scan.run_eq_iff,
    (Scan.run_tells 0 text).opener_infix_iff.symm, fun _ _ _ _ => Scan.step_found_iff⟩

-- the opener is begun three times, and what is left of it at the end is its last two characters
example : (Scan.start.run 0 "<b>m_mm_".toList).2 = .seeking 2 := by decide

end PolyglotPages.Marker
