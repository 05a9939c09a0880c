import PolyglotPages.Json.Relaxed.Value
import PolyglotPages.Proofs.Json.Relaxed.Token
import PolyglotPages.Proofs.Json.Strict.Value

/-! A relaxed JSON text is read for the value that it stands for by the grammar. So whatever the
strict reader makes of a text, the relaxed one makes the same of it. -/
namespace PolyglotPages.Json.Relaxed
open Grammar

def resume (fuel : Nat) (state : State) (cs : List Char) : Except Failure Json := do
  let (tokens, stop) := readTokens fuel cs
  let state ← state.run tokens
  match stop with
  | some failure => .error failure
  | none => state.finish

theorem read_eq_resume (text : String) :
    read text = resume (text.toList.length + 1) .start text.toList := rfl

theorem resume_spaces {gap : List Char} (blank : Spaces gap) (fuel : Nat) (state : State)
    (cs : List Char) : resume fuel state (gap ++ cs) = resume fuel state cs := by
  cases fuel with
  | zero => rfl
  | succ fuel => simp only [resume, readTokens, skip_gap blank]

theorem resume_token {c : Char} {cs rest : List Char} {token : Token} {state next : State}
    (here : skip (c :: cs) = .ok (c :: cs)) (read : readToken c cs = .ok (token, rest))
    (step : state.step ⟨token, c :: cs⟩ = .ok next) (fuel : Nat) :
    resume (fuel + 1) state (c :: cs) = resume fuel next rest := by
  simp only [resume, readTokens, here, read, State.run, List.foldlM_cons, step]
  rfl

theorem resume_done {cs : List Char} (blank : Spaces cs) (fuel : Nat) (v : Json) :
    resume fuel (.done v) cs = .ok v := by
  have atEnd := resume_spaces blank fuel (.done v) []
  rw [List.append_nil] at atEnd
  rw [atEnd]
  cases fuel with
  | zero => rfl
  | succ fuel => rfl

/-- The machine comes from one state to another while it reads a text up to `rest`. -/
inductive Reach : State → List Char → State → List Char → Prop where
  | refl {state : State} {cs : List Char} : Reach state cs state cs
  | gap {state last : State} {gap cs rest : List Char} : Spaces gap → Reach state cs last rest →
      Reach state (gap ++ cs) last rest
  | token {state next last : State} {c : Char} {token : Token} {cs more rest : List Char} :
      skip (c :: cs) = .ok (c :: cs) → readToken c cs = .ok (token, more) →
      more.length ≤ cs.length → state.step ⟨token, c :: cs⟩ = .ok next →
      Reach next more last rest → Reach state (c :: cs) last rest

theorem Reach.trans {a b c : State} {cs ds es : List Char} (first : Reach a cs b ds)
    (second : Reach b ds c es) : Reach a cs c es := by
  induction first with
  | refl => exact second
  | gap blank _ ih => exact .gap blank (ih second)
  | token here read shorter step _ ih => exact .token here read shorter step (ih second)

theorem Reach.resume {state last : State} {cs rest : List Char} (reach : Reach state cs last rest) :
    ∀ fuel, cs.length < fuel → ∃ left, resume fuel state cs = resume left last rest := by
  induction reach with
  | refl =>
    intro fuel _
    exact ⟨fuel, rfl⟩
  | gap blank _ ih =>
    intro fuel enough
    rw [List.length_append] at enough
    rw [resume_spaces blank]
    exact ih fuel (by omega)
  | token here read shorter step _ ih =>
    intro fuel enough
    rw [List.length_cons] at enough
    obtain ⟨fuel, rfl⟩ := Nat.exists_eq_succ_of_ne_zero (Nat.ne_of_gt (Nat.zero_lt_of_lt enough))
    rw [resume_token here read step]
    exact ih fuel (by omega)

def Awaits (state : State) (outer : List Outer) : Prop :=
  ∀ p : Placed, p.token ≠ .closeBracket → p.token ≠ .comma → state.step p = State.begin outer p

theorem awaits_start : Awaits .start [] := by
  intro p _ _
  rfl

theorem awaits_item (opened : List Char) (items : List Json) (comma : Bool) (outer : List Outer) :
    Awaits (.inArray opened items comma outer) (.array opened items :: outer) := by
  intro p notClosed notComma
  simp only [State.step]
  split
  · next closed => exact absurd closed notClosed
  · next separated => exact absurd separated notComma
  · rfl

theorem awaits_member (opened : List Char) (members : List (String × Json)) (key : String)
    (outer : List Outer) :
    Awaits (.afterColon opened members key outer) (.member opened members key :: outer) := by
  intro p _ _
  rfl

theorem reach_scalar {state : State} {outer : List Outer} (awaits : Awaits state outer) {c : Char}
    {cs rest : List Char} {token : Token} {v : Json} (here : skip (c :: cs) = .ok (c :: cs))
    (read : readToken c cs = .ok (token, rest)) (shorter : rest.length ≤ cs.length)
    (scalar : State.begin outer ⟨token, c :: cs⟩ = .ok (.deliver v outer)) :
    Reach state (c :: cs) (.deliver v outer) rest := by
  refine .token here read shorter ?_ .refl
  rw [awaits, scalar]
  · rintro rfl
    cases scalar
  · rintro rfl
    cases scalar

theorem reach_mark {state next last : State} {c : Char} {token : Token} {cs rest : List Char}
    (solid : Text.isBlank c = false) (noSlash : c ≠ '/')
    (read : readToken c cs = .ok (token, cs)) (step : state.step ⟨token, c :: cs⟩ = .ok next)
    (reach : Reach next cs last rest) : Reach state (c :: cs) last rest :=
  .token (skip_solid solid noSlash cs) read (Nat.le_refl _) step reach

mutual

theorem reach_value {v : Json} {body : List Char} : ValueText v body →
    ∀ {state : State} {outer : List Outer} {rest : List Char}, Awaits state outer → Ends rest →
      Reach state (body ++ rest) (.deliver v outer) rest
  | .null, _, _, _, awaits, ends =>
    reach_scalar awaits (skip_solid rfl (by decide) _) (readToken_null ends)
      (Nat.le_add_right _ 3) rfl
  | .true, _, _, _, awaits, ends =>
    reach_scalar awaits (skip_solid rfl (by decide) _) (readToken_true ends)
      (Nat.le_add_right _ 3) rfl
  | .false, _, _, _, awaits, ends =>
    reach_scalar awaits (skip_solid rfl (by decide) _) (readToken_false ends)
      (Nat.le_add_right _ 4) rfl
  | .number digits denotes, _, _, _, awaits, ends => by
    obtain ⟨c, more, rfl, start⟩ := number_start digits
    obtain ⟨source, read⟩ := readToken_number digits denotes ends
    exact reach_scalar awaits (skip_number start _) read (by simp) rfl
  | .string chars, _, _, rest, awaits, ends => by
    have read := readToken_string chars rest
    rw [List.cons_append, List.append_assoc, List.singleton_append]
    exact reach_scalar awaits (skip_solid rfl (by decide) _) read (by simp; omega) rfl
  | .emptyArray blank, _, _, _, awaits, ends => by
    rw [List.cons_append, List.append_assoc, List.singleton_append]
    refine reach_mark rfl (by decide) rfl (awaits ⟨.openBracket, _⟩ nofun nofun) (.gap blank ?_)
    exact reach_mark rfl (by decide) rfl rfl .refl
  | .array items, _, outer, rest, awaits, ends => by
    have inside := reach_items items
    rw [List.cons_append, List.append_assoc, List.singleton_append]
    refine reach_mark rfl (by decide) rfl (awaits ⟨.openBracket, _⟩ nofun nofun) ?_
    exact inside _ [] false outer rest
  | .emptyObject blank, _, _, _, awaits, ends => by
    rw [List.cons_append, List.append_assoc, List.singleton_append]
    refine reach_mark rfl (by decide) rfl (awaits ⟨.openBrace, _⟩ nofun nofun) (.gap blank ?_)
    exact reach_mark rfl (by decide) rfl rfl .refl
  | .object members, _, outer, rest, awaits, ends => by
    have inside := reach_members members
    rw [List.cons_append, List.append_assoc, List.singleton_append]
    refine reach_mark rfl (by decide) rfl (awaits ⟨.openBrace, _⟩ nofun nofun) ?_
    exact inside _ [] false outer rest

theorem reach_item {v : Json} {body : List Char} : ItemText v body →
    ∀ {state : State} {outer : List Outer} {rest : List Char}, Awaits state outer → Ends rest →
      Reach state (body ++ rest) (.deliver v outer) rest
  | .mk before value after, _, _, _, awaits, ends => by
    have inside := reach_value value awaits (ends_behind after ends)
    rw [List.append_assoc, List.append_assoc]
    exact .gap before (inside.trans (.gap after .refl))

theorem reach_items {vs : List Json} {body : List Char} : ItemsText vs body →
    ∀ (opened : List Char) (items : List Json) (comma : Bool) (outer : List Outer)
      (rest : List Char), Reach (.inArray opened items comma outer) (body ++ ']' :: rest)
        (.deliver (.array (items.reverse ++ vs)) outer) rest
  | .last item, opened, items, comma, outer, rest => by
    have awaits := awaits_item opened items comma outer
    refine (reach_item item awaits (ends_mark (by decide))).trans ?_
    refine reach_mark rfl (by decide) rfl rfl ?_
    rw [List.reverse_cons]
    exact .refl
  | @ItemsText.cons v _ _ _ item more, opened, items, comma, outer, rest => by
    have awaits := awaits_item opened items comma outer
    have next := reach_items more opened (v :: items) false outer rest
    rw [List.reverse_cons, List.append_assoc] at next
    rw [List.append_assoc, List.cons_append]
    refine (reach_item item awaits (ends_mark (by decide))).trans ?_
    exact reach_mark rfl (by decide) rfl rfl next

theorem reach_member {member : String × Json} {body : List Char} : MemberText member body →
    ∀ (opened : List Char) (members : List (String × Json)) (comma : Bool) (outer : List Outer)
      {rest : List Char}, Ends rest → Reach (.inObject opened members comma outer) (body ++ rest)
        (.inObject opened (member :: members) true outer) rest
  | @MemberText.mk key _ _ _ _ _ blank chars blank' item, opened, members, comma, outer, _, ends => by
    have inside := reach_item item (awaits_member opened members key outer) ends
    simp only [List.append_assoc, List.cons_append]
    refine .gap blank (.token (skip_solid rfl (by decide) _) (readToken_string chars _)
      (by simp; omega) rfl ?_)
    exact .gap blank' (reach_mark rfl (by decide) rfl rfl inside)

theorem reach_members {vs : List (String × Json)} {body : List Char} : MembersText vs body →
    ∀ (opened : List Char) (members : List (String × Json)) (comma : Bool) (outer : List Outer)
      (rest : List Char), Reach (.inObject opened members comma outer) (body ++ '}' :: rest)
        (.deliver (.object (members.reverse ++ vs)) outer) rest
  | .last member, opened, members, comma, outer, rest => by
    refine (reach_member member opened members comma outer (ends_mark (by decide))).trans ?_
    refine reach_mark rfl (by decide) rfl rfl ?_
    rw [List.reverse_cons]
    exact .refl
  | @MembersText.cons e _ _ _ member more, opened, members, comma, outer, rest => by
    have next := reach_members more opened (e :: members) false outer rest
    rw [List.reverse_cons, List.append_assoc] at next
    rw [List.append_assoc, List.cons_append]
    refine (reach_member member opened members comma outer (ends_mark (by decide))).trans ?_
    exact reach_mark rfl (by decide) rfl rfl next

end

/-- A text of the grammar is read for the value that it stands for. -/
theorem read_of_text {text : String} {v : Json} (h : ItemText v text.toList) :
    read text = .ok v := by
  have atEnd : Ends [] := by
    intro c first
    cases first
  have reach := reach_item h awaits_start atEnd
  rw [List.append_nil] at reach
  obtain ⟨left, same⟩ := reach.resume _ (Nat.lt_succ_self _)
  rw [read_eq_resume, same]
  exact resume_done spaces_nil left v

theorem read_of_strict {text : String} {v : Json} (h : Strict.parse text = .ok v) :
    read text = .ok v :=
  read_of_text (Strict.text_of_parse h)

end PolyglotPages.Json.Relaxed
