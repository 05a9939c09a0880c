import PolyglotPages.Proofs.Json.Relaxed.Value

/-! The syntax of a relaxed JSON text: which tokens, one behind the other, make up a value. A tree
keeps every number as it is written, so it tells what stands in the text and not only what that
means. The machine reads exactly the texts that have a tree, and it reads them for the value of the
tree. -/
namespace PolyglotPages.Json.Relaxed

inductive Tree where
  | null
  | bool (value : Bool)
  | number (numeral : Numeral)
  | string (text : String)
  | array (items : List Tree)
  | object (members : List (String × Tree))

namespace Tree

mutual

def value : Tree → Json
  | .null => .null
  | .bool b => .bool b
  | .number n => n.json
  | .string s => .string s
  | .array items => .array (itemValues items)
  | .object members => .object (memberValues members)

def itemValues : List Tree → List Json
  | [] => []
  | t :: rest => t.value :: itemValues rest

def memberValues : List (String × Tree) → List (String × Json)
  | [] => []
  | (key, t) :: rest => (key, t.value) :: memberValues rest

end

theorem itemValues_eq_map (items : List Tree) : itemValues items = items.map value := by
  induction items with
  | nil => rfl
  | cons t rest ih => simp [itemValues, ih]

theorem memberValues_eq_map (members : List (String × Tree)) :
    memberValues members = members.map fun e => (e.1, e.2.value) := by
  induction members with
  | nil => rfl
  | cons e rest ih => simp [memberValues, ih]

end Tree

/-! ### Phrases -/

inductive Separator : List Token → Prop where
  | none : Separator []
  | comma : Separator [.comma]

inductive KeyToken : String → Token → Prop where
  | string (s : String) : KeyToken s (.string s)
  | word (s : String) : KeyToken s (.word s)
  | number (n : Numeral) : KeyToken n.source (.number n)

mutual

inductive TreeTokens : Tree → List Token → Prop where
  | null : TreeTokens .null [.null]
  | bool (b : Bool) : TreeTokens (.bool b) [.bool b]
  | number (n : Numeral) : TreeTokens (.number n) [.number n]
  | string (s : String) : TreeTokens (.string s) [.string s]
  | array {items : List Tree} {ts : List Token} : ItemsTokens items ts →
      TreeTokens (.array items) (.openBracket :: (ts ++ [.closeBracket]))
  | object {members : List (String × Tree)} {ts : List Token} : MembersTokens members ts →
      TreeTokens (.object members) (.openBrace :: (ts ++ [.closeBrace]))

inductive ItemsTokens : List Tree → List Token → Prop where
  | nil : ItemsTokens [] []
  | cons {t : Tree} {items : List Tree} {ts separator more : List Token} : TreeTokens t ts →
      Separator separator → ItemsTokens items more →
      ItemsTokens (t :: items) (ts ++ (separator ++ more))

inductive MembersTokens : List (String × Tree) → List Token → Prop where
  | nil : MembersTokens [] []
  | cons {key : String} {k : Token} {t : Tree} {members : List (String × Tree)}
      {ts separator more : List Token} : KeyToken key k → TreeTokens t ts → Separator separator →
      MembersTokens members more →
      MembersTokens ((key, t) :: members) (k :: .colon :: (ts ++ (separator ++ more)))

end

/-- The text is written with the tokens of the tree. -/
structure Written (t : Tree) (text : String) : Prop where
  complete : (tokens text.toList).2 = none
  phrase : TreeTokens t ((tokens text.toList).1.map (·.token))

theorem ItemsTokens.concat {items : List Tree} {toks : List Token} :
    ItemsTokens items toks → ∀ {t : Tree} {ts separator : List Token}, TreeTokens t ts →
      Separator separator → ItemsTokens (items ++ [t]) (toks ++ (ts ++ separator))
  | .nil, t, ts, separator, tree, separated => by
    have alone := ItemsTokens.cons tree separated .nil
    rw [List.append_nil] at alone
    exact alone
  | .cons first separated more, t, ts, separator, tree, separated' => by
    have rest := more.concat tree separated'
    have whole := ItemsTokens.cons first separated rest
    simp only [List.append_assoc, List.cons_append] at whole ⊢
    exact whole

theorem MembersTokens.concat {members : List (String × Tree)} {toks : List Token} :
    MembersTokens members toks → ∀ {key : String} {k : Token} {t : Tree} {ts separator : List Token},
      KeyToken key k → TreeTokens t ts → Separator separator →
      MembersTokens (members ++ [(key, t)]) (toks ++ (k :: .colon :: (ts ++ separator)))
  | .nil, key, k, t, ts, separator, named, tree, separated => by
    have alone := MembersTokens.cons named tree separated .nil
    rw [List.append_nil] at alone
    exact alone
  | .cons first value separated more, key, k, t, ts, separator, named, tree, separated' => by
    have rest := more.concat named tree separated'
    have whole := MembersTokens.cons first value separated rest
    simp only [List.append_assoc, List.cons_append] at whole ⊢
    exact whole

/-! The tokens of a part are among those of the whole. -/

theorem ItemsTokens.item {items : List Tree} {toks : List Token} {t : Tree} :
    ItemsTokens items toks → t ∈ items → ∃ ts, TreeTokens t ts ∧ ts ⊆ toks
  | .cons first separated more, there => by
    rcases List.mem_cons.mp there with rfl | there
    · exact ⟨_, first, List.subset_append_left _ _⟩
    · obtain ⟨ts, tree, inside⟩ := more.item there
      refine ⟨ts, tree, ?_⟩
      intro token here
      simp [inside here]

theorem MembersTokens.value {members : List (String × Tree)} {toks : List Token}
    {e : String × Tree} :
    MembersTokens members toks → e ∈ members → ∃ ts, TreeTokens e.2 ts ∧ ts ⊆ toks
  | .cons named first separated more, there => by
    rcases List.mem_cons.mp there with rfl | there
    · refine ⟨_, first, ?_⟩
      intro token here
      simp [here]
    · obtain ⟨ts, tree, inside⟩ := more.value there
      refine ⟨ts, tree, ?_⟩
      intro token here
      simp [inside here]

theorem TreeTokens.item {items : List Tree} {toks : List Token} {t : Tree}
    (phrase : TreeTokens (.array items) toks) (there : t ∈ items) :
    ∃ ts, TreeTokens t ts ∧ ts ⊆ toks := by
  cases phrase with
  | array each =>
    obtain ⟨ts, tree, inside⟩ := each.item there
    refine ⟨ts, tree, ?_⟩
    intro token here
    simp [inside here]

theorem TreeTokens.value {members : List (String × Tree)} {toks : List Token} {e : String × Tree}
    (phrase : TreeTokens (.object members) toks) (there : e ∈ members) :
    ∃ ts, TreeTokens e.2 ts ∧ ts ⊆ toks := by
  cases phrase with
  | object each =>
    obtain ⟨ts, tree, inside⟩ := each.value there
    refine ⟨ts, tree, ?_⟩
    intro token here
    simp [inside here]

/-! ### What has a tree is read -/

namespace State

theorem run_cons (state : State) (p : Placed) (ps : List Placed) :
    state.run (p :: ps) = state.step p >>= fun next => next.run ps := rfl

theorem run_step {state next : State} {p : Placed} (step : state.step p = .ok next)
    (ps : List Placed) : state.run (p :: ps) = next.run ps := by
  rw [run_cons, step]
  rfl

theorem run_append {state next : State} {front : List Placed} (ran : state.run front = .ok next)
    (back : List Placed) : state.run (front ++ back) = next.run back := by
  unfold run at ran ⊢
  rw [List.foldlM_append, ran]
  rfl

theorem run_separator {state next : State} {separator : List Token}
    (separated : Separator separator) {ps : List Placed} (same : ps.map (·.token) = separator)
    (passed : ∀ p : Placed, p.token = .comma → state.step p = .ok next) :
    state.run ps = .ok state ∨ state.run ps = .ok next := by
  cases separated with
  | none =>
    left
    rw [List.map_eq_nil_iff.mp same]
    rfl
  | comma =>
    right
    obtain ⟨p, rfl, here⟩ := List.map_eq_singleton_iff.mp same
    rw [run_step (passed p here)]
    rfl

theorem run_scalar {state : State} {outer : List Outer} (awaits : Awaits state outer)
    {token : Token} {v : Json} {ps : List Placed} (same : ps.map (·.token) = [token])
    (begins : ∀ rest, begin outer ⟨token, rest⟩ = .ok (deliver v outer)) :
    state.run ps = .ok (deliver v outer) := by
  obtain ⟨p, rfl, here⟩ := List.map_eq_singleton_iff.mp same
  have began : begin outer p = .ok (deliver v outer) := by
    have := begins p.rest
    rw [← here] at this
    exact this
  have step : state.step p = .ok (deliver v outer) := by
    rw [awaits p, began]
    · intro closed
      rw [begin, closed] at began
      cases began
    · intro separated
      rw [begin, separated] at began
      cases began
  rw [run_step step]
  rfl

theorem step_key {key : String} {p : Placed} (named : KeyToken key p.token) (opened : List Char)
    (members : List (String × Json)) (comma : Bool) (outer : List Outer) :
    (State.inObject opened members comma outer).step p =
      .ok (.afterKey opened members key outer) := by
  obtain ⟨token, rest⟩ := p
  cases named with
  | string s => rfl
  | word s => rfl
  | number n => rfl

end State

theorem map_bracketed {f : Placed → Token} {ps : List Placed} {opening closing : Token}
    {ts : List Token} (same : ps.map f = opening :: (ts ++ [closing])) :
    ∃ p body q, ps = p :: (body ++ [q]) ∧ f p = opening ∧ body.map f = ts ∧ f q = closing := by
  obtain ⟨p, inner, rfl, opens, inside⟩ := List.map_eq_cons_iff.mp same
  obtain ⟨body, last, rfl, sameBody, closes⟩ := List.map_eq_append_iff.mp inside
  obtain ⟨q, rfl, close⟩ := List.map_eq_singleton_iff.mp closes
  exact ⟨p, body, q, rfl, opens, sameBody, close⟩

namespace State

mutual

theorem run_tree {t : Tree} {toks : List Token} : TreeTokens t toks →
    ∀ {state : State} {outer : List Outer} {ps : List Placed}, Awaits state outer →
      ps.map (·.token) = toks → state.run ps = .ok (deliver t.value outer)
  | .null, state, outer, ps, awaits, same => run_scalar awaits same fun _ => rfl
  | .bool b, state, outer, ps, awaits, same => run_scalar awaits same fun _ => rfl
  | .number n, state, outer, ps, awaits, same => run_scalar awaits same fun _ => rfl
  | .string s, state, outer, ps, awaits, same => run_scalar awaits same fun _ => rfl
  | @TreeTokens.array items _ inside, state, outer, ps, awaits, same => by
    obtain ⟨p, body, q, rfl, opens, sameBody, closes⟩ := map_bracketed same
    have opened : state.step p = .ok (.inArray p.rest [] false outer) := by
      rw [awaits p (by simp [opens]) (by simp [opens]), begin, opens]
    obtain ⟨comma, ran⟩ := run_items inside p.rest [] false outer sameBody
    have closed : (State.inArray p.rest ((items.map Tree.value).reverse ++ []) comma outer).step q =
        .ok (deliver (Tree.array items).value outer) := by
      simp [step, closes, Tree.value, Tree.itemValues_eq_map]
    rw [run_step opened, run_append ran, run_step closed]
    rfl
  | @TreeTokens.object members _ inside, state, outer, ps, awaits, same => by
    obtain ⟨p, body, q, rfl, opens, sameBody, closes⟩ := map_bracketed same
    have opened : state.step p = .ok (.inObject p.rest [] false outer) := by
      rw [awaits p (by simp [opens]) (by simp [opens]), begin, opens]
    obtain ⟨comma, ran⟩ := run_members inside p.rest [] false outer sameBody
    have closed : (State.inObject p.rest
        ((members.map fun e => (e.1, e.2.value)).reverse ++ []) comma outer).step q =
        .ok (deliver (Tree.object members).value outer) := by
      simp [step, closes, Tree.value, Tree.memberValues_eq_map]
    rw [run_step opened, run_append ran, run_step closed]
    rfl

theorem run_items {items : List Tree} {toks : List Token} : ItemsTokens items toks →
    ∀ (opened : List Char) (before : List Json) (comma : Bool) (outer : List Outer)
      {ps : List Placed}, ps.map (·.token) = toks → ∃ comma',
        (State.inArray opened before comma outer).run ps =
          .ok (.inArray opened ((items.map Tree.value).reverse ++ before) comma' outer)
  | .nil, opened, before, comma, outer, ps, same => by
    rw [List.map_eq_nil_iff.mp same]
    exact ⟨comma, rfl⟩
  | @ItemsTokens.cons t items _ _ _ tree separated more, opened, before, comma, outer, ps, same => by
    obtain ⟨front, rest, rfl, sameFront, sameRest⟩ := List.map_eq_append_iff.mp same
    obtain ⟨middle, back, rfl, sameMiddle, sameBack⟩ := List.map_eq_append_iff.mp sameRest
    have first := run_tree tree (awaits_item opened before comma outer) sameFront
    have passed : ∀ p : Placed, p.token = .comma →
        (State.inArray opened (t.value :: before) true outer).step p =
          .ok (.inArray opened (t.value :: before) false outer) := by
      intro p here
      simp [step, here]
    have list : ((t :: items).map Tree.value).reverse ++ before =
        (items.map Tree.value).reverse ++ (t.value :: before) := by simp
    rw [run_append first, list]
    rcases run_separator separated sameMiddle passed with none | some
    · obtain ⟨comma', ran⟩ := run_items more opened (t.value :: before) true outer sameBack
      exact ⟨comma', by rw [deliver, run_append none, ran]⟩
    · obtain ⟨comma', ran⟩ := run_items more opened (t.value :: before) false outer sameBack
      exact ⟨comma', by rw [deliver, run_append some, ran]⟩

theorem run_members {members : List (String × Tree)} {toks : List Token} :
    MembersTokens members toks →
    ∀ (opened : List Char) (before : List (String × Json)) (comma : Bool) (outer : List Outer)
      {ps : List Placed}, ps.map (·.token) = toks → ∃ comma',
        (State.inObject opened before comma outer).run ps = .ok (.inObject opened
          ((members.map fun e => (e.1, e.2.value)).reverse ++ before) comma' outer)
  | .nil, opened, before, comma, outer, ps, same => by
    rw [List.map_eq_nil_iff.mp same]
    exact ⟨comma, rfl⟩
  | @MembersTokens.cons key k t members _ _ _ named tree separated more, opened, before, comma,
      outer, ps, same => by
    obtain ⟨p, behind, rfl, keyHere, sameBehind⟩ := List.map_eq_cons_iff.mp same
    obtain ⟨q, value, rfl, colonHere, sameValue⟩ := List.map_eq_cons_iff.mp sameBehind
    obtain ⟨front, rest, rfl, sameFront, sameRest⟩ := List.map_eq_append_iff.mp sameValue
    obtain ⟨middle, back, rfl, sameMiddle, sameBack⟩ := List.map_eq_append_iff.mp sameRest
    have atKey : (State.inObject opened before comma outer).step p =
        .ok (.afterKey opened before key outer) := by
      subst keyHere
      exact step_key named opened before comma outer
    have atColon : (State.afterKey opened before key outer).step q =
        .ok (.afterColon opened before key outer) := by
      simp [step, colonHere]
    have first := run_tree tree (awaits_member opened before key outer) sameFront
    have passed : ∀ p : Placed, p.token = .comma →
        (State.inObject opened ((key, t.value) :: before) true outer).step p =
          .ok (.inObject opened ((key, t.value) :: before) false outer) := by
      intro p here
      simp [step, here]
    have list : (((key, t) :: members).map fun e => (e.1, e.2.value)).reverse ++ before =
        (members.map fun e => (e.1, e.2.value)).reverse ++ ((key, t.value) :: before) := by simp
    rw [run_step atKey, run_step atColon, run_append first, list]
    rcases run_separator separated sameMiddle passed with none | some
    · obtain ⟨comma', ran⟩ := run_members more opened ((key, t.value) :: before) true outer sameBack
      exact ⟨comma', by rw [deliver, run_append none, ran]⟩
    · obtain ⟨comma', ran⟩ := run_members more opened ((key, t.value) :: before) false outer sameBack
      exact ⟨comma', by rw [deliver, run_append some, ran]⟩

end

/-! ### What is read has a tree -/

/-- The tokens have opened what stands open, and no more. -/
inductive Opened : List Outer → List Token → Prop where
  | nil : Opened [] []
  | array {outer : List Outer} {before toks : List Token} {items : List Tree} (opened : List Char) :
      Opened outer before → ItemsTokens items toks →
      Opened (.array opened (items.map Tree.value).reverse :: outer) (before ++ .openBracket :: toks)
  | member {outer : List Outer} {before toks : List Token} {members : List (String × Tree)}
      {key : String} {k : Token} (opened : List Char) : Opened outer before →
      MembersTokens members toks → KeyToken key k →
      Opened (.member opened (members.map fun e => (e.1, e.2.value)).reverse key :: outer)
        (before ++ .openBrace :: (toks ++ [k, .colon]))

/-- The state is that behind the tokens, the beginning of a phrase. -/
inductive Behind : State → List Token → Prop where
  | start : Behind .start []
  | done {t : Tree} {toks : List Token} : TreeTokens t toks → Behind (.done t.value) toks
  | inArray {outer : List Outer} {before toks : List Token} {items : List Tree} (opened : List Char)
      {comma : Bool} : Opened outer before → ItemsTokens items toks →
      (comma = true → ItemsTokens items (toks ++ [.comma])) →
      Behind (.inArray opened (items.map Tree.value).reverse comma outer)
        (before ++ .openBracket :: toks)
  | inObject {outer : List Outer} {before toks : List Token} {members : List (String × Tree)}
      (opened : List Char) {comma : Bool} : Opened outer before → MembersTokens members toks →
      (comma = true → MembersTokens members (toks ++ [.comma])) →
      Behind (.inObject opened (members.map fun e => (e.1, e.2.value)).reverse comma outer)
        (before ++ .openBrace :: toks)
  | afterKey {outer : List Outer} {before toks : List Token} {members : List (String × Tree)}
      {key : String} {k : Token} (opened : List Char) : Opened outer before →
      MembersTokens members toks → KeyToken key k →
      Behind (.afterKey opened (members.map fun e => (e.1, e.2.value)).reverse key outer)
        (before ++ .openBrace :: (toks ++ [k]))
  | afterColon {opened : List Char} {members : List (String × Json)} {key : String}
      {outer : List Outer} {toks : List Token} : Opened (.member opened members key :: outer) toks →
      Behind (.afterColon opened members key outer) toks

section
variable {outer : List Outer} {before : List Token} {next : State} {p : Placed}

theorem behind_deliver (opens : Opened outer before) {t : Tree} {toks : List Token}
    (tree : TreeTokens t toks) : Behind (deliver t.value outer) (before ++ toks) := by
  -- with the value goes the right to a comma, so both phrases are wanted of what is open
  cases opens with
  | nil => exact .done tree
  | @array outer before inside items opened rest each =>
    have longer := each.concat tree .none
    have separated := each.concat tree .comma
    rw [List.append_nil] at longer
    rw [← List.append_assoc] at separated
    have behind := @Behind.inArray _ _ _ _ opened true rest longer fun _ => separated
    simpa [deliver] using behind
  | @member outer before inside members key k opened rest each named =>
    have longer := each.concat named tree .none
    have separated := each.concat named tree .comma
    rw [List.append_nil] at longer
    have behind := @Behind.inObject _ _ _ _ opened true rest longer fun _ => by simpa using separated
    simpa [deliver] using behind

theorem behind_begin (opens : Opened outer before) (began : begin outer p = .ok next) :
    Behind next (before ++ [p.token]) := by
  obtain ⟨token, rest⟩ := p
  cases token with
  | openBrace =>
    cases began
    exact .inObject rest opens .nil nofun
  | openBracket =>
    cases began
    exact .inArray rest opens .nil nofun
  | null =>
    cases began
    exact behind_deliver opens .null
  | bool b =>
    cases began
    exact behind_deliver opens (.bool b)
  | number n =>
    cases began
    exact behind_deliver opens (.number n)
  | string s =>
    cases began
    exact behind_deliver opens (.string s)
  | closeBrace => cases began
  | closeBracket => cases began
  | comma => cases began
  | colon => cases began
  | word s => cases began

theorem step_inArray {opened : List Char} {items : List Json} {comma : Bool}
    (stepped : (State.inArray opened items comma outer).step p = .ok next) :
    (p.token = .closeBracket ∧ next = deliver (.array items.reverse) outer) ∨
      (p.token = .comma ∧ comma = true ∧ next = .inArray opened items false outer) ∨
      begin (.array opened items :: outer) p = .ok next := by
  simp only [step] at stepped
  split at stepped
  · next closed => exact .inl ⟨closed, (Except.ok.inj stepped).symm⟩
  · next separated => exact .inr (.inl ⟨separated, rfl, (Except.ok.inj stepped).symm⟩)
  · exact .inr (.inr stepped)

theorem step_inObject {opened : List Char} {members : List (String × Json)} {comma : Bool}
    (stepped : (State.inObject opened members comma outer).step p = .ok next) :
    (p.token = .closeBrace ∧ next = deliver (.object members.reverse) outer) ∨
      (p.token = .comma ∧ comma = true ∧ next = .inObject opened members false outer) ∨
      ∃ key, KeyToken key p.token ∧ next = .afterKey opened members key outer := by
  simp only [step] at stepped
  split at stepped
  · next closed => exact .inl ⟨closed, (Except.ok.inj stepped).symm⟩
  · next separated => exact .inr (.inl ⟨separated, rfl, (Except.ok.inj stepped).symm⟩)
  · next key named =>
    refine .inr (.inr ⟨key, ?_, (Except.ok.inj stepped).symm⟩)
    rw [named]
    exact .string key
  · next key named =>
    refine .inr (.inr ⟨key, ?_, (Except.ok.inj stepped).symm⟩)
    rw [named]
    exact .word key
  · next n named =>
    refine .inr (.inr ⟨n.source, ?_, (Except.ok.inj stepped).symm⟩)
    rw [named]
    exact .number n
  · cases stepped

theorem behind_step {state : State} {toks : List Token} (behind : Behind state toks)
    (stepped : state.step p = .ok next) : Behind next (toks ++ [p.token]) := by
  cases behind with
  | start => exact behind_begin .nil stepped
  | done tree => cases stepped
  | @inArray outer before toks items opened comma opens each may =>
    rcases step_inArray stepped with ⟨closed, rfl⟩ | ⟨separated, rfl, rfl⟩ | began
    · have phrase := behind_deliver opens (.array each)
      simp only [Tree.value, Tree.itemValues_eq_map] at phrase
      simpa [closed] using phrase
    · -- the comma is spent: none may follow before the next item
      have behind := @Behind.inArray _ _ _ _ opened false opens (may rfl) nofun
      simpa [separated] using behind
    · exact behind_begin (.array opened opens each) began
  | @inObject outer before toks members opened comma opens each may =>
    rcases step_inObject stepped with ⟨closed, rfl⟩ | ⟨separated, rfl, rfl⟩ | ⟨key, named, rfl⟩
    · have phrase := behind_deliver opens (.object each)
      simp only [Tree.value, Tree.memberValues_eq_map] at phrase
      simpa [closed] using phrase
    · have behind := @Behind.inObject _ _ _ _ opened false opens (may rfl) nofun
      simpa [separated] using behind
    · have behind := Behind.afterKey opened opens each named
      simpa using behind
  | @afterKey outer before toks members key k opened opens each named =>
    simp only [step] at stepped
    split at stepped
    · next colon =>
      cases stepped
      have behind := Behind.afterColon (.member opened opens each named)
      simpa [colon] using behind
    · cases stepped
  | afterColon opens => exact behind_begin opens stepped

theorem behind_run {state last : State} {toks : List Token} {ps : List Placed}
    (behind : Behind state toks) (ran : state.run ps = .ok last) :
    Behind last (toks ++ ps.map (·.token)) := by
  induction ps generalizing state toks with
  | nil =>
    cases ran
    simpa using behind
  | cons p ps ih =>
    rw [run_cons] at ran
    obtain ⟨next, stepped, more⟩ := bind_eq_ok ran
    have whole := ih (behind_step behind stepped) more
    simpa using whole

end

end State

/-- The texts that are read are those that have a tree, and each is read for what its tree stands
for. -/
theorem read_eq_ok_iff {text : String} {v : Json} :
    read text = .ok v ↔ ∃ t, Written t text ∧ t.value = v := by
  unfold read
  cases told : tokens text.toList with
  | mk ps stop =>
    constructor
    · intro h
      obtain ⟨last, ran, ended⟩ := bind_eq_ok h
      cases stop with
      | some failure => cases ended
      | none =>
        have behind := State.behind_run .start ran
        cases last with
        | done v' =>
          cases ended
          cases behind with
          | done tree => exact ⟨_, ⟨by rw [told], by rw [told]; exact tree⟩, rfl⟩
        | _ => cases ended
    · intro h
      obtain ⟨t, ⟨complete, phrase⟩, rfl⟩ := h
      rw [told] at complete phrase
      obtain rfl : stop = none := complete
      have ran := State.run_tree phrase awaits_start rfl
      simp only [ran]
      rfl

end PolyglotPages.Json.Relaxed
