import Mathlib.Data.List.TakeDrop
import Mathlib.Data.List.TakeWhile
import PolyglotPages.Json.Strict.Tree
import PolyglotPages.Proofs.Chain
import PolyglotPages.Proofs.Json.Grammar

/-! White space, strings and numbers of a strict JSON text: what is read is a phrase of the
grammar. -/
namespace PolyglotPages.Json.Strict
open Grammar

theorem skipSpace_split (cs : List Char) : ∃ gap, Spaces gap ∧ cs = gap ++ skipSpace cs := by
  induction cs with
  | nil => exact ⟨[], spaces_nil, rfl⟩
  | cons c cs ih =>
    obtain ⟨gap, blank, split⟩ := ih
    by_cases space : isSpace c = true
    · refine ⟨c :: gap, ?_, ?_⟩
      · intro d there
        cases there with
        | head => exact space
        | tail _ there => exact blank d there
      · rw [skipSpace, List.dropWhile_cons_of_pos space, ← skipSpace, List.cons_append, ← split]
    · refine ⟨[], spaces_nil, ?_⟩
      rw [skipSpace, List.dropWhile_cons_of_neg space, List.nil_append]

/-! ### Strings -/

theorem readCode_ok {cs rest : List Char} {n : Nat} (h : readCode cs = .ok (n, rest)) :
    ∃ a b c d, cs = a :: b :: c :: d :: rest ∧ Text.hexFour? a b c d = some n := by
  unfold readCode at h
  split at h
  · next a b c d more =>
    cases code : Text.hexFour? a b c d with
    | none => simp [code] at h
    | some m =>
      simp only [code, Except.ok.injEq, Prod.mk.injEq] at h
      obtain ⟨rfl, rfl⟩ := h
      exact ⟨a, b, c, d, rfl, code⟩
  · cases h

inductive UnitText : StringUnit → List Char → Prop where
  | plain {c : Char} : c ≠ '\\' → ¬ c < ' ' → UnitText (.char c) [c]
  | escape {letter c : Char} : escaped? letter = some c → UnitText (.char c) ['\\', letter]
  | code {a b c d : Char} {n : Nat} : Text.hexFour? a b c d = some n →
      UnitText (.code n) ['\\', 'u', a, b, c, d]

theorem readUnit_ok {cs rest : List Char} {u : StringUnit} (h : readUnit cs = .ok (u, rest)) :
    ∃ text, UnitText u text ∧ cs = text ++ rest := by
  fun_cases readUnit cs with
  | case1 => cases h
  | case2 => cases h
  | case3 more =>
    obtain ⟨⟨n, after⟩, code, same⟩ := map_eq_ok_iff.mp h
    obtain ⟨rfl, rfl⟩ := Prod.mk.inj same
    obtain ⟨a, b, c, d, rfl, hex⟩ := readCode_ok code
    exact ⟨['\\', 'u', a, b, c, d], .code hex, rfl⟩
  | case4 letter more notCode c found =>
    simp only [readUnit, found, Except.ok.injEq, Prod.mk.injEq] at h
    obtain ⟨rfl, rfl⟩ := h
    exact ⟨['\\', letter], .escape found, rfl⟩
  | case5 letter more notCode unknown =>
    simp [readUnit, unknown] at h
  | case6 c more _ _ _ control =>
    simp [readUnit, control] at h
  | case7 c more notAtEnd _ noEscape printable =>
    have plain : c ≠ '\\' := by
      intro slash
      cases more with
      | nil => exact notAtEnd slash rfl
      | cons letter more => exact noEscape letter more slash rfl
    simp only [readUnit, printable, if_false, Except.ok.injEq, Prod.mk.injEq] at h
    obtain ⟨rfl, rfl⟩ := h
    exact ⟨[c], .plain plain printable, rfl⟩

theorem readUnit_text {u : StringUnit} {text : List Char} (h : UnitText u text)
    (rest : List Char) : readUnit (text ++ rest) = .ok (u, rest) := by
  cases h with
  | plain noSlash printable =>
    unfold readUnit
    simp [noSlash, printable]
  | @escape letter c found =>
    have notCode : letter ≠ 'u' := by
      rintro rfl
      cases found
    simp [readUnit, found]
  | code hex => simp [readUnit, readCode, hex, Except.map]

theorem readSecondHalf_ok {first : Nat} {cs rest : List Char} {c : Char}
    (h : readSecondHalf first cs = .ok (c, rest)) :
    ∃ second text, UnitText (.code second) text ∧ cs = text ++ rest ∧
      Text.isSecondHalf second = true ∧ c = Text.joinHalves first second := by
  unfold readSecondHalf at h
  split at h
  · cases h
  · cases h
  · obtain ⟨⟨second, after⟩, code, joined⟩ := bind_eq_ok h
    obtain ⟨a, b, c, d, rfl, hex⟩ := readCode_ok code
    simp only at joined
    split at joined
    · next half =>
      obtain ⟨rfl, rfl⟩ := Prod.mk.inj (Except.ok.inj joined)
      exact ⟨second, ['\\', 'u', a, b, c, d], .code hex, rfl, half, rfl⟩
    · cases joined
  · cases h

/-- A character of a string is one unit of it, or two that stand for its halves. -/
theorem readChar_ok {cs rest : List Char} {c : Char} (unclosed : ∀ more, cs ≠ '"' :: more)
    (h : readChar cs = .ok (c, rest)) : ∃ text, CharText c text ∧ cs = text ++ rest := by
  obtain ⟨⟨u, after⟩, read, chosen⟩ := bind_eq_ok h
  obtain ⟨text, unit, rfl⟩ := readUnit_ok read
  cases unit with
  | @plain c noSlash printable =>
    obtain ⟨rfl, rfl⟩ := Prod.mk.inj (Except.ok.inj chosen)
    have noQuote : c ≠ '"' := by
      rintro rfl
      exact unclosed _ rfl
    exact ⟨_, .plain noQuote noSlash printable, rfl⟩
  | escape found =>
    obtain ⟨rfl, rfl⟩ := Prod.mk.inj (Except.ok.inj chosen)
    exact ⟨_, .escape found, rfl⟩
  | code hex =>
    simp only at chosen
    split at chosen
    · cases chosen
    · next notSecond =>
      split at chosen
      · next isFirst =>
        obtain ⟨second, text, unit', rfl, isSecond, joined⟩ := readSecondHalf_ok chosen
        rw [joined]
        cases unit' with
        | code hex' => exact ⟨_, .halves hex isFirst hex' isSecond, rfl⟩
      · next notFirst =>
        obtain ⟨rfl, rfl⟩ := Prod.mk.inj (Except.ok.inj chosen)
        have char := CharText.code hex (Bool.eq_false_iff.mpr notFirst)
          (Bool.eq_false_iff.mpr notSecond)
        exact ⟨_, char, rfl⟩

theorem readCharsTo_ok {fuel : Nat} {cs s : List Char} (h : readCharsTo fuel cs = .ok s) :
    ∃ body rest, StringText s body ∧ cs = body ++ '"' :: rest := by
  fun_induction readCharsTo fuel cs generalizing s with
  | case1 => cases h
  | case2 fuel rest =>
    obtain rfl := Except.ok.inj h
    exact ⟨[], rest, .nil, rfl⟩
  | case3 fuel cs unclosed ih =>
    obtain ⟨⟨c, after⟩, read, further⟩ := bind_eq_ok h
    obtain ⟨more, readMore, done⟩ := bind_eq_ok further
    obtain rfl := Except.ok.inj done
    obtain ⟨text, char, rfl⟩ := readChar_ok unclosed read
    obtain ⟨body, rest, string, rfl⟩ := ih _ readMore
    exact ⟨text ++ body, rest, .cons char string, by simp⟩

theorem passUnitsTo_unit {u : StringUnit} {text : List Char} (unit : UnitText u text)
    (unclosed : text ≠ ['"']) (fuel : Nat) (rest : List Char) :
    passUnitsTo (fuel + 1) (text ++ rest) = passUnitsTo fuel rest := by
  have read := readUnit_text unit rest
  rw [passUnitsTo, read]
  · rfl
  · intro more same
    cases unit with
    | plain noSlash printable =>
      cases same
      exact unclosed rfl
    | escape found => cases same
    | code hex => cases same

theorem passUnitsTo_char {c : Char} {text : List Char} (char : CharText c text) {fuel : Nat}
    (enough : text.length ≤ fuel) (rest : List Char) :
    ∃ left, passUnitsTo fuel (text ++ rest) = passUnitsTo left rest ∧
      fuel ≤ left + text.length := by
  cases char with
  | plain noQuote noSlash printable =>
    obtain ⟨fuel, rfl⟩ := Nat.exists_eq_add_of_le' enough
    exact ⟨fuel, passUnitsTo_unit (.plain noSlash printable) (by simpa using noQuote) _ _,
      Nat.le_refl _⟩
  | escape found =>
    obtain ⟨fuel, rfl⟩ := Nat.exists_eq_add_of_le' enough
    exact ⟨fuel + 1, passUnitsTo_unit (.escape found) (by simp) _ _, by simp⟩
  | code hex =>
    obtain ⟨fuel, rfl⟩ := Nat.exists_eq_add_of_le' enough
    exact ⟨fuel + 5, passUnitsTo_unit (.code hex) (by simp) _ _, by simp⟩
  | halves hex isFirst hex' isSecond =>
    obtain ⟨fuel, rfl⟩ := Nat.exists_eq_add_of_le' enough
    have first := passUnitsTo_unit (.code hex) (by simp) (fuel + 11)
    have second := passUnitsTo_unit (.code hex') (by simp) (fuel + 10) rest
    exact ⟨fuel + 10, (first _).trans second, by simp⟩

theorem passUnitsTo_string {s body : List Char} (string : StringText s body) (rest : List Char) :
    ∀ fuel, body.length < fuel → passUnitsTo fuel (body ++ '"' :: rest) = .ok rest := by
  induction string with
  | nil =>
    intro fuel enough
    obtain ⟨fuel, rfl⟩ := Nat.exists_eq_succ_of_ne_zero (Nat.ne_of_gt enough)
    rfl
  | @cons c unit s body char string ih =>
    intro fuel enough
    rw [List.length_append] at enough
    have within : unit.length ≤ fuel := by omega
    obtain ⟨left, passed, kept⟩ := passUnitsTo_char char within (body ++ '"' :: rest)
    rw [List.append_assoc, passed]
    exact ih left (by omega)

theorem readText_ok {cs rest : List Char} {s : String}
    (h : Tree.readText cs = .ok (.ok s, rest)) :
    ∃ body, StringText s.toList body ∧ cs = body ++ '"' :: rest := by
  unfold Tree.readText at h
  split at h
  · next passed =>
    obtain ⟨read, rfl⟩ := Prod.mk.inj (Except.ok.inj h)
    obtain ⟨chars, readChars, rfl⟩ := map_eq_ok_iff.mp read
    obtain ⟨body, rest', string, rfl⟩ := readCharsTo_ok readChars
    have within : body.length < (body ++ '"' :: rest').length + 1 := by
      simp only [List.length_append]
      omega
    obtain rfl := Except.ok.inj ((passUnitsTo_string string rest' _ within).symm.trans passed)
    refine ⟨body, ?_, rfl⟩
    rw [String.toList_ofList]
    exact string
  · cases h
  · cases h

/-! ### Numbers -/

theorem span_split (p : Char → Bool) (cs : List Char) : ∃ ds rest, cs.span p = (ds, rest) ∧
    cs = ds ++ rest ∧ ∀ c ∈ ds, p c = true := by
  refine ⟨cs.takeWhile p, cs.dropWhile p, List.span_eq_takeWhile_dropWhile _ _,
    List.takeWhile_append_dropWhile.symm, ?_⟩
  intro c there
  exact List.mem_takeWhile_imp there

theorem readDigits_ok {cs ds rest : List Char} (h : readDigits cs = .ok (ds, rest)) :
    Digits ds ∧ cs = ds ++ rest := by
  obtain ⟨found, after, spanned, split, each⟩ := span_split Char.isDigit cs
  rw [readDigits, spanned] at h
  cases found with
  | nil => cases h
  | cons d found =>
    obtain ⟨rfl, rfl⟩ := Prod.mk.inj (Except.ok.inj h)
    exact ⟨⟨List.cons_ne_nil _ _, each⟩, split⟩

theorem readWhole_ok {cs whole rest : List Char} (h : readWhole cs = .ok (whole, rest)) :
    WholeText whole ∧ cs = whole ++ rest := by
  fun_cases readWhole cs with
  | case1 => cases h
  | case2 c more digit => simp [readWhole, digit] at h
  | case3 c more noDigit =>
    simp only [readWhole, noDigit] at h
    obtain ⟨rfl, rfl⟩ := Prod.mk.inj (Except.ok.inj h)
    exact ⟨.zero, rfl⟩
  | case4 c more notZero digit =>
    obtain ⟨ds, after, spanned, split, each⟩ := span_split Char.isDigit more
    have first : (c :: more).span Char.isDigit = (c :: ds, after) := by
      rw [List.span_eq_takeWhile_dropWhile] at spanned ⊢
      obtain ⟨taken, left⟩ := Prod.mk.inj spanned
      rw [List.takeWhile_cons_of_pos digit, List.dropWhile_cons_of_pos digit, taken, left]
    simp only [readWhole, digit, if_true, first] at h
    obtain ⟨rfl, rfl⟩ := Prod.mk.inj (Except.ok.inj h)
    refine ⟨?_, by rw [split]; rfl⟩
    by_cases zero : c = '0'
    · cases more with
      | nil =>
        obtain ⟨rfl, rfl⟩ := List.append_eq_nil_iff.mp split.symm
        rw [zero]
        exact .zero
      | cons d more => exact absurd rfl (notZero d more zero)
    · refine .other zero ⟨List.cons_ne_nil _ _, ?_⟩
      intro d there
      cases there with
      | head => exact digit
      | tail _ there => exact each d there
  | case5 c more notZero noDigit => simp [readWhole, noDigit] at h

theorem readFraction_ok {cs rest : List Char} {fraction : Option (List Char)}
    (h : readFraction cs = .ok (fraction, rest)) :
    ∃ text, FractionText fraction text ∧ cs = text ++ rest := by
  unfold readFraction at h
  split at h
  · obtain ⟨⟨ds, after⟩, read, same⟩ := map_eq_ok_iff.mp h
    obtain ⟨rfl, rfl⟩ := Prod.mk.inj same
    obtain ⟨digits, rfl⟩ := readDigits_ok read
    exact ⟨'.' :: ds, .some digits, rfl⟩
  · obtain ⟨rfl, rfl⟩ := Prod.mk.inj (Except.ok.inj h)
    exact ⟨[], .none, rfl⟩

theorem readSign_text (cs : List Char) :
    ∃ text, SignText (readSign cs).1 text ∧ cs = text ++ (readSign cs).2 := by
  unfold readSign
  split
  · exact ⟨['-'], .minus, rfl⟩
  · exact ⟨['+'], .plus, rfl⟩
  · exact ⟨[], .none, rfl⟩

theorem readExponent_ok {cs rest : List Char} {exponent : Option (Bool × List Char)}
    (h : readExponent cs = .ok (exponent, rest)) :
    ∃ text, ExponentText exponent text ∧ cs = text ++ rest := by
  cases cs with
  | nil =>
    obtain ⟨rfl, rfl⟩ := Prod.mk.inj (Except.ok.inj h)
    exact ⟨[], .none, rfl⟩
  | cons c cs =>
    simp only [readExponent] at h
    split at h
    · next letter =>
      obtain ⟨⟨ds, after⟩, read, same⟩ := map_eq_ok_iff.mp h
      obtain ⟨rfl, rfl⟩ := Prod.mk.inj same
      obtain ⟨sign, signed, split⟩ := readSign_text cs
      obtain ⟨digits, left⟩ := readDigits_ok read
      refine ⟨c :: (sign ++ ds), .some letter signed digits, ?_⟩
      rw [split, left, List.cons_append, List.append_assoc]
    · obtain ⟨rfl, rfl⟩ := Prod.mk.inj (Except.ok.inj h)
      exact ⟨[], .none, rfl⟩

theorem readNumber_ok {cs rest : List Char} {l : Number.Literal}
    (h : readNumber cs = .ok (l, rest)) : ∃ body, NumberText l body ∧ cs = body ++ rest := by
  unfold readNumber at h
  split at h
  next negative unsigned start =>
  have signed : ∃ sign, MinusText negative sign ∧ cs = sign ++ unsigned := by
    split at start
    · obtain ⟨rfl, rfl⟩ := Prod.mk.inj start
      exact ⟨['-'], .minus, rfl⟩
    · obtain ⟨rfl, rfl⟩ := Prod.mk.inj start
      exact ⟨[], .none, rfl⟩
  obtain ⟨sign, isSign, rfl⟩ := signed
  obtain ⟨⟨whole, afterWhole⟩, readWhole, h⟩ := bind_eq_ok h
  obtain ⟨⟨fraction, afterFraction⟩, readFraction, h⟩ := bind_eq_ok h
  obtain ⟨⟨exponent, afterExponent⟩, readExponent, h⟩ := bind_eq_ok h
  obtain ⟨rfl, rfl⟩ := Prod.mk.inj (Except.ok.inj h)
  obtain ⟨wholeText, rfl⟩ := readWhole_ok readWhole
  obtain ⟨fractionText, isFraction, rfl⟩ := readFraction_ok readFraction
  obtain ⟨exponentText, isExponent, rfl⟩ := readExponent_ok readExponent
  exact ⟨_, .mk isSign wholeText isFraction isExponent, by simp⟩

/-! ### Words -/

theorem readWord_ok {letters cs rest : List Char} (h : readWord letters cs = .ok rest) :
    cs = letters ++ rest := by
  induction letters generalizing cs with
  | nil => exact Except.ok.inj h
  | cons w letters ih =>
    cases cs with
    | nil => cases h
    | cons c cs =>
      simp only [readWord] at h
      split at h
      · next same => rw [same, ih h, List.cons_append]
      · cases h

end PolyglotPages.Json.Strict
