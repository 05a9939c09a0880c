import PolyglotPages.Proofs.Json.Relaxed.Tree

/-! The numbers of a relaxed JSON text, by how they are written. Every number token has a spelling
of the grammar, decimal or hexadecimal, and its value is the one of the digits in it. -/
namespace PolyglotPages.Json.Relaxed
open Grammar

/-- How a number is written: with a sign or none, in decimal or, behind `0x`, in hexadecimal. -/
inductive Spelled : Numeral → Prop where
  | decimal {l : Number.Literal} {sign fraction exponent : List Char} : SignText l.negative sign →
      WholeText l.whole → FractionText l.fraction fraction → ExponentText l.exponent exponent →
      Spelled ⟨String.ofList (sign ++ (l.whole ++ (fraction ++ exponent))), l.value?⟩
  | hexadecimal {negative : Bool} {x : Char} {sign digits : List Char} : SignText negative sign →
      x = 'x' ∨ x = 'X' → digits ≠ [] → (∀ c ∈ digits, (Text.hexDigit? c).isSome = true) →
      Spelled ⟨String.ofList (sign ++ '0' :: x :: digits), hexValue? negative digits⟩

theorem readDigits_ok {fault : Fault} {cs ds rest : List Char}
    (h : readDigits fault cs = .ok (ds, rest)) : Digits ds ∧ cs = ds ++ rest := by
  obtain ⟨found, after, spanned, split, each⟩ := Strict.span_split Char.isDigit cs
  rw [readDigits, spanned] at h
  cases found with
  | nil => cases h
  | cons d found =>
    obtain ⟨rfl, rfl⟩ := Prod.mk.inj (Except.ok.inj h)
    exact ⟨⟨List.cons_ne_nil _ _, each⟩, split⟩

theorem readWhole_ok {cs whole rest : List Char} (h : readWhole cs = .ok (whole, rest)) :
    WholeText whole ∧ cs = whole ++ rest := by
  unfold readWhole at h
  split at h
  · obtain ⟨rfl, rfl⟩ := Prod.mk.inj (Except.ok.inj h)
    exact ⟨.zero, rfl⟩
  · next notZero =>
    obtain ⟨digits, rfl⟩ := readDigits_ok h
    obtain ⟨d, ds, rfl⟩ := List.exists_cons_of_ne_nil digits.some
    have other : d ≠ '0' := by
      intro zero
      exact notZero (ds ++ rest) (by rw [zero]; rfl)
    exact ⟨.other other digits, rfl⟩

theorem readFraction_ok {cs rest : List Char} {fraction : Option (List Char)}
    (h : readFraction cs = .ok (fraction, rest)) :
    ∃ text, FractionText fraction text ∧ cs = text ++ rest := by
  unfold readFraction at h
  split at h
  · obtain ⟨⟨ds, after⟩, read, same⟩ := map_eq_ok_iff.mp h
    obtain ⟨rfl, rfl⟩ := Prod.mk.inj same
    obtain ⟨digits, rfl⟩ := readDigits_ok read
    exact ⟨'.' :: ds, .some digits, rfl⟩
  · obtain ⟨rfl, rfl⟩ := Prod.mk.inj (Except.ok.inj h)
    exact ⟨[], .none, rfl⟩

theorem readSign_some {cs rest : List Char} {negative : Bool}
    (h : readSign cs = some (negative, rest)) :
    ∃ sign, SignText negative sign ∧ cs = sign ++ rest := by
  unfold readSign at h
  split at h
  · obtain ⟨rfl, rfl⟩ := Prod.mk.inj (Option.some.inj h)
    exact ⟨['-'], .minus, rfl⟩
  · obtain ⟨rfl, rfl⟩ := Prod.mk.inj (Option.some.inj h)
    exact ⟨['+'], .plus, rfl⟩
  · cases h

theorem readExponent_ok {cs rest : List Char} {exponent : Option (Bool × List Char)}
    (h : readExponent cs = .ok (exponent, rest)) :
    ∃ text, ExponentText exponent text ∧ cs = text ++ rest := by
  cases cs with
  | nil =>
    obtain ⟨rfl, rfl⟩ := Prod.mk.inj (Except.ok.inj h)
    exact ⟨[], .none, rfl⟩
  | cons c cs =>
    simp only [readExponent] at h
    split at h
    · next letter =>
      cases signed : readSign cs with
      | some found =>
        obtain ⟨negative, unsigned⟩ := found
        rw [signed] at h
        obtain ⟨⟨ds, after⟩, read, same⟩ := map_eq_ok_iff.mp h
        obtain ⟨rfl, rfl⟩ := Prod.mk.inj same
        obtain ⟨sign, isSign, rfl⟩ := readSign_some signed
        obtain ⟨digits, rfl⟩ := readDigits_ok read
        exact ⟨c :: (sign ++ ds), .some letter isSign digits, by simp⟩
      | none =>
        rw [signed] at h
        obtain ⟨⟨ds, after⟩, read, same⟩ := map_eq_ok_iff.mp h
        obtain ⟨rfl, rfl⟩ := Prod.mk.inj same
        obtain ⟨digits, rfl⟩ := readDigits_ok read
        exact ⟨c :: ds, .some letter .none digits, rfl⟩
    · obtain ⟨rfl, rfl⟩ := Prod.mk.inj (Except.ok.inj h)
      exact ⟨[], .none, rfl⟩

theorem readDecimal_ok {negative : Bool} {cs rest : List Char} {value? : Option Number}
    (h : readDecimal negative cs = .ok (value?, rest)) :
    ∃ (l : Number.Literal) (fraction exponent : List Char), l.negative = negative ∧
      WholeText l.whole ∧ FractionText l.fraction fraction ∧ ExponentText l.exponent exponent ∧
      value? = l.value? ∧ cs = l.whole ++ (fraction ++ exponent) ++ rest := by
  obtain ⟨⟨whole, afterWhole⟩, atWhole, h⟩ := bind_eq_ok h
  obtain ⟨⟨fraction, afterFraction⟩, atFraction, h⟩ := bind_eq_ok h
  obtain ⟨⟨exponent, afterExponent⟩, atExponent, h⟩ := bind_eq_ok h
  obtain ⟨rfl, rfl⟩ := Prod.mk.inj (Except.ok.inj h)
  obtain ⟨isWhole, rfl⟩ := readWhole_ok atWhole
  obtain ⟨fractionText, isFraction, rfl⟩ := readFraction_ok atFraction
  obtain ⟨exponentText, isExponent, rfl⟩ := readExponent_ok atExponent
  exact ⟨⟨negative, whole, fraction, exponent⟩, fractionText, exponentText, rfl, isWhole, isFraction,
    isExponent, rfl, by simp⟩

theorem readHex_ok {negative : Bool} {cs rest : List Char} {value? : Option Number}
    (h : readHex negative cs = .ok (value?, rest)) :
    ∃ digits, digits ≠ [] ∧ (∀ c ∈ digits, (Text.hexDigit? c).isSome = true) ∧
      value? = hexValue? negative digits ∧ cs = digits ++ rest := by
  obtain ⟨found, after, spanned, split, each⟩ :=
    Strict.span_split (fun c => (Text.hexDigit? c).isSome) cs
  rw [readHex, spanned] at h
  cases found with
  | nil => cases h
  | cons d found =>
    obtain ⟨rfl, rfl⟩ := Prod.mk.inj (Except.ok.inj h)
    exact ⟨d :: found, List.cons_ne_nil _ _, each, rfl, split⟩

theorem readNumber_ok {cs rest : List Char} {value? : Option Number}
    (h : readNumber cs = .ok (value?, rest)) :
    ∃ source, Spelled ⟨String.ofList source, value?⟩ ∧ cs = source ++ rest := by
  obtain ⟨negative, unsigned, start⟩ : ∃ negative unsigned,
      (readSign cs).getD (false, cs) = (negative, unsigned) := ⟨_, _, rfl⟩
  have signed : ∃ sign, SignText negative sign ∧ cs = sign ++ unsigned := by
    cases found : readSign cs with
    | some signed =>
      rw [found] at start
      exact readSign_some (found.trans (congrArg some start))
    | none =>
      rw [found] at start
      obtain ⟨rfl, rfl⟩ := Prod.mk.inj start
      exact ⟨[], .none, rfl⟩
  obtain ⟨sign, isSign, rfl⟩ := signed
  simp only [readNumber, start] at h
  split at h
  · obtain ⟨digits, some, each, rfl, rfl⟩ := readHex_ok h
    exact ⟨_, .hexadecimal isSign (.inl rfl) some each, by simp⟩
  · obtain ⟨digits, some, each, rfl, rfl⟩ := readHex_ok h
    exact ⟨_, .hexadecimal isSign (.inr rfl) some each, by simp⟩
  · obtain ⟨l, fraction, exponent, rfl, isWhole, isFraction, isExponent, rfl, rfl⟩ :=
      readDecimal_ok h
    exact ⟨_, .decimal isSign isWhole isFraction isExponent, by simp⟩

theorem readNumeral_spelled {cs rest : List Char} {n : Numeral}
    (h : readNumeral cs = .ok (n, rest)) : Spelled n := by
  obtain ⟨⟨value?, after⟩, read, made⟩ := bind_eq_ok h
  obtain ⟨rfl, rfl⟩ := Prod.mk.inj (Except.ok.inj made)
  obtain ⟨source, spelled, rfl⟩ := readNumber_ok read
  simpa using spelled

theorem readWords_ne_number {cs rest : List Char} {n : Numeral} :
    readWords cs ≠ .ok (.number n, rest) := by
  intro h
  unfold readWords at h
  split at h
  · cases h
  · split at h
    · cases h
    · split at h
      · cases h
      · obtain ⟨word, read, same⟩ := map_eq_ok_iff.mp h
        cases same

theorem readToken_spelled {c : Char} {cs rest : List Char} {n : Numeral}
    (h : readToken c cs = .ok (.number n, rest)) : Spelled n := by
  unfold readToken at h
  split at h
  case h_7 | h_8 =>
    obtain ⟨text, read, same⟩ := map_eq_ok_iff.mp h
    cases same
  case h_10 =>
    split at h
    · obtain ⟨⟨found, after⟩, read, same⟩ := map_eq_ok_iff.mp h
      obtain ⟨rfl, rfl⟩ : found = n ∧ after = rest := by simpa using same
      exact readNumeral_spelled read
    · exact absurd h readWords_ne_number
  all_goals cases h

theorem readTokens_spelled {n : Numeral} (fuel : Nat) (cs : List Char)
    (there : .number n ∈ (readTokens fuel cs).1.map (·.token)) : Spelled n := by
  induction fuel generalizing cs with
  | zero => cases there
  | succ fuel ih =>
    unfold readTokens at there
    split at there
    · cases there
    · cases there
    · split at there
      · cases there
      · next read =>
        rcases List.mem_cons.mp there with here | later
        · cases here
          exact readToken_spelled read
        · exact ih _ later

theorem tokens_spelled {n : Numeral} {cs : List Char}
    (there : .number n ∈ (tokens cs).1.map (·.token)) : Spelled n :=
  readTokens_spelled _ cs there

end PolyglotPages.Json.Relaxed
