import Mathlib.Data.List.TakeDrop
import Mathlib.Data.List.TakeWhile
import PolyglotPages.Json.Relaxed.Token
import PolyglotPages.Proofs.Chain
import PolyglotPages.Proofs.Json.Grammar

/-! Every phrase of the grammar is one token of a relaxed JSON text, if what follows cannot be part
of the token: nothing, white space, a comma or a closing bracket. -/
namespace PolyglotPages.Json.Relaxed
open Grammar

def GoesOn (cs allowed : List Char) : Prop := ∀ c ∈ cs.head?, c ∈ allowed

theorem GoesOn.not {cs allowed : List Char} (h : GoesOn cs allowed) {p : Char → Bool}
    (no : allowed.any p = false) : ∀ c ∈ cs.head?, p c = false := by
  intro c first
  exact Bool.eq_false_iff.mpr (List.any_eq_false.mp no c (h c first))

theorem goesOn_append {text rest allowed : List Char} (start : GoesOn text allowed)
    (next : GoesOn rest allowed) : GoesOn (text ++ rest) allowed := by
  cases text with
  | nil => exact next
  | cons c text => exact start

theorem GoesOn.mono {cs allowed more : List Char} (h : GoesOn cs allowed)
    (sub : allowed ⊆ more) : GoesOn cs more := by
  intro c first
  exact sub (h c first)

/-- The characters that can follow a value of the grammar. -/
def terminators : List Char := [' ', '\t', '\n', '\r', ',', ']', '}']

def Ends (cs : List Char) : Prop := GoesOn cs terminators

theorem mem_of_isSpace {c : Char} (space : Strict.isSpace c = true) :
    c ∈ [' ', '\t', '\n', '\r'] := by
  simp only [Strict.isSpace, Bool.or_eq_true, decide_eq_true_eq] at space
  rcases space with ((rfl | rfl) | rfl) | rfl <;> decide

theorem ends_behind {gap rest : List Char} (blank : Spaces gap) (ends : Ends rest) :
    Ends (gap ++ rest) := by
  refine goesOn_append ?_ ends
  intro c first
  exact List.mem_append_left _ (mem_of_isSpace (blank c (List.mem_of_mem_head? first)))

theorem ends_mark {c : Char} (mark : c ∈ terminators) {cs : List Char} : Ends (c :: cs) := by
  intro d first
  cases first
  exact mark

/-! ### White space -/

theorem isBlank_of_isSpace {c : Char} (space : Strict.isSpace c = true) :
    Text.isBlank c = true := by
  have each : [' ', '\t', '\n', '\r'].all Text.isBlank = true := by decide
  exact List.all_eq_true.mp each c (mem_of_isSpace space)

theorem skip_cons {c : Char} (noSlash : c ≠ '/') (cs : List Char) :
    skip (c :: cs) = if Text.isBlank c then skip cs else .ok (c :: cs) := by
  unfold skip
  rw [skipFrom.eq_def]
  split
  · next same => exact absurd (List.cons.inj same).1 noSlash
  · next same => exact absurd (List.cons.inj same).1 noSlash
  · next same =>
    obtain ⟨rfl, rfl⟩ := List.cons.inj same
    rfl
  · next same => cases same
  all_goals contradiction

theorem skip_space {c : Char} (space : Strict.isSpace c = true) (cs : List Char) :
    skip (c :: cs) = skip cs := by
  have noSlash : c ≠ '/' := by
    rintro rfl
    cases space
  rw [skip_cons noSlash, if_pos (isBlank_of_isSpace space)]

theorem skip_gap {gap : List Char} (blank : Spaces gap) (cs : List Char) :
    skip (gap ++ cs) = skip cs := by
  induction gap with
  | nil => rfl
  | cons c gap ih =>
    rw [List.cons_append, skip_space (blank c List.mem_cons_self)]
    exact ih fun d there => blank d (List.mem_cons_of_mem c there)

theorem skip_solid {c : Char} (solid : Text.isBlank c = false) (noSlash : c ≠ '/')
    (cs : List Char) : skip (c :: cs) = .ok (c :: cs) := by
  rw [skip_cons noSlash, if_neg (by simp [solid])]

/-! ### Strings -/

theorem readEscape_letter {letter c : Char} (h : Strict.escaped? letter = some c)
    (rest : List Char) : readEscape '"' (letter :: rest) = .ok (c, rest) := by
  unfold Strict.escaped? at h
  split at h <;> cases h <;> rfl

theorem readCode_hex {a b c d : Char} {n : Nat} (hex : Text.hexFour? a b c d = some n)
    (rest : List Char) : readCode (a :: b :: c :: d :: rest) = .ok ([a, b, c, d], n, rest) := by
  simp [readCode, hex]

theorem readStringTo_escape {cs rest : List Char} {c : Char}
    (escape : readEscape '"' cs = .ok (c, rest)) (opened : List Char) (fuel : Nat) :
    readStringTo opened '"' (fuel + 1) ('\\' :: cs) =
      (readStringTo opened '"' fuel rest).map fun (more, rest) => (c :: more, rest) := by
  have started : cs ≠ [] := by
    rintro rfl
    cases escape
  rw [readStringTo]
  · simp only [escape]
    rfl
  · intro atEnd
    exact started

theorem readStringTo_char {c : Char} {text : List Char} (char : CharText c text)
    (opened : List Char) (fuel : Nat) (rest : List Char) :
    readStringTo opened '"' (fuel + 1) (text ++ rest) =
      (readStringTo opened '"' fuel rest).map fun (more, rest) => (c :: more, rest) := by
  cases char with
  | plain noQuote noSlash printable =>
    rw [List.singleton_append, readStringTo]
    · simp only [noQuote, noSlash, if_false]
      rfl
    · intro slash
      exact absurd slash noSlash
  | escape found => exact readStringTo_escape (readEscape_letter found rest) opened fuel
  | code hex notFirst notSecond =>
    refine readStringTo_escape ?_ opened fuel
    simp [readEscape, readCodeEscape, readCode_hex hex, notFirst, notSecond, bind, Except.bind]
  | halves hex isFirst hex' isSecond =>
    refine readStringTo_escape ?_ opened fuel
    simp [readEscape, readCodeEscape, readCode_hex hex, isFirst, readSecondHalf,
      readCode_hex hex', isSecond, bind, Except.bind]

theorem readStringTo_text {s body : List Char} (string : StringText s body)
    (opened rest : List Char) : ∀ fuel, body.length < fuel →
      readStringTo opened '"' fuel (body ++ '"' :: rest) = .ok (s, rest) := by
  induction string with
  | nil =>
    intro fuel enough
    obtain ⟨fuel, rfl⟩ := Nat.exists_eq_succ_of_ne_zero (Nat.ne_of_gt enough)
    simp [readStringTo]
  | @cons c unit s body char string ih =>
    intro fuel enough
    obtain ⟨fuel, rfl⟩ := Nat.exists_eq_succ_of_ne_zero (Nat.ne_of_gt (Nat.zero_lt_of_lt enough))
    have taken : 0 < unit.length := by cases char <;> simp
    rw [List.length_append] at enough
    rw [List.append_assoc, readStringTo_char char, ih fuel (by omega)]
    rfl

theorem readString_text {s body : List Char} (string : StringText s body) (rest : List Char) :
    readString '"' (body ++ '"' :: rest) = .ok (String.ofList s, rest) := by
  have enough : body.length < (body ++ '"' :: rest).length + 1 := by
    simp only [List.length_append]
    omega
  rw [readString, readStringTo_text string _ rest _ enough]
  rfl

/-! ### Numbers -/

theorem span_append {p : Char → Bool} {ds rest : List Char} (each : ∀ c ∈ ds, p c = true)
    (ends : ∀ c ∈ rest.head?, p c = false) : (ds ++ rest).span p = (ds, rest) := by
  rw [List.span_eq_takeWhile_dropWhile, List.takeWhile_append_of_pos each,
    List.dropWhile_append_of_pos each]
  cases rest with
  | nil => simp
  | cons c rest =>
    have stop := ends c rfl
    rw [List.takeWhile_cons_of_neg (by simp [stop]), List.dropWhile_cons_of_neg (by simp [stop]),
      List.append_nil]

theorem readDigits_text {ds rest : List Char} (digits : Digits ds)
    (ends : ∀ c ∈ rest.head?, c.isDigit = false) (fault : Fault) :
    readDigits fault (ds ++ rest) = .ok (ds, rest) := by
  rw [readDigits, span_append digits.each ends]
  cases ds with
  | nil => exact absurd rfl digits.some
  | cons d ds => rfl

theorem readWhole_text {whole rest : List Char} (text : WholeText whole)
    (ends : ∀ c ∈ rest.head?, c.isDigit = false) :
    readWhole (whole ++ rest) = .ok (whole, rest) := by
  cases text with
  | zero => rfl
  | other notZero digits =>
    rw [readWhole]
    · exact readDigits_text digits ends _
    · intro more zero
      exact notZero (List.cons.inj zero).1

theorem readFraction_text {fraction : Option (List Char)} {text rest : List Char}
    (h : FractionText fraction text)
    (ends : ∀ c ∈ rest.head?, (c.isDigit || c == '.') = false) :
    readFraction (text ++ rest) = .ok (fraction, rest) := by
  cases h with
  | none =>
    rw [List.nil_append, readFraction]
    rintro more rfl
    have stop := ends '.' rfl
    cases stop
  | some digits =>
    have noDigit : ∀ c ∈ rest.head?, c.isDigit = false := by
      intro c first
      exact (Bool.or_eq_false_iff.mp (ends c first)).1
    rw [List.cons_append, readFraction, readDigits_text digits noDigit]
    rfl

theorem readSign_digit {d : Char} (digit : d.isDigit = true) (cs : List Char) :
    readSign (d :: cs) = none := by
  rw [readSign]
  · rintro rest minus
    obtain ⟨rfl, -⟩ := List.cons.inj minus
    cases digit
  · rintro rest plus
    obtain ⟨rfl, -⟩ := List.cons.inj plus
    cases digit

theorem readExponent_text {exponent : Option (Bool × List Char)} {text rest : List Char}
    (h : ExponentText exponent text) (ends : Ends rest) :
    readExponent (text ++ rest) = .ok (exponent, rest) := by
  have noDigit : ∀ c ∈ rest.head?, c.isDigit = false := ends.not (by decide)
  cases h with
  | none =>
    cases rest with
    | nil => rfl
    | cons c rest =>
      have noLetter := ends.not (p := fun c => c == 'e' || c == 'E') (by decide) c rfl
      simp only [Bool.or_eq_false_iff, beq_eq_false_iff_ne] at noLetter
      simp [readExponent, noLetter]
  | @some e negative sign ds letter signed digits =>
    cases signed with
    | none =>
      have unsigned : readSign (ds ++ rest) = none := by
        obtain ⟨d, more, rfl⟩ := List.exists_cons_of_ne_nil digits.some
        exact readSign_digit (digits.each d List.mem_cons_self) _
      simp [readExponent, letter, unsigned, readDigits_text digits noDigit, Except.map]
    | plus =>
      simp [readExponent, letter, readSign, readDigits_text digits noDigit, Except.map]
    | minus =>
      simp [readExponent, letter, readSign, readDigits_text digits noDigit, Except.map]

theorem goesOn_exponent {exponent : Option (Bool × List Char)} {text rest : List Char}
    (h : ExponentText exponent text) (ends : Ends rest) :
    GoesOn (text ++ rest) ('e' :: 'E' :: terminators) := by
  cases h with
  | none => exact ends.mono (List.subset_append_right ['e', 'E'] _)
  | some letter signed digits =>
    intro c first
    cases first
    rcases letter with rfl | rfl
    · exact List.mem_cons_self
    · exact List.mem_cons_of_mem _ List.mem_cons_self

theorem goesOn_fraction {fraction : Option (List Char)} {text rest allowed : List Char}
    (h : FractionText fraction text) (next : GoesOn rest allowed) :
    GoesOn (text ++ rest) ('.' :: allowed) := by
  cases h with
  | none => exact next.mono (List.subset_cons_self _ _)
  | some digits =>
    intro c first
    cases first
    exact List.mem_cons_self

theorem readDecimal_text {negative : Bool} {fraction : Option (List Char)}
    {exponent : Option (Bool × List Char)} {whole fractionText exponentText rest : List Char}
    (isWhole : WholeText whole) (isFraction : FractionText fraction fractionText)
    (isExponent : ExponentText exponent exponentText) (ends : Ends rest) :
    readDecimal negative (whole ++ (fractionText ++ (exponentText ++ rest))) =
      .ok (Number.Literal.value? ⟨negative, whole, fraction, exponent⟩, rest) := by
  have afterFraction := goesOn_exponent isExponent ends
  have afterWhole := goesOn_fraction isFraction afterFraction
  refine bind_eq_ok_iff.mpr ⟨_, readWhole_text isWhole (afterWhole.not (by decide)), ?_⟩
  refine bind_eq_ok_iff.mpr ⟨_, readFraction_text isFraction (afterFraction.not (by decide)), ?_⟩
  exact bind_eq_ok_iff.mpr ⟨_, readExponent_text isExponent ends, rfl⟩

theorem digit_of_whole {whole : List Char} (text : WholeText whole) :
    ∃ d ds, whole = d :: ds ∧ d.isDigit = true := by
  cases text with
  | zero => exact ⟨'0', [], rfl, rfl⟩
  | @other c ds _ digits => exact ⟨c, ds, rfl, digits.each c List.mem_cons_self⟩

theorem not_hex {whole rest : List Char} (text : WholeText whole)
    (ends : ∀ c ∈ rest.head?, (c == 'x' || c == 'X') = false) (c : Char) (more : List Char)
    (same : whole ++ rest = '0' :: c :: more) : (c == 'x' || c == 'X') = false := by
  cases text with
  | zero =>
    obtain rfl : rest = c :: more := (List.cons.inj same).2
    exact ends c rfl
  | other notZero digits => exact absurd (List.cons.inj same).1 notZero

theorem readNumber_decimal {cs unsigned : List Char} {negative : Bool}
    (signed : (readSign cs).getD (false, cs) = (negative, unsigned))
    (noHex : ∀ c more, unsigned = '0' :: c :: more → (c == 'x' || c == 'X') = false) :
    readNumber cs = readDecimal negative unsigned := by
  simp only [readNumber, signed]
  split
  · next more =>
    have stop := noHex 'x' more rfl
    cases stop
  · next more =>
    have stop := noHex 'X' more rfl
    cases stop
  · rfl

theorem readNumber_text {l : Number.Literal} {body rest : List Char} (h : NumberText l body)
    (ends : Ends rest) : readNumber (body ++ rest) = .ok (l.value?, rest) := by
  cases h with
  | mk isSign isWhole isFraction isExponent =>
    have afterWhole := goesOn_fraction isFraction (goesOn_exponent isExponent ends)
    have noHex := not_hex isWhole (afterWhole.not (by decide))
    simp only [List.append_assoc]
    rw [readNumber_decimal _ noHex, readDecimal_text isWhole isFraction isExponent ends]
    cases isSign with
    | none =>
      obtain ⟨d, ds, rfl, digit⟩ := digit_of_whole isWhole
      rw [List.nil_append, List.cons_append, readSign_digit digit]
      rfl
    | minus => rfl

theorem number_start {l : Number.Literal} {body : List Char} (h : NumberText l body) :
    ∃ c more, body = c :: more ∧ (c = '-' ∨ c.isDigit = true) := by
  cases h with
  | mk isSign isWhole isFraction isExponent =>
    cases isSign with
    | none =>
      obtain ⟨d, ds, rfl, digit⟩ := digit_of_whole isWhole
      exact ⟨d, _, rfl, .inr digit⟩
    | minus => exact ⟨'-', _, rfl, .inl rfl⟩

theorem skip_number {c : Char} (start : c = '-' ∨ c.isDigit = true) (cs : List Char) :
    skip (c :: cs) = .ok (c :: cs) := by
  have solid : Text.isBlank c = false := by
    cases start with
    | inl minus => rw [minus]; rfl
    | inr digit =>
      have bounds : 48 ≤ c.toNat ∧ c.toNat ≤ 57 := by
        simpa [Char.isDigit, UInt32.le_iff_toNat_le] using digit
      simp [Text.isBlank]
      omega
  refine skip_solid solid ?_ cs
  rintro rfl
  cases start with
  | inl minus => cases minus
  | inr digit => cases digit

/-! ### Tokens -/

theorem readToken_string {s : String} {body : List Char} (string : StringText s.toList body)
    (rest : List Char) : readToken '"' (body ++ '"' :: rest) = .ok (.string s, rest) := by
  have read := readString_text string rest
  rw [String.ofList_toList] at read
  simp [readToken, read, Except.map]

theorem readToken_numeral {c : Char} (start : c = '-' ∨ c.isDigit = true) (cs : List Char) :
    readToken c cs = (readNumeral (c :: cs)).map fun (n, rest) => (.number n, rest) := by
  have other : ∀ d ∈ ['{', '}', '[', ']', ',', ':', '"', '\'', '/'], c ≠ d := by
    rintro d there rfl
    have none : ['{', '}', '[', ']', ',', ':', '"', '\'', '/'].any
        (fun d => d = '-' ∨ d.isDigit = true) = false := by decide
    exact List.any_eq_false.mp none c there (decide_eq_true start)
  have number : c = '-' ∨ c = '+' ∨ c.isDigit = true := by
    cases start with
    | inl minus => exact .inl minus
    | inr digit => exact .inr (.inr digit)
  unfold readToken
  split
  case h_10 => exact if_pos number
  all_goals exact absurd rfl (other _ (by decide))

theorem readToken_number {l : Number.Literal} {n : Number} {c : Char} {more rest : List Char}
    (h : NumberText l (c :: more)) (denotes : l.value? = some n) (ends : Ends rest) :
    ∃ source, readToken c (more ++ rest) = .ok (.number ⟨source, some n⟩, rest) := by
  obtain ⟨d, ds, same, start⟩ := number_start h
  obtain ⟨rfl, rfl⟩ := List.cons.inj same
  have read := readNumber_text h ends
  rw [List.cons_append, denotes] at read
  rw [readToken_numeral start, readNumeral, read]
  exact ⟨_, rfl⟩

theorem afterWord?_nil {rest : List Char} (ends : Ends rest) : afterWord? [] rest = some rest := by
  cases rest with
  | nil => rfl
  | cons c rest =>
    have separate : Text.isAlphanumeric c = false := ends.not (by decide) c rfl
    simp [afterWord?, separate]

theorem readToken_null {rest : List Char} (ends : Ends rest) :
    readToken 'n' ('u' :: 'l' :: 'l' :: rest) = .ok (.null, rest) := by
  simp [readToken, readWords, afterWord?, afterWord?_nil ends]

theorem readToken_true {rest : List Char} (ends : Ends rest) :
    readToken 't' ('r' :: 'u' :: 'e' :: rest) = .ok (.bool true, rest) := by
  simp [readToken, readWords, afterWord?, afterWord?_nil ends]

theorem readToken_false {rest : List Char} (ends : Ends rest) :
    readToken 'f' ('a' :: 'l' :: 's' :: 'e' :: rest) = .ok (.bool false, rest) := by
  simp [readToken, readWords, afterWord?, afterWord?_nil ends]

end PolyglotPages.Json.Relaxed
