import Mathlib.Logic.Relation
import PolyglotPages.Markup
import PolyglotPages.Proofs.Text.Collapse

/-! The page of a text as its normal form. A page has a single space for every run of blanks in the
text and is the only such text; two texts have one page exactly when they differ in nothing but how
their runs are written. -/
namespace PolyglotPages
open Relation (ReflTransGen)

namespace Text

def IsRun (run : List Char) : Prop := run ≠ [] ∧ ∀ c ∈ run, isBlank c = true

/-- Every maximal run of blanks has given way to something `new`; all else is kept in its order. -/
inductive RunsReplaced (new : List Char → Prop) : List Char → List Char → Prop
  | nil : RunsReplaced new [] []
  | kept {c : Char} {a b : List Char} (solid : isBlank c = false) (rest : RunsReplaced new a b) :
    RunsReplaced new (c :: a) (c :: b)
  | run {old put a b : List Char} (blank : IsRun old) (ended : ∀ c ∈ a.head?, isBlank c = false)
    (fresh : new put) (rest : RunsReplaced new a b) : RunsReplaced new (old ++ a) (put ++ b)

/-- One run of blanks, or a part of one, has given way to another. -/
inductive Respaced : List Char → List Char → Prop
  | mk (before after : List Char) {old put : List Char} (blank : IsRun old) (fresh : IsRun put) :
    Respaced (before ++ old ++ after) (before ++ put ++ after)

structure Tidy (text : List Char) : Prop where
  spaces : ∀ c ∈ text, isBlank c = true → c = ' '
  apart : ¬ [' ', ' '] <:+: text

theorem isRun_space : IsRun [' '] := by
  refine ⟨by simp, fun c single => ?_⟩
  rw [List.mem_singleton.mp single]
  decide

theorem isRun_front {c : Char} (blank : isBlank c = true) (cs : List Char) :
    IsRun (c :: cs.takeWhile isBlank) ∧
      (∀ d ∈ (cs.dropWhile isBlank).head?, isBlank d = false) ∧
      c :: cs = (c :: cs.takeWhile isBlank) ++ cs.dropWhile isBlank := by
  refine ⟨⟨by simp, ?_⟩, ?_, by simp [List.takeWhile_append_dropWhile]⟩
  · exact List.forall_mem_cons.mpr ⟨blank, List.all_eq_true.mp List.all_takeWhile⟩
  · intro d first
    have := List.head?_dropWhile_not isBlank cs
    rw [Option.mem_def.mp first] at this
    simpa using this

theorem ne_space {c : Char} (solid : isBlank c = false) : c ≠ ' ' := by
  rintro rfl
  exact absurd solid (by decide)

namespace RunsReplaced
variable {new other : List Char → Prop} {a b : List Char}

theorem mono (weaker : ∀ put, new put → other put) (replaced : RunsReplaced new a b) :
    RunsReplaced other a b := by
  induction replaced with
  | nil => exact .nil
  | kept solid rest ih => exact .kept solid ih
  | run blank ended fresh rest ih => exact .run blank ended (weaker _ fresh) ih

theorem of_space (replaced : RunsReplaced (· = [' ']) a b) : RunsReplaced IsRun a b := by
  refine replaced.mono fun put single => ?_
  subst single
  exact isRun_space

theorem head_solid (replaced : RunsReplaced new a b) (ended : ∀ c ∈ a.head?, isBlank c = false) :
    ∀ c ∈ b.head?, isBlank c = false := by
  cases replaced with
  | nil => exact ended
  | kept solid rest => simpa using solid
  | @run old put a b blank _ fresh rest =>
    obtain ⟨some, each⟩ := blank
    obtain ⟨c, more, rfl⟩ := List.exists_cons_of_ne_nil some
    have solid := ended c (by simp)
    rw [each c List.mem_cons_self] at solid
    cases solid

end RunsReplaced

/-! ### The normal form -/

theorem replaced_collapse (text : List Char) : RunsReplaced (· = [' ']) text (collapse text) := by
  fun_induction collapse text with
  | case1 => exact .nil
  | case2 c cs blank ih =>
    obtain ⟨front, ended, whole⟩ := isRun_front blank cs
    rw [whole]
    show RunsReplaced _ _ ([' '] ++ _)
    exact .run front ended rfl ih
  | case3 c cs solid ih => exact .kept (by simpa using solid) ih

theorem tidy_of_replaced {a b : List Char} (replaced : RunsReplaced (· = [' ']) a b) : Tidy b := by
  induction replaced with
  | nil => exact ⟨by simp, by simp⟩
  | kept solid rest ih =>
    refine ⟨?_, ?_⟩
    · rintro d member blank
      rcases List.mem_cons.mp member with rfl | later
      · exact absurd blank (by simp [solid])
      · exact ih.spaces d later blank
    · rw [List.infix_cons_iff, not_or]
      refine ⟨fun front => ?_, ih.apart⟩
      exact ne_space solid (List.cons_prefix_cons.mp front).1.symm
  | run blank ended fresh rest ih =>
    subst fresh
    refine ⟨?_, ?_⟩
    · rintro d member blank
      rcases List.mem_cons.mp member with here | later
      · exact here
      · exact ih.spaces d later blank
    · rw [List.singleton_append, List.infix_cons_iff, not_or]
      refine ⟨fun front => ?_, ih.apart⟩
      -- what follows the space would begin with a blank
      obtain ⟨tail, same⟩ := (List.cons_prefix_cons.mp front).2
      have solid := rest.head_solid ended ' ' (by simp [← same])
      exact ne_space solid rfl

theorem squeezeFrom_of_solid {text : List Char} (ended : ∀ c ∈ text.head?, isBlank c = false)
    (afterBlank : Bool) : squeezeFrom afterBlank text = squeeze text := by
  cases text with
  | nil => rfl
  | cons c cs =>
    have solid := ended c (by simp)
    simp [squeeze, squeezeFrom, solid]

theorem squeeze_tidy {text : List Char} (tidy : Tidy text) : squeeze text = text := by
  induction text with
  | nil => rfl
  | cons c cs ih =>
    have apart := tidy.apart
    rw [List.infix_cons_iff, not_or] at apart
    have rest := ih ⟨fun d member => tidy.spaces d (List.mem_cons_of_mem c member), apart.2⟩
    cases blank : isBlank c with
    | false =>
      simp only [squeeze, squeezeFrom, blank] at rest ⊢
      simp [rest]
    | true =>
      obtain rfl := tidy.spaces c List.mem_cons_self blank
      have ended : ∀ d ∈ cs.head?, isBlank d = false := by
        intro d first
        cases again : isBlank d with
        | false => rfl
        | true =>
          obtain rfl := tidy.spaces d (List.mem_cons_of_mem _ (List.mem_of_head? first)) again
          obtain ⟨tail, rfl⟩ := List.head?_eq_some_iff.mp first
          exact absurd ⟨tail, rfl⟩ apart.1
      have after := squeezeFrom_of_solid ended true
      rw [rest] at after
      simp [squeeze, squeezeFrom, blank, after]

/-! ### Texts that become the same -/

theorem squeezeFrom_run {run : List Char} (blank : IsRun run) (afterBlank : Bool)
    (text : List Char) : squeezeFrom afterBlank (run ++ text) =
      (if afterBlank then [] else [' ']) ++ squeezeFrom true text := by
  obtain ⟨some, each⟩ := blank
  induction run generalizing afterBlank with
  | nil => exact absurd rfl some
  | cons c cs ih =>
    obtain ⟨here, more⟩ := List.forall_mem_cons.mp each
    have rest : squeezeFrom true (cs ++ text) = squeezeFrom true text := by
      by_cases last : cs = []
      · rw [last, List.nil_append]
      · simpa using ih true last more
    cases afterBlank <;> simp [squeezeFrom, here, rest]

theorem squeezeFrom_append_congr {u v : List Char}
    (same : ∀ afterBlank, squeezeFrom afterBlank u = squeezeFrom afterBlank v)
    (afterBlank : Bool) (before : List Char) :
    squeezeFrom afterBlank (before ++ u) = squeezeFrom afterBlank (before ++ v) := by
  induction before generalizing afterBlank with
  | nil => exact same afterBlank
  | cons c before ih => simp only [List.cons_append, squeezeFrom, ih]

theorem squeeze_respaced {a b : List Char} (respaced : Respaced a b) : squeeze a = squeeze b := by
  obtain ⟨before, after, blank, fresh⟩ := respaced
  rw [List.append_assoc, List.append_assoc]
  refine squeezeFrom_append_congr (fun afterBlank => ?_) false before
  rw [squeezeFrom_run blank, squeezeFrom_run fresh]

theorem squeeze_chain {a b : List Char} (chain : ReflTransGen Respaced a b) :
    squeeze a = squeeze b := by
  induction chain with
  | refl => rfl
  | tail _ last ih => exact ih.trans (squeeze_respaced last)

theorem chain_behind (front : List Char) {a b : List Char} (chain : ReflTransGen Respaced a b) :
    ReflTransGen Respaced (front ++ a) (front ++ b) := by
  refine ReflTransGen.lift (front ++ ·) (fun a b respaced => ?_) a b chain
  obtain ⟨before, after, blank, fresh⟩ := respaced
  simpa using Respaced.mk (front ++ before) after blank fresh

theorem chain_before (rest : List Char) {a b : List Char} (chain : ReflTransGen Respaced a b) :
    ReflTransGen Respaced (a ++ rest) (b ++ rest) := by
  refine ReflTransGen.lift (· ++ rest) (fun a b respaced => ?_) a b chain
  obtain ⟨before, after, blank, fresh⟩ := respaced
  simpa [Function.onFun] using Respaced.mk before (after ++ rest) blank fresh

/-- Runs that all give way can give way one by one. -/
theorem chain_of_replaced {a b : List Char} (replaced : RunsReplaced IsRun a b) :
    ReflTransGen Respaced a b := by
  induction replaced with
  | nil => exact .refl
  | @kept c a b solid rest ih => exact chain_behind [c] ih
  | @run old put a b blank ended fresh rest ih =>
    have first : Respaced (old ++ a) (put ++ a) := Respaced.mk [] a blank fresh
    exact ReflTransGen.head first (chain_behind put ih)

theorem replaced_of_collapse {a b : List Char} (same : collapse a = collapse b) :
    RunsReplaced IsRun a b := by
  fun_induction collapse a generalizing b with
  | case1 =>
    revert same
    fun_cases collapse b with
    | case1 => exact fun _ => .nil
    | case2 => intro same; cases same
    | case3 => intro same; cases same
  | case2 c cs blank ih =>
    revert same
    fun_cases collapse b with
    | case1 => intro same; cases same
    | case2 d ds again =>
      intro same
      obtain ⟨front, ended, whole⟩ := isRun_front blank cs
      obtain ⟨front', -, whole'⟩ := isRun_front again ds
      rw [whole, whole']
      exact .run front ended front' (ih (List.cons.inj same).2)
    | case3 d ds solid =>
      intro same
      exact absurd (List.cons.inj same).1.symm (ne_space (by simpa using solid))
  | case3 c cs solid ih =>
    revert same
    fun_cases collapse b with
    | case1 => intro same; cases same
    | case2 d ds blank =>
      intro same
      exact absurd (List.cons.inj same).1 (ne_space (by simpa using solid))
    | case3 d ds again =>
      intro same
      obtain ⟨rfl, rest⟩ := List.cons.inj same
      exact .kept (by simpa using solid) (ih rest)

theorem squeeze_eq_iff_replaced {a b : List Char} :
    squeeze a = squeeze b ↔ RunsReplaced IsRun a b := by
  constructor
  · intro same
    rw [squeeze_eq_collapse, squeeze_eq_collapse] at same
    exact replaced_of_collapse same
  · intro replaced
    exact squeeze_chain (chain_of_replaced replaced)

theorem squeeze_eq_iff_chain {a b : List Char} :
    squeeze a = squeeze b ↔ ReflTransGen Respaced a b := by
  constructor
  · intro same
    exact chain_of_replaced (squeeze_eq_iff_replaced.mp same)
  · exact squeeze_chain

theorem chain_squeeze (text : List Char) : ReflTransGen Respaced text (squeeze text) := by
  rw [squeeze_eq_collapse]
  exact chain_of_replaced (replaced_collapse text).of_space

theorem squeeze_eq_iff {a b : List Char} : squeeze a = b ↔ RunsReplaced (· = [' ']) a b := by
  constructor
  · rintro rfl
    rw [squeeze_eq_collapse]
    exact replaced_collapse a
  · intro replaced
    rw [squeeze_eq_iff_replaced.mpr replaced.of_space, squeeze_tidy (tidy_of_replaced replaced)]

theorem squeeze_eq_self_iff {text : List Char} : squeeze text = text ↔ Tidy text := by
  constructor
  · intro same
    exact tidy_of_replaced (squeeze_eq_iff.mp same)
  · exact squeeze_tidy

theorem squeeze_squeeze (text : List Char) : squeeze (squeeze text) = squeeze text :=
  (squeeze_chain (chain_squeeze text)).symm

theorem squeeze_append (a b : List Char) : squeeze (a ++ b) = squeeze (squeeze a ++ squeeze b) := by
  have left : ReflTransGen Respaced (a ++ b) (squeeze a ++ b) := chain_before b (chain_squeeze a)
  have right : ReflTransGen Respaced (squeeze a ++ b) (squeeze a ++ squeeze b) :=
    chain_behind (squeeze a) (chain_squeeze b)
  exact squeeze_chain (left.trans right)

end Text

open Text (IsRun RunsReplaced Respaced Tidy)

/-- A page is its text with one space for each maximal run of blanks. A text is its own page when
its blanks are single spaces, as they are in every page; a text may be cut, and its parts made pages
first. The texts of one page are those that come of each other by replacing runs with runs, all at
once or one at a time. -/
theorem page_is_normal_form :
    (∀ (raw : String) (cs : List Char),
      (Markup.normalize raw).chars = cs ↔ RunsReplaced (· = [' ']) raw.toList cs) ∧
    (∀ text : String, (Markup.normalize text).text = text ↔ Tidy text.toList) ∧
    (∀ raw : String, Markup.normalize (Markup.normalize raw).text = Markup.normalize raw) ∧
    (∀ a b : String, Markup.normalize (a ++ b) =
      Markup.normalize ((Markup.normalize a).text ++ (Markup.normalize b).text)) ∧
    ∀ a b : String,
      (Markup.normalize a = Markup.normalize b ↔ RunsReplaced IsRun a.toList b.toList) ∧
      (Markup.normalize a = Markup.normalize b ↔ ReflTransGen Respaced a.toList b.toList) := by
  refine ⟨fun raw cs => Text.squeeze_eq_iff, ?_, ?_, ?_, ?_⟩
  · intro text
    have page : (Markup.normalize text).text.toList = Text.squeeze text.toList :=
      String.toList_ofList
    rw [← String.toList_inj, page]
    exact Text.squeeze_eq_self_iff
  · intro raw
    simp only [Markup.normalize, Markup.text, String.toList_ofList, Text.squeeze_squeeze]
  · intro a b
    simp only [Markup.normalize, Markup.text, String.toList_append, String.toList_ofList,
      ← Text.squeeze_append]
  · intro a b
    simp only [Markup.normalize, Markup.mk.injEq]
    exact ⟨Text.squeeze_eq_iff_replaced, Text.squeeze_eq_iff_chain⟩

-- a line break of two characters, a wide space before it and another one at the end
example : (Markup.normalize "a\u3000\r\nb\u2003").text = "a b " := by decide

end PolyglotPages
