import Mathlib.Algebra.Order.BigOperators.Group.List
import Mathlib.Algebra.Order.Ring.Nat
import Mathlib.Data.List.Infix
import Mathlib.Data.List.Nodup
import Xcp.Library.Python

/-! Patterns over words. A pattern is one word, or the family of all words that
begin alike. When does a list of patterns accept all that another one accepts? -/

namespace Wildcard

variable {α : Type*}

inductive Pattern (α : Type*) where
  | word (letters : List α)
  | family (start : List α)

namespace Pattern

def letters : Pattern α → List α
  | word letters => letters
  | family start => start

def Accepts : Pattern α → List α → Prop
  | word letters, text => letters = text
  | family start, text => start <+: text

/-- A pattern takes in another one: all that begins as a family does, or the
same word. -/
def Covers : Pattern α → Pattern α → Prop
  | family start, narrow => start <+: narrow.letters
  | word letters, word others => letters = others
  | word _, family _ => False

theorem accepts_letters (pattern : Pattern α) : pattern.Accepts pattern.letters := by
  cases pattern with
  | word letters => exact rfl
  | family start => exact List.prefix_rfl

theorem Accepts.begins {pattern : Pattern α} {text : List α} (accepts : pattern.Accepts text) : pattern.letters <+: text := by
  cases pattern with
  | word letters => exact accepts ▸ List.prefix_rfl
  | family start => exact accepts

theorem covers_iff [Nonempty α] {broad narrow : Pattern α} :
    broad.Covers narrow ↔ ∀ text, narrow.Accepts text → broad.Accepts text := by
  cases broad with
  | family start =>
    constructor
    · intro covers text accepts
      exact List.IsPrefix.trans covers accepts.begins
    · intro all
      exact all narrow.letters narrow.accepts_letters
  | word letters =>
    cases narrow with
    | word others =>
      constructor
      · intro same text accepts
        exact Eq.trans same accepts
      · intro all
        exact all others rfl
    | family start =>
      constructor
      · intro absurd_
        exact absurd_.elim
      · intro all
        -- a family has words of two lengths
        obtain ⟨letter⟩ := ‹Nonempty α›
        have first : letters = start := all start List.prefix_rfl
        have second : letters = start ++ [letter] := all (start ++ [letter]) (List.prefix_append _ _)
        simpa using first.symm.trans second

end Pattern

/-- A list of patterns has all words of a family: by a larger family, or by the
word itself and all families that are one letter smaller. -/
inductive Spans (patterns : List (Pattern α)) : List α → Prop
  | whole {start other : List α} (member : .family other ∈ patterns) (begins : other <+: start) : Spans patterns start
  | split {start : List α} (member : .word start ∈ patterns) (each : ∀ letter, Spans patterns (start ++ [letter])) :
      Spans patterns start

def Within (patterns : List (Pattern α)) : Pattern α → Prop
  | .word letters => ∃ pattern ∈ patterns, pattern.Accepts letters
  | .family start => Spans patterns start

variable {patterns : List (Pattern α)} {start : List α}

theorem Spans.accepts (spans : Spans patterns start) {text : List α} (begins : start <+: text) :
    ∃ pattern ∈ patterns, pattern.Accepts text := by
  induction spans with
  | @whole start other member larger => exact ⟨.family other, member, larger.trans begins⟩
  | @split start member each ih =>
    obtain ⟨rest, rfl⟩ := begins
    cases rest with
    | nil => exact ⟨.word start, member, (List.append_nil start).symm⟩
    | cons letter rest => exact ih letter ⟨rest, by rw [List.append_assoc, List.singleton_append]⟩

/-- Letter by letter the words of the list are used up. -/
theorem spans_of_accepts {most : Nat} (short : ∀ pattern ∈ patterns, pattern.letters.length < most)
    (all : ∀ text, start <+: text → ∃ pattern ∈ patterns, pattern.Accepts text) : Spans patterns start := by
  induction remaining : most - start.length using Nat.strong_induction_on generalizing start with
  | _ remaining ih =>
    obtain ⟨pattern, member, accepted⟩ := all start List.prefix_rfl
    cases pattern with
    | family other => exact .whole member accepted
    | word letters =>
      obtain rfl : letters = start := accepted
      have less := short _ member
      simp only [Pattern.letters] at less
      refine .split member (fun letter => ?_)
      have longer : (letters ++ [letter]).length = letters.length + 1 := by simp
      apply ih (most - (letters ++ [letter]).length) (by omega) _ rfl
      intro text begins
      exact all text ((List.prefix_append letters [letter]).trans begins)

theorem spans_iff : Spans patterns start ↔ ∀ text, start <+: text → ∃ pattern ∈ patterns, pattern.Accepts text := by
  constructor
  · exact fun spans _ begins => spans.accepts begins
  · let most := (patterns.map (fun pattern => pattern.letters.length)).sum + 1
    have short : ∀ pattern ∈ patterns, pattern.letters.length < most := by
      intro pattern member
      exact Nat.lt_succ_of_le (List.le_sum_of_mem (List.mem_map.mpr ⟨pattern, member, rfl⟩))
    exact spans_of_accepts short

/-- A list has all that a pattern accepts. -/
theorem within_iff {pattern : Pattern α} :
    Within patterns pattern ↔ ∀ text, pattern.Accepts text → ∃ other ∈ patterns, other.Accepts text := by
  cases pattern with
  | word letters => exact ⟨fun within text same => same ▸ within, fun all => all letters rfl⟩
  | family start => exact spans_iff

/-- With fewer patterns than letters, one family has to have all the words. -/
theorem spans_iff_of_few {letters : List α} (distinct : letters.Nodup) (few : patterns.length < letters.length) :
    Spans patterns start ↔ ∃ other, .family other ∈ patterns ∧ other <+: start := by
  constructor
  · intro spans
    cases spans with
    | @whole _ other member begins => exact ⟨other, member, begins⟩
    | split member each =>
      by_contra none
      have used : ∀ letter, start ++ [letter] ∈ patterns.map Pattern.letters := by
        intro letter
        cases each letter with
        | @whole _ other member begins =>
          rcases List.prefix_concat_iff.mp begins with same | shorter
          · exact List.mem_map.mpr ⟨.family other, member, same⟩
          · exact absurd ⟨other, member, shorter⟩ none
        | split member _ => exact List.mem_map.mpr ⟨.word (start ++ [letter]), member, rfl⟩
      have apart : (letters.map (fun letter => start ++ [letter])).Nodup :=
        distinct.map (fun first second same => by simpa using same)
      have inside : letters.map (fun letter => start ++ [letter]) ⊆ patterns.map Pattern.letters := by
        intro text member
        obtain ⟨letter, _, rfl⟩ := List.mem_map.mp member
        exact used letter
      have count := apart.length_le_of_subset inside
      rw [List.length_map, List.length_map] at count
      omega
  · intro ⟨other, member, begins⟩
    exact .whole member begins

end Wildcard

/-! Texts as patterns: a star at the end stands for any rest. -/

namespace Glob
open Python Wildcard

def pattern (text : String) : Pattern Char :=
  if endsWith text "*" then .family (dropEnd text 1).toList else .word text.toList

theorem star_toList {text : String} (star : endsWith text "*" = true) : text.toList = (dropEnd text 1).toList ++ ['*'] := by
  have finish : ['*'] <:+ text.toList := List.isSuffixOf_iff_suffix.mp star
  obtain ⟨start, split⟩ := finish
  simp [dropEnd, ← split]

theorem accepts_iff (text value : String) : (pattern text).Accepts value.toList ↔
    (if endsWith text "*" then startsWith value (dropEnd text 1) else decide (text = value)) = true := by
  unfold pattern
  split
  · simp [Pattern.Accepts, startsWith, List.isPrefixOf_iff_prefix]
  · simp [Pattern.Accepts, String.toList_inj]

theorem pattern_cases (text : String) :
    pattern text = .word text.toList ∨ ∃ start, pattern text = .family start ∧ text.toList = start ++ ['*'] := by
  cases star : endsWith text "*" with
  | false => exact .inl (by simp [pattern, star])
  | true => exact .inr ⟨(dropEnd text 1).toList, by simp [pattern, star], star_toList star⟩

end Glob
