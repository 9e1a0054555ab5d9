import Mathlib.Data.List.Infix
import Xcp.Library.PrefixCode
import Xcp.Library.Python

/-! Texts that are joined with a separator and not escaped. They can be told
apart where the separator is in none of them, and counting its letters says
whether it is. -/

namespace PrefixCode

/-- Words are the same if the same mark ends them, which is in neither. -/
theorem before_mark_inj {β : Type} [DecidableEq β] {mark : β} {first second rest others : List β} (one : mark ∉ first)
    (other : mark ∉ second) (same : first ++ mark :: rest = second ++ mark :: others) : first = second ∧ rest = others := by
  have absent {letters : List β} (lacks : mark ∉ letters) : ∀ letter ∈ letters, decide (letter = mark) = false := by
    intro letter member
    apply decide_eq_false
    rintro rfl
    exact lacks member
  obtain ⟨words, tails⟩ := word_inj (absent one) (absent other) (by simp [Bounded]) (by simp [Bounded]) same
  exact ⟨words, (List.cons.inj tails).2⟩

section Counts
variable {α β : Type} [DecidableEq β] (text : α → List β) (separator : β)

/-- How often a letter is in a list of texts. -/
def occurrences (letter : β) (values : List α) : Nat := (values.map (fun value => (text value).count letter)).sum

variable {text separator}

@[simp] theorem occurrences_nil (letter : β) : occurrences text letter [] = 0 := rfl

@[simp] theorem occurrences_cons (letter : β) (value : α) (values : List α) :
    occurrences text letter (value :: values) = (text value).count letter + occurrences text letter values := rfl

theorem occurrences_eq_zero {letter : β} {values : List α} :
    occurrences text letter values = 0 ↔ ∀ value ∈ values, letter ∉ text value := by
  simp [occurrences, List.sum_eq_zero_iff_forall_eq_nat, List.count_eq_zero]

theorem count_separated {letter : β} (differ : separator ≠ letter) (values : List α) :
    (separated text separator values).count letter = occurrences text letter values := by
  fun_induction separated text separator values with
  | case1 => rfl
  | case2 last => simp
  | case3 first second rest ih =>
    rw [List.count_append, List.count_cons_of_ne differ, ih]
    simp

theorem count_separator (values : List α) :
    (separated text separator values).count separator = occurrences text separator values + (values.length - 1) := by
  fun_induction separated text separator values with
  | case1 => rfl
  | case2 last => simp
  | case3 first second rest ih =>
    rw [List.count_append, List.count_cons_self, ih]
    simp only [occurrences_cons, List.length_cons]
    omega

/-- As many texts without the separator are joined in one way only. -/
theorem separated_absent_inj {first second : List α} (lengths : first.length = second.length)
    (one : ∀ value ∈ first, separator ∉ text value) (other : ∀ value ∈ second, separator ∉ text value)
    (same : separated text separator first = separated text separator second) : first.map text = second.map text := by
  induction first generalizing second with
  | nil =>
    obtain rfl := List.length_eq_zero_iff.mp lengths.symm
    rfl
  | cons value first ih =>
    match second, first with
    | value' :: [], [] => simpa [separated] using same
    | value' :: again' :: second, again :: first =>
      simp only [separated] at same
      obtain ⟨heads, tails⟩ := before_mark_inj (one value (List.mem_cons_self ..)) (other value' (List.mem_cons_self ..)) same
      have later := ih (by simpa using lengths) (fun value member => one value (List.mem_cons_of_mem _ member))
        (fun value member => other value (List.mem_cons_of_mem _ member)) tails
      rw [List.map_cons, heads, later]
      rfl

end Counts

end PrefixCode

namespace Python
open PrefixCode

/-- What a text says where it stands in another one. -/
theorem toString_text (text : String) : toString text = text := rfl

theorem toList_joinWith_separator {α : Type} (separator : Char) (text : α → String) (values : List α) :
    (joinWith (String.singleton separator) (values.map text)).toList =
      separated (fun value => (text value).toList) separator values := by
  match values with
  | [] => rfl
  | [last] => rfl
  | first :: second :: rest =>
    have later := toList_joinWith_separator separator text (second :: rest)
    simp only [List.map_cons, joinWith, String.toList_append, separated] at later ⊢
    rw [later]
    simp

theorem not_mem_of_mem_splitOn {separator : Char} {letters piece : List Char} (member : piece ∈ letters.splitOn separator) :
    separator ∉ piece := by
  induction letters generalizing piece with
  | nil =>
    obtain rfl : piece = [] := by simpa using member
    exact List.not_mem_nil
  | cons letter rest ih =>
    rw [List.splitOn_cons_eq_if_modifyHead] at member
    split at member
    · obtain rfl | later := List.mem_cons.mp member
      · exact List.not_mem_nil
      · exact ih later
    next other =>
      cases split : rest.splitOn separator with
      | nil => simp [split] at member
      | cons first others =>
        rw [split, List.modifyHead_cons] at member
        obtain rfl | later := List.mem_cons.mp member
        · have plain : separator ∉ first := ih (by simp [split])
          have distinct : separator ≠ letter := fun same => other (by simp [same])
          simp [plain, distinct]
        · exact ih (by simp [split, later])

end Python

/-! Words in a text of tokens that a mark separates, of which only the beginning is
kept. A word without the mark is in one of the tokens. -/

namespace Tokens
open Python PrefixCode

variable {α β : Type}

theorem containsText_iff (text part : String) : containsText text part = true ↔ part.toList <:+: text.toList := by
  rw [containsText, List.any_eq_true, List.infix_iff_prefix_suffix]
  constructor
  · intro ⟨tail, member, front⟩
    exact ⟨tail, List.isPrefixOf_iff_prefix.mp front, (List.mem_tails _ _).mp member⟩
  · intro ⟨tail, front, back⟩
    exact ⟨tail, (List.mem_tails _ _).mpr back, List.isPrefixOf_iff_prefix.mpr front⟩

/-- A word is in a token, before the end of what is kept. -/
def Placed (text : α → List β) (word : List β) : Nat → List α → Prop
  | _, [] => False
  | limit, token :: rest =>
    word <:+: (text token).take limit ∨ (text token).length < limit ∧ Placed text word (limit - ((text token).length + 1)) rest

end Tokens
