import Mathlib.Algebra.GroupWithZero.Nat
import Mathlib.Data.List.Basic

/-! Codes whose words tell where they end, and the texts that are written with
them: one word after another, or with separators between them. -/

namespace PrefixCode

universe u v

variable {α : Type u} {β : Type v}

/-- A word at the start of a text can be read in one way only. -/
structure IsPrefixCode (code : α → List β) : Prop where
  nonempty : ∀ a, code a ≠ []
  reads : ∀ a b rest others, code a ++ rest = code b ++ others → a = b ∧ rest = others

namespace IsPrefixCode

variable {code : α → List β}

theorem until_inj (prefixes : IsPrefixCode code) {stop : β} (stops : ∀ a rest, code a ≠ stop :: rest)
    {first second : List α} {rest others : List β}
    (same : first.flatMap code ++ stop :: rest = second.flatMap code ++ stop :: others) :
    first = second ∧ rest = others := by
  have word (a : α) (more tail : List β) : code a ++ more ≠ stop :: tail := by
    intro equal
    cases spelled : code a with
    | nil => exact prefixes.nonempty a spelled
    | cons letter letters =>
      rw [spelled, List.cons_append, List.cons.injEq] at equal
      exact stops a letters (by rw [spelled, equal.1])
  induction first generalizing second with
  | nil =>
    cases second with
    | nil => exact ⟨rfl, (List.cons.inj same).2⟩
    | cons b second =>
      rw [List.flatMap_nil, List.nil_append, List.flatMap_cons, List.append_assoc] at same
      exact absurd same.symm (word b _ _)
  | cons a first ih =>
    cases second with
    | nil =>
      rw [List.flatMap_nil, List.nil_append, List.flatMap_cons, List.append_assoc] at same
      exact absurd same (word a _ _)
    | cons b second =>
      rw [List.flatMap_cons, List.flatMap_cons, List.append_assoc, List.append_assoc] at same
      obtain ⟨rfl, tails⟩ := prefixes.reads a b _ _ same
      obtain ⟨rfl, ends⟩ := ih tails
      exact ⟨rfl, ends⟩

theorem flatMap_inj (prefixes : IsPrefixCode code) {first second : List α}
    (same : first.flatMap code = second.flatMap code) : first = second := by
  induction first generalizing second with
  | nil =>
    cases second with
    | nil => rfl
    | cons b second =>
      rw [List.flatMap_nil, List.flatMap_cons, eq_comm, List.append_eq_nil_iff] at same
      exact absurd same.1 (prefixes.nonempty b)
  | cons a first ih =>
    cases second with
    | nil =>
      rw [List.flatMap_nil, List.flatMap_cons, List.append_eq_nil_iff] at same
      exact absurd same.1 (prefixes.nonempty a)
    | cons b second =>
      obtain ⟨rfl, tails⟩ := prefixes.reads a b _ _ same
      rw [ih tails]

end IsPrefixCode

/-! ### Words -/

section Words
variable {stops : β → Bool}

/-- What may stand after a word without stops. -/
def Bounded (stops : β → Bool) (rest : List β) : Prop := ∀ letter ∈ rest.head?, stops letter = true

theorem word_inj {first second rest others : List β} (one : ∀ letter ∈ first, stops letter = false)
    (other : ∀ letter ∈ second, stops letter = false) (ends : Bounded stops rest) (ends' : Bounded stops others)
    (same : first ++ rest = second ++ others) : first = second ∧ rest = others := by
  induction first generalizing second with
  | nil =>
    cases second with
    | nil => exact ⟨rfl, same⟩
    | cons letter second =>
      have stop := ends letter (by simp only [List.nil_append] at same; simp [same])
      rw [other letter (List.mem_cons_self ..)] at stop
      cases stop
  | cons letter first ih =>
    cases second with
    | nil =>
      have stop := ends' letter (by simp only [List.nil_append] at same; simp [← same])
      rw [one letter (List.mem_cons_self ..)] at stop
      cases stop
    | cons letter' second =>
      rw [List.cons_append, List.cons_append, List.cons.injEq] at same
      obtain ⟨rfl, same⟩ := same
      obtain ⟨rfl, tails⟩ := ih (fun letter member => one letter (List.mem_cons_of_mem _ member))
        (fun letter member => other letter (List.mem_cons_of_mem _ member)) same
      exact ⟨rfl, tails⟩

end Words

/-! ### Separators -/

section Separated
variable (text : α → List β) (separator : β)

def separated : List α → List β
  | [] => []
  | [last] => text last
  | first :: second :: rest => text first ++ separator :: separated (second :: rest)

variable {text separator} {agree : α → α → Prop} {bounded : List β → Prop} {close : β}

/-- A list of texts that is closed by a letter of its own can be read in one way
only, where its texts can be read before a separator and before that letter. -/
theorem separated_inj (differ : close ≠ separator) (close_bounds : ∀ rest, bounded (close :: rest))
    (separator_bounds : ∀ rest, bounded (separator :: rest))
    (starts : ∀ a rest tail, text a ++ rest ≠ close :: tail) {first second : List α}
    (reads : ∀ a ∈ first, ∀ b rest others, bounded rest → bounded others →
      text a ++ rest = text b ++ others → agree a b ∧ rest = others)
    {rest others : List β}
    (same : separated text separator first ++ close :: rest = separated text separator second ++ close :: others) :
    List.Forall₂ agree first second ∧ rest = others := by
  induction first generalizing second with
  | nil =>
    match second with
    | [] => exact ⟨.nil, (List.cons.inj same).2⟩
    | [b] => exact absurd same.symm (starts b _ _)
    | b :: c :: second =>
      simp only [separated, List.nil_append, List.append_assoc] at same
      exact absurd same.symm (starts b _ _)
  | cons a first ih =>
    have here := reads a (List.mem_cons_self ..)
    have later : ∀ a ∈ first, ∀ b rest others, bounded rest → bounded others →
        text a ++ rest = text b ++ others → agree a b ∧ rest = others :=
      fun a member => reads a (List.mem_cons_of_mem _ member)
    -- where one list ends before the other, its closing letter would be their separator
    match first, second with
    | [], [] => exact absurd same (starts a _ _)
    | [], [b] =>
      obtain ⟨agrees, tails⟩ := here b _ _ (close_bounds _) (close_bounds _) same
      exact ⟨.cons agrees .nil, (List.cons.inj tails).2⟩
    | [], b :: c :: second =>
      rw [separated, separated, List.append_assoc] at same
      obtain ⟨_, tails⟩ := here b _ _ (close_bounds _) (separator_bounds _) same
      exact absurd (List.cons.inj tails).1 differ
    | d :: first, [] =>
      simp only [separated, List.nil_append, List.append_assoc] at same
      exact absurd same (starts a _ _)
    | d :: first, [b] =>
      rw [separated, separated, List.append_assoc] at same
      obtain ⟨_, tails⟩ := here b _ _ (separator_bounds _) (close_bounds _) same
      exact absurd (List.cons.inj tails).1.symm differ
    | d :: first, b :: c :: second =>
      rw [separated, separated, List.append_assoc, List.append_assoc] at same
      obtain ⟨agrees, tails⟩ := here b _ _ (separator_bounds _) (separator_bounds _) same
      obtain ⟨rest_agree, ends⟩ := ih later (List.cons.inj tails).2
      exact ⟨.cons agrees rest_agree, ends⟩

end Separated

/-! ### Reading back -/

section Reading
variable (reader : List β → Option (α × List β)) {code : α → List β}

/-- Word after word, to the end. -/
def readAll : Nat → List β → Option (List α)
  | _, [] => some []
  | 0, _ :: _ => none
  | fuel + 1, letter :: rest =>
    match reader (letter :: rest) with
    | some (a, rest) => (readAll fuel rest).map (List.cons a)
    | none => none

theorem readAll_flatMap (reads : ∀ a rest, reader (code a ++ rest) = some (a, rest)) (nonempty : ∀ a, code a ≠ [])
    {values : List α} {fuel : Nat} (enough : values.length ≤ fuel) : readAll reader fuel (values.flatMap code) = some values := by
  induction values generalizing fuel with
  | nil => cases fuel <;> rfl
  | cons a values ih =>
    cases fuel with
    | zero => cases enough
    | succ fuel =>
      obtain ⟨letter, letters, spelled⟩ := List.exists_cons_of_ne_nil (nonempty a)
      have here := reads a (values.flatMap code)
      have later := ih (Nat.le_of_succ_le_succ enough)
      rw [spelled, List.cons_append] at here
      rw [List.flatMap_cons, spelled, List.cons_append]
      simp only [readAll, here, later, Option.map_some]

omit reader in
theorem length_le_flatMap (nonempty : ∀ a, code a ≠ []) (values : List α) : values.length ≤ (values.flatMap code).length := by
  induction values with
  | nil => exact Nat.zero_le _
  | cons a values ih =>
    have word := List.length_pos_of_ne_nil (nonempty a)
    rw [List.flatMap_cons, List.length_append, List.length_cons]
    omega

variable [DecidableEq β]

/-- Word after word, up to a letter that begins none. -/
def readUntil (stop : β) : Nat → List β → Option (List α × List β)
  | 0, _ | _, [] => none
  | fuel + 1, letter :: rest =>
    if letter = stop then some ([], rest)
    else match reader (letter :: rest) with
      | some (a, rest) => (readUntil stop fuel rest).map (Prod.map (List.cons a) id)
      | none => none

theorem readUntil_flatMap (reads : ∀ a rest, reader (code a ++ rest) = some (a, rest)) (nonempty : ∀ a, code a ≠ [])
    {stop : β} (stops : ∀ a rest, code a ≠ stop :: rest) {values : List α} {fuel : Nat} (enough : values.length < fuel)
    (rest : List β) : readUntil reader stop fuel (values.flatMap code ++ stop :: rest) = some (values, rest) := by
  induction values generalizing fuel with
  | nil =>
    cases fuel with
    | zero => cases enough
    | succ fuel => exact if_pos rfl
  | cons a values ih =>
    cases fuel with
    | zero => cases enough
    | succ fuel =>
      obtain ⟨letter, letters, spelled⟩ := List.exists_cons_of_ne_nil (nonempty a)
      have other : letter ≠ stop := by
        rintro rfl
        exact stops a letters spelled
      have here := reads a (values.flatMap code ++ stop :: rest)
      have later := ih (Nat.lt_of_succ_lt_succ enough)
      rw [spelled, List.cons_append] at here
      rw [List.flatMap_cons, List.append_assoc, spelled, List.cons_append]
      simp only [readUntil, if_neg other, here, later, Option.map_some, Prod.map_apply, id]

/-- Word after word with separators between them, up to the letter that closes
the list. -/
def readSeparated (separator close : β) : Nat → List β → Option (List α × List β)
  | 0, _ => none
  | fuel + 1, letters =>
    match reader letters with
    | some (a, letter :: rest) =>
      if letter = close then some ([a], rest)
      else if letter = separator then (readSeparated separator close fuel rest).map (Prod.map (List.cons a) id)
      else none
    | _ => none

omit reader [DecidableEq β] in
theorem length_le_separated (nonempty : ∀ a, code a ≠ []) (separator : β) (values : List α) :
    values.length ≤ (separated code separator values).length := by
  induction values with
  | nil => exact Nat.zero_le _
  | cons a values ih =>
    have word := List.length_pos_of_ne_nil (nonempty a)
    cases values with
    | nil => exact word
    | cons b values =>
      simp only [separated, List.length_append, List.length_cons] at ih ⊢
      omega

theorem readSeparated_separated {separator close : β} (differ : separator ≠ close) {values : List α}
    (reads : ∀ a ∈ values, ∀ rest, reader (code a ++ separator :: rest) = some (a, separator :: rest) ∧
      reader (code a ++ close :: rest) = some (a, close :: rest))
    (inhabited : values ≠ []) {fuel : Nat} (enough : values.length ≤ fuel) (rest : List β) :
    readSeparated reader separator close fuel (separated code separator values ++ close :: rest) = some (values, rest) := by
  induction values generalizing fuel with
  | nil => exact absurd rfl inhabited
  | cons a values ih =>
    have here := reads a (List.mem_cons_self ..)
    cases fuel with
    | zero => cases enough
    | succ fuel =>
      cases values with
      | nil => simp only [separated, readSeparated, here, if_true]
      | cons b values =>
        have later := ih (fun a member => reads a (List.mem_cons_of_mem _ member)) (List.cons_ne_nil b values)
          (Nat.le_of_succ_le_succ enough)
        rw [separated, List.append_assoc, List.cons_append]
        simp only [readSeparated, here, if_neg differ, if_true, later, Option.map_some, Prod.map_apply, id]

end Reading

end PrefixCode
