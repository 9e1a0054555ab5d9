import Mathlib.Data.List.DropRight
import Xcp.Library.Python

/-! Texts without the spaces at their ends, where several notions of a space
compete: when they all leave the same text, and what tells them apart where they
do not. -/

namespace Strip
open Python (stripBy)

section One
variable {drop : Char → Bool} {letters : List Char}

/-- Neither end of the text would be dropped. -/
structure Bare (drop : Char → Bool) (letters : List Char) : Prop where
  first : ∀ letter ∈ letters.head?, drop letter = false
  last : ∀ letter ∈ letters.getLast?, drop letter = false

theorem dropWhile_append_bare {front rest : List Char} (dropped : ∀ letter ∈ front, drop letter = true)
    (first : ∀ letter ∈ rest.head?, drop letter = false) : (front ++ rest).dropWhile drop = rest := by
  rw [List.dropWhile_append_of_pos dropped]
  cases rest with
  | nil => rfl
  | cons letter rest => simp [first letter rfl]

/-- What is bare is all that is left of it with spaces around. -/
theorem stripBy_around {front middle back : List Char} (before : ∀ letter ∈ front, drop letter = true)
    (bare : Bare drop middle) (after : ∀ letter ∈ back, drop letter = true) :
    stripBy drop (front ++ (middle ++ back)) = middle := by
  have ends (letters : List Char) (last : ∀ letter ∈ letters.getLast?, drop letter = false) :
      ((letters ++ back).reverse.dropWhile drop).reverse = letters := by
    rw [List.reverse_append, dropWhile_append_bare (by simpa using after) (by simpa using last), List.reverse_reverse]
  cases middle with
  | nil =>
    have spaces : ∀ letter ∈ front ++ ([] ++ back), drop letter = true := by
      intro letter member
      rw [List.nil_append, List.mem_append] at member
      exact member.elim (before letter) (after letter)
    rw [stripBy, List.dropWhile_eq_nil_iff.mpr spaces]
    rfl
  | cons letter rest =>
    rw [stripBy, dropWhile_append_bare before (by simpa using bare.first)]
    exact ends (letter :: rest) bare.last

theorem stripBy_of_bare (bare : Bare drop letters) : stripBy drop letters = letters := by
  simpa using @stripBy_around drop [] letters [] (by simp) bare (by simp)

/-- Only spaces are taken away, at both ends. -/
theorem stripBy_split (drop : Char → Bool) (letters : List Char) : ∃ front back, letters = front ++ (stripBy drop letters ++ back) ∧
    (∀ letter ∈ front, drop letter = true) ∧ ∀ letter ∈ back, drop letter = true := by
  refine ⟨letters.takeWhile drop, ((letters.dropWhile drop).reverse.takeWhile drop).reverse, ?_, ?_, ?_⟩
  · rw [stripBy, ← List.reverse_append, List.takeWhile_append_dropWhile, List.reverse_reverse,
      List.takeWhile_append_dropWhile]
  · intro letter member
    exact List.mem_takeWhile_imp member
  · intro letter member
    exact List.mem_takeWhile_imp (List.mem_reverse.mp member)

theorem stripBy_bare (drop : Char → Bool) (letters : List Char) : Bare drop (stripBy drop letters) := by
  have stops (letters : List Char) : ∀ letter ∈ (letters.dropWhile drop).head?, drop letter = false := by
    intro letter found
    have stopped := List.head?_dropWhile_not drop letters
    rw [Option.mem_def.mp found] at stopped
    simpa using stopped
  constructor
  · obtain ⟨back, whole⟩ : stripBy drop letters <+: letters.dropWhile drop := by
      rw [stripBy, ← List.reverse_suffix, List.reverse_reverse]
      exact List.dropWhile_suffix drop
    intro letter found
    apply stops letters letter
    rw [← whole, List.head?_append, Option.mem_def.mp found]
    rfl
  · intro letter found
    rw [stripBy, List.getLast?_reverse] at found
    exact stops _ letter found

/-- Where fewer letters are dropped first, the same is left in the end. -/
theorem stripBy_stripBy {fewer : Char → Bool} (less : ∀ letter, fewer letter = true → drop letter = true) :
    stripBy drop (stripBy fewer letters) = stripBy drop letters := by
  obtain ⟨front, back, whole, before, after⟩ := stripBy_split fewer letters
  obtain ⟨front', back', whole', before', after'⟩ := stripBy_split drop (stripBy fewer letters)
  have around : letters = (front ++ front') ++ (stripBy drop (stripBy fewer letters) ++ (back' ++ back)) := by
    conv_lhs => rw [whole, whole']
    simp
  conv_rhs => rw [around]
  refine (stripBy_around ?_ (stripBy_bare drop _) ?_).symm
  · intro letter member
    exact (List.mem_append.mp member).elim (fun inside => less letter (before letter inside)) (before' letter)
  · intro letter member
    exact (List.mem_append.mp member).elim (after' letter) (fun inside => less letter (after letter inside))

/-- A letter that is not dropped stays first. -/
theorem stripBy_cons {letter : Char} (stays : drop letter = false) (rest : List Char) :
    ∃ others, stripBy drop (letter :: rest) = letter :: others := by
  obtain ⟨front, back, whole, before, after⟩ := stripBy_split drop (letter :: rest)
  cases front with
  | cons first front =>
    obtain rfl : letter = first := (List.cons.inj whole).1
    rw [before letter (List.mem_cons_self ..)] at stays
    cases stays
  | nil =>
    cases left : stripBy drop (letter :: rest) with
    | cons first others =>
      rw [left] at whole
      obtain rfl : letter = first := (List.cons.inj whole).1
      exact ⟨others, rfl⟩
    | nil =>
      rw [left] at whole
      obtain rfl : letter :: rest = back := whole
      rw [after letter (List.mem_cons_self ..)] at stays
      cases stays

theorem stripBy_reverse : stripBy drop letters.reverse = (stripBy drop letters).reverse := by
  obtain ⟨front, back, whole, before, after⟩ := stripBy_split drop letters
  have bare := stripBy_bare drop letters
  conv_lhs => rw [whole, List.reverse_append, List.reverse_append, List.append_assoc]
  refine stripBy_around (by simpa using after) ⟨?_, ?_⟩ (by simpa using before)
  · simpa using bare.last
  · simpa using bare.first

/-- A letter that is not dropped stays last. -/
theorem stripBy_concat {letter : Char} (stays : drop letter = false) (rest : List Char) :
    ∃ others, stripBy drop (rest ++ [letter]) = others ++ [letter] := by
  obtain ⟨others, left⟩ := stripBy_cons stays rest.reverse
  refine ⟨others.reverse, ?_⟩
  rw [← List.reverse_inj, ← stripBy_reverse, List.reverse_append, List.reverse_singleton, List.singleton_append, left]
  simp

end One

/-! ### Several notions of a space -/

section Several
variable {ι : Type*} (spaces : ι → Char → Bool) (core : Char → Bool)

/-- What the one strip leaves begins and ends with no space of any of the others. -/
def Settled (letters : List Char) : Prop := ∀ index, Bare (spaces index) (stripBy core letters)

variable {spaces core} (common : ∀ letter, core letter = true ↔ ∀ index, spaces index letter = true)
include common

theorem stripBy_of_settled {letters : List Char} (settled : Settled spaces core letters) (index : ι) :
    stripBy (spaces index) letters = stripBy core letters := by
  have less : ∀ letter, core letter = true → spaces index letter = true :=
    fun letter shared => (common letter).mp shared index
  rw [← stripBy_stripBy less, stripBy_of_bare (settled index)]

/-- Where spaces are disputed, one of them is left at an end by somebody and would be
dropped by somebody else. -/
theorem disputed_of_not_settled {letters : List Char} (disputed : ¬ Settled spaces core letters) :
    ∃ letter index other, spaces index letter = true ∧ spaces other letter = false ∧
      ((∃ rest, stripBy (spaces other) letters = letter :: rest) ∨ ∃ rest, stripBy (spaces other) letters = rest ++ [letter]) := by
  have bare := stripBy_bare core letters
  have less (index : ι) : ∀ letter, core letter = true → spaces index letter = true :=
    fun letter shared => (common letter).mp shared index
  have keeper {letter : Char} (stays : core letter = false) : ∃ other, spaces other letter = false := by
    by_contra every
    simp only [not_exists, Bool.not_eq_false] at every
    rw [(common letter).mpr every] at stays
    cases stays
  obtain ⟨index, sharp⟩ := not_forall.mp disputed
  by_cases first : ∀ letter ∈ (stripBy core letters).head?, spaces index letter = false
  · have last : ¬ ∀ letter ∈ (stripBy core letters).getLast?, spaces index letter = false :=
      fun last => sharp ⟨first, last⟩
    simp only [not_forall, Bool.not_eq_false] at last
    obtain ⟨letter, found, dropped⟩ := last
    obtain ⟨other, kept⟩ := keeper (bare.last letter found)
    obtain ⟨rest, whole⟩ := List.getLast?_eq_some_iff.mp found
    obtain ⟨others, left⟩ := stripBy_concat kept rest
    refine ⟨letter, index, other, dropped, kept, .inr ⟨others, ?_⟩⟩
    rw [← stripBy_stripBy (less other), whole, left]
  · simp only [not_forall, Bool.not_eq_false] at first
    obtain ⟨letter, found, dropped⟩ := first
    obtain ⟨other, kept⟩ := keeper (bare.first letter found)
    obtain ⟨rest, whole⟩ := List.head?_eq_some_iff.mp found
    obtain ⟨others, left⟩ := stripBy_cons kept rest
    refine ⟨letter, index, other, dropped, kept, .inl ⟨others, ?_⟩⟩
    rw [← stripBy_stripBy (less other), whole, left]

/-- All leave the same text exactly where no space is disputed. -/
theorem stripBy_agree_iff {letters : List Char} :
    (∀ index other, stripBy (spaces index) letters = stripBy (spaces other) letters) ↔ Settled spaces core letters := by
  constructor
  · intro agree
    by_contra disputed
    obtain ⟨letter, index, other, dropped, _, ends⟩ := disputed_of_not_settled common disputed
    have bare := stripBy_bare (spaces index) letters
    rw [agree index other] at bare
    obtain ⟨rest, left⟩ | ⟨rest, left⟩ := ends
    · have stays := bare.first letter (by simp [left])
      rw [dropped] at stays
      cases stays
    · have stays := bare.last letter (by simp [left])
      rw [dropped] at stays
      cases stays
  · intro settled index other
    rw [stripBy_of_settled common settled, stripBy_of_settled common settled]

end Several

end Strip

/-! `str.splitlines`, which undoes the joining of lines by line ends. -/

namespace Python

def isLineEnd (letter : Char) : Bool :=
  [0xa, 0xb, 0xc, 0xd, 0x1c, 0x1d, 0x1e, 0x85, 0x2028, 0x2029].contains letter.toNat

/-- `text.splitlines()`; `line` is what was read of the current line, backwards. -/
def splitlines (line : List Char) : List Char → List String
  | [] => if line.isEmpty then [] else [String.ofList line.reverse]
  | '\r' :: '\n' :: rest => String.ofList line.reverse :: splitlines [] rest
  | letter :: rest =>
    if isLineEnd letter then String.ofList line.reverse :: splitlines [] rest else splitlines (letter :: line) rest

theorem isSpace_of_lineEnd {letter : Char} (ends : isLineEnd letter = true) : isSpace letter = true := by
  simp only [isLineEnd, List.contains_eq_mem, decide_eq_true_eq, List.mem_cons, List.not_mem_nil, or_false] at ends
  simp only [isSpace, Bool.or_eq_true, Bool.and_eq_true, decide_eq_true_eq]
  omega

theorem splitlines_letters {line letters rest : List Char} (inside : ∀ letter ∈ letters, isLineEnd letter = false) :
    splitlines line (letters ++ rest) = splitlines (letters.reverse ++ line) rest := by
  induction letters generalizing line with
  | nil => rfl
  | cons letter letters ih =>
    obtain ⟨first, others⟩ := List.forall_mem_cons.mp inside
    have plain : letter ≠ '\r' := by
      rintro rfl
      exact absurd first (by decide)
    rw [List.cons_append, splitlines, first, if_neg Bool.false_ne_true, ih others]
    · simp
    · intro other same _
      exact plain same

/-- A blank line at the end of the text is none. -/
def shown (lines : List String) : List String := if lines.getLast? = some "" then lines.dropLast else lines

theorem shown_cons (line next : String) (rest : List String) :
    shown (line :: next :: rest) = line :: shown (next :: rest) := by
  unfold shown
  rw [List.getLast?_cons_cons]
  split <;> rfl

theorem splitlines_joinWith {lines : List String} (inside : ∀ line ∈ lines, ∀ letter ∈ line.toList, isLineEnd letter = false) :
    splitlines [] (joinWith "\n" lines).toList = shown lines := by
  induction lines with
  | nil => rfl
  | cons line rest ih =>
    obtain ⟨first, others⟩ := List.forall_mem_cons.mp inside
    cases rest with
    | nil =>
      have read := @splitlines_letters [] line.toList [] first
      rw [List.append_nil, List.append_nil] at read
      rw [joinWith, read, splitlines]
      by_cases blank : line = ""
      · simp [blank, shown]
      · simp [blank, shown]
    | cons next rest =>
      have read := @splitlines_letters [] line.toList ('\n' :: (joinWith "\n" (next :: rest)).toList) first
      have joined : (joinWith "\n" (line :: next :: rest)).toList =
          line.toList ++ '\n' :: (joinWith "\n" (next :: rest)).toList := by
        simp [joinWith]
      rw [joined, read, splitlines]
      · rw [if_pos (by decide), ih others, shown_cons]
        simp
      · intro other same _
        exact absurd same (by decide)

end Python
