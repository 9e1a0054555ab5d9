import Mathlib.Data.List.Basic
import Mathlib.Data.List.TakeWhile
import Mathlib.Order.Basic

/-! Regular expressions without groups, and the search for a match anywhere in a
text. A match is a way through the text from one place to another. -/

namespace Regex

inductive Pattern where
  | empty
  | letter (accepts : Char → Bool)
  /-- Between a word letter and one that is none, or an end of the text. -/
  | boundary
  | seq (first second : Pattern)
  | alt (first second : Pattern)
  | many (body : Pattern)

/-- A place in a text: the letter before it and the text after it. -/
structure Place where
  before : Option Char
  rest : List Char

def Place.atBoundary (isWord : Char → Bool) (place : Place) : Bool :=
  place.before.any isWord != place.rest.head?.any isWord

/-- Everywhere that steps lead, each of which takes at least a letter. -/
def repeated (step : Place → List Place) : Nat → Place → List Place
  | 0, place => [place]
  | letters + 1, place =>
    place :: ((step place).filter (·.rest.length < place.rest.length)).flatMap (repeated step letters)

/-- The places at which a match that begins at the place may end. -/
def Pattern.ends (isWord : Char → Bool) : Pattern → Place → List Place
  | .empty, place => [place]
  | .letter accepts, place =>
    match place.rest with
    | [] => []
    | next :: rest => if accepts next then [{ before := some next, rest }] else []
  | .boundary, place => if place.atBoundary isWord then [place] else []
  | .seq first second, place => (first.ends isWord place).flatMap (second.ends isWord)
  | .alt first second, place => first.ends isWord place ++ second.ends isWord place
  | .many body, place => repeated (body.ends isWord) place.rest.length place

def places (before : Option Char) : List Char → List Place
  | [] => [{ before, rest := [] }]
  | letter :: rest => { before, rest := letter :: rest } :: places (some letter) rest

/-- `re.search(pattern, text)` finds something. -/
def Pattern.search (isWord : Char → Bool) (pattern : Pattern) (text : String) : Bool :=
  (places none text.toList).any (fun place => !(pattern.ends isWord place).isEmpty)

/-! ### Building patterns -/

def oneOf (letters : String) : Pattern := .letter (letters.toList.contains ·)

def sequence : List Pattern → Pattern
  | [] => .empty
  | [pattern] => pattern
  | pattern :: rest => .seq pattern (sequence rest)

/-- The first alternative is not empty. -/
def anyOf (first : Pattern) : List Pattern → Pattern
  | [] => first
  | next :: rest => .alt first (anyOf next rest)

def literal (text : String) : Pattern := sequence (text.toList.map (fun letter => .letter (· = letter)))

/-- The small letter that a letter is compared as when case is ignored; four
letters outside ASCII count as letters of it. -/
def foldCase (letter : Char) : Char :=
  let code := letter.toNat
  if 65 ≤ code ∧ code ≤ 90 then Char.ofNat (code + 32)
  else if code = 0x130 ∨ code = 0x131 then 'i'
  else if code = 0x17f then 's'
  else if code = 0x212a then 'k'
  else letter

/-- A text in ASCII, written small, whatever its case. -/
def caseless (text : String) : Pattern :=
  sequence (text.toList.map (fun letter => .letter (fun found => foldCase found = letter)))

/-- Any letters of one line. -/
def anyLine : Pattern := .many (.letter (· ≠ '\n'))

end Regex

/-! Regular expressions with named groups, matched from the start of a text. There
can be several ways to match; the first of them counts. -/

namespace Groups
open Regex (foldCase)

inductive Pattern where
  | empty
  | letter (accepts : Char → Bool)
  /-- As many letters of a class as there are, or fewer where the rest needs it. -/
  | run (accepts : Char → Bool) (least : Nat) (most : Option Nat := none)
  | seq (first second : Pattern)
  | alt (first second : Pattern)
  | group (name : String) (body : Pattern)
  /-- The end of the text, or the line end before it. -/
  | finish

/-- What the groups have matched, and what is left of the text. -/
structure Way where
  groups : List (String × List Char)
  rest : List Char

/-- The ways to match the start of a text, in the order in which they are tried. -/
def Pattern.ways : Pattern → List Char → List Way
  | .empty, text => [⟨[], text⟩]
  | .letter accepts, text =>
    match text with
    | [] => []
    | next :: rest => if accepts next then [⟨[], rest⟩] else []
  | .run accepts least most, text =>
    let longest := min (text.takeWhile accepts).length (most.getD text.length)
    ((List.range (longest + 1)).filter (least ≤ ·)).reverse.map fun count => ⟨[], text.drop count⟩
  | .seq first second, text =>
    (first.ways text).flatMap fun way => (second.ways way.rest).map fun next => ⟨way.groups ++ next.groups, next.rest⟩
  | .alt first second, text => first.ways text ++ second.ways text
  | .group name body, text =>
    (body.ways text).map fun way => ⟨(name, text.take (text.length - way.rest.length)) :: way.groups, way.rest⟩
  | .finish, text => if text = [] ∨ text = ['\n'] then [⟨[], text⟩] else []

section Equations
variable (text : List Char) (accepts : Char → Bool) (least : Nat) (most : Option Nat) (name : String)
  (first second body : Pattern)

theorem ways_empty : Pattern.empty.ways text = [⟨[], text⟩] := rfl

theorem ways_letter : (Pattern.letter accepts).ways text =
    match text with
    | [] => []
    | next :: rest => if accepts next then [⟨[], rest⟩] else [] := rfl

theorem ways_run : (Pattern.run accepts least most).ways text =
    ((List.range (min (text.takeWhile accepts).length (most.getD text.length) + 1)).filter (least ≤ ·)).reverse.map
      fun count => ⟨[], text.drop count⟩ := rfl

theorem ways_seq : (Pattern.seq first second).ways text =
    (first.ways text).flatMap fun way =>
      (second.ways way.rest).map fun next => ⟨way.groups ++ next.groups, next.rest⟩ := rfl

theorem ways_group : (Pattern.group name body).ways text =
    (body.ways text).map fun way => ⟨(name, text.take (text.length - way.rest.length)) :: way.groups, way.rest⟩ := rfl

theorem ways_finish : Pattern.finish.ways text = if text = [] ∨ text = ['\n'] then [⟨[], text⟩] else [] := rfl

end Equations

/-- `re.match(pattern, text)`. -/
def Pattern.match? (pattern : Pattern) (text : List Char) : Option Way := (pattern.ways text).head?

/-- `match.group(name)`. -/
def Way.group (way : Way) (name : String) : Option (List Char) :=
  (way.groups.find? (fun found => found.1 = name)).map Prod.snd

/-! ### Building patterns -/

def inOrder : List Pattern → Pattern
  | [] => .empty
  | [pattern] => pattern
  | pattern :: rest => .seq pattern (inOrder rest)

def maybe (pattern : Pattern) : Pattern := .alt pattern .empty

def literal (letter : Char) : Pattern := .letter (· = letter)

/-- A text in ASCII, written small, whatever its case. -/
def caseless : List Char → Pattern
  | [] => .empty
  | letter :: rest => .seq (.letter (fun found => foldCase found = letter)) (caseless rest)

/-! ### What a way has read -/

section Ways
variable {text rest : List Char} {groups : List (String × List Char)}

theorem mem_empty : ⟨groups, rest⟩ ∈ Pattern.empty.ways text ↔ groups = [] ∧ text = rest := by
  simp [ways_empty, eq_comm]

theorem mem_letter {accepts : Char → Bool} :
    ⟨groups, rest⟩ ∈ (Pattern.letter accepts).ways text ↔ groups = [] ∧ ∃ letter, text = letter :: rest ∧ accepts letter = true := by
  cases text with
  | nil => simp [ways_letter]
  | cons next others =>
    cases accepted : accepts next with
    | true =>
      simp only [ways_letter, accepted, if_true, List.mem_singleton, Way.mk.injEq]
      constructor
      · intro ⟨nothing, left⟩
        exact ⟨nothing, next, by rw [left], accepted⟩
      · intro ⟨nothing, letter, split, _⟩
        exact ⟨nothing, (List.cons.inj split).2.symm⟩
    | false =>
      simp only [ways_letter, accepted, Bool.false_eq_true, if_false, List.not_mem_nil, false_iff]
      intro ⟨_, letter, split, taken⟩
      rw [← (List.cons.inj split).1, accepted] at taken
      cases taken

theorem mem_run {accepts : Char → Bool} {least : Nat} {most : Option Nat} :
    ⟨groups, rest⟩ ∈ (Pattern.run accepts least most).ways text ↔
      groups = [] ∧ ∃ word, text = word ++ rest ∧ (∀ letter ∈ word, accepts letter = true) ∧ least ≤ word.length ∧
        ∀ bound ∈ most, word.length ≤ bound := by
  simp only [ways_run, List.mem_map, List.mem_reverse, List.mem_filter, List.mem_range, decide_eq_true_eq, Way.mk.injEq]
  constructor
  · intro ⟨count, ⟨within, enough⟩, nothing, left⟩
    have inside : count ≤ (text.takeWhile accepts).length := by omega
    have whole : count ≤ text.length := inside.trans (List.takeWhile_prefix accepts).length_le
    have start : text.take count = (text.takeWhile accepts).take count := by
      conv_lhs => rw [← @List.takeWhile_append_dropWhile _ accepts text, List.take_append_of_le_length inside]
    refine ⟨nothing.symm, text.take count, by rw [← left, List.take_append_drop], ?_, ?_, ?_⟩
    · intro letter member
      rw [start] at member
      exact List.mem_takeWhile_imp (List.mem_of_mem_take member)
    · rwa [List.length_take_of_le whole]
    · intro bound known
      rw [Option.mem_def.mp known, Option.getD_some] at within
      rw [List.length_take_of_le whole]
      omega
  · intro ⟨nothing, word, split, accepted, enough, bounded⟩
    refine ⟨word.length, ⟨?_, enough⟩, nothing.symm, by rw [split, List.drop_left]⟩
    have inside : word.length ≤ (text.takeWhile accepts).length := by
      rw [split, List.takeWhile_append_of_pos accepted, List.length_append]
      omega
    have under : word.length ≤ most.getD text.length := by
      cases most with
      | none => simp [split]
      | some bound => exact bounded bound rfl
    omega

theorem mem_seq {first second : Pattern} :
    ⟨groups, rest⟩ ∈ (Pattern.seq first second).ways text ↔
      ∃ before middle after, ⟨before, middle⟩ ∈ first.ways text ∧ ⟨after, rest⟩ ∈ second.ways middle ∧ groups = before ++ after := by
  simp only [ways_seq, List.mem_flatMap, List.mem_map, Way.mk.injEq]
  constructor
  · intro ⟨way, one, next, two, all, left⟩
    exact ⟨way.groups, way.rest, next.groups, one, left ▸ two, all.symm⟩
  · intro ⟨before, middle, after, one, two, all⟩
    exact ⟨⟨before, middle⟩, one, ⟨after, rest⟩, two, all.symm, rfl⟩

theorem mem_alt {first second : Pattern} :
    ⟨groups, rest⟩ ∈ (Pattern.alt first second).ways text ↔
      ⟨groups, rest⟩ ∈ first.ways text ∨ ⟨groups, rest⟩ ∈ second.ways text := List.mem_append

theorem mem_finish : ⟨groups, rest⟩ ∈ Pattern.finish.ways text ↔ groups = [] ∧ text = rest ∧ (text = [] ∨ text = ['\n']) := by
  rw [ways_finish]
  split
  next ends => simp [ends, eq_comm]
  next goes => simp [goes]

theorem mem_maybe {pattern : Pattern} :
    ⟨groups, rest⟩ ∈ (maybe pattern).ways text ↔ ⟨groups, rest⟩ ∈ pattern.ways text ∨ (groups = [] ∧ text = rest) := by
  rw [maybe, mem_alt, mem_empty]

theorem mem_caseless {letters : List Char} :
    ⟨groups, rest⟩ ∈ (caseless letters).ways text ↔ groups = [] ∧ ∃ word, text = word ++ rest ∧ word.map foldCase = letters := by
  induction letters generalizing text groups with
  | nil => simp [caseless, mem_empty]
  | cons letter letters ih =>
    rw [caseless, mem_seq]
    constructor
    · intro ⟨before, middle, after, one, others, all⟩
      obtain ⟨rfl, first, rfl, same⟩ := mem_letter.mp one
      obtain ⟨rfl, word, rfl, folded⟩ := ih.mp others
      exact ⟨all, first :: word, rfl, by simpa [folded] using same⟩
    · intro ⟨nothing, word, split, folded⟩
      cases word with
      | nil => cases folded
      | cons first word =>
        obtain ⟨same, others⟩ := List.cons.inj folded
        refine ⟨[], word ++ rest, [], mem_letter.mpr ⟨rfl, first, split, by simpa using same⟩, ih.mpr ⟨rfl, word, rfl, others⟩, ?_⟩
        simpa using nothing

/-- What is left is an end of the text. -/
theorem suffix_of_ways {pattern : Pattern} {way : Way} (found : way ∈ pattern.ways text) : way.rest <:+ text := by
  induction pattern generalizing text way with
  | empty =>
    obtain ⟨_, rfl⟩ := mem_empty.mp found
    exact List.suffix_rfl
  | letter accepts =>
    obtain ⟨_, letter, rfl, _⟩ := mem_letter.mp found
    exact List.suffix_cons _ _
  | run accepts least most =>
    obtain ⟨_, word, rfl, _⟩ := mem_run.mp found
    exact List.suffix_append _ _
  | seq first second one two =>
    obtain ⟨before, middle, after, first, second, _⟩ := mem_seq.mp found
    exact (two second).trans (one first)
  | alt first second one two => exact (mem_alt.mp found).elim one two
  | group name body ih =>
    obtain ⟨inner, member, rfl⟩ := List.mem_map.mp found
    exact @ih text inner member
  | finish =>
    obtain ⟨_, rfl, _⟩ := mem_finish.mp found
    exact List.suffix_rfl

theorem mem_group {name : String} {body : Pattern} :
    ⟨groups, rest⟩ ∈ (Pattern.group name body).ways text ↔
      ∃ word inner, text = word ++ rest ∧ ⟨inner, rest⟩ ∈ body.ways text ∧ groups = (name, word) :: inner := by
  simp only [ways_group, List.mem_map, Way.mk.injEq]
  constructor
  · intro ⟨way, member, all, left⟩
    obtain ⟨word, split⟩ := suffix_of_ways member
    refine ⟨word, way.groups, by rw [← left, split], left ▸ member, ?_⟩
    rw [← all, ← split]
    simp
  · intro ⟨word, inner, split, member, all⟩
    refine ⟨⟨inner, rest⟩, member, ?_, rfl⟩
    rw [all, split]
    simp

end Ways

/-! ### Fields -/

section Fields
variable {space : Char → Bool}

variable (space) in
/-- What stands between the spaces of a text. -/
def fields (text : List Char) : List (List Char) := (text.splitOnP space).filter (· ≠ [])

theorem fields_space {letter : Char} (blank : space letter = true) (before after : List Char) :
    fields space (before ++ letter :: after) = fields space before ++ fields space after := by
  rw [fields, List.splitOnP_append_cons before after blank, List.filter_append]
  rfl

theorem fields_word {word : List Char} (inhabited : word ≠ []) (plain : ∀ letter ∈ word, space letter = false) :
    fields space word = [word] := by
  simp [fields, List.splitOnP_eq_singleton plain, inhabited]

theorem fields_gap {gap : List Char} (blank : ∀ letter ∈ gap, space letter = true) (rest : List Char) :
    fields space (gap ++ rest) = fields space rest := by
  induction gap with
  | nil => rfl
  | cons letter gap ih =>
    obtain ⟨first, others⟩ := List.forall_mem_cons.mp blank
    have cut := fields_space first [] (gap ++ rest)
    rw [List.nil_append] at cut
    rw [List.cons_append, cut, ih others]
    simp [fields]

variable (space) in
/-- Nothing is left, or a space is next. -/
def Breaks (rest : List Char) : Prop := ∀ letter ∈ rest.head?, space letter = true

theorem breaks_gap {gap : List Char} (apart : gap ≠ []) (blank : ∀ letter ∈ gap, space letter = true) (rest : List Char) :
    Breaks space (gap ++ rest) := by
  obtain ⟨letter, others, rfl⟩ := List.exists_cons_of_ne_nil apart
  intro next found
  obtain rfl : letter = next := Option.some.inj found
  exact blank letter (List.mem_cons_self ..)

/-- A word is read off before what is behind it. -/
theorem fields_next {word rest : List Char} (inhabited : word ≠ []) (plain : ∀ letter ∈ word, space letter = false)
    (breaks : Breaks space rest) : fields space (word ++ rest) = word :: fields space rest := by
  cases rest with
  | nil => rw [List.append_nil, fields_word inhabited plain]; rfl
  | cons letter others =>
    have first : space letter = true := breaks letter rfl
    have alone := fields_gap (List.forall_mem_singleton.mpr first) others
    rw [fields_space first, fields_word inhabited plain, ← alone]
    rfl

end Fields

end Groups
