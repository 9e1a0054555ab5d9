import Xcp.Policy.Text

/-! The grammar of statements. A line can be matched in one way at most: its fields
between spaces say which, and every line written with single spaces has one. -/

namespace Xcp.Language
open Python Groups
open Regex (foldCase)

def capital (letter : Char) : Char :=
  let code := letter.toNat
  if 97 ≤ code ∧ code ≤ 122 then Char.ofNat (code - 32)
  else if code = 0x131 then 'I'
  else if code = 0x17f then 'S'
  else letter

/-- What Unicode says of letters and capitals, as far as statements need it: no
letter of a word is a space, and ASCII and the four letters that count as ASCII
where case is ignored have their capitals. -/
structure Letters [Host] : Prop where
  spaces : ∀ letter, Host.isAlnum letter = true → isSpace letter = false
  ascii : ∀ letter, letter.toNat < 128 → Host.isAlnum letter = letter.isAlphanum
  upper : ∀ text : String, (∀ letter ∈ text.toList, letter.toNat < 128 ∨ isLatin letter = true) →
    upper text = String.ofList (text.toList.map capital)

/-! ### Letters that are no spaces -/

theorem foldCase_of_space {letter : Char} (space : isSpace letter = true) : foldCase letter = letter := by
  simp only [isSpace, Bool.or_eq_true, Bool.and_eq_true, decide_eq_true_eq] at space
  unfold foldCase
  simp only
  rw [if_neg (by omega), if_neg (by omega), if_neg (by omega), if_neg (by omega)]

theorem not_space_of_fold {letter : Char} (folded : isSpace (foldCase letter) = false) : isSpace letter = false := by
  rw [← Bool.not_eq_true]
  intro space
  rw [foldCase_of_space space, space] at folded
  cases folded

theorem eq_space_of_fold {letter : Char} (folded : foldCase letter = ' ') : letter = ' ' := by
  have codes : ∀ code < 91, (Char.ofNat (code + 32)).toNat = code + 32 := by decide
  unfold foldCase at folded
  simp only at folded
  split_ifs at folded with upper
  · have same := codes letter.toNat (by omega)
    rw [folded] at same
    have space : (' ' : Char).toNat = 32 := rfl
    omega
  · exact absurd folded (by decide)
  · exact absurd folded (by decide)
  · exact absurd folded (by decide)
  · exact folded

theorem plain_of_fold {word letters : List Char} (folded : word.map foldCase = letters)
    (plain : letters.any isSpace = false) : ∀ letter ∈ word, isSpace letter = false := by
  intro letter member
  have inside : foldCase letter ∈ letters := folded ▸ List.mem_map_of_mem member
  exact not_space_of_fold (by simpa using List.any_eq_false.mp plain _ inside)

theorem not_space_of_latin {letter : Char} (latin : isLatin letter = true) : isSpace letter = false := by
  apply not_space_of_fold
  simp only [isLatin, Bool.and_eq_true, decide_eq_true_eq] at latin
  rw [← Bool.not_eq_true]
  intro space
  simp only [isSpace, Bool.or_eq_true, Bool.and_eq_true, decide_eq_true_eq] at space
  omega

def spaceCodes : List Nat :=
  [9, 10, 11, 12, 13, 28, 29, 30, 31, 32, 133, 160, 5760, 8192, 8193, 8194, 8195, 8196, 8197, 8198, 8199, 8200, 8201,
   8202, 8232, 8233, 8239, 8287, 12288]

theorem mem_spaceCodes {letter : Char} (space : isSpace letter = true) : letter.toNat ∈ spaceCodes := by
  simp only [isSpace, Bool.or_eq_true, Bool.and_eq_true, decide_eq_true_eq] at space
  simp only [spaceCodes, List.mem_cons, List.not_mem_nil, or_false]
  omega

theorem not_space_of_decimal {letter : Char} (digit : isDecimal letter = true) : isSpace letter = false := by
  have apart : ∀ code ∈ spaceCodes, decimalZeros.find? (fun start => start ≤ code && code < start + 10) = none := by
    decide +kernel
  rw [← Bool.not_eq_true]
  intro space
  simp [isDecimal, decimal?, apart _ (mem_spaceCodes space)] at digit

section Words
variable [Host] (known : Letters)
include known

theorem Letters.word {letter : Char} (word : isWord letter = true) : isSpace letter = false := by
  rw [isWord, Bool.or_eq_true, decide_eq_true_eq] at word
  obtain alnum | rfl := word
  · exact known.spaces letter alnum
  · decide

theorem Letters.subject {letter : Char} (inside : isSubjectLetter letter = true) : isSpace letter = false := by
  rw [isSubjectLetter, Bool.or_eq_true] at inside
  obtain word | mark := inside
  · exact known.word word
  · simp only [List.contains_eq_mem, List.mem_cons, List.not_mem_nil, or_false, decide_eq_true_eq] at mark
    obtain rfl | rfl | rfl := mark <;> decide

theorem Letters.action {letter : Char} (inside : isActionLetter letter = true) : isSpace letter = false := by
  rw [isActionLetter, Bool.or_eq_true] at inside
  obtain word | mark := inside
  · exact known.word word
  · simp only [List.contains_eq_mem, List.mem_cons, List.not_mem_nil, or_false, decide_eq_true_eq] at mark
    obtain rfl | rfl | rfl | rfl | rfl := mark <;> decide

end Words

/-! ### The parts of a statement -/

structure Amount where
  up : List Char
  toWord : List Char
  amt : List Char
  cur : List Char

structure Parts where
  subj : List Char
  verb : List Char
  negation : Option (List Char)
  action : List Char
  amount : Option Amount
  rev : Option (List Char)

structure Amount.Fits (amount : Amount) : Prop where
  up : amount.up.map foldCase = ['u', 'p']
  toWord : amount.toWord.map foldCase = ['t', 'o']
  amt : amount.amt ≠ [] ∧ ∀ letter ∈ amount.amt, isDecimal letter = true
  cur : (∀ letter ∈ amount.cur, isLatin letter = true) ∧ 3 ≤ amount.cur.length ∧ amount.cur.length ≤ 6

structure Parts.Fits [Host] (parts : Parts) : Prop where
  subj : parts.subj ≠ [] ∧ ∀ letter ∈ parts.subj, isSubjectLetter letter = true
  verb : parts.verb.map foldCase = ['m', 'a', 'y'] ∨ parts.verb.map foldCase = ['m', 'u', 's', 't']
  negation : ∀ word ∈ parts.negation, word.map foldCase = ['n', 'o', 't']
  action : parts.action ≠ [] ∧ ∀ letter ∈ parts.action, isActionLetter letter = true
  amount : ∀ amount ∈ parts.amount, amount.Fits
  rev : ∀ rev ∈ parts.rev, rev ≠ [] ∧ ∀ letter ∈ rev, isWord letter = true

def Amount.fields (amount : Amount) : List (List Char) := [amount.up, amount.toWord, amount.amt, amount.cur]

def Amount.groups (amount : Amount) : List (String × List Char) := [("amt", amount.amt), ("cur", amount.cur)]

namespace Parts

def mod (parts : Parts) : List Char := parts.verb ++ (parts.negation.map (' ' :: ·)).getD []

def bracketed (rev : List Char) : List Char := '[' :: (rev ++ [']'])

def fields (parts : Parts) : List (List Char) :=
  parts.subj :: parts.verb :: (parts.negation.toList ++ parts.action ::
    ((parts.amount.map Amount.fields).getD [] ++ (parts.rev.map bracketed).toList))

def groups (parts : Parts) : List (String × List Char) :=
  [("subj", parts.subj), ("mod", parts.mod), ("action", parts.action)] ++ (parts.amount.map Amount.groups).getD [] ++
    (parts.rev.map fun rev => ("rev", rev)).toList

end Parts

/-! ### What a match has read -/

section Reading
variable {text rest : List Char} {groups : List (String × List Char)}

theorem read_spaces (found : ⟨groups, rest⟩ ∈ spaces.ways text) :
    groups = [] ∧ Breaks isSpace text ∧ fields isSpace text = fields isSpace rest := by
  obtain ⟨nothing, gap, rfl, blank, present, _⟩ := mem_run.mp found
  exact ⟨nothing, breaks_gap (List.ne_nil_of_length_pos present) blank rest, fields_gap blank rest⟩

theorem read_group {name : String} {accepts : Char → Bool} {most : Option Nat} {least : Nat}
    (found : ⟨groups, rest⟩ ∈ (Pattern.group name (.run accepts least most)).ways text) :
    ∃ word, groups = [(name, word)] ∧ text = word ++ rest ∧ (∀ letter ∈ word, accepts letter = true) ∧ least ≤ word.length ∧
      ∀ bound ∈ most, word.length ≤ bound := by
  obtain ⟨word, inner, split, inside, rfl⟩ := mem_group.mp found
  obtain ⟨rfl, other, split', accepted, enough, bounded⟩ := mem_run.mp inside
  obtain rfl : word = other := List.append_cancel_right (split.symm.trans split')
  exact ⟨word, rfl, split, accepted, enough, bounded⟩

theorem read_caseless {letters : List Char} (plain : letters.any isSpace = false) (some_ : letters ≠ [])
    (found : ⟨groups, rest⟩ ∈ (caseless letters).ways text) (breaks : Breaks isSpace rest) :
    groups = [] ∧ ∃ word, word.map foldCase = letters ∧ fields isSpace text = word :: fields isSpace rest := by
  obtain ⟨nothing, word, rfl, folded⟩ := mem_caseless.mp found
  have inhabited : word ≠ [] := by
    rintro rfl
    exact some_ folded.symm
  exact ⟨nothing, word, folded, fields_next inhabited (plain_of_fold folded plain) breaks⟩

theorem read_amount (found : ⟨groups, rest⟩ ∈ amountClause.ways text) (breaks : Breaks isSpace rest) :
    ∃ amount : Amount, amount.Fits ∧ groups = amount.groups ∧ Breaks isSpace text ∧
      fields isSpace text = amount.fields ++ fields isSpace rest := by
  simp only [amountClause, inOrder, mem_seq] at found
  obtain ⟨_, _, _, gap₁, ⟨_, _, _, up, ⟨_, _, _, gap₂, ⟨_, _, _, unto, ⟨_, _, _, gap₃, ⟨_, _, _, amt, ⟨_, _, _, gap₄, cur, rfl⟩, rfl⟩,
    rfl⟩, rfl⟩, rfl⟩, rfl⟩, rfl⟩ := found
  obtain ⟨currency, rfl, rfl, latin, least, most⟩ := read_group cur
  obtain ⟨rfl, breaks₄, same₄⟩ := read_spaces gap₄
  obtain ⟨number, rfl, rfl, digits, some_, _⟩ := read_group amt
  obtain ⟨rfl, breaks₃, same₃⟩ := read_spaces gap₃
  obtain ⟨rfl, toWord, folded, toField⟩ := read_caseless (by decide +kernel) (by simp) unto breaks₃
  obtain ⟨rfl, breaks₂, same₂⟩ := read_spaces gap₂
  obtain ⟨rfl, upWord, folded', upField⟩ := read_caseless (by decide +kernel) (by simp) up breaks₂
  obtain ⟨rfl, breaks₁, same₁⟩ := read_spaces gap₁
  have inhabited : number ≠ [] := List.ne_nil_of_length_pos some_
  refine ⟨⟨upWord, toWord, number, currency⟩, ⟨folded', folded, ⟨inhabited, digits⟩, latin, least, most 6 rfl⟩, rfl, breaks₁, ?_⟩
  have present : currency ≠ [] := List.ne_nil_of_length_pos (by omega)
  rw [same₁, upField, same₂, toField, same₃, fields_next inhabited (fun letter member => not_space_of_decimal (digits letter member))
    breaks₄, same₄, fields_next present (fun letter member => not_space_of_latin (latin letter member)) breaks]
  rfl

theorem read_mark {mark : Char} (found : ⟨groups, rest⟩ ∈ (literal mark).ways text) : groups = [] ∧ text = mark :: rest := by
  obtain ⟨nothing, letter, split, same⟩ := mem_letter.mp found
  exact ⟨nothing, by rw [split, of_decide_eq_true same]⟩

theorem read_class [Host] (known : Letters) (found : ⟨groups, rest⟩ ∈ classClause.ways text) (breaks : Breaks isSpace rest) :
    ∃ rev, (rev ≠ [] ∧ ∀ letter ∈ rev, isWord letter = true) ∧ groups = [("rev", rev)] ∧ Breaks isSpace text ∧
      fields isSpace text = Parts.bracketed rev :: fields isSpace rest := by
  simp only [classClause, inOrder, mem_seq] at found
  obtain ⟨_, _, _, gap, ⟨_, _, _, opening, ⟨_, _, _, name, closing, rfl⟩, rfl⟩, rfl⟩ := found
  obtain ⟨rfl, rfl⟩ := read_mark closing
  obtain ⟨rev, rfl, rfl, word, some_, _⟩ := read_group name
  obtain ⟨rfl, rfl⟩ := read_mark opening
  obtain ⟨rfl, breaks', same⟩ := read_spaces gap
  have plain : ∀ letter ∈ Parts.bracketed rev, isSpace letter = false := by
    intro letter member
    simp only [Parts.bracketed, List.mem_cons, List.mem_append, List.not_mem_nil, or_false] at member
    obtain rfl | inside | rfl := member
    · decide
    · exact known.word (word letter inside)
    · decide
  have whole : '[' :: (rev ++ ']' :: rest) = Parts.bracketed rev ++ rest := by simp [Parts.bracketed]
  have inhabited : Parts.bracketed rev ≠ [] := List.cons_ne_nil _ _
  refine ⟨rev, ⟨List.ne_nil_of_length_pos some_, word⟩, rfl, breaks', ?_⟩
  rw [same, whole, fields_next inhabited plain breaks]

theorem split_negated {word verb : List Char} (folded : word.map foldCase = verb ++ [' ', 'n', 'o', 't']) :
    ∃ first second, word = first ++ ' ' :: second ∧ first.map foldCase = verb ∧ second.map foldCase = ['n', 'o', 't'] := by
  obtain ⟨first, others, rfl, one, later⟩ := List.map_eq_append_iff.mp folded
  obtain ⟨letter, second, rfl, space, two⟩ := List.map_eq_cons_iff.mp later
  exact ⟨first, second, by rw [eq_space_of_fold space], one, two⟩

/-- The verb, and whether it is negated. -/
theorem read_modal (found : ⟨groups, rest⟩ ∈ (Pattern.group "mod" modal).ways text) (breaks : Breaks isSpace rest) :
    ∃ (verb : List Char) (negation : Option (List Char)),
      (verb.map foldCase = ['m', 'a', 'y'] ∨ verb.map foldCase = ['m', 'u', 's', 't']) ∧
      (∀ word ∈ negation, word.map foldCase = ['n', 'o', 't']) ∧
      groups = [("mod", verb ++ (negation.map (' ' :: ·)).getD [])] ∧
      fields isSpace text = verb :: (negation.toList ++ fields isSpace rest) := by
  obtain ⟨word, inner, split, inside, rfl⟩ := mem_group.mp found
  have negated {verb : List Char} (plain : verb.any isSpace = false) (present : verb ≠ [])
      (matched : ⟨inner, rest⟩ ∈ (caseless (verb ++ [' ', 'n', 'o', 't'])).ways text) :
      ∃ first second, first.map foldCase = verb ∧ second.map foldCase = ['n', 'o', 't'] ∧
        [("mod", word)] = [("mod", first ++ ' ' :: second)] ∧ inner = [] ∧
        fields isSpace text = first :: second :: fields isSpace rest := by
    obtain ⟨nothing, other, split', folded⟩ := mem_caseless.mp matched
    obtain rfl : word = other := List.append_cancel_right (split.symm.trans split')
    obtain ⟨first, second, rfl, one, two⟩ := split_negated folded
    have inhabited : first ≠ [] := by
      rintro rfl
      exact present one.symm
    have some_ : second ≠ [] := by
      rintro rfl
      cases two
    refine ⟨first, second, one, two, rfl, nothing, ?_⟩
    have blank : isSpace ' ' = true := by decide
    rw [split, List.append_assoc, List.cons_append, fields_space blank, fields_word inhabited (plain_of_fold one plain),
      fields_next some_ (plain_of_fold two (by decide)) breaks]
    rfl
  have positive {verb : List Char} (plain : verb.any isSpace = false) (present : verb ≠ [])
      (matched : ⟨inner, rest⟩ ∈ (caseless verb).ways text) :
      word.map foldCase = verb ∧ inner = [] ∧ fields isSpace text = word :: fields isSpace rest := by
    obtain ⟨nothing, other, split', folded⟩ := mem_caseless.mp matched
    obtain rfl : word = other := List.append_cancel_right (split.symm.trans split')
    have inhabited : word ≠ [] := by
      rintro rfl
      exact present folded.symm
    exact ⟨folded, nothing, by rw [split, fields_next inhabited (plain_of_fold folded plain) breaks]⟩
  have words : "may not".toList = ['m', 'a', 'y'] ++ [' ', 'n', 'o', 't'] ∧
      "must not".toList = ['m', 'u', 's', 't'] ++ [' ', 'n', 'o', 't'] ∧ "may".toList = ['m', 'a', 'y'] ∧
      "must".toList = ['m', 'u', 's', 't'] := by decide +kernel
  simp only [modal, mem_alt, words] at inside
  obtain matched | matched | matched | matched := inside
  · obtain ⟨first, second, one, two, same, rfl, read⟩ := negated (by decide) (by simp) matched
    exact ⟨first, some second, .inl one, by simpa using two, same, read⟩
  · obtain ⟨first, second, one, two, same, rfl, read⟩ := negated (by decide) (by simp) matched
    exact ⟨first, some second, .inr one, by simpa using two, same, read⟩
  · obtain ⟨folded, rfl, read⟩ := positive (by decide) (by simp) matched
    exact ⟨word, none, .inl folded, by simp, by simp, read⟩
  · obtain ⟨folded, rfl, read⟩ := positive (by decide) (by simp) matched
    exact ⟨word, none, .inr folded, by simp, by simp, read⟩

theorem read_end {left : List Char} {before : List (String × List Char)} (gap : ⟨before, left⟩ ∈ (Pattern.run isSpace 0).ways text)
    (finish : ⟨groups, rest⟩ ∈ Pattern.finish.ways left) :
    before = [] ∧ groups = [] ∧ Breaks isSpace text ∧ fields isSpace text = [] := by
  obtain ⟨rfl, _, nothing⟩ := mem_finish.mp finish
  obtain ⟨rfl, blanks, rfl, blank, _⟩ := mem_run.mp gap
  have all : ∀ letter ∈ blanks ++ left, isSpace letter = true := by
    intro letter member
    obtain inside | inside := List.mem_append.mp member
    · exact blank letter inside
    · obtain rfl | rfl := nothing
      · cases inside
      · obtain rfl := List.mem_singleton.mp inside
        decide
  have none := fields_gap all []
  rw [List.append_nil] at none
  refine ⟨rfl, rfl, ?_, none⟩
  intro letter first
  exact all letter (List.mem_of_mem_head? first)

theorem read_maybe_class [Host] (known : Letters) (found : ⟨groups, rest⟩ ∈ (maybe classClause).ways text)
    (breaks : Breaks isSpace rest) (last : fields isSpace rest = []) :
    ∃ rev : Option (List Char), (∀ name ∈ rev, name ≠ [] ∧ ∀ letter ∈ name, isWord letter = true) ∧
      groups = (rev.map fun name => ("rev", name)).toList ∧ Breaks isSpace text ∧
      fields isSpace text = (rev.map Parts.bracketed).toList := by
  obtain present | ⟨rfl, rfl⟩ := mem_maybe.mp found
  · obtain ⟨rev, word, rfl, breaks', same⟩ := read_class known present breaks
    exact ⟨some rev, by simpa using word, rfl, breaks', by rw [same, last]; rfl⟩
  · exact ⟨none, by simp, rfl, breaks, last⟩

theorem read_maybe_amount (found : ⟨groups, rest⟩ ∈ (maybe amountClause).ways text) (breaks : Breaks isSpace rest) :
    ∃ clause : Option Amount, (∀ amount ∈ clause, amount.Fits) ∧ groups = (clause.map Amount.groups).getD [] ∧
      Breaks isSpace text ∧ fields isSpace text = (clause.map Amount.fields).getD [] ++ fields isSpace rest := by
  obtain present | ⟨rfl, rfl⟩ := mem_maybe.mp found
  · obtain ⟨clause, fits, rfl, breaks', same⟩ := read_amount present breaks
    exact ⟨some clause, by simpa using fits, rfl, breaks', same⟩
  · exact ⟨none, by simp, rfl, breaks, rfl⟩

/-- The parts of a matched line, read from its end. -/
theorem read_statement [Host] (known : Letters) (found : ⟨groups, rest⟩ ∈ statement.ways text) :
    ∃ parts : Parts, parts.Fits ∧ groups = parts.groups ∧ fields isSpace text = parts.fields := by
  simp only [statement, inOrder, mem_seq] at found
  obtain ⟨_, _, _, subj, ⟨_, _, _, gap₁, ⟨_, _, _, mod, ⟨_, _, _, gap₂, ⟨_, _, _, action, ⟨_, _, _, amount, ⟨_, _, _, class_,
    ⟨_, _, _, gap₃, finish, rfl⟩, rfl⟩, rfl⟩, rfl⟩, rfl⟩, rfl⟩, rfl⟩, rfl⟩ := found
  obtain ⟨rfl, rfl, breaks₃, same₃⟩ := read_end gap₃ finish
  obtain ⟨rev, word, rfl, breaks₄, same₄⟩ := read_maybe_class known class_ breaks₃ same₃
  obtain ⟨clause, fits, rfl, breaks₅, same₅⟩ := read_maybe_amount amount breaks₄
  obtain ⟨act, rfl, rfl, actionLetters, someAction, _⟩ := read_group action
  obtain ⟨rfl, breaks₆, same₆⟩ := read_spaces gap₂
  obtain ⟨verb, negation, verbWord, negationWord, rfl, same₇⟩ := read_modal mod breaks₆
  obtain ⟨rfl, breaks₈, same₈⟩ := read_spaces gap₁
  obtain ⟨subject, rfl, rfl, subjectLetters, someSubject, _⟩ := read_group subj
  have subjectThere : subject ≠ [] := List.ne_nil_of_length_pos someSubject
  have actionThere : act ≠ [] := List.ne_nil_of_length_pos someAction
  refine ⟨⟨subject, verb, negation, act, clause, rev⟩,
    ⟨⟨subjectThere, subjectLetters⟩, verbWord, negationWord, ⟨actionThere, actionLetters⟩, fits, word⟩, ?_, ?_⟩
  · simp [Parts.groups, Parts.mod]
  · rw [fields_next subjectThere (fun letter member => known.subject (subjectLetters letter member)) breaks₈, same₈, same₇, same₆,
      fields_next actionThere (fun letter member => known.action (actionLetters letter member)) breaks₅, same₅, same₄]
    rfl

end Reading

/-! ### One way at most -/

section Unambiguous
variable [Host]

omit [Host] in
theorem clauses_inj {one two : Option Amount} {rev rev' : Option (List Char)}
    (same : (one.map Amount.fields).getD [] ++ (rev.map Parts.bracketed).toList =
      (two.map Amount.fields).getD [] ++ (rev'.map Parts.bracketed).toList) : one = two ∧ rev = rev' := by
  cases one with
  | none =>
    cases two with
    | none => cases rev <;> cases rev' <;> simp_all [Parts.bracketed]
    | some amount => cases rev <;> cases rev' <;> simp [Amount.fields] at same
  | some amount =>
    cases two with
    | none => cases rev <;> cases rev' <;> simp [Amount.fields] at same
    | some amount' =>
      obtain ⟨up, toWord, amt, cur⟩ := amount
      obtain ⟨up', toWord', amt', cur'⟩ := amount'
      simp only [Amount.fields, Option.map_some, Option.getD_some, List.cons_append, List.nil_append, List.cons.injEq] at same
      obtain ⟨rfl, rfl, rfl, rfl, brackets⟩ := same
      exact ⟨rfl, by cases rev <;> cases rev' <;> simp_all [Parts.bracketed]⟩

omit [Host] in
/-- What begins the clauses of a statement begins with `u` or with a bracket. -/
theorem clauses_head {amount : Option Amount} {rev : Option (List Char)} (fits : ∀ clause ∈ amount, clause.Fits)
    {word : List Char} {others : List (List Char)}
    (begins : word :: others = (amount.map Amount.fields).getD [] ++ (rev.map Parts.bracketed).toList) :
    (∃ clause ∈ amount, word.map foldCase = ['u', 'p'] ∧ ∃ after, others = clause.toWord :: after) ∨
      (word.head? = some '[' ∧ others = []) := by
  cases amount with
  | some clause =>
    obtain ⟨rfl, rfl⟩ := List.cons.inj begins
    exact .inl ⟨clause, rfl, (fits clause rfl).up, _, rfl⟩
  | none =>
    cases rev with
    | none => cases begins
    | some name =>
      obtain ⟨rfl, rfl⟩ := List.cons.inj begins
      exact .inr ⟨rfl, rfl⟩

/-- An action followed by clauses is no clause. -/
theorem action_not_clause {action : List Char} (actionLetters : ∀ letter ∈ action, isActionLetter letter = true) (known : Letters)
    {one two : Option Amount} {rev rev' : Option (List Char)} (fits : ∀ clause ∈ one, clause.Fits)
    (fits' : ∀ clause ∈ two, clause.Fits)
    (same : action :: ((one.map Amount.fields).getD [] ++ (rev.map Parts.bracketed).toList) =
      (two.map Amount.fields).getD [] ++ (rev'.map Parts.bracketed).toList) : False := by
  obtain ⟨clause, member, _, after, follows⟩ | ⟨bracket, _⟩ := clauses_head fits' same
  · have unto := (fits' clause member).toWord
    obtain ⟨_, _, up, _⟩ | ⟨bracket, _⟩ := clauses_head fits follows.symm
    · rw [up] at unto
      exact absurd unto (by decide)
    · obtain ⟨first, others, split⟩ : ∃ first others, clause.toWord = first :: others := by
        cases whole : clause.toWord with
        | nil => rw [whole] at unto; cases unto
        | cons first others => exact ⟨first, others, rfl⟩
      rw [split] at bracket unto
      obtain rfl : first = '[' := Option.some.inj bracket
      exact absurd (List.cons.inj unto).1 (by decide)
  · have letter := actionLetters '[' (List.mem_of_mem_head? bracket)
    have alnum := known.ascii '[' (by decide)
    simp [isActionLetter, isWord, alnum] at letter

/-- The fields of a line tell its parts: `NOT` is only the action where nothing else can be. -/
theorem fields_inj (known : Letters) {one two : Parts} (fits : one.Fits) (fits' : two.Fits) (same : one.fields = two.fields) :
    one = two := by
  obtain ⟨subj, verb, negation, action, amount, rev⟩ := one
  obtain ⟨subj', verb', negation', action', amount', rev'⟩ := two
  simp only [Parts.fields, List.cons.injEq] at same
  obtain ⟨rfl, rfl, tail⟩ := same
  cases negation with
  | none =>
    cases negation' with
    | none =>
      obtain ⟨rfl, clauses⟩ := List.cons.inj tail
      obtain ⟨rfl, rfl⟩ := clauses_inj clauses
      rfl
    | some word =>
      obtain ⟨_, clauses⟩ := List.cons.inj tail
      exact (action_not_clause fits'.action.2 known fits'.amount fits.amount clauses.symm).elim
  | some word =>
    cases negation' with
    | none =>
      obtain ⟨_, clauses⟩ := List.cons.inj tail
      exact (action_not_clause fits.action.2 known fits.amount fits'.amount clauses).elim
    | some word' =>
      obtain ⟨rfl, others⟩ := List.cons.inj tail
      obtain ⟨rfl, clauses⟩ := List.cons.inj others
      obtain ⟨rfl, rfl⟩ := clauses_inj clauses
      rfl

theorem statement_unambiguous (known : Letters) {text : List Char} {one two : Way} (first : one ∈ statement.ways text)
    (second : two ∈ statement.ways text) : one.groups = two.groups := by
  obtain ⟨parts, fits, groups, read⟩ := read_statement known first
  obtain ⟨parts', fits', groups', read'⟩ := read_statement known second
  rw [groups, groups', fields_inj known fits fits' (read.symm.trans read')]

end Unambiguous

/-! ### Lines that are written -/

section Writing
variable (rest : List Char)

theorem way_group {word : List Char} {accepts : Char → Bool} {least : Nat} {most : Option Nat} (name : String)
    (accepted : ∀ letter ∈ word, accepts letter = true) (enough : least ≤ word.length) (bounded : ∀ bound ∈ most, word.length ≤ bound) :
    ⟨[(name, word)], rest⟩ ∈ (Pattern.group name (.run accepts least most)).ways (word ++ rest) :=
  mem_group.mpr ⟨word, [], rfl, mem_run.mpr ⟨rfl, word, rfl, accepted, enough, bounded⟩, rfl⟩

theorem way_space : ⟨[], rest⟩ ∈ spaces.ways (' ' :: rest) :=
  mem_run.mpr ⟨rfl, [' '], rfl, List.forall_mem_singleton.mpr (by decide), le_rfl, fun _ found => by cases found⟩

theorem way_mark (mark : Char) : ⟨[], rest⟩ ∈ (literal mark).ways (mark :: rest) :=
  mem_letter.mpr ⟨rfl, mark, rfl, decide_eq_true rfl⟩

theorem way_caseless {word letters : List Char} (folded : word.map foldCase = letters) :
    ⟨[], rest⟩ ∈ (caseless letters).ways (word ++ rest) :=
  mem_caseless.mpr ⟨rfl, word, rfl, folded⟩

theorem way_modal [Host] {parts : Parts} (fits : parts.Fits) :
    ⟨[("mod", parts.mod)], rest⟩ ∈ (Pattern.group "mod" modal).ways (parts.mod ++ rest) := by
  refine mem_group.mpr ⟨parts.mod, [], rfl, ?_, rfl⟩
  have words : "may not".toList = ['m', 'a', 'y', ' ', 'n', 'o', 't'] ∧ "must not".toList = ['m', 'u', 's', 't', ' ', 'n', 'o', 't'] ∧
      "may".toList = ['m', 'a', 'y'] ∧ "must".toList = ['m', 'u', 's', 't'] := by decide +kernel
  simp only [modal, mem_alt, words]
  have space : foldCase ' ' = ' ' := by decide
  cases whole : parts.negation with
  | none =>
    have mod : parts.mod = parts.verb := by simp [Parts.mod, whole]
    rw [mod]
    obtain may | must := fits.verb
    · exact .inr (.inr (.inl (way_caseless rest may)))
    · exact .inr (.inr (.inr (way_caseless rest must)))
  | some word =>
    have negated := fits.negation word whole
    have mod : parts.mod.map foldCase = parts.verb.map foldCase ++ [' ', 'n', 'o', 't'] := by
      simp [Parts.mod, whole, negated, space]
    obtain may | must := fits.verb
    · rw [may] at mod
      exact .inl (way_caseless rest mod)
    · rw [must] at mod
      exact .inr (.inl (way_caseless rest mod))

def Amount.line (amount : Amount) : List Char :=
  ' ' :: (amount.up ++ ' ' :: (amount.toWord ++ ' ' :: (amount.amt ++ ' ' :: amount.cur)))

/-- The parts with one space between each two. -/
def Parts.line (parts : Parts) : List Char :=
  parts.subj ++ ' ' :: (parts.mod ++ ' ' :: (parts.action ++
    ((parts.amount.map Amount.line).getD [] ++ (parts.rev.map fun rev => ' ' :: Parts.bracketed rev).getD [])))

theorem way_amount {amount : Amount} (fits : amount.Fits) : ⟨amount.groups, rest⟩ ∈ amountClause.ways (amount.line ++ rest) := by
  have words : "up".toList = ['u', 'p'] ∧ "to".toList = ['t', 'o'] := by decide +kernel
  simp only [amountClause, inOrder, mem_seq, words]
  have line : amount.line ++ rest = ' ' :: (amount.up ++ (' ' :: (amount.toWord ++ (' ' :: (amount.amt ++ (' ' ::
      (amount.cur ++ rest))))))) := by simp [Amount.line]
  rw [line]
  obtain ⟨latin, least, most⟩ := fits.cur
  obtain ⟨present, digits⟩ := fits.amt
  have one : 1 ≤ amount.amt.length := List.length_pos_iff.mpr present
  exact ⟨_, _, _, way_space _, ⟨_, _, _, way_caseless _ fits.up, ⟨_, _, _, way_space _, ⟨_, _, _, way_caseless _ fits.toWord,
    ⟨_, _, _, way_space _, ⟨_, _, _, way_group _ "amt" digits one (by simp), ⟨_, _, _, way_space _,
    way_group rest "cur" latin least (by simpa using most), rfl⟩, rfl⟩, rfl⟩, rfl⟩, rfl⟩, rfl⟩, rfl⟩

theorem way_class [Host] {rev : List Char} (word : rev ≠ [] ∧ ∀ letter ∈ rev, isWord letter = true) :
    ⟨[("rev", rev)], rest⟩ ∈ classClause.ways (' ' :: Parts.bracketed rev ++ rest) := by
  simp only [classClause, inOrder, mem_seq]
  have line : ' ' :: Parts.bracketed rev ++ rest = ' ' :: ('[' :: (rev ++ (']' :: rest))) := by simp [Parts.bracketed]
  rw [line]
  have one : 1 ≤ rev.length := List.length_pos_iff.mpr word.1
  exact ⟨_, _, _, way_space _, ⟨_, _, _, way_mark _ '[', ⟨_, _, _, way_group _ "rev" word.2 one (by simp), way_mark rest ']', rfl⟩,
    rfl⟩, rfl⟩

/-- A written statement is matched with its parts. -/
theorem way_line [Host] {parts : Parts} (fits : parts.Fits) : ⟨parts.groups, []⟩ ∈ statement.ways parts.line := by
  simp only [statement, inOrder, mem_seq]
  have finish : ⟨[], []⟩ ∈ Pattern.finish.ways [] := mem_finish.mpr ⟨rfl, rfl, .inl rfl⟩
  have gap : ⟨[], []⟩ ∈ (Pattern.run isSpace 0).ways [] := mem_run.mpr ⟨rfl, [], rfl, by simp, le_rfl, by simp⟩
  have class_ : ⟨(parts.rev.map fun rev => ("rev", rev)).toList, []⟩ ∈
      (maybe classClause).ways ((parts.rev.map fun rev => ' ' :: Parts.bracketed rev).getD []) := by
    cases whole : parts.rev with
    | none => exact mem_maybe.mpr (.inr ⟨rfl, rfl⟩)
    | some rev => simpa using mem_maybe.mpr (.inl (way_class [] (fits.rev rev whole)))
  have amount : ⟨(parts.amount.map Amount.groups).getD [], (parts.rev.map fun rev => ' ' :: Parts.bracketed rev).getD []⟩ ∈
      (maybe amountClause).ways ((parts.amount.map Amount.line).getD [] ++
        (parts.rev.map fun rev => ' ' :: Parts.bracketed rev).getD []) := by
    cases whole : parts.amount with
    | none => exact mem_maybe.mpr (.inr ⟨rfl, rfl⟩)
    | some amount => exact mem_maybe.mpr (.inl (way_amount _ (fits.amount amount whole)))
  have subj : 1 ≤ parts.subj.length := List.length_pos_iff.mpr fits.subj.1
  have action : 1 ≤ parts.action.length := List.length_pos_iff.mpr fits.action.1
  refine ⟨_, _, _, way_group _ "subj" fits.subj.2 subj (by simp), ⟨_, _, _, way_space _, ⟨_, _, _, way_modal _ fits,
    ⟨_, _, _, way_space _, ⟨_, _, _, way_group _ "action" fits.action.2 action (by simp), ⟨_, _, _, amount, ⟨_, _, _, class_,
    ⟨_, _, _, gap, finish, rfl⟩, rfl⟩, rfl⟩, rfl⟩, rfl⟩, rfl⟩, rfl⟩, ?_⟩
  simp [Parts.groups]

theorem match_line [Host] (known : Letters) {parts : Parts} (fits : parts.Fits) :
    ∃ way, statement.match? parts.line = some way ∧ way.groups = parts.groups := by
  have written := way_line fits
  cases found : statement.match? parts.line with
  | none =>
    rw [Pattern.match?, List.head?_eq_none_iff] at found
    simp [found] at written
  | some way =>
    exact ⟨way, rfl, statement_unambiguous known (List.mem_of_mem_head? found) written⟩

end Writing

end Xcp.Language
