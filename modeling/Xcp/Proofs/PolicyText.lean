import Xcp.Library.Digits
import Xcp.Proofs.RuleMeaning
import Xcp.Proofs.StatementGrammar

/-! What `explain` writes of a policy that was read, `parse_text` reads as a policy
that decides every request alike. -/

namespace Xcp.Language
open Checked Python Groups Sha256
open Regex (foldCase)

/-! ### Capitals -/

theorem capital_of_fold {letter small : Char} (folded : foldCase letter = small) (plain : small ≠ 'i' ∧ small ≠ 'k') :
    capital letter = capital small := by
  have codes : ∀ code < 91, (Char.ofNat (code + 32)).toNat = code + 32 := by decide
  unfold foldCase at folded
  simp only at folded
  split_ifs at folded with upper dotted long kelvin
  · have number := codes letter.toNat (by omega)
    rw [folded] at number
    unfold capital
    simp only [number]
    rw [if_neg (by omega), if_neg (by omega), if_neg (by omega), if_pos (by omega), Nat.add_sub_cancel, Char.ofNat_toNat]
  · exact absurd folded.symm plain.1
  · have written : letter = Char.ofNat 383 := by rw [← long, Char.ofNat_toNat]
    rw [← folded, written]
    decide
  · exact absurd folded.symm plain.2
  · rw [folded]

theorem capital_word {word letters : List Char} (folded : word.map foldCase = letters)
    (plain : ∀ letter ∈ letters, letter ≠ 'i' ∧ letter ≠ 'k') : word.map capital = letters.map capital := by
  subst folded
  rw [List.map_map]
  apply List.map_congr_left
  intro letter member
  exact capital_of_fold rfl (plain _ (List.mem_map_of_mem member))

theorem capital_latin {letter : Char} (latin : isLatin letter = true) :
    isLatin (capital letter) = true ∧ capital (capital letter) = capital letter := by
  have small : ∀ code < 123, 97 ≤ code → isLatin (capital (Char.ofNat code)) = true ∧
      capital (capital (Char.ofNat code)) = capital (Char.ofNat code) := by decide
  have dotless : isLatin (capital (Char.ofNat 0x131)) = true ∧
      capital (capital (Char.ofNat 0x131)) = capital (Char.ofNat 0x131) := by decide
  have long : isLatin (capital (Char.ofNat 0x17f)) = true ∧
      capital (capital (Char.ofNat 0x17f)) = capital (Char.ofNat 0x17f) := by decide
  rw [← Char.ofNat_toNat letter] at latin ⊢
  by_cases ascii : 97 ≤ letter.toNat ∧ letter.toNat ≤ 122
  · exact small letter.toNat (by omega) ascii.1
  · by_cases first : letter.toNat = 0x131
    · rw [first]
      exact dotless
    · by_cases second : letter.toNat = 0x17f
      · rw [second]
        exact long
      · have same : capital (Char.ofNat letter.toNat) = Char.ofNat letter.toNat := by
          rw [Char.ofNat_toNat]
          simp only [capital]
          rw [if_neg ascii, if_neg first, if_neg second]
        rw [same, same]
        exact ⟨latin, rfl⟩

theorem latin_of_fold {word letters : List Char} (folded : word.map foldCase = letters)
    (small : ∀ letter ∈ letters, 97 ≤ letter.toNat ∧ letter.toNat ≤ 122) : ∀ letter ∈ word, isLatin letter = true := by
  intro letter member
  have within := small (foldCase letter) (folded ▸ List.mem_map_of_mem member)
  simpa [isLatin] using within

/-- What each group has matched. -/
structure Groups (way : Way) (parts : Parts) : Prop where
  subj : groupText way "subj" = String.ofList parts.subj
  mod : groupText way "mod" = String.ofList parts.mod
  action : groupText way "action" = String.ofList parts.action
  amt : groupText way "amt" = String.ofList ((parts.amount.map Amount.amt).getD [])
  cur : groupText way "cur" = String.ofList ((parts.amount.map Amount.cur).getD [])
  rev : groupText way "rev" = String.ofList (parts.rev.getD [])

theorem groups_of_eq {way : Way} {parts : Parts} (groups : way.groups = parts.groups) : Groups way parts := by
  obtain ⟨subj, verb, negation, action, amount, rev⟩ := parts
  constructor <;> cases amount <;> cases rev <;>
    simp [groupText, Way.group, groups, Parts.groups, Amount.groups]

section Rules
variable [Host] (known : Letters)
include known

theorem Letters.upper_latin {word : List Char} (latin : ∀ letter ∈ word, isLatin letter = true) :
    Python.upper (String.ofList word) = String.ofList (word.map capital) := by
  rw [known.upper _ (by simpa using fun letter member => .inr (latin letter member)), String.toList_ofList]

omit known [Host] in
theorem modal_words : ∀ may negated : Bool,
    containsText (String.ofList ((if may then ['M', 'A', 'Y'] else ['M', 'U', 'S', 'T']) ++
      if negated then [' ', 'N', 'O', 'T'] else [])) "NOT" = negated ∧
    (decide (String.ofList ((if may then ['M', 'A', 'Y'] else ['M', 'U', 'S', 'T']) ++
      if negated then [' ', 'N', 'O', 'T'] else []) = "MUST")) = (!negated && !may) := by
  decide

theorem Letters.upper_mod {parts : Parts} (fits : parts.Fits) : Python.upper (String.ofList parts.mod) =
    String.ofList ((if parts.verb.map foldCase = ['m', 'a', 'y'] then ['M', 'A', 'Y'] else ['M', 'U', 'S', 'T']) ++
      if parts.negation.isSome then [' ', 'N', 'O', 'T'] else []) := by
  have verb : (∀ letter ∈ parts.verb, isLatin letter = true) ∧ parts.verb.map capital =
      if parts.verb.map foldCase = ['m', 'a', 'y'] then ['M', 'A', 'Y'] else ['M', 'U', 'S', 'T'] := by
    obtain may | must := fits.verb
    · rw [if_pos may, capital_word may (by simp)]
      exact ⟨latin_of_fold may (by simp), by decide⟩
    · rw [if_neg (by simp [must]), capital_word must (by simp)]
      exact ⟨latin_of_fold must (by simp), by decide⟩
  have ascii : ∀ letter ∈ parts.mod, letter.toNat < 128 ∨ isLatin letter = true := by
    intro letter member
    obtain inside | inside := List.mem_append.mp member
    · exact .inr (verb.1 letter inside)
    · cases whole : parts.negation with
      | none => simp [whole] at inside
      | some word =>
        rw [whole, Option.map_some, Option.getD_some] at inside
        obtain rfl | inside := List.mem_cons.mp inside
        · exact .inl (by decide)
        · exact .inr (latin_of_fold (fits.negation word whole) (by simp) letter inside)
  rw [known.upper _ (by simpa using ascii), String.toList_ofList, Parts.mod, List.map_append, verb.2]
  cases whole : parts.negation with
  | none => rfl
  | some word =>
    have capitals := capital_word (fits.negation word whole) (by simp)
    simp only [Option.map_some, Option.getD_some, List.map_cons, capitals, Option.isSome_some, if_true]
    rfl

/-- The rule that the parts of a line state. -/
theorem readRule_eq {parts : Parts} (fits : parts.Fits) {way : Way} (groups : way.groups = parts.groups) (number : Nat)
    (line : String) :
    readRule number line way = (do
      let reversibility ← Reversibility.parse (orText (String.ofList (parts.rev.getD [])) "reversible")
      let amount ← readAmount (String.ofList ((parts.amount.map Amount.amt).getD []))
      return {
        id := s!"r{number}"
        subject := String.ofList parts.subj
        action := String.ofList parts.action
        effect := if parts.negation.isSome then Effect.deny else Effect.allow
        reversibility
        maxAmountMinor := amount
        currency := String.ofList (((parts.amount.map Amount.cur).getD []).map capital)
        requiresHuman := !parts.negation.isSome && parts.verb.map foldCase ≠ ['m', 'a', 'y']
        note := line }) := by
  have found := groups_of_eq groups
  have latin : ∀ letter ∈ (parts.amount.map Amount.cur).getD [], isLatin letter = true := by
    intro letter member
    cases whole : parts.amount with
    | none => simp [whole] at member
    | some amount =>
      rw [whole] at member
      exact (fits.amount amount whole).cur.1 letter member
  have mod := known.upper_mod fits
  rw [← found.mod] at mod
  obtain ⟨denies, asks⟩ := modal_words (parts.verb.map foldCase = ['m', 'a', 'y']) parts.negation.isSome
  simp only [decide_eq_true_eq] at denies asks
  rw [readRule, mod, found.amt, found.rev, found.subj, found.action, found.cur, known.upper_latin latin, denies, asks]
  simp only [decide_not]

end Rules

/-! ### Rules that can be stated -/

/-- A rule that a statement can say, up to its id and its note. -/
structure Rule.Statable [Host] (rule : Rule) : Prop where
  subject : rule.subject ≠ "" ∧ ∀ letter ∈ rule.subject.toList, isSubjectLetter letter = true
  action : rule.action ≠ "" ∧ ∀ letter ∈ rule.action.toList, isActionLetter letter = true
  effect : rule.effect = Effect.deny ∧ rule.requiresHuman = false ∨ rule.effect = Effect.allow
  amount : rule.maxAmountMinor = none ∧ rule.currency = "" ∨
    ∃ amount : Nat, rule.maxAmountMinor = some (amount : Int) ∧ prints amount = true ∧ 3 ≤ rule.currency.toList.length ∧
      rule.currency.toList.length ≤ 6 ∧ ∀ letter ∈ rule.currency.toList, isLatin letter = true ∧ capital letter = letter
  minTier : rule.minTier = ""
  domains : rule.domains = []

theorem readAmount_natural {digits : List Char} (decimal : ∀ letter ∈ digits, isDecimal letter = true) (present : digits ≠ [])
    {amount : Option Int} (read : readAmount (String.ofList digits) = .ok amount) :
    ∃ number : Nat, amount = some (number : Int) ∧ prints number = true := by
  have some_ : String.ofList digits ≠ "" := by simpa [← String.toList_inj] using present
  rw [readAmount, if_neg some_, map_eq_ok] at read
  obtain ⟨number, found, rfl⟩ := read
  unfold intOfText at found
  split at found
  next value parsed =>
    obtain rfl : value = number := Except.ok.inj found
    obtain ⟨printable, minus | natural⟩ := Digits.magnitude_of_parseInt? parsed
    · rw [String.toList_ofList] at minus
      exact absurd (decimal '-' minus) (by decide)
    · obtain ⟨magnitude, rfl⟩ := Int.eq_ofNat_of_zero_le natural
      exact ⟨magnitude, rfl, printable⟩
  next => cases found

section Stating
variable [Host] (known : Letters)
include known

theorem statable_of_read {parts : Parts} (fits : parts.Fits) {way : Way} (groups : way.groups = parts.groups) {number : Nat}
    {line : String} {rule : Rule} (read : readRule number line way = .ok rule) : rule.Statable := by
  rw [readRule_eq known fits groups] at read
  simp only [bind_eq_ok, pure_eq_ok] at read
  obtain ⟨reversibility, _, amount, digits, rfl⟩ := read
  have subject : String.ofList parts.subj ≠ "" := by simpa [← String.toList_inj] using fits.subj.1
  have action : String.ofList parts.action ≠ "" := by simpa [← String.toList_inj] using fits.action.1
  refine ⟨⟨subject, by simpa using fits.subj.2⟩, ⟨action, by simpa using fits.action.2⟩, ?_, ?_, rfl, rfl⟩
  · cases parts.negation with
    | none => exact .inr rfl
    | some word => exact .inl ⟨rfl, rfl⟩
  · cases whole : parts.amount with
    | none =>
      rw [whole] at digits
      exact .inl ⟨(Except.ok.inj digits).symm, rfl⟩
    | some clause =>
      obtain ⟨latin, least, most⟩ := (fits.amount clause whole).cur
      obtain ⟨present, decimal⟩ := (fits.amount clause whole).amt
      rw [whole] at digits
      obtain ⟨natural, rfl, printable⟩ := readAmount_natural decimal present digits
      refine .inr ⟨natural, rfl, printable, by simpa using least, by simpa using most, ?_⟩
      intro letter member
      simp only [Option.map_some, Option.getD_some, String.toList_ofList] at member
      obtain ⟨written, inside, rfl⟩ := List.mem_map.mp member
      exact capital_latin (latin written inside)

end Stating

/-! ### Rules that are written -/

/-- The parts in which `explain` writes a rule. -/
def Rule.parts (rule : Rule) : Parts where
  subj := rule.subject.toList
  verb := if rule.effect = Effect.deny ∨ rule.effectiveRequiresHuman then ['M', 'U', 'S', 'T'] else ['M', 'A', 'Y']
  negation := if rule.effect = Effect.deny then some ['N', 'O', 'T'] else none
  action := rule.action.toList
  amount := rule.maxAmountMinor.map fun amount => ⟨['u', 'p'], ['t', 'o'], (toString amount).toList, rule.currency.toList⟩
  rev := some rule.reversibility.label.toList

theorem explain_toList (rule : Rule) :
    rule.explain.toList = rule.parts.line ++ "  # tier >= ".toList ++ rule.effectiveMinTier.toList := by
  have modal : rule.modal.toList = rule.parts.mod := by
    unfold Rule.modal Rule.parts Parts.mod
    by_cases denies : rule.effect = Effect.deny
    · simp [denies]
    · by_cases asks : rule.effectiveRequiresHuman = true <;> simp [denies, asks]
  have amount : rule.amountText.toList = (rule.parts.amount.map Amount.line).getD [] := by
    unfold Rule.amountText Rule.parts
    cases rule.maxAmountMinor with
    | none => rfl
    | some amount =>
      change (" up to " ++ toString amount ++ " " ++ rule.currency).toList = _
      simp [Amount.line]
  have label : (rule.parts.rev.map fun rev => ' ' :: Parts.bracketed rev).getD [] =
      ' ' :: '[' :: (rule.reversibility.label.toList ++ [']']) := rfl
  change (rule.subject ++ " " ++ rule.modal ++ " " ++ rule.action ++ rule.amountText ++ " [" ++ rule.reversibility.label ++
    "]  # tier >= " ++ rule.effectiveMinTier).toList = _
  simp only [String.toList_append, modal, amount, Parts.line, label]
  have subj : rule.parts.subj = rule.subject.toList := rfl
  have action : rule.parts.action = rule.action.toList := rfl
  simp [subj, action]

/-- What holds of all that may stand in a statement. -/
structure Lettered [Host] (Holds : Char → Prop) : Prop where
  space : Holds ' '
  opening : Holds '['
  closing : Holds ']'
  subject : ∀ letter, isSubjectLetter letter = true → Holds letter
  action : ∀ letter, isActionLetter letter = true → Holds letter
  word : ∀ letter, isWord letter = true → Holds letter
  digit : ∀ letter, isDecimal letter = true → Holds letter
  latin : ∀ letter, isLatin letter = true → Holds letter

section Written
variable [Host] (known : Letters) {rule : Rule}
include known

theorem label_words (reversibility : Reversibility) :
    reversibility.label.toList ≠ [] ∧ ∀ letter ∈ reversibility.label.toList, isWord letter = true := by
  have letters : reversibility.label.toList ≠ [] ∧
      reversibility.label.toList.all (fun letter => decide (letter.toNat < 128) && letter.isAlphanum) = true := by
    cases reversibility <;> decide
  refine ⟨letters.1, fun letter member => ?_⟩
  have ascii := List.all_eq_true.mp letters.2 letter member
  simp only [Bool.and_eq_true, decide_eq_true_eq] at ascii
  rw [isWord, known.ascii letter ascii.1, ascii.2, Bool.true_or]

theorem parse_label (reversibility : Reversibility) : Reversibility.parse reversibility.label = .ok reversibility := by
  have stripped : strip reversibility.label = reversibility.label := by cases reversibility <;> decide
  have ascii : reversibility.label.toList.all (fun letter => decide (letter.toNat < 128)) = true := by
    cases reversibility <;> decide
  have upper := known.upper reversibility.label fun letter member =>
    .inl (of_decide_eq_true (List.all_eq_true.mp ascii letter member))
  have named : Reversibility.named (String.ofList (reversibility.label.toList.map capital)) = some reversibility := by
    cases reversibility <;> decide
  rw [Reversibility.parse, stripped, upper, named]

theorem Rule.Statable.fits (statable : rule.Statable) : rule.parts.Fits where
  subj := ⟨fun empty => statable.subject.1 (String.toList_inj.mp empty), statable.subject.2⟩
  verb := by
    unfold Rule.parts
    by_cases must : rule.effect = Effect.deny ∨ rule.effectiveRequiresHuman = true
    · exact .inr (by simp only [must, if_true]; decide)
    · exact .inl (by simp only [must, if_false]; decide)
  negation := by
    intro word member
    unfold Rule.parts at member
    by_cases denies : rule.effect = Effect.deny
    · simp only [denies, if_true, Option.mem_def, Option.some.injEq] at member
      rw [← member]
      decide
    · simp [denies] at member
  action := ⟨fun empty => statable.action.1 (String.toList_inj.mp empty), statable.action.2⟩
  amount := by
    intro clause member
    obtain ⟨amount, found, rfl⟩ := Option.map_eq_some_iff.mp member
    obtain ⟨nothing, _⟩ | ⟨natural, said, _, least, most, latin⟩ := statable.amount
    · rw [nothing] at found
      cases found
    · obtain rfl : amount = natural := Option.some.inj (found.symm.trans said)
      have decimal := Digits.decimal_toDigits natural
      have words : ['u', 'p'].map foldCase = ['u', 'p'] ∧ ['t', 'o'].map foldCase = ['t', 'o'] := by decide
      refine ⟨words.1, words.2, ?_, fun letter inside => (latin letter inside).1, least, most⟩
      rw [Digits.toList_natCast]
      refine ⟨decimal.present, fun letter inside => ?_⟩
      simp [isDecimal, Digits.python_decimal? (decimal.digits letter inside)]
  rev := by
    intro rev member
    obtain rfl := Option.some.inj member
    exact label_words known rule.reversibility

omit known in
theorem Lettered.folded {Holds : Char → Prop} (lettered : Lettered Holds) {word letters : List Char}
    (same : word.map foldCase = letters) (small : ∀ letter ∈ letters, 97 ≤ letter.toNat ∧ letter.toNat ≤ 122) :
    ∀ letter ∈ word, Holds letter :=
  fun letter member => lettered.latin letter (latin_of_fold same small letter member)

omit known in
theorem Lettered.mod {Holds : Char → Prop} (lettered : Lettered Holds) {parts : Parts} (fits : parts.Fits) :
    ∀ letter ∈ parts.mod, Holds letter := by
  intro letter member
  obtain inside | inside := List.mem_append.mp member
  · obtain may | must := fits.verb
    · exact lettered.folded may (by simp) letter inside
    · exact lettered.folded must (by simp) letter inside
  · cases whole : parts.negation with
    | none => simp [whole] at inside
    | some negation =>
      rw [whole] at inside
      obtain rfl | inside := List.mem_cons.mp inside
      · exact lettered.space
      · exact lettered.folded (fits.negation negation whole) (by simp) letter inside

omit known in
theorem Lettered.amount {Holds : Char → Prop} (lettered : Lettered Holds) {amount : Amount} (fits : amount.Fits) :
    ∀ letter ∈ amount.line, Holds letter := by
  intro letter member
  simp only [Amount.line, List.mem_cons, List.mem_append] at member
  obtain rfl | inside | rfl | inside | rfl | inside | rfl | inside := member
  · exact lettered.space
  · exact lettered.folded fits.up (by simp) letter inside
  · exact lettered.space
  · exact lettered.folded fits.toWord (by simp) letter inside
  · exact lettered.space
  · exact lettered.digit letter (fits.amt.2 letter inside)
  · exact lettered.space
  · exact lettered.latin letter (fits.cur.1 letter inside)

omit known in
theorem Lettered.class_ {Holds : Char → Prop} (lettered : Lettered Holds) {rev : List Char}
    (words : ∀ letter ∈ rev, isWord letter = true) : ∀ letter ∈ ' ' :: Parts.bracketed rev, Holds letter := by
  intro letter member
  simp only [Parts.bracketed, List.mem_cons, List.mem_append, List.not_mem_nil, or_false] at member
  obtain rfl | rfl | inside | rfl := member
  · exact lettered.space
  · exact lettered.opening
  · exact lettered.word letter (words letter inside)
  · exact lettered.closing

omit known in
/-- What holds of the letters of every class holds of all letters of a statement. -/
theorem Lettered.line {Holds : Char → Prop} (lettered : Lettered Holds) {parts : Parts} (fits : parts.Fits) :
    ∀ letter ∈ parts.line, Holds letter := by
  have amount : ∀ letter ∈ (parts.amount.map Amount.line).getD [], Holds letter := by
    cases whole : parts.amount with
    | none => simp
    | some clause => exact lettered.amount (fits.amount clause whole)
  have class_ : ∀ letter ∈ (parts.rev.map fun rev => ' ' :: Parts.bracketed rev).getD [], Holds letter := by
    cases whole : parts.rev with
    | none => simp
    | some rev => exact lettered.class_ (fits.rev rev whole).2
  intro letter member
  simp only [Parts.line, List.mem_append, List.mem_cons] at member
  obtain inside | rfl | inside | rfl | inside | inside | inside := member
  · exact lettered.subject letter (fits.subj.2 letter inside)
  · exact lettered.space
  · exact lettered.mod fits letter inside
  · exact lettered.space
  · exact lettered.action letter (fits.action.2 letter inside)
  · exact amount letter inside
  · exact class_ letter inside

/-- No statement contains the mark of a remark. -/
theorem no_remark {parts : Parts} (fits : parts.Fits) : ∀ letter ∈ parts.line, letter ≠ '#' := by
  have alnum : Host.isAlnum '#' = false := (known.ascii '#' (by decide)).trans (by decide)
  have lettered : Lettered (fun letter => letter ≠ '#') := by
    constructor
    case space | opening | closing => decide
    case subject =>
      rintro letter inside rfl
      simp [isSubjectLetter, isWord, alnum] at inside
    case action =>
      rintro letter inside rfl
      simp [isActionLetter, isWord, alnum] at inside
    case word =>
      rintro letter inside rfl
      simp [isWord, alnum] at inside
    case digit | latin =>
      rintro letter inside rfl
      exact absurd inside (by decide)
  exact lettered.line fits

/-- A statement is one line. -/
theorem one_line {parts : Parts} (fits : parts.Fits) : ∀ letter ∈ parts.line, isLineEnd letter = false := by
  have plain {letter : Char} (space : isSpace letter = false) : isLineEnd letter = false := by
    rw [← Bool.not_eq_true]
    intro ends
    rw [isSpace_of_lineEnd ends] at space
    cases space
  have lettered : Lettered (fun letter => isLineEnd letter = false) := by
    constructor
    case space | opening | closing => decide
    case subject => exact fun letter inside => plain (known.subject inside)
    case action => exact fun letter inside => plain (known.action inside)
    case word => exact fun letter inside => plain (known.word inside)
    case digit => exact fun letter inside => plain (not_space_of_decimal inside)
    case latin => exact fun letter inside => plain (not_space_of_latin inside)
  exact lettered.line fits

/-- The remark begins behind two spaces. -/
theorem explain_before (fits : rule.parts.Fits) : rule.explain.toList.takeWhile (· ≠ '#') = rule.parts.line ++ [' ', ' '] := by
  have marked : "  # tier >= ".toList = ' ' :: ' ' :: '#' :: " tier >= ".toList := by decide
  have plain : ∀ letter ∈ rule.parts.line ++ [' ', ' '], decide (letter ≠ '#') = true := by
    intro letter member
    rw [decide_eq_true_eq]
    rintro rfl
    obtain inside | inside := List.mem_append.mp member
    · exact no_remark known fits '#' inside rfl
    · exact absurd inside (by decide)
  have split : rule.explain.toList = (rule.parts.line ++ [' ', ' ']) ++ '#' :: (" tier >= ".toList ++ rule.effectiveMinTier.toList) := by
    rw [explain_toList, marked]
    simp
  rw [split, List.takeWhile_append_of_pos plain]
  simp

/-- A statement begins with its subject and ends with its class. -/
theorem line_bare (fits : rule.parts.Fits) : Strip.Bare isSpace rule.parts.line := by
  obtain ⟨first, others, begins⟩ := List.exists_cons_of_ne_nil fits.subj.1
  constructor
  · intro letter found
    rw [Parts.line, begins] at found
    obtain rfl : first = letter := Option.some.inj found
    exact known.subject (fits.subj.2 first (begins ▸ List.mem_cons_self ..))
  · intro letter found
    have ends : ∃ start, rule.parts.line = start ++ [']'] := by
      refine ⟨rule.parts.subj ++ ' ' :: (rule.parts.mod ++ ' ' :: (rule.parts.action ++
        ((rule.parts.amount.map Amount.line).getD [] ++ (' ' :: '[' :: rule.reversibility.label.toList)))), ?_⟩
      have rev : rule.parts.rev = some rule.reversibility.label.toList := rfl
      simp [Parts.line, rev, Parts.bracketed]
    obtain ⟨start, whole⟩ := ends
    rw [whole, List.getLast?_concat] at found
    obtain rfl := Option.some.inj found
    decide

theorem explain_stripped (statable : rule.Statable) : strip (partition rule.explain '#').1 = String.ofList rule.parts.line := by
  have fits := statable.fits known
  have blanks : ∀ letter ∈ [' ', ' '], isSpace letter = true := by
    intro letter member
    obtain rfl : letter = ' ' := by simpa using member
    decide
  have stripped := @Strip.stripBy_around isSpace [] rule.parts.line [' ', ' '] (by simp) (line_bare known fits) blanks
  rw [List.nil_append] at stripped
  rw [strip, partition, explain_before known fits, String.toList_ofList, stripped]

omit known in
theorem readAmount_written (statable : rule.Statable) :
    readAmount (String.ofList ((rule.parts.amount.map Amount.amt).getD [])) = .ok rule.maxAmountMinor := by
  obtain ⟨nothing, _⟩ | ⟨natural, said, printable, _⟩ := statable.amount
  · rw [Rule.parts, nothing]
    rfl
  · have digits : (rule.parts.amount.map Amount.amt).getD [] = (toString (natural : Int)).toList := by
      rw [Rule.parts, said]
      rfl
    have present : toString (natural : Int) ≠ "" := by
      rw [← String.toList_inj.ne, Digits.toList_natCast]
      exact (Digits.decimal_toDigits natural).present
    rw [digits, String.ofList_toList, readAmount, if_neg present, Digits.intOfText_toString printable, said]
    rfl

omit known in
theorem currency_written (statable : rule.Statable) :
    String.ofList (((rule.parts.amount.map Amount.cur).getD []).map capital) = rule.currency := by
  obtain ⟨nothing, blank⟩ | ⟨natural, said, _, _, _, latin⟩ := statable.amount
  · rw [Rule.parts, nothing, blank]
    rfl
  · have letters : (rule.parts.amount.map Amount.cur).getD [] = rule.currency.toList := by
      rw [Rule.parts, said]
      rfl
    rw [letters, List.map_congr_left (fun letter member => (latin letter member).2), List.map_id', String.ofList_toList]

/-- The rule that is read from what `explain` writes of a rule. -/
def Rule.restated (rule : Rule) (number : Nat) : Rule :=
  { rule with
    id := s!"r{number}"
    requiresHuman := rule.effect ≠ Effect.deny && rule.effectiveRequiresHuman
    note := String.ofList rule.parts.line }

theorem parseLine_explain (statable : rule.Statable) (number : Nat) :
    parseLine number rule.explain = .ok (some (rule.restated number)) := by
  have fits := statable.fits known
  obtain ⟨way, found, groups⟩ := match_line known fits
  have present : String.ofList rule.parts.line ≠ "" := by
    obtain ⟨first, others, begins⟩ := List.exists_cons_of_ne_nil fits.subj.1
    simp [← String.toList_inj, Parts.line, begins]
  have rev : orText (String.ofList (rule.parts.rev.getD [])) "reversible" = rule.reversibility.label := by
    have label : String.ofList (rule.parts.rev.getD []) = rule.reversibility.label := String.ofList_toList
    rw [label, orText, if_neg]
    cases rule.reversibility <;> decide
  have subject : String.ofList rule.parts.subj = rule.subject := String.ofList_toList
  have action : String.ofList rule.parts.action = rule.action := String.ofList_toList
  have denies : rule.parts.negation.isSome = decide (rule.effect = Effect.deny) := by
    unfold Rule.parts
    by_cases denied : rule.effect = Effect.deny <;> simp [denied]
  rw [parseLine, explain_stripped known statable]
  simp only [if_neg present, String.toList_ofList, found]
  rw [readRule_eq known fits groups, rev, parse_label known, readAmount_written statable, currency_written statable,
    subject, action, denies]
  have effect : (if decide (rule.effect = Effect.deny) = true then Effect.deny else Effect.allow) = rule.effect := by
    obtain ⟨denied, _⟩ | allowed := statable.effect
    · rw [denied]
      rfl
    · rw [allowed]
      rfl
  have human : (!decide (rule.effect = Effect.deny) && decide (rule.parts.verb.map foldCase ≠ ['m', 'a', 'y'])) =
      (rule.effect ≠ Effect.deny && rule.effectiveRequiresHuman) := by
    have may : ['M', 'A', 'Y'].map foldCase = ['m', 'a', 'y'] := by decide
    unfold Rule.parts
    by_cases denied : rule.effect = Effect.deny
    · simp [denied]
    · cases asks : rule.effectiveRequiresHuman with
      | true => simp [denied]
      | false => simp [denied, may]
  rw [effect, human]
  change Except.ok (some _) = Except.ok (some (rule.restated number))
  rw [Rule.restated, ← statable.minTier, ← statable.domains]

end Written

theorem Rule.Statable.restated [Host] {rule : Rule} (statable : rule.Statable) (number : Nat) :
    rule.SameMeaning (rule.restated number) := by
  refine ⟨rfl, rfl, rfl, rfl, rfl, rfl, rfl, rfl, ?_⟩
  obtain ⟨denied, asks⟩ | allowed := statable.effect
  · simp [effectiveRequiresHuman, Rule.restated, denied, asks]
  · have permits : rule.effect ≠ Effect.deny := by
      rw [allowed]
      decide
    simp only [effectiveRequiresHuman, Rule.restated, ne_eq, permits, not_false_eq_true, decide_true, Bool.true_and]
    cases rule.requiresHuman <;> simp

/-! ### Documents -/

section Documents
variable [Host]

theorem parseLine_skips {number : Nat} {line : String} (skipped : line = "" ∨ line.toList.head? = some '#') :
    parseLine number line = .ok none := by
  have blank : strip (partition line '#').1 = "" := by
    obtain rfl | mark := skipped
    · decide
    · obtain ⟨rest, begins⟩ : ∃ rest, line.toList = '#' :: rest := by
        cases whole : line.toList with
        | nil => simp [whole] at mark
        | cons first rest =>
          rw [whole] at mark
          exact ⟨rest, by rw [Option.some.inj mark]⟩
      have nothing : ('#' :: rest).takeWhile (· ≠ '#') = [] := by simp
      simp only [partition, begins, nothing]
      decide
  rw [parseLine, blank]
  rfl

variable (known : Letters)
include known

theorem statable_of_parseLine {number : Nat} {raw : String} {rule : Rule} (read : parseLine number raw = .ok (some rule)) :
    rule.Statable := by
  unfold parseLine at read
  simp only at read
  split at read
  · cases read
  · split at read
    · cases read
    next way found =>
      obtain ⟨result, stated, same⟩ := (map_eq_ok ..).mp read
      obtain rfl : result = rule := Option.some.inj same
      obtain ⟨parts, fits, groups, _⟩ := read_statement known (List.mem_of_mem_head? found)
      exact statable_of_read known fits groups stated

theorem parseText_eq_ok {text : String} {policy : Policy} (read : parseText text = .ok policy) :
    policy.name = "policy" ∧ policy.version = "1" ∧ ∀ rule ∈ policy.rules, rule.Statable := by
  simp only [parseText, bind_eq_ok, pure_eq_ok] at read
  obtain ⟨results, each, rfl⟩ := read
  refine ⟨rfl, rfl, fun rule member => ?_⟩
  obtain ⟨result, inside, same⟩ := List.mem_filterMap.mp member
  obtain rfl : result = some rule := same
  obtain ⟨line, _, stated⟩ := item_of_mapM each inside
  exact statable_of_parseLine known stated

/-- The rules of a written document, as they are read from some line on. -/
theorem parse_rules {rules : List Rule} (statable : ∀ rule ∈ rules, rule.Statable) (start : Nat) :
    List.Forall₂ (fun (line : String × Nat) result => parseLine line.2 line.1 = .ok result) ((rules.map Rule.explain).zipIdx start)
      ((rules.zipIdx start).map fun rule => some (rule.1.restated rule.2)) := by
  induction rules generalizing start with
  | nil => exact .nil
  | cons rule rules ih =>
    obtain ⟨first, others⟩ := List.forall_mem_cons.mp statable
    exact .cons (parseLine_explain known first start) (ih others (start + 1))

omit known in
theorem restated_same {rules : List Rule} (statable : ∀ rule ∈ rules, rule.Statable) (start : Nat) :
    List.Forall₂ Rule.SameMeaning rules (((rules.zipIdx start).map fun rule => some (rule.1.restated rule.2)).filterMap id) := by
  induction rules generalizing start with
  | nil => exact .nil
  | cons rule rules ih =>
    obtain ⟨first, others⟩ := List.forall_mem_cons.mp statable
    exact .cons (first.restated start) (ih others (start + 1))

omit [Host] known in
theorem sha256_small (message : List Nat) : ∀ byte ∈ sha256 message, byte < 256 := by
  intro byte member
  simp only [sha256, List.mem_flatMap, toBytes, List.mem_map] at member
  obtain ⟨_, _, _, _, rfl⟩ := member
  exact Nat.mod_lt _ (by decide)

omit known in
theorem digest_one_line (policy : Policy) : ∀ letter ∈ policy.digest.toList, isLineEnd letter = false := by
  have hex : ∀ digit < 16, isLineEnd (hexDigit digit) = false := by decide
  intro letter member
  simp only [Policy.digest, String.toList_append, toHex, String.toList_ofList, List.mem_append, List.mem_flatMap] at member
  obtain start | ⟨byte, inside, digits⟩ := member
  · have mark : "0x".toList.all (fun letter => !isLineEnd letter) = true := by decide
    simpa using List.all_eq_true.mp mark letter start
  · have small := sha256_small _ byte inside
    simp only [List.mem_cons, List.not_mem_nil, or_false] at digits
    obtain rfl | rfl := digits
    · exact hex _ (by omega)
    · exact hex _ (by omega)

theorem explain_one_line {rule : Rule} (statable : rule.Statable) : ∀ letter ∈ rule.explain.toList, isLineEnd letter = false := by
  have remark : "  # tier >= ".toList.all (fun letter => !isLineEnd letter) = true := by decide
  have tier : rule.effectiveMinTier.toList.all (fun letter => !isLineEnd letter) = true := by
    rw [Rule.effectiveMinTier, statable.minTier, if_pos rfl]
    cases rule.reversibility <;> decide
  intro letter member
  rw [explain_toList] at member
  obtain inside | inside := List.mem_append.mp member
  · obtain inside | inside := List.mem_append.mp inside
    · exact one_line known (statable.fits known) letter inside
    · simpa using List.all_eq_true.mp remark letter inside
  · simpa using List.all_eq_true.mp tier letter inside

def headerLines (policy : Policy) : List String :=
  [s!"# {policy.name} v{policy.version}", s!"# digest {policy.digest}", s!"# default: {Effect.deny}"]

omit known in
theorem header_one_line {policy : Policy} (name : policy.name = "policy") (version : policy.version = "1") :
    ∀ line ∈ headerLines policy, ∀ letter ∈ line.toList, isLineEnd letter = false := by
  have plain {line : String} (checked : line.toList.all (fun letter => !isLineEnd letter) = true) :
      ∀ letter ∈ line.toList, isLineEnd letter = false := by
    intro letter member
    simpa using List.all_eq_true.mp checked letter member
  simp only [headerLines, name, version, List.forall_mem_cons]
  refine ⟨plain (by decide), ?_, plain (by decide), fun _ member => by cases member⟩
  intro letter member
  change letter ∈ ("# digest " ++ policy.digest).toList at member
  rw [String.toList_append] at member
  obtain inside | inside := List.mem_append.mp member
  · exact plain (by decide : "# digest ".toList.all (fun letter => !isLineEnd letter) = true) letter inside
  · exact digest_one_line policy letter inside

omit known in
theorem header_skips (policy : Policy) : ∀ line ∈ headerLines policy, line.toList.head? = some '#' := by
  simp only [headerLines, List.forall_mem_cons]
  refine ⟨?_, ?_, by decide, fun _ member => by cases member⟩
  · change ("# " ++ policy.name ++ " v" ++ policy.version).toList.head? = some '#'
    simp [String.toList_append]
  · change ("# digest " ++ policy.digest).toList.head? = some '#'
    simp [String.toList_append]

omit [Host] known in
/-- The lines of a written document. -/
theorem shown_document (header : List String) (rules : List Rule) :
    shown (header ++ "" :: rules.map Rule.explain) = header ++ if rules = [] then [] else "" :: rules.map Rule.explain := by
  cases empty : rules with
  | nil => simp [shown]
  | cons first rest =>
    rw [if_neg (List.cons_ne_nil _ _), shown, if_neg]
    intro last
    rw [List.getLast?_append, List.map_cons, List.getLast?_cons_cons, ← List.map_cons, ← empty] at last
    have member : "" ∈ rules.map Rule.explain := by
      cases found : (rules.map Rule.explain).getLast? with
      | none => simp [empty] at found
      | some line =>
        rw [found, Option.some_or] at last
        exact Option.some.inj last ▸ List.mem_of_mem_getLast? found
    obtain ⟨rule, inside, blank⟩ := List.mem_map.mp member
    have letters := explain_toList rule
    rw [blank] at letters
    simp at letters

/-- A document that `explain` writes is read as rules that mean the same. -/
theorem parseText_explain {policy : Policy} (name : policy.name = "policy") (version : policy.version = "1")
    (statable : ∀ rule ∈ policy.rules, rule.Statable) :
    ∃ text again, explain policy = .ok text ∧ parseText text = .ok again ∧
      List.Forall₂ Rule.SameMeaning policy.rules again.rules := by
  have printable : policy.rules.all (fun rule => rule.maxAmountMinor.all prints) = true := by
    rw [List.all_eq_true]
    intro rule member
    obtain ⟨nothing, _⟩ | ⟨natural, said, printable, _⟩ := (statable rule member).amount
    · simp [nothing]
    · simp [said, printable]
  have inside : ∀ line ∈ headerLines policy ++ "" :: policy.rules.map Rule.explain, ∀ letter ∈ line.toList, isLineEnd letter = false := by
    intro line member
    obtain header | body := List.mem_append.mp member
    · exact header_one_line name version line header
    · obtain rfl | written := List.mem_cons.mp body
      · intro letter found
        cases found
      · obtain ⟨rule, ruled, rfl⟩ := List.mem_map.mp written
        exact explain_one_line known (statable rule ruled)
  let results := (policy.rules.zipIdx 5).map fun rule => some (rule.1.restated rule.2)
  have header (line : String) (member : line ∈ headerLines policy) (number : Nat) : parseLine number line = .ok none :=
    parseLine_skips (.inr (header_skips policy line member))
  have lines : List.Forall₂ (fun (line : String × Nat) result => parseLine line.2 line.1 = .ok result)
      ((shown (headerLines policy ++ "" :: policy.rules.map Rule.explain)).zipIdx 1)
      ([none, none, none] ++ if policy.rules = [] then [] else none :: results) := by
    rw [shown_document]
    refine .cons (header _ (by simp [headerLines]) 1) (.cons (header _ (by simp [headerLines]) 2)
      (.cons (header _ (by simp [headerLines]) 3) ?_))
    split
    · exact .nil
    · exact .cons (parseLine_skips (.inl rfl)) (parse_rules known statable 5)
  have rules : (([none, none, none] ++ if policy.rules = [] then [] else none :: results)).filterMap id = results.filterMap id := by
    split
    next empty => simp [results, empty]
    next => rfl
  refine ⟨joinWith "\n" (headerLines policy ++ "" :: policy.rules.map Rule.explain),
    { name := "policy", version := "1", rules := results.filterMap id }, ?_, ?_, restated_same statable 5⟩
  · simp only [explain, bind_eq_ok, pure_eq_ok, require_eq_ok]
    exact ⟨(), printable, rfl⟩
  · simp only [parseText, splitlines_joinWith inside, mapM_eq_ok.mpr lines, ok_bind, rules]
    rfl

/-- Text that is read, written and read again decides every request alike, rule by
rule in the same order. -/
theorem explained_policy_agrees {text : String} {policy : Policy} (read : parseText text = .ok policy) :
    ∃ written again, explain policy = .ok written ∧ parseText written = .ok again ∧
      List.Forall₂ Rule.SameMeaning policy.rules again.rules ∧
      ∀ request, (evaluate policy request).SameOutcome (evaluate again request) := by
  obtain ⟨name, version, statable⟩ := parseText_eq_ok known read
  obtain ⟨written, again, shown, parsed, same⟩ := parseText_explain known name version statable
  exact ⟨written, again, shown, parsed, same, evaluate_same same⟩

end Documents

section Reviewed

/-- An interpreter that knows the capitals of the letters of statements. -/
local instance reviewHost : Host := { asciiHost [] with upper := fun text => String.ofList (text.toList.map capital) }

theorem reviewHost_letters : Letters where
  spaces := by
    intro letter alnum
    have apart : ∀ code ∈ spaceCodes, (Char.ofNat code).isAlphanum = false := by decide
    rw [← Bool.not_eq_true]
    intro space
    have none := apart letter.toNat (mem_spaceCodes space)
    rw [Char.ofNat_toNat] at none
    exact absurd (none.symm.trans alnum) Bool.false_ne_true
  ascii := fun _ _ => rfl
  upper := fun _ _ => rfl

/-- `NOT` is the action of the first statement, and the act cannot be taken back. -/
def reviewedText : String := "Payer MAY NOT up to 5 usd [irreversible] # sic
Auditor MUST not
* MAY NOT pay:*"

theorem reviewed_text_agrees : ∃ policy written again, parseText reviewedText = .ok policy ∧ explain policy = .ok written ∧
    parseText written = .ok again ∧ List.Forall₂ Rule.SameMeaning policy.rules again.rules ∧
      ∀ request, (evaluate policy request).SameOutcome (evaluate again request) := by
  obtain ⟨policy, read⟩ := ok_of_isSome (show (parseText reviewedText).toOption.isSome = true by decide)
  obtain ⟨written, again, agrees⟩ := explained_policy_agrees reviewHost_letters read
  exact ⟨policy, written, again, read, agrees⟩

end Reviewed

end Xcp.Language
