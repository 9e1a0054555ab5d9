import Xcp.Library.JavaScript
import Xcp.Library.Loads
import Xcp.Library.Python
import Xcp.Library.Strip

/-! Strings as Go's packages treat them. A string is taken as the letters that its
bytes encode; a byte of ASCII is a letter by itself, and part of no other one. -/

namespace Go
open Python (stripBy)

/-- `unicode.IsSpace`. -/
def isSpace (letter : Char) : Bool :=
  let code := letter.toNat
  (9 ≤ code && code ≤ 13) || code = 32 || code = 133 || code = 160 || code = 5760 || (8192 ≤ code && code ≤ 8202) ||
    code = 8232 || code = 8233 || code = 8239 || code = 8287 || code = 12288

/-- `strings.TrimSpace`. -/
def trimSpace (text : String) : String := String.ofList (stripBy isSpace text.toList)

def digit? (letter : Char) : Option Nat :=
  let code := letter.toNat
  if 48 ≤ code && code ≤ 57 then some (code - 48) else none

/-- A run of decimal digits, which is not empty. -/
def natural? (letters : List Char) : Option Nat :=
  if letters = [] then none
  else (letters.mapM digit?).map (fun digits => digits.foldl (fun total digit => 10 * total + digit) 0)

/-- `new(big.Int).SetString(text, 10)`. -/
def setString (text : String) : Option Int :=
  match text.toList with
  | '-' :: digits => (natural? digits).map (fun value => -(value : Int))
  | '+' :: digits => (natural? digits).map (fun value => (value : Int))
  | digits => (natural? digits).map (fun value => (value : Int))

/-- What programs take from the tables of the package `unicode` as given. -/
class Unicode where
  /-- `strings.ToLower`. -/
  toLower : String → String
  /-- `strconv.Quote`. -/
  quote : String → String

end Go

/-! The spaces that three languages take from the ends of a text. -/

namespace Spaces
open Python (stripBy)
open Strip (Bare)

inductive Language | python | javaScript | go
deriving DecidableEq, Repr

def isSpace : Language → Char → Bool
  | .python => Python.isSpace
  | .javaScript => JavaScript.isSpace
  | .go => Go.isSpace

/-- `text.strip()`, `text.trim()` or `strings.TrimSpace(text)`. -/
def trim (language : Language) (text : String) : String := String.ofList (stripBy (isSpace language) text.toList)

/-- What is a space in all of them. -/
def isCommonSpace (letter : Char) : Bool :=
  let code := letter.toNat
  (9 ≤ code && code ≤ 13) || code = 32 || code = 160 || code = 5760 || (8192 ≤ code && code ≤ 8202) || code = 8232 ||
    code = 8233 || code = 8239 || code = 8287 || code = 12288

theorem isCommonSpace_iff (letter : Char) :
    isCommonSpace letter = true ↔ ∀ language, isSpace language letter = true := by
  have every : (∀ language, isSpace language letter = true) ↔
      Python.isSpace letter = true ∧ JavaScript.isSpace letter = true ∧ Go.isSpace letter = true := by
    constructor
    · intro every
      exact ⟨every .python, every .javaScript, every .go⟩
    · intro ⟨python, javaScript, go⟩ language
      cases language with
      | python => exact python
      | javaScript => exact javaScript
      | go => exact go
  rw [every]
  simp only [isCommonSpace, Python.isSpace, JavaScript.isSpace, Go.isSpace, Bool.or_eq_true, Bool.and_eq_true,
    decide_eq_true_iff]
  omega

/-- No letter of ASCII that is printed is a space. -/
theorem isSpace_printed {letter : Char} (printed : 33 ≤ letter.toNat ∧ letter.toNat ≤ 126) (language : Language) :
    isSpace language letter = false := by
  cases language <;>
  · simp [isSpace, Python.isSpace, JavaScript.isSpace, Go.isSpace]
    omega

theorem bare_of_printed {letters : List Char} (printed : ∀ letter ∈ letters, 33 ≤ letter.toNat ∧ letter.toNat ≤ 126)
    (language : Language) : Bare (isSpace language) letters where
  first := fun letter found => isSpace_printed (printed letter (List.mem_of_mem_head? found)) language
  last := fun letter found => isSpace_printed (printed letter (List.mem_of_mem_getLast? found)) language

/-- What is left without the spaces of all of them. -/
def core (text : String) : String := String.ofList (stripBy isCommonSpace text.toList)

variable {language : Language} {text : String}

theorem toList_trim : (trim language text).toList = stripBy (isSpace language) text.toList := String.toList_ofList

theorem trim_bare : Bare (isSpace language) (trim language text).toList := by
  rw [toList_trim]
  exact Strip.stripBy_bare _ _

theorem mem_trim {letter : Char} (kept : isSpace language letter = false) :
    letter ∈ (trim language text).toList ↔ letter ∈ text.toList := by
  obtain ⟨front, back, whole, before, after⟩ := Strip.stripBy_split (isSpace language) text.toList
  have absent {letters : List Char} (spaces : ∀ letter ∈ letters, isSpace language letter = true) : letter ∉ letters := by
    intro member
    rw [spaces letter member] at kept
    cases kept
  rw [toList_trim]
  conv_rhs => rw [whole]
  simp [absent before, absent after]

/-- Nothing about the ends of a text is a space in one language and none in another. -/
def Settled (text : String) : Prop := Strip.Settled isSpace isCommonSpace text.toList

/-- The languages leave the same text exactly where no space is disputed. -/
theorem trim_agree_iff : (∀ language other, trim language text = trim other text) ↔ Settled text := by
  rw [Settled, ← Strip.stripBy_agree_iff isCommonSpace_iff]
  simp only [← toList_trim, String.toList_inj]

theorem trim_of_settled (settled : Settled text) (language : Language) : trim language text = core text := by
  rw [trim, core, Strip.stripBy_of_settled isCommonSpace_iff settled]

/-- Nobody takes more than the common spaces where printed letters are left. -/
theorem trim_of_printed (printed : ∀ letter ∈ (core text).toList, 33 ≤ letter.toNat ∧ letter.toNat ≤ 126)
    (language : Language) : trim language text = core text := by
  have less : ∀ letter, isCommonSpace letter = true → isSpace language letter = true :=
    fun letter shared => (isCommonSpace_iff letter).mp shared language
  rw [core, String.toList_ofList] at printed
  rw [trim, core, ← Strip.stripBy_stripBy less, Strip.stripBy_of_bare (bare_of_printed printed language)]

end Spaces

/-! Runs of ASCII digits, which three languages read as the same number. Python
stops at a number of digits; the others do not. -/

namespace Digits
open Python (stripBy)

def isAsciiDigit (letter : Char) : Bool := 48 ≤ letter.toNat && letter.toNat ≤ 57

/-- One or more ASCII digits. -/
structure Decimal (letters : List Char) : Prop where
  present : letters ≠ []
  digits : ∀ letter ∈ letters, isAsciiDigit letter = true

instance (letters : List Char) : Decidable (Decimal letters) :=
  decidable_of_iff (letters ≠ [] ∧ letters.all isAsciiDigit = true)
    ⟨fun ⟨present, digits⟩ => ⟨present, List.all_eq_true.mp digits⟩,
      fun decimal => ⟨decimal.present, List.all_eq_true.mpr decimal.digits⟩⟩

theorem decimal_of_digit {text : String} (digit : Char) (letters : text.toList = [digit])
    (known : isAsciiDigit digit = true) : Decimal text.toList := by
  rw [letters]
  exact ⟨List.cons_ne_nil _ _, List.forall_mem_singleton.mpr known⟩

/-- What a run of digits says. -/
def value (letters : List Char) : Nat := letters.foldl (fun total letter => 10 * total + (letter.toNat - 48)) 0

variable {letters : List Char}

theorem foldl_map_sub (letters : List Char) :
    (letters.map (fun letter => letter.toNat - 48)).foldl (fun total digit => 10 * total + digit) 0 = value letters := by
  rw [List.foldl_map, value]

theorem mapM_digits {read : Char → Option Nat} (digits : ∀ letter ∈ letters, isAsciiDigit letter = true)
    (reads : ∀ letter, isAsciiDigit letter = true → read letter = some (letter.toNat - 48)) :
    letters.mapM read = some (letters.map (fun letter => letter.toNat - 48)) := by
  induction letters with
  | nil => rfl
  | cons letter rest ih =>
    obtain ⟨first, others⟩ := List.forall_mem_cons.mp digits
    simp [List.mapM_cons, reads letter first, ih others]

theorem isAsciiDigit_iff {letter : Char} : isAsciiDigit letter = true ↔ 48 ≤ letter.toNat ∧ letter.toNat ≤ 57 := by
  simp [isAsciiDigit]

theorem ne_of_digit {letter other : Char} (digit : isAsciiDigit letter = true) (not : isAsciiDigit other = false) :
    letter ≠ other := by
  rintro rfl
  rw [digit] at not
  cases not

/-- Digits have no space about them. -/
theorem Decimal.bare (decimal : Decimal letters) {drop : Char → Bool}
    (keeps : ∀ letter, isAsciiDigit letter = true → drop letter = false) : Strip.Bare drop letters where
  first := fun letter found => keeps letter (decimal.digits letter (List.mem_of_mem_head? found))
  last := fun letter found => keeps letter (decimal.digits letter (List.mem_of_mem_getLast? found))

/-! ### Python -/

theorem python_decimal? {letter : Char} (digit : isAsciiDigit letter = true) :
    Python.decimal? letter = some (letter.toNat - 48) := by
  rw [isAsciiDigit_iff] at digit
  simp [Python.decimal?, Python.decimalZeros, digit.1, Nat.lt_succ_of_le digit.2]

theorem python_isDigitChar {letter : Char} (digit : isAsciiDigit letter = true) : Python.isDigitChar letter = true := by
  simp [Python.isDigitChar, python_decimal? digit]

theorem python_digitsOf (decimal : Decimal letters) :
    Python.digitsOf letters = some (letters.map (fun letter => letter.toNat - 48)) := by
  induction letters with
  | nil => exact absurd rfl decimal.present
  | cons letter rest ih =>
    obtain ⟨first, others⟩ := List.forall_mem_cons.mp decimal.digits
    cases rest with
    | nil => simp [Python.digitsOf, python_decimal? first]
    | cons next rest =>
      have plain : next ≠ '_' := ne_of_digit (others next (List.mem_cons_self ..)) (by decide)
      have later := ih ⟨List.cons_ne_nil _ _, others⟩
      rw [Python.digitsOf, python_decimal? first]
      · simp [later]
      · exact List.cons_ne_nil _ _
      · intro others' same
        exact plain (List.cons.inj same).1

theorem Decimal.head (decimal : Decimal letters) :
    ∃ first rest, letters = first :: rest ∧ first ≠ '-' ∧ first ≠ '+' := by
  obtain ⟨first, rest, whole⟩ := List.exists_cons_of_ne_nil decimal.present
  have digit : isAsciiDigit first = true := decimal.digits first (by simp [whole])
  exact ⟨first, rest, whole, ne_of_digit digit (by decide), ne_of_digit digit (by decide)⟩

/-- `int` reads no more digits than the interpreter allows. -/
theorem python_parseInt? {text : String} (decimal : Decimal text.toList) :
    Python.parseInt? text =
      if text.toList.length ≤ Python.maxIntDigits then some (value text.toList : Int) else none := by
  have keeps (letter : Char) (digit : isAsciiDigit letter = true) : Python.isIntSpace letter = false := by
    rw [isAsciiDigit_iff] at digit
    simp [Python.isIntSpace, Python.isSpace]
    omega
  obtain ⟨first, rest, whole, minus, plus⟩ := decimal.head
  simp only [Python.parseInt?, Strip.stripBy_of_bare (decimal.bare keeps)]
  rw [whole] at decimal ⊢
  split
  next digits same => exact absurd (List.cons.inj same).1 minus
  next digits same => exact absurd (List.cons.inj same).1 plus
  next =>
    rw [python_digitsOf decimal, Option.bind_eq_bind, Option.bind_some, List.length_map, Python.ofDigits, foldl_map_sub]
    by_cases short : (first :: rest).length ≤ Python.maxIntDigits
    · simp only [guard, if_pos short]
      rfl
    · simp only [guard, if_neg short]
      rfl

/-! ### JavaScript -/

theorem javaScript_digit? {letter : Char} (digit : isAsciiDigit letter = true) :
    JavaScript.digit? 10 letter = some (letter.toNat - 48) := by
  rw [isAsciiDigit_iff] at digit
  have small : letter.toNat - 48 < 10 := by omega
  simp [JavaScript.digit?, digit, small]

theorem javaScript_whole? (decimal : Decimal letters) : JavaScript.whole? 10 letters = some (value letters) := by
  rw [JavaScript.whole?, if_neg decimal.present, JavaScript.natural?,
    mapM_digits decimal.digits (fun _ digit => javaScript_digit? digit)]
  simp [foldl_map_sub]

theorem javaScript_bare (decimal : Decimal letters) : Strip.Bare JavaScript.isSpace letters := by
  apply decimal.bare
  intro letter digit
  rw [isAsciiDigit_iff] at digit
  simp [JavaScript.isSpace]
  omega

/-- No digit marks another base. -/
theorem not_mark {mark : Char} (digit : isAsciiDigit mark = true) {first second : Char} (one : isAsciiDigit first = false)
    (two : isAsciiDigit second = false) : ¬ (decide (mark = first) || decide (mark = second)) = true := by
  simp [ne_of_digit digit one, ne_of_digit digit two]

theorem javaScript_bigInt? {text : String} (decimal : Decimal text.toList) :
    JavaScript.bigInt? text = some (value text.toList : Int) := by
  obtain ⟨first, rest, whole, minus, plus⟩ := decimal.head
  rw [JavaScript.bigInt?, Strip.stripBy_of_bare (javaScript_bare decimal)]
  split
  next none => exact absurd none decimal.present
  next mark digits same =>
    have digit : isAsciiDigit mark = true := decimal.digits mark (by simp [same])
    rw [if_neg (not_mark digit (by decide) (by decide)), if_neg (not_mark digit (by decide) (by decide)),
      if_neg (not_mark digit (by decide) (by decide)), ← same, javaScript_whole? decimal]
    rfl
  next digits same => exact absurd (List.cons.inj (whole.symm.trans same)).1 minus
  next digits same => exact absurd (List.cons.inj (whole.symm.trans same)).1 plus
  next => simp [javaScript_whole? decimal]

theorem javaScript_decimal? (decimal : Decimal letters) : JavaScript.decimal? letters = some (value letters : Rat) := by
  have digit : ∀ letter ∈ letters, (JavaScript.digit? 10 letter).isSome = true := by
    intro letter member
    rw [javaScript_digit? (decimal.digits letter member)]
    rfl
  have read : JavaScript.natural? 10 letters = some (value letters) := by
    rw [← javaScript_whole? decimal, JavaScript.whole?, if_neg decimal.present]
  simp [JavaScript.decimal?, List.takeWhile_eq_self_iff.mpr digit, read, decimal.present, guard, JavaScript.exponent?]

/-- `Number` rounds what it reads. -/
theorem javaScript_numberOfText [JavaScript.Engine] {text : String} (decimal : Decimal text.toList) :
    JavaScript.numberOfText text = JavaScript.Engine.toDouble (value text.toList : Rat) := by
  have plain : JavaScript.unsigned text.toList = JavaScript.Engine.toDouble (value text.toList : Rat) := by
    have finite : text.toList ≠ "Infinity".toList := by
      intro same
      have digit := decimal.digits 'I' (by simp [same])
      revert digit
      decide
    rw [JavaScript.unsigned, if_neg finite, javaScript_decimal? decimal]
  obtain ⟨first, rest, whole, minus, plus⟩ := decimal.head
  rw [JavaScript.numberOfText, Strip.stripBy_of_bare (javaScript_bare decimal)]
  split
  next none => exact absurd none decimal.present
  next mark digits same =>
    have digit : isAsciiDigit mark = true := decimal.digits mark (by simp [same])
    rw [if_neg (not_mark digit (by decide) (by decide)), if_neg (not_mark digit (by decide) (by decide)),
      if_neg (not_mark digit (by decide) (by decide)), ← same, plain]
  next digits same => exact absurd (List.cons.inj (whole.symm.trans same)).1 minus
  next digits same => exact absurd (List.cons.inj (whole.symm.trans same)).1 plus
  next => exact plain

/-! ### Go -/

theorem go_digit? {letter : Char} (digit : isAsciiDigit letter = true) : Go.digit? letter = some (letter.toNat - 48) := by
  rw [isAsciiDigit_iff] at digit
  simp [Go.digit?, digit]

theorem go_natural? (decimal : Decimal letters) : Go.natural? letters = some (value letters) := by
  rw [Go.natural?, if_neg decimal.present, mapM_digits decimal.digits (fun _ digit => go_digit? digit)]
  simp [foldl_map_sub]

theorem go_setString {text : String} (decimal : Decimal text.toList) :
    Go.setString text = some (value text.toList : Int) := by
  obtain ⟨first, rest, whole, minus, plus⟩ := decimal.head
  rw [Go.setString]
  split
  next digits same => exact absurd (List.cons.inj (whole.symm.trans same)).1 minus
  next digits same => exact absurd (List.cons.inj (whole.symm.trans same)).1 plus
  next => simp [go_natural? decimal]

end Digits

/-! Whole numbers that print are read back, and what is read prints. -/

namespace Digits
open Python (decimal? digitsOf ofDigits maxIntDigits parseInt? intOfText prints)

theorem decimal_toDigits (number : Nat) : Decimal (Nat.toDigits 10 number) where
  present := Nat.toDigits_ne_nil
  digits := by
    intro letter member
    have digit := Nat.isDigit_of_mem_toDigits (by decide) (by decide) member
    simp only [Char.isDigit, Bool.and_eq_true, decide_eq_true_eq, UInt32.le_iff_toNat_le] at digit
    exact isAsciiDigit_iff.mpr digit

theorem value_toDigits (number : Nat) : value (Nat.toDigits 10 number) = number := by
  have read : Nat.ofDigitChars 10 (Nat.toDigits 10 number) 0 = number := Nat.ofDigitChars_ten_toDigits
  rw [Nat.ofDigitChars_eq_foldl] at read
  exact read

theorem toList_natCast (number : Nat) : (toString (number : Int)).toList = Nat.toDigits 10 number := by
  change number.repr.toList = _
  exact Nat.toList_repr

/-- A number that prints is read back. -/
theorem intOfText_toString {number : Nat} (printable : prints number = true) :
    intOfText (toString (number : Int)) = .ok number := by
  have decimal : Decimal (toString (number : Int)).toList := by
    rw [toList_natCast]
    exact decimal_toDigits number
  have short : (Nat.toDigits 10 number).length ≤ maxIntDigits := of_decide_eq_true printable
  rw [intOfText, python_parseInt? decimal, toList_natCast, if_pos short, value_toDigits]

theorem decimal_lt {letter : Char} {digit : Nat} (read : decimal? letter = some digit) : digit < 10 := by
  obtain ⟨start, found, rfl⟩ := Option.map_eq_some_iff.mp read
  have within := List.find?_some found
  simp only [Bool.and_eq_true, decide_eq_true_eq] at within
  omega

theorem digits_cons_lt {first : Char} {rest : List Char} {digits : List Nat}
    (small : ∀ {digits}, digitsOf rest = some digits → ∀ digit ∈ digits, digit < 10)
    (read : (do let digit ← decimal? first; let digits ← digitsOf rest; return digit :: digits) = some digits) :
    ∀ digit ∈ digits, digit < 10 := by
  simp only [Option.bind_eq_bind, Option.bind_eq_some_iff, Option.pure_def, Option.some.injEq] at read
  obtain ⟨digit, one, others, later, rfl⟩ := read
  exact List.forall_mem_cons.mpr ⟨decimal_lt one, small later⟩

theorem digitsOf_lt {letters : List Char} {digits : List Nat} (read : digitsOf letters = some digits) :
    ∀ digit ∈ digits, digit < 10 := by
  fun_induction digitsOf letters generalizing digits with
  | case1 => cases read
  | case2 last =>
    obtain ⟨digit, found, rfl⟩ := Option.map_eq_some_iff.mp read
    exact List.forall_mem_singleton.mpr (decimal_lt found)
  | case3 first rest ih => exact digits_cons_lt ih read
  | case4 first rest _ _ ih => exact digits_cons_lt ih read

theorem ofDigits_lt {digits : List Nat} (small : ∀ digit ∈ digits, digit < 10) : ofDigits digits < 10 ^ digits.length := by
  have grows : ∀ (digits : List Nat) (total places : Nat), (∀ digit ∈ digits, digit < 10) → total < 10 ^ places →
      digits.foldl (fun total digit => 10 * total + digit) total < 10 ^ (places + digits.length) := by
    intro digits
    induction digits with
    | nil =>
      intro total places _ bound
      exact bound
    | cons digit rest ih =>
      intro total places small bound
      obtain ⟨first, others⟩ := List.forall_mem_cons.mp small
      have next := ih (10 * total + digit) (places + 1) others (by rw [pow_succ]; omega)
      rwa [List.foldl_cons, List.length_cons, show places + (rest.length + 1) = places + 1 + rest.length by omega]
  have whole := grows digits 0 0 small (by decide)
  rwa [Nat.zero_add] at whole

/-- What is read prints; only a minus makes it negative. -/
theorem magnitude_of_parseInt? {text : String} {number : Int} (read : parseInt? text = some number) :
    prints number = true ∧ ('-' ∈ text.toList ∨ 0 ≤ number) := by
  simp only [parseInt?, Option.bind_eq_bind, Option.bind_eq_some_iff, Option.pure_def, Option.some.injEq] at read
  obtain ⟨values, digits, _, short, rfl⟩ := read
  have few : values.length ≤ maxIntDigits := by
    by_contra many
    simp [guard, many] at short
  have bound : ofDigits values < 10 ^ maxIntDigits :=
    (ofDigits_lt (digitsOf_lt digits)).trans_le (Nat.pow_le_pow_right (by decide) few)
  have length : (Nat.toDigits 10 (ofDigits values)).length ≤ maxIntDigits :=
    (Nat.length_toDigits_le_iff (by decide) (by decide)).mpr bound
  have inside (letter : Char) (member : letter ∈ Python.stripBy Python.isIntSpace text.toList) : letter ∈ text.toList := by
    obtain ⟨front, back, whole, _⟩ := Strip.stripBy_split Python.isIntSpace text.toList
    rw [whole]
    simp [member]
  simp only [prints, decide_eq_true_eq]
  split
  next rest trimmed =>
    refine ⟨?_, .inl (inside '-' (by simp [trimmed]))⟩
    simpa only [if_true, Int.natAbs_neg, Int.natAbs_natCast] using length
  next =>
    simp only [Bool.false_eq_true, if_false, Int.natAbs_natCast]
    exact ⟨length, .inr (Int.natCast_nonneg _)⟩
  next =>
    simp only [Bool.false_eq_true, if_false, Int.natAbs_natCast]
    exact ⟨length, .inr (Int.natCast_nonneg _)⟩

end Digits
