import Xcp.Library.Dumps

/-! String literals of Python source: where they end, what their escapes stand
for, and which texts stand for themselves between two quotes. A string is the
list of its code points, since an escape may stand for half a surrogate pair. -/

namespace Python.Written
open Python

/-! ### Where a string ends

No source has a null character. A quote or the end of a line that is escaped
does not end a string. -/

def isNull (letter : Char) : Bool := letter = Char.ofNat 0

def endsLine (letter : Char) : Bool := letter = '\n' || letter = '\r' || isNull letter

/-- The inside of a string that ends at the next quote, and what is after that. -/
def scanLine : (escaped : Bool) → List Char → Option (List Char × List Char)
  | _, [] => none
  | true, letter :: rest =>
    if isNull letter then none else (scanLine false rest).map (Prod.map (List.cons letter) id)
  | false, letter :: rest =>
    if letter = '"' then some ([], rest)
    else if endsLine letter then none
    else (scanLine (letter = '\\') rest).map (Prod.map (List.cons letter) id)

/-- The inside of a string that ends at the next three quotes, and what is after those. -/
def scanBlock : (escaped : Bool) → List Char → Option (List Char × List Char)
  | _, [] => none
  | escaped, letter :: rest =>
    if isNull letter then none
    else if !escaped && letter = '"' && ['"', '"'].isPrefixOf rest then some ([], rest.drop 2)
    else (scanBlock (!escaped && letter = '\\') rest).map (Prod.map (List.cons letter) id)

/-! ### Escapes -/

inductive Mode where
  | plain
  /-- After a backslash. -/
  | escape
  /-- In a code of which some hex digits are missing. -/
  | hex (missing value : Nat)
  /-- In a code of which there may be some more octal digits. -/
  | octal (missing value : Nat)
  | nameStart
  | name (letters : List Char)
deriving DecidableEq, Repr

def octalValue? (letter : Char) : Option Nat :=
  if 48 ≤ letter.toNat ∧ letter.toNat < 56 then some (letter.toNat - 48) else none

/-- The code of an escape of one letter. -/
def simpleEscape? (letter : Char) : Option Nat :=
  match letter with
  | '\\' => some 92
  | '\'' => some 39
  | '"' => some 34
  | 'a' => some 7
  | 'b' => some 8
  | 'f' => some 12
  | 'n' => some 10
  | 'r' => some 13
  | 't' => some 9
  | 'v' => some 11
  | _ => none

def isNameLetter (letter : Char) : Bool := letter.isAlphanum || letter = ' ' || letter = '-'

/-- What was read so far, and what is being read. -/
abbrev Decoding := List Nat × Mode

def plainStep (read : List Nat) (letter : Char) : Decoding :=
  if letter = '\\' then (read, .escape) else (read ++ [letter.toNat], .plain)

def escapeStep (read : List Nat) (letter : Char) : Decoding :=
  if letter = '\n' ∨ letter = '\r' then (read, .plain)
  else if letter = 'x' then (read, .hex 2 0)
  else if letter = 'u' then (read, .hex 4 0)
  else if letter = 'U' then (read, .hex 8 0)
  else if letter = 'N' then (read, .nameStart)
  else
    match simpleEscape? letter, octalValue? letter with
    | some code, _ => (read ++ [code], .plain)
    | none, some digit => (read, .octal 2 digit)
    -- A backslash before any other letter stays.
    | none, none => (read ++ [92, letter.toNat], .plain)

/-- `named` is what Unicode calls its letters. -/
def advance (named : List Char → Option Nat) : Decoding → Char → Option Decoding
  | (read, .plain), letter => some (plainStep read letter)
  | (read, .escape), letter => some (escapeStep read letter)
  | (read, .hex missing value), letter =>
    match hexValue? letter with
    | none => none
    | some digit =>
      let value := 16 * value + digit
      if 1 < missing then some (read, .hex (missing - 1) value)
      else if value < 0x110000 then some (read ++ [value], .plain) else none
  | (read, .octal missing value), letter =>
    match octalValue? letter with
    | some digit =>
      if 0 < missing then some (read, .octal (missing - 1) (8 * value + digit)) else some (plainStep (read ++ [value]) letter)
    | none => some (plainStep (read ++ [value]) letter)
  | (read, .nameStart), letter => if letter = '\x7b' then some (read, .name []) else none
  | (read, .name letters), letter =>
    if letter = '\x7d' then (named letters).map (fun code => (read ++ [code], .plain))
    else if isNameLetter letter then some (read, .name (letters ++ [letter]))
    else none

def finish : Decoding → Option (List Nat)
  | (read, .plain) => some read
  | (read, .octal _ value) => some (read ++ [value])
  | _ => none

section Decoding
variable (named : List Char → Option Nat)

def advances (start : Decoding) (letters : List Char) : Option Decoding := letters.foldlM (advance named) start

/-- What the inside of a string stands for. -/
def decoded (letters : List Char) : Option (List Nat) := (advances named ([], .plain) letters).bind finish

/-- A string on one line. Three quotes would open one that runs on over the lines after it. -/
def readLine : List Char → Option (List Nat × List Char)
  | '"' :: rest =>
    if ['"', '"'].isPrefixOf rest then none
    else (scanLine false rest).bind (fun scanned => (decoded named scanned.1).map (fun codes => (codes, scanned.2)))
  | _ => none

/-- A string between three quotes, as it is written. -/
def readBlock : List Char → Option (List Char × List Char)
  | '"' :: '"' :: '"' :: rest =>
    (scanBlock false rest).bind (fun scanned => (decoded named scanned.1).map (fun _ => scanned))
  | _ => none

end Decoding

/-! ### Texts that stand for themselves -/

def codes (letters : List Char) : List Nat := letters.map Char.toNat

/-- Letters before which a backslash stays a backslash. -/
def keepsBackslash (letter : Char) : Bool :=
  !(['\\', '\'', '"', 'a', 'b', 'f', 'n', 'r', 't', 'v', 'x', 'u', 'U', 'N', '\n', '\r'].contains letter) &&
    (octalValue? letter).isNone && !isNull letter

/-- No quote, no end of a line, no null, and no backslash that begins an escape or stands last. -/
def verbatim : List Char → Bool
  | [] => true
  | '\\' :: next :: rest => keepsBackslash next && verbatim rest
  | letter :: rest => letter ≠ '\\' && letter ≠ '"' && !endsLine letter && verbatim rest

/-! ### Scanning on

A text either leaves a string open, or the string ends within it. -/

/-- Whether the last letter is escaped, for a text that leaves a line open. -/
def passLine : (escaped : Bool) → List Char → Option Bool
  | escaped, [] => some escaped
  | true, letter :: rest => if isNull letter then none else passLine false rest
  | false, letter :: rest => if letter = '"' || endsLine letter then none else passLine (letter = '\\') rest

def passBlock : (escaped : Bool) → List Char → Option Bool
  | escaped, [] => some escaped
  | escaped, letter :: rest =>
    if isNull letter then none
    else if !escaped && letter = '"' && ['"', '"'].isPrefixOf rest then none
    else passBlock (!escaped && letter = '\\') rest

theorem scanLine_of_pass {escaped after : Bool} {text : List Char} (passes : passLine escaped text = some after)
    (rest : List Char) :
    scanLine escaped (text ++ rest) = (scanLine after rest).map (Prod.map (text ++ ·) id) := by
  induction text generalizing escaped with
  | nil =>
    cases Option.some.inj passes
    rw [List.nil_append]
    cases scanLine after rest <;> rfl
  | cons letter text ih =>
    cases escaped with
    | true =>
      simp only [passLine] at passes
      split at passes
      next => cases passes
      next real =>
        rw [List.cons_append, scanLine, if_neg real, ih passes, Option.map_map]
        rfl
    | false =>
      simp only [passLine] at passes
      split at passes
      next => cases passes
      next goes =>
        rw [Bool.not_eq_true, Bool.or_eq_false_iff, decide_eq_false_iff_not] at goes
        rw [List.cons_append, scanLine, if_neg goes.1, goes.2, if_neg Bool.false_ne_true, ih passes, Option.map_map]
        rfl

/-- Where a text does not leave a line open, the string ends within it, if it ends. -/
theorem scanLine_of_not_pass {escaped : Bool} {text : List Char} (stops : passLine escaped text = none) {rest : List Char}
    {scanned : List Char × List Char} (read : scanLine escaped (text ++ rest) = some scanned) :
    scanned.1.length < text.length := by
  induction text generalizing escaped scanned with
  | nil => cases stops
  | cons letter text ih =>
    cases escaped with
    | true =>
      simp only [passLine] at stops
      rw [List.cons_append, scanLine] at read
      split at read
      next => cases read
      next real =>
        rw [if_neg real] at stops
        obtain ⟨inner, later, rfl⟩ := Option.map_eq_some_iff.mp read
        exact Nat.succ_lt_succ (ih stops later)
    | false =>
      simp only [passLine] at stops
      rw [List.cons_append, scanLine] at read
      split at read
      next =>
        cases read
        exact Nat.succ_pos _
      next noQuote =>
        split at read
        next => cases read
        next stays =>
          rw [Bool.not_eq_true] at stays
          rw [stays, Bool.or_false, decide_eq_false noQuote, if_neg Bool.false_ne_true] at stops
          obtain ⟨inner, later, rfl⟩ := Option.map_eq_some_iff.mp read
          exact Nat.succ_lt_succ (ih stops later)

/-- What ends in a letter that is no quote opens no three quotes with what follows. -/
theorem prefix_append_of_last {text : List Char} {last : Char} (noQuote : last ≠ '"') (rest : List Char) :
    ['"', '"'].isPrefixOf (text ++ [last] ++ rest) = ['"', '"'].isPrefixOf (text ++ [last]) := by
  match text with
  | [] => simp [List.isPrefixOf, Ne.symm noQuote]
  | [first] => simp [List.isPrefixOf]
  | first :: second :: text => simp [List.isPrefixOf]

theorem passBlock_append {escaped : Bool} {text : List Char} {last : Char} (noQuote : last ≠ '"') (rest : List Char) :
    passBlock escaped (text ++ [last] ++ rest) =
      (passBlock escaped (text ++ [last])).bind (fun after => passBlock after rest) := by
  induction text generalizing escaped with
  | nil =>
    simp only [List.nil_append, List.singleton_append, passBlock, decide_eq_false noQuote, Bool.and_false, Bool.false_and,
      if_neg Bool.false_ne_true]
    split <;> rfl
  | cons letter text ih =>
    simp only [List.cons_append, passBlock, prefix_append_of_last noQuote, ih]
    split
    · rfl
    split <;> rfl

theorem scanBlock_of_pass {escaped after : Bool} {text : List Char} {last : Char} (noQuote : last ≠ '"')
    (passes : passBlock escaped (text ++ [last]) = some after) (rest : List Char) :
    scanBlock escaped (text ++ [last] ++ rest) = (scanBlock after rest).map (Prod.map (text ++ [last] ++ ·) id) := by
  induction text generalizing escaped with
  | nil =>
    simp only [List.nil_append, List.singleton_append, passBlock, scanBlock, decide_eq_false noQuote, Bool.and_false,
      Bool.false_and, if_neg Bool.false_ne_true] at passes ⊢
    split at passes
    next => cases passes
    next real =>
      cases Option.some.inj passes
      rw [if_neg real]
  | cons letter text ih =>
    simp only [List.cons_append, passBlock, scanBlock, prefix_append_of_last noQuote] at passes ⊢
    split at passes
    next => cases passes
    next real =>
      split at passes
      next => cases passes
      next goes =>
        rw [if_neg real, if_neg goes, ih passes, Option.map_map]
        rfl

theorem scanBlock_of_not_pass {escaped : Bool} {text : List Char} {last : Char} (noQuote : last ≠ '"')
    (stops : passBlock escaped (text ++ [last]) = none) {rest : List Char} {scanned : List Char × List Char}
    (read : scanBlock escaped (text ++ [last] ++ rest) = some scanned) : scanned.1.length < (text ++ [last]).length := by
  induction text generalizing escaped scanned with
  | nil =>
    simp only [List.nil_append, List.singleton_append, passBlock, scanBlock, decide_eq_false noQuote, Bool.and_false,
      Bool.false_and, if_neg Bool.false_ne_true] at stops read
    split at stops
    next null =>
      rw [if_pos null] at read
      cases read
    next => cases stops
  | cons letter text ih =>
    simp only [List.cons_append, passBlock, scanBlock, prefix_append_of_last noQuote] at stops read
    split at read
    next => cases read
    next real =>
      rw [if_neg real] at stops
      split at read
      next =>
        cases read
        exact Nat.succ_pos _
      next goes =>
        rw [if_neg goes] at stops
        obtain ⟨inner, later, rfl⟩ := Option.map_eq_some_iff.mp read
        exact Nat.succ_lt_succ (ih stops later)

/-! ### Decoding on -/

section Decoding
variable {named : List Char → Option Nat}

theorem advances_append (start : Decoding) (text rest : List Char) :
    advances named start (text ++ rest) = (advances named start text).bind (fun middle => advances named middle rest) :=
  List.foldlM_append

theorem advances_cons (start : Decoding) (letter : Char) (rest : List Char) :
    advances named start (letter :: rest) = (advance named start letter).bind (fun middle => advances named middle rest) :=
  rfl

def prepend (before : List Nat) (state : Decoding) : Decoding := (before ++ state.1, state.2)

theorem advance_prepend (before : List Nat) (state : Decoding) (letter : Char) :
    advance named (prepend before state) letter = (advance named state letter).map (prepend before) := by
  have plain (read : List Nat) : plainStep (before ++ read) letter = prepend before (plainStep read letter) := by
    unfold plainStep
    split <;> simp [prepend]
  obtain ⟨read, mode⟩ := state
  cases mode with
  | plain => simp [advance, prepend, plain]
  | escape =>
    simp only [advance, prepend, Option.map_some, Option.some.injEq, escapeStep]
    split_ifs <;> try rfl
    split <;> simp
  | hex missing value =>
    simp only [advance, prepend]
    split
    · rfl
    · split_ifs <;> simp [prepend]
  | octal missing value =>
    simp only [advance, prepend, List.append_assoc, plain]
    split
    · split_ifs <;> simp [prepend]
    · rfl
  | nameStart =>
    simp only [advance, prepend]
    split_ifs <;> simp [prepend]
  | name letters =>
    simp only [advance, prepend]
    split_ifs
    · cases named letters <;> simp [prepend]
    · simp [prepend]
    · rfl

theorem advances_prepend (before : List Nat) (state : Decoding) (letters : List Char) :
    advances named (prepend before state) letters = (advances named state letters).map (prepend before) := by
  induction letters generalizing state with
  | nil => rfl
  | cons letter rest ih =>
    rw [advances_cons, advances_cons, advance_prepend]
    cases advance named state letter with
    | none => rfl
    | some middle => exact ih middle

/-- How many letters were read at least: what they stand for, and one for what is being read. -/
def weight : Decoding → Nat
  | (read, .plain) => read.length
  | (read, _) => read.length + 1

theorem weight_plainStep (read : List Nat) (letter : Char) : weight (plainStep read letter) = read.length + 1 := by
  unfold plainStep
  split <;> simp [weight]

theorem weight_escapeStep (read : List Nat) (letter : Char) : weight (escapeStep read letter) ≤ read.length + 2 := by
  unfold escapeStep
  split_ifs
  · exact Nat.le_add_right _ _
  · exact Nat.le_succ _
  · exact Nat.le_succ _
  · exact Nat.le_succ _
  · exact Nat.le_succ _
  · split <;> simp [weight]

/-- No letter stands for more than itself, and none but plain letters for so much. -/
theorem weight_advance {before after : Decoding} {letter : Char} (step : advance named before letter = some after) :
    weight after ≤ weight before + 1 := by
  obtain ⟨read, mode⟩ := before
  cases mode with
  | plain =>
    cases Option.some.inj step
    rw [weight_plainStep]
    exact Nat.le_refl _
  | escape =>
    cases Option.some.inj step
    exact weight_escapeStep read letter
  | hex missing value =>
    simp only [advance] at step
    split at step
    next => cases step
    next =>
      split_ifs at step <;> cases step <;> simp [weight]
  | octal missing value =>
    simp only [advance] at step
    split at step
    next =>
      split_ifs at step <;> cases step
      · simp [weight]
      · rw [weight_plainStep]
        simp [weight]
    next =>
      cases step
      rw [weight_plainStep]
      simp [weight]
  | nameStart =>
    simp only [advance] at step
    split_ifs at step
    cases step
    simp [weight]
  | name letters =>
    simp only [advance] at step
    split_ifs at step
    · obtain ⟨code, _, rfl⟩ := Option.map_eq_some_iff.mp step
      simp [weight]
    · cases step
      simp [weight]

theorem weight_advances {before after : Decoding} {letters : List Char} (steps : advances named before letters = some after) :
    weight after ≤ weight before + letters.length := by
  induction letters generalizing before with
  | nil =>
    cases Option.some.inj steps
    exact Nat.le_refl _
  | cons letter rest ih =>
    rw [advances_cons] at steps
    obtain ⟨middle, step, later⟩ := Option.bind_eq_some_iff.mp steps
    have here := weight_advance step
    have tail := ih later
    rw [List.length_cons]
    omega

theorem length_finish {state : Decoding} {read : List Nat} (finished : finish state = some read) : read.length ≤ weight state := by
  obtain ⟨before, mode⟩ := state
  cases mode with
  | plain =>
    cases finished
    exact Nat.le_refl _
  | octal =>
    cases finished
    simp [weight]
  | _ => cases finished

theorem length_decoded {letters : List Char} {read : List Nat} (stands : decoded named letters = some read) :
    read.length ≤ letters.length := by
  obtain ⟨state, steps, finished⟩ := Option.bind_eq_some_iff.mp stands
  have bound := weight_advances steps
  have last := length_finish finished
  have start : weight ([], .plain) = 0 := rfl
  omega

/-! ### What stands for itself -/

theorem escapeStep_keeps {letter : Char} (keeps : keepsBackslash letter = true) (read : List Nat) :
    escapeStep read letter = (read ++ [92, letter.toNat], .plain) := by
  simp only [keepsBackslash, List.contains_cons, List.contains_nil, Bool.or_false, Bool.and_eq_true, Bool.not_eq_true',
    Bool.or_eq_false_iff, beq_eq_false_iff_ne, Option.isNone_iff_eq_none] at keeps
  obtain ⟨⟨⟨back, single, double, a, b, f, n, r, t, v, x, u, long, name, line, carriage⟩, octal⟩, _⟩ := keeps
  have simple : simpleEscape? letter = none := by
    unfold simpleEscape?
    split <;> first | rfl | contradiction
  have ends : ¬ (letter = '\n' ∨ letter = '\r') := fun either => either.elim line carriage
  rw [escapeStep, if_neg ends, if_neg x, if_neg u, if_neg long, if_neg name, simple, octal]

theorem escapeStep_loses {letter : Char} (escapes : keepsBackslash letter = false) (real : isNull letter = false) (read : List Nat) :
    weight (escapeStep read letter) ≤ read.length + 1 := by
  unfold escapeStep
  split_ifs with line x u long name
  · exact Nat.le_succ _
  · exact Nat.le_refl _
  · exact Nat.le_refl _
  · exact Nat.le_refl _
  · exact Nat.le_refl _
  · split
    next => simp [weight]
    next => simp [weight]
    next simple octal =>
      -- only a letter of no escape is left, and before such a letter the backslash stays
      have keeps : keepsBackslash letter = true := by
        rw [not_or] at line
        have plain : letter ≠ '\\' ∧ letter ≠ '\'' ∧ letter ≠ '"' ∧ letter ≠ 'a' ∧ letter ≠ 'b' ∧ letter ≠ 'f' ∧ letter ≠ 'n' ∧
            letter ≠ 'r' ∧ letter ≠ 't' ∧ letter ≠ 'v' := by
          refine ⟨?_, ?_, ?_, ?_, ?_, ?_, ?_, ?_, ?_, ?_⟩ <;> rintro rfl <;> cases simple
        simp [keepsBackslash, octal, real, line, x, u, long, name, plain]
      rw [keeps] at escapes
      cases escapes

theorem verbatim_passLine {text : List Char} (plain : verbatim text = true) : passLine false text = some false := by
  induction text using verbatim.induct with
  | case1 => rfl
  | case2 next rest ih =>
    simp only [verbatim, Bool.and_eq_true] at plain
    have real : isNull next = false := by
      have keeps := plain.1
      simp only [keepsBackslash, Bool.and_eq_true, Bool.not_eq_true'] at keeps
      exact keeps.2
    have opens : passLine false ('\\' :: next :: rest) = passLine true (next :: rest) := rfl
    rw [opens, passLine, real, if_neg Bool.false_ne_true]
    exact ih plain.2
  | case3 letter rest other ih =>
    rw [verbatim, Bool.and_eq_true, Bool.and_eq_true, Bool.and_eq_true] at plain
    · obtain ⟨⟨⟨back, quote⟩, line⟩, later⟩ := plain
      rw [Bool.not_eq_true'] at line
      rw [passLine, decide_eq_false (of_decide_eq_true quote), line, decide_eq_false (of_decide_eq_true back)]
      exact ih later
    · exact other

theorem advances_verbatim {text : List Char} (plain : verbatim text = true) (read : List Nat) :
    advances named (read, .plain) text = some (read ++ codes text, .plain) := by
  induction text using verbatim.induct generalizing read with
  | case1 =>
    rw [codes, List.map_nil, List.append_nil]
    rfl
  | case2 next rest ih =>
    simp only [verbatim, Bool.and_eq_true] at plain
    have opens : advance named (read, .plain) '\\' = some (read, .escape) := rfl
    have stays : advance named (read, .escape) next = some (read ++ [92, next.toNat], .plain) :=
      congrArg some (escapeStep_keeps plain.1 read)
    rw [advances_cons, opens, Option.bind_some, advances_cons, stays, Option.bind_some, ih plain.2, List.append_assoc]
    rfl
  | case3 letter rest other ih =>
    rw [verbatim, Bool.and_eq_true, Bool.and_eq_true, Bool.and_eq_true] at plain
    · obtain ⟨⟨⟨back, _⟩, _⟩, later⟩ := plain
      have stays : advance named (read, .plain) letter = some (read ++ [letter.toNat], .plain) := by
        rw [advance, plainStep, if_neg (of_decide_eq_true back)]
      rw [advances_cons, stays, Option.bind_some, ih later, List.append_assoc]
      rfl
    · exact other

/-- A text that leaves a line open and loses no letter when it is decoded stands for itself. -/
theorem verbatim_of_length {text : List Char} {read result : List Nat} {after : Bool} {state : Decoding}
    (passes : passLine false text = some after) (steps : advances named (read, .plain) text = some state)
    (finished : finish state = some result) (whole : result.length = read.length + text.length) : verbatim text = true := by
  induction text using verbatim.induct generalizing read with
  | case1 => rfl
  | case2 next rest ih =>
    have opens : passLine false ('\\' :: next :: rest) = passLine true (next :: rest) := rfl
    rw [opens, passLine] at passes
    split at passes
    next => cases passes
    next real =>
      rw [Bool.not_eq_true] at real
      have first : advance named (read, .plain) '\\' = some (read, .escape) := rfl
      have second : advance named (read, .escape) next = some (escapeStep read next) := rfl
      rw [advances_cons, first, Option.bind_some, advances_cons, second, Option.bind_some] at steps
      simp only [List.length_cons] at whole
      cases keeps : keepsBackslash next with
      | true =>
        rw [escapeStep_keeps keeps] at steps
        rw [verbatim, keeps, Bool.true_and]
        apply ih passes steps
        rw [List.length_append, List.length_cons, List.length_cons, List.length_nil]
        omega
      | false =>
        have lost := escapeStep_loses keeps real read
        have bound := weight_advances steps
        have last := length_finish finished
        omega
  | case3 letter rest other ih =>
    rw [passLine] at passes
    split at passes
    next => cases passes
    next goes =>
      rw [Bool.not_eq_true, Bool.or_eq_false_iff] at goes
      by_cases back : letter = '\\'
      · -- a backslash that stands last begins an escape that never ends
        subst back
        cases rest with
        | nil =>
          cases Option.some.inj steps
          cases finished
        | cons next rest => exact absurd rfl (other next rest rfl)
      · rw [decide_eq_false back] at passes
        have stays : advance named (read, .plain) letter = some (read ++ [letter.toNat], .plain) := by
          rw [advance, plainStep, if_neg back]
        rw [advances_cons, stays, Option.bind_some] at steps
        have later : verbatim rest = true := by
          apply ih passes steps
          rw [List.length_append, List.length_singleton]
          rw [List.length_cons] at whole
          omega
        rw [verbatim]
        · rw [later, goes.2, decide_eq_true back, decide_eq_true (of_decide_eq_false goes.1)]
          rfl
        · exact other

theorem length_codes (letters : List Char) : (codes letters).length = letters.length := List.length_map _

/-- Between two quotes a text that stands for itself is read as it is. -/
theorem readLine_verbatim {text rest : List Char} (plain : verbatim text = true) (noQuote : rest.head? ≠ some '"') :
    readLine named ('"' :: (text ++ '"' :: rest)) = some (codes text, rest) := by
  have single : ['"', '"'].isPrefixOf (text ++ '"' :: rest) = false := by
    cases text with
    | nil =>
      cases rest with
      | nil => rfl
      | cons next rest =>
        have other : next ≠ '"' := fun same => noQuote (congrArg some same)
        simp [List.isPrefixOf, Ne.symm other]
    | cons letter text =>
      have passes := verbatim_passLine plain
      rw [passLine] at passes
      split at passes
      next => cases passes
      next goes =>
        rw [Bool.not_eq_true, Bool.or_eq_false_iff] at goes
        simp [List.isPrefixOf, Ne.symm (of_decide_eq_false goes.1)]
  have scanned : scanLine false (text ++ '"' :: rest) = some (text, rest) := by
    rw [scanLine_of_pass (verbatim_passLine plain), scanLine, if_pos rfl, Option.map_some, Prod.map_apply, List.append_nil]
    rfl
  have stands : decoded named text = some (codes text) := by
    rw [decoded, advances_verbatim plain, Option.bind_some, List.nil_append]
    rfl
  rw [readLine, single, if_neg Bool.false_ne_true, scanned, Option.bind_some, stands]
  rfl

/-- A text that is read between two quotes as one that is no shorter stands for itself, where the line after it has no more
quotes if its closing quote is escaped. -/
theorem verbatim_of_readLine {text rest after : List Char} {read : List Nat}
    (ends : passLine false text = some true → scanLine false rest = none) (whole : read.length = text.length)
    (found : readLine named ('"' :: (text ++ '"' :: rest)) = some (read, after)) : verbatim text = true ∧ after = rest := by
  rw [readLine] at found
  split at found
  next => cases found
  next =>
    obtain ⟨scanned, scan, stands⟩ := Option.bind_eq_some_iff.mp found
    obtain ⟨result, decodes, same⟩ := Option.map_eq_some_iff.mp stands
    obtain ⟨rfl, rfl⟩ := Prod.mk.inj same
    have long := length_decoded decodes
    cases passes : passLine false text with
    | none =>
      have short := scanLine_of_not_pass passes scan
      omega
    | some escaped =>
      rw [scanLine_of_pass passes] at scan
      cases escaped with
      | true =>
        rw [scanLine, if_neg (by decide)] at scan
        rw [ends passes] at scan
        cases scan
      | false =>
        rw [scanLine, if_pos rfl, Option.map_some, Prod.map_apply, List.append_nil] at scan
        cases scan
        obtain ⟨state, steps, finished⟩ := Option.bind_eq_some_iff.mp decodes
        refine ⟨verbatim_of_length passes steps finished ?_, rfl⟩
        rw [whole, List.length_nil, Nat.zero_add]

/-! ### Between three quotes -/

variable (named) in
/-- A text after which a string between three quotes goes on as if the text was not there. -/
def inert (text : List Char) : Bool :=
  passBlock false text = some false && (advances named ([], .plain) text).any (fun state => state.2 = .plain)

theorem inert_iff {text : List Char} : inert named text = true ↔
    passBlock false text = some false ∧ ∃ read, advances named ([], .plain) text = some (read, .plain) := by
  simp only [inert, Bool.and_eq_true, decide_eq_true_eq, Option.any_eq_true]
  refine and_congr_right (fun _ => ?_)
  constructor
  · intro ⟨state, steps, mode⟩
    exact ⟨state.1, by rw [steps, ← mode]⟩
  · intro ⟨read, steps⟩
    exact ⟨(read, .plain), steps, rfl⟩

/-- After an inert text that ends in no quote, what follows decides. -/
theorem inert_append {text : List Char} {last : Char} (noQuote : last ≠ '"') (quiet : inert named (text ++ [last]) = true)
    (rest : List Char) : inert named (text ++ [last] ++ rest) = inert named rest := by
  obtain ⟨passes, read, steps⟩ := inert_iff.mp quiet
  have shifted : advances named (read, .plain) rest = (advances named ([], .plain) rest).map (prepend read) := by
    rw [← advances_prepend]
    simp [prepend]
  rw [inert, inert, passBlock_append noQuote, passes, Option.bind_some, advances_append, steps, Option.bind_some, shifted,
    Option.any_map]
  rfl

/-- Letters that no code and no name has: they end an escape, or break it. -/
def settles (letter : Char) : Bool := ['\n', ':'].contains letter

theorem settles_cases {letter : Char} (settled : settles letter = true) : letter = '\n' ∨ letter = ':' := by
  simpa [settles] using settled

theorem advance_settles {before after : Decoding} {last : Char} (settled : settles last = true)
    (step : advance named before last = some after) : after.2 = .plain := by
  obtain ⟨read, mode⟩ := before
  cases mode with
  | plain => rcases settles_cases settled with rfl | rfl <;> (cases Option.some.inj step; rfl)
  | escape => rcases settles_cases settled with rfl | rfl <;> (cases Option.some.inj step; rfl)
  | hex missing value => rcases settles_cases settled with rfl | rfl <;> cases step
  | octal missing value => rcases settles_cases settled with rfl | rfl <;> (cases Option.some.inj step; rfl)
  | nameStart => rcases settles_cases settled with rfl | rfl <;> cases step
  | name letters => rcases settles_cases settled with rfl | rfl <;> cases step

theorem passBlock_settles {escaped after : Bool} {text : List Char} {last : Char} (settled : settles last = true)
    (passes : passBlock escaped (text ++ [last]) = some after) : after = false := by
  induction text generalizing escaped with
  | nil =>
    rcases settles_cases settled with rfl | rfl
    · simpa [passBlock, isNull] using passes.symm
    · simpa [passBlock, isNull] using passes.symm
  | cons letter text ih =>
    rw [List.cons_append, passBlock] at passes
    split at passes
    next => cases passes
    next =>
      split at passes
      next => cases passes
      next => exact ih passes

/-- A text that settles leaves nothing open that it did not break. -/
theorem inert_of_passes {text : List Char} {last : Char} (settled : settles last = true) {after : Bool}
    (passes : passBlock false (text ++ [last]) = some after) {state : Decoding}
    (steps : advances named ([], .plain) (text ++ [last]) = some state) : inert named (text ++ [last]) = true := by
  have quiet := passBlock_settles settled passes
  rw [advances_append] at steps
  obtain ⟨middle, before, step⟩ := Option.bind_eq_some_iff.mp steps
  have single : advances named middle [last] = advance named middle last := by
    rw [advances_cons]
    cases advance named middle last <;> rfl
  rw [single] at step
  have mode := advance_settles settled step
  apply inert_iff.mpr
  refine ⟨quiet ▸ passes, state.1, ?_⟩
  rw [advances_append, before, Option.bind_some, single, step, ← mode]

theorem inert_of_append {text : List Char} {last : Char} (settled : settles last = true) {rest : List Char}
    (quiet : inert named (text ++ [last] ++ rest) = true) : inert named (text ++ [last]) = true := by
  have noQuote : last ≠ '"' := by
    rintro rfl
    cases settled
  obtain ⟨passes, read, steps⟩ := inert_iff.mp quiet
  rw [passBlock_append noQuote] at passes
  rw [advances_append] at steps
  obtain ⟨after, first, _⟩ := Option.bind_eq_some_iff.mp passes
  obtain ⟨state, before, _⟩ := Option.bind_eq_some_iff.mp steps
  exact inert_of_passes settled first before

theorem verbatim_inert {text : List Char} (plain : verbatim text = true) : inert named text = true := by
  apply inert_iff.mpr
  refine ⟨?_, codes text, advances_verbatim plain []⟩
  induction text using verbatim.induct with
  | case1 => rfl
  | case2 next rest ih =>
    simp only [verbatim, Bool.and_eq_true] at plain
    have keeps := plain.1
    simp only [keepsBackslash, Bool.and_eq_true, Bool.not_eq_true'] at keeps
    have opens : passBlock false ('\\' :: next :: rest) = passBlock true (next :: rest) := rfl
    rw [opens, passBlock, keeps.2, if_neg Bool.false_ne_true]
    exact ih plain.2
  | case3 letter rest other ih =>
    rw [verbatim, Bool.and_eq_true, Bool.and_eq_true, Bool.and_eq_true] at plain
    · obtain ⟨⟨⟨back, quote⟩, line⟩, later⟩ := plain
      have real : isNull letter = false := by
        simp only [endsLine, Bool.not_eq_true', Bool.or_eq_false_iff] at line
        exact line.2
      rw [passBlock, real, if_neg Bool.false_ne_true, decide_eq_false (of_decide_eq_true quote), Bool.and_false, Bool.false_and,
        if_neg Bool.false_ne_true, decide_eq_false (of_decide_eq_true back), Bool.and_false]
      exact ih later
    · exact other

/-- The beginning of a text that stands for itself does so too, up to a letter that is not a backslash. -/
theorem verbatim_of_append {text rest : List Char} {last : Char} (back : last ≠ '\\') (plain : verbatim (text ++ last :: rest) = true) :
    verbatim (text ++ [last]) = true := by
  induction text using verbatim.induct with
  | case1 =>
    rw [List.nil_append, verbatim] at plain
    · simp only [Bool.and_eq_true] at plain
      rw [List.nil_append, verbatim]
      · simp only [Bool.and_eq_true]
        exact ⟨plain.1, rfl⟩
      · rintro next tail rfl
        exact absurd rfl back
    · rintro next tail rfl
      exact absurd rfl back
  | case2 next text ih =>
    simp only [List.cons_append, verbatim, Bool.and_eq_true] at plain ⊢
    exact ⟨plain.1, ih plain.2⟩
  | case3 letter text other ih =>
    by_cases slash : letter = '\\'
    · subst slash
      cases text with
      | nil =>
        simp only [List.cons_append, List.nil_append, verbatim, Bool.and_eq_true] at plain ⊢
        exact ⟨plain.1, trivial⟩
      | cons next text => exact absurd rfl (other next text rfl)
    · rw [List.cons_append, verbatim] at plain ⊢
      · simp only [Bool.and_eq_true] at plain ⊢
        exact ⟨plain.1, ih plain.2⟩
      · rintro next tail rfl
        exact absurd rfl slash
      · rintro next tail rfl
        exact absurd rfl slash

theorem readBlock_inert {text : List Char} {last : Char} (noQuote : last ≠ '"') (quiet : inert named (text ++ [last]) = true)
    (rest : List Char) :
    readBlock named ('"' :: '"' :: '"' :: (text ++ [last] ++ '"' :: '"' :: '"' :: rest)) = some (text ++ [last], rest) := by
  obtain ⟨passes, read, steps⟩ := inert_iff.mp quiet
  have scanned : scanBlock false (text ++ [last] ++ '"' :: '"' :: '"' :: rest) = some (text ++ [last], rest) := by
    rw [scanBlock_of_pass noQuote passes]
    simp [scanBlock, isNull, List.isPrefixOf]
  have stands : decoded named (text ++ [last]) = some read := by
    rw [decoded, steps]
    rfl
  rw [readBlock, scanned, Option.bind_some, stands]
  rfl

/-- A text that is read as itself between three quotes and settles is inert. -/
theorem inert_of_readBlock {text rest after : List Char} {last : Char} (settled : settles last = true)
    (read : readBlock named ('"' :: '"' :: '"' :: (text ++ [last] ++ '"' :: '"' :: '"' :: rest)) = some (text ++ [last], after)) :
    inert named (text ++ [last]) = true ∧ after = rest := by
  have noQuote : last ≠ '"' := by
    rintro rfl
    cases settled
  rw [readBlock] at read
  obtain ⟨scanned, scan, stands⟩ := Option.bind_eq_some_iff.mp read
  obtain ⟨result, decodes, rfl⟩ := Option.map_eq_some_iff.mp stands
  cases passes : passBlock false (text ++ [last]) with
  | none =>
    have short := scanBlock_of_not_pass noQuote passes scan
    exact absurd short (Nat.lt_irrefl _)
  | some escaped =>
    obtain ⟨state, steps, _⟩ := Option.bind_eq_some_iff.mp decodes
    have quiet := inert_of_passes settled passes steps
    rw [scanBlock_of_pass noQuote passes, passBlock_settles settled passes] at scan
    refine ⟨quiet, ?_⟩
    simpa [scanBlock, isNull, List.isPrefixOf] using scan.symm

end Decoding

end Python.Written
