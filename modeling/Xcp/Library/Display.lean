import Xcp.Library.Decode
import Xcp.Library.StringLiteral

/-! `json.dumps` with an indent, and its text read as Python source: as a
display of lists and dicts with strings and numbers in it. Much of JSON is such
a display. Its names are not, and an escape is half of an astral letter. -/

namespace Python.Written
open PrefixCode Python

/-! ### What displays stand for -/

inductive Literal where
  | text (codes : List Nat)
  /-- A number is known by its digits. -/
  | number (letters : List Char)
  | list (items : List Literal)
  | dict (members : List (List Nat × Literal))

/-- How deep brackets may be nested in source. -/
def maxBrackets : Nat := 200

section Reading
variable [Host] (named : List Char → Option Nat)

def readNumber (letters : List Char) : Option (Literal × List Char) :=
  let word := letters.takeWhile wordLetter
  if (decodeNumber word).isSome then some (.number word, letters.dropWhile wordLetter) else none

/-- A literal without brackets. -/
def readFlat : List Char → Option (Literal × List Char)
  | '"' :: rest => (readLine named ('"' :: rest)).map (Prod.map .text id)
  | letters => readNumber letters

def readPair (reader : List Char → Option (Literal × List Char)) (letters : List Char) :
    Option ((List Nat × Literal) × List Char) :=
  match readLine named letters with
  | none => none
  | some (name, rest) =>
    match skipBlanks rest with
    | ':' :: rest => (reader (skipBlanks rest)).map (Prod.map (Prod.mk name) id)
    | _ => none

/-- A literal in which at most `left` more brackets are nested. -/
def readValue : (left : Nat) → List Char → Option (Literal × List Char)
  | left + 1, '[' :: rest => (decodeItems (readValue left) ']' rest).map (Prod.map .list id)
  | left + 1, '\x7b' :: rest => (decodeItems (readPair named (readValue left)) '\x7d' rest).map (Prod.map .dict id)
  | _, letters => readFlat named letters
termination_by structural left => left

end Reading

/-! ### Printing -/

def indented (level : Nat) : String := String.ofList ('\n' :: List.replicate (4 * level) ' ')

/-- Texts between brackets, one on each line. -/
def bracketed (opening closing : String) (level : Nat) (texts : List String) : String :=
  if texts = [] then opening ++ closing
  else opening ++ indented (level + 1) ++ joinWith ("," ++ indented (level + 1)) texts ++ indented level ++ closing

section Printing
variable [Host]

mutual
/-- `json.dumps(value, indent=4)` inside of `level` brackets. -/
def pretty (level : Nat) : Json → String
  | .null => "null"
  | .bool true => "true"
  | .bool false => "false"
  | .int value => toString value
  | .float value => value.dumps
  | .str text => quoteAscii text
  | .list items => bracketed "[" "]" level (prettyItems (level + 1) items)
  | .dict members => bracketed "\x7b" "\x7d" level (prettyMembers (level + 1) members)
termination_by structural value => value

def prettyItems (level : Nat) : List Json → List String
  | [] => []
  | value :: rest => pretty level value :: prettyItems level rest
termination_by structural items => items

def prettyMembers (level : Nat) : List (String × Json) → List String
  | [] => []
  | (key, value) :: rest => (quoteAscii key ++ ": " ++ pretty level value) :: prettyMembers level rest
termination_by structural members => members
end

/-! ### The literal of a value -/

mutual
/-- The literal of a value, if it has one with so many nested brackets; `text` is what its strings are. -/
def literal (text : String → List Nat) (left : Nat) : Json → Option Literal
  | .int value => if prints value then some (.number (toString value).toList) else none
  | .float (.finite value) => some (.number (Host.reprFloat value).toList)
  | .str value => some (.text (text value))
  | .list items =>
    match left with
    | 0 => none
    | left + 1 => (literalItems text left items).map .list
  | .dict members =>
    match left with
    | 0 => none
    | left + 1 => (literalMembers text left members).map .dict
  | _ => none
termination_by structural value => value

def literalItems (text : String → List Nat) (left : Nat) : List Json → Option (List Literal)
  | [] => some []
  | value :: rest => do
    let first ← literal text left value
    let others ← literalItems text left rest
    return first :: others
termination_by structural items => items

def literalMembers (text : String → List Nat) (left : Nat) : List (String × Json) → Option (List (List Nat × Literal))
  | [] => some []
  | (key, value) :: rest => do
    let first ← literal text left value
    let others ← literalMembers text left rest
    return (text key, first) :: others
termination_by structural members => members
end

/-- The code points of a text. -/
def points (text : String) : List Nat := codes text.toList

/-- A letter in units of 16 bits. -/
def unitsOf (letter : Char) : List Nat :=
  let code := letter.toNat
  if code < 0x10000 then [code]
  else [0xd800 + (code - 0x10000) / 0x400, 0xdc00 + (code - 0x10000) % 0x400]

def units (text : String) : List Nat := text.toList.flatMap unitsOf

/-- A literal that a value has. -/
def Denotes (read : Literal) (value : Json) : Prop := ∃ left, literal points left value = some read

def isBasic (text : String) : Bool := text.toList.all (fun letter => letter.toNat < 0x10000)

mutual
/-- No names, no floats without digits, no astral letters, and not too many brackets. -/
def writable (left : Nat) : Json → Bool
  | .int value => prints value
  | .float (.finite _) => true
  | .str value => isBasic value
  | .list items =>
    match left with
    | 0 => false
    | left + 1 => writableItems left items
  | .dict members =>
    match left with
    | 0 => false
    | left + 1 => writableMembers left members
  | _ => false
termination_by structural value => value

def writableItems (left : Nat) : List Json → Bool
  | [] => true
  | value :: rest => writable left value && writableItems left rest
termination_by structural items => items

def writableMembers (left : Nat) : List (String × Json) → Bool
  | [] => true
  | (key, value) :: rest => isBasic key && writable left value && writableMembers left rest
termination_by structural members => members
end

end Printing

/-! ### Strings -/

section Strings
variable {named : List Char → Option Nat}

theorem hexDigit_plain : ∀ digit < 16,
    hexDigit digit ≠ '"' ∧ endsLine (hexDigit digit) = false ∧ hexDigit digit ≠ '\\' := by
  decide

/-- Letters that are read one at a time, between letters that stay on the line. -/
structure Spells (letters : List Char) (stands : List Nat) : Prop where
  passes : ∀ rest, passLine false (letters ++ rest) = passLine false rest
  steps : ∀ named read rest, advances named (read, .plain) (letters ++ rest) = advances named (read ++ stands, .plain) rest

theorem Spells.append {first second : List Char} {one other : List Nat} (left : Spells first one) (right : Spells second other) :
    Spells (first ++ second) (one ++ other) := by
  constructor
  · intro rest
    rw [List.append_assoc, left.passes, right.passes]
  · intro named read rest
    rw [List.append_assoc, left.steps, right.steps, List.append_assoc]

theorem spells_letter {letter : Char} (quote : letter ≠ '"') (line : endsLine letter = false) (back : letter ≠ '\\') :
    Spells [letter] [letter.toNat] := by
  constructor
  · intro rest
    rw [List.singleton_append, passLine, decide_eq_false quote, line, decide_eq_false back]
    rfl
  · intro named read rest
    have step : advance named (read, .plain) letter = some (read ++ [letter.toNat], .plain) := by
      rw [advance, plainStep, if_neg back]
    rw [List.singleton_append, advances_cons, step, Option.bind_some]

theorem spells_escape {mark : Char} {code : Nat} (simple : simpleEscape? mark = some code) (real : isNull mark = false)
    (other : mark ≠ '\n' ∧ mark ≠ '\r' ∧ mark ≠ 'x' ∧ mark ≠ 'u' ∧ mark ≠ 'U' ∧ mark ≠ 'N') : Spells ['\\', mark] [code] := by
  obtain ⟨line, carriage, x, u, long, name⟩ := other
  constructor
  · intro rest
    have opens : passLine false ('\\' :: mark :: rest) = passLine true (mark :: rest) := rfl
    rw [List.cons_append, List.singleton_append, opens, passLine, real, if_neg Bool.false_ne_true]
  · intro named read rest
    have first : advance named (read, .plain) '\\' = some (read, .escape) := rfl
    have second : advance named (read, .escape) mark = some (read ++ [code], .plain) := by
      have ends : ¬ (mark = '\n' ∨ mark = '\r') := fun either => either.elim line carriage
      rw [advance, escapeStep, if_neg ends, if_neg x, if_neg u, if_neg long, if_neg name, simple]
    rw [List.cons_append, List.singleton_append, advances_cons, first, Option.bind_some, advances_cons, second, Option.bind_some]

theorem spells_unicode {code : Nat} (small : code < 0x10000) : Spells (unicodeEscape code) [code] := by
  constructor
  · intro rest
    have stays (digit : Nat) (hex : digit < 16) (rest : List Char) :
        passLine false (hexDigit digit :: rest) = passLine false rest := by
      obtain ⟨quote, line, back⟩ := hexDigit_plain digit hex
      exact (spells_letter quote line back).passes rest
    have opens (rest : List Char) : passLine false ('\\' :: 'u' :: rest) = passLine false rest := rfl
    rw [unicodeEscape]
    simp only [List.cons_append, List.nil_append]
    rw [opens, stays _ (by omega), stays _ (by omega), stays _ (by omega), stays _ (by omega)]
  · intro named read rest
    have whole : 16 * (16 * (16 * (16 * 0 + code / 4096) + code / 256 % 16) + code / 16 % 16) + code % 16 = code := by omega
    have opens : advance named (read, .plain) '\\' = some (read, .escape) := rfl
    have marks : advance named (read, .escape) 'u' = some (read, .hex 4 0) := rfl
    have digits {missing value digit : Nat} (hex : digit < 16) (more : 1 < missing) :
        advance named (read, .hex missing value) (hexDigit digit) = some (read, .hex (missing - 1) (16 * value + digit)) := by
      simp only [advance, hexValue_hexDigit digit hex, if_pos more]
    have last {value digit : Nat} (hex : digit < 16) (real : 16 * value + digit < 0x110000) :
        advance named (read, .hex 1 value) (hexDigit digit) = some (read ++ [16 * value + digit], .plain) := by
      simp only [advance, hexValue_hexDigit digit hex, if_neg (Nat.lt_irrefl 1), if_pos real]
    rw [unicodeEscape]
    simp only [List.cons_append, List.nil_append]
    rw [advances_cons, opens, Option.bind_some, advances_cons, marks, Option.bind_some, advances_cons,
      digits (by omega) (by omega), Option.bind_some, advances_cons, digits (by omega) (by omega), Option.bind_some,
      advances_cons, digits (by omega) (by omega), Option.bind_some, advances_cons, last (by omega) (by omega),
      Option.bind_some, whole]

theorem spells_escapeLetter {letter : Char} (ascii : letter.toNat < 127) : Spells (escapeLetter letter) [letter.toNat] := by
  unfold escapeLetter
  split
  · exact spells_escape rfl rfl (by decide)
  · exact spells_escape rfl rfl (by decide)
  · exact spells_escape rfl rfl (by decide)
  · exact spells_escape rfl rfl (by decide)
  · exact spells_escape rfl rfl (by decide)
  next quote back line carriage _ =>
    split_ifs with backspace feed control
    · rw [backspace]
      exact spells_escape rfl rfl (by decide)
    · rw [feed]
      exact spells_escape rfl rfl (by decide)
    · have zero : hexDigit 0 = '0' := rfl
      have escape : ['\\', 'u', '0', '0', hexDigit (letter.toNat / 16), hexDigit (letter.toNat % 16)] =
          unicodeEscape letter.toNat := by
        have first : letter.toNat / 4096 = 0 := by omega
        have second : letter.toNat / 256 % 16 = 0 := by omega
        have third : letter.toNat / 16 % 16 = letter.toNat / 16 := by omega
        rw [unicodeEscape, first, second, third, zero]
      rw [escape]
      exact spells_unicode (by omega)
    · have real : isNull letter = false := by
        apply decide_eq_false
        rintro rfl
        exact control (by decide)
      have ends : endsLine letter = false := by
        rw [endsLine, decide_eq_false line, decide_eq_false carriage, real]
        rfl
      exact spells_letter quote ends back

theorem spells_escapeAscii (letter : Char) : Spells (escapeAscii letter) (unitsOf letter) := by
  rcases escapeAscii_cases letter with ⟨small, ascii⟩ | ⟨_, small, _, basic⟩ | ⟨high, low, _, _, code, astral⟩
  · rw [ascii, unitsOf, if_pos (by omega)]
    exact spells_escapeLetter small
  · rw [basic, unitsOf, if_pos small]
    exact spells_unicode small
  · have first : (letter.toNat - 0x10000) / 0x400 = high := by omega
    have second : (letter.toNat - 0x10000) % 0x400 = low := by omega
    rw [astral, unitsOf, if_neg (by omega), first, second]
    exact (spells_unicode (by omega)).append (spells_unicode (by omega))

theorem spells_text (letters : List Char) : Spells (letters.flatMap escapeAscii) (letters.flatMap unitsOf) := by
  induction letters with
  | nil =>
    constructor
    · intro rest
      rfl
    · intro named read rest
      rw [List.flatMap_nil, List.flatMap_nil, List.nil_append, List.append_nil]
  | cons letter rest ih =>
    rw [List.flatMap_cons, List.flatMap_cons]
    exact (spells_escapeAscii letter).append ih

theorem readLine_quoteAscii (text : String) {rest : List Char} (noQuote : rest.head? ≠ some '"') :
    readLine named ((quoteAscii text).toList ++ rest) = some (units text, rest) := by
  have spelled := spells_text text.toList
  have written : (quoteAscii text).toList ++ rest = '"' :: (text.toList.flatMap escapeAscii ++ '"' :: rest) := by
    simp [quoteAscii]
  have passes : passLine false (text.toList.flatMap escapeAscii) = some false := by
    have whole := spelled.passes []
    rw [List.append_nil] at whole
    exact whole
  have steps : decoded named (text.toList.flatMap escapeAscii) = some (units text) := by
    have whole := spelled.steps named [] []
    rw [List.append_nil, List.nil_append] at whole
    rw [decoded, whole]
    rfl
  have scanned : scanLine false (text.toList.flatMap escapeAscii ++ '"' :: rest) = some (text.toList.flatMap escapeAscii, rest) := by
    rw [scanLine_of_pass passes, scanLine, if_pos rfl, Option.map_some, Prod.map_apply, List.append_nil]
    rfl
  have single : ['"', '"'].isPrefixOf (text.toList.flatMap escapeAscii ++ '"' :: rest) = false := by
    cases inside : text.toList.flatMap escapeAscii with
    | nil =>
      cases rest with
      | nil => rfl
      | cons next rest =>
        have other : next ≠ '"' := fun same => noQuote (congrArg some same)
        simp [List.isPrefixOf, Ne.symm other]
    | cons letter more =>
      rw [inside, passLine] at passes
      split at passes
      next => cases passes
      next goes =>
        rw [Bool.not_eq_true, Bool.or_eq_false_iff] at goes
        simp [List.isPrefixOf, Ne.symm (of_decide_eq_false goes.1)]
  rw [written, readLine, single, if_neg Bool.false_ne_true, scanned, Option.bind_some, steps]
  rfl

end Strings

/-! ### Lists of texts -/

/-- What may stand after a literal. -/
def Ends (rest : List Char) : Prop := ∀ letter ∈ rest.head?, wordLetter letter = false ∧ letter ≠ '"'

theorem ends_cons {letter : Char} (word : wordLetter letter = false) (quote : letter ≠ '"') (rest : List Char) : Ends (letter :: rest) := by
  intro first here
  cases here
  exact ⟨word, quote⟩

section Lists
variable {α β : Type} {text : α → String} {reader : List Char → Option (β × List Char)} {image : α → Option β}

/-- The text of a value is read as its image, or not at all if it has none. -/
structure Prints (text : α → String) (reader : List Char → Option (β × List Char)) (image : α → Option β) (value : α) : Prop where
  head : ∃ letter rest, (text value).toList = letter :: rest ∧ isBlank letter = false ∧ letter ≠ ']' ∧ letter ≠ '\x7d'
  reads : ∀ rest, Ends rest → reader ((text value).toList ++ rest) = (image value).map (fun read => (read, rest))

theorem indented_blank (level : Nat) : ∀ letter ∈ (indented level).toList, isBlank letter = true := by
  intro letter member
  rw [indented, String.toList_ofList, List.mem_cons] at member
  rcases member with rfl | space
  · rfl
  · rw [List.eq_of_mem_replicate space]
    rfl

theorem indented_cons (level : Nat) : (indented level).toList = '\n' :: List.replicate (4 * level) ' ' := by
  rw [indented, String.toList_ofList]

/-- Before a mark that is no blank a value is read with the blanks around it. -/
theorem Prints.spaced {value : α} (prints : Prints text reader image value) {before after : List Char}
    (blank : ∀ letter ∈ before, isBlank letter = true) (blank' : ∀ letter ∈ after, isBlank letter = true) {mark : Char}
    (solid : isBlank mark = false) {rest : List Char} (ends : Ends (after ++ mark :: rest)) :
    spaced reader (before ++ ((text value).toList ++ (after ++ mark :: rest))) =
      (image value).map (fun read => (read, mark :: rest)) := by
  obtain ⟨letter, tail, spelled, plain, _⟩ := prints.head
  have bare : skipBlanks (before ++ ((text value).toList ++ (after ++ mark :: rest))) =
      (text value).toList ++ (after ++ mark :: rest) := by
    rw [skipBlanks_append blank, spelled, List.cons_append, skipBlanks_cons plain]
  have trailing : skipBlanks (after ++ mark :: rest) = mark :: rest := by
    rw [skipBlanks_append blank', skipBlanks_cons solid]
  rw [Python.spaced, bare, prints.reads _ ends, Option.map_map]
  cases image value with
  | none => rfl
  | some read => simp only [Option.map_some, Function.comp_apply, Prod.map_apply, id, trailing]

/-- A bracket that closes. -/
structure Closes (close : Char) : Prop where
  differs : ',' ≠ close
  solid : isBlank close = false
  word : wordLetter close = false
  quote : close ≠ '"'

theorem readSeparated_lines {close : Char} (closes : Closes close) (level : Nat) {values : List α}
    (prints : ∀ value ∈ values, Prints text reader image value) (inhabited : values ≠ []) {fuel : Nat}
    (enough : values.length ≤ fuel) (rest : List Char) :
    readSeparated (spaced reader) ',' close fuel
      ((indented (level + 1)).toList ++ ((joinWith ("," ++ indented (level + 1)) (values.map text)).toList ++
        ((indented level).toList ++ close :: rest))) =
      (values.mapM image).map (fun read => (read, rest)) := by
  have comma : isBlank ',' = false := rfl
  induction values generalizing fuel with
  | nil => exact absurd rfl inhabited
  | cons first values ih =>
    have here := prints first (List.mem_cons_self ..)
    cases fuel with
    | zero => cases enough
    | succ fuel =>
      cases values with
      | nil =>
        have ends : Ends ((indented level).toList ++ close :: rest) := by
          rw [indented_cons]
          exact ends_cons rfl (by decide) _
        have read := here.spaced (indented_blank (level + 1)) (indented_blank level) closes.solid ends
        simp only [List.map_cons, List.map_nil, joinWith, readSeparated, read, List.mapM_cons, List.mapM_nil]
        cases image first with
        | none => rfl
        | some read =>
          simp only [Option.map_some, if_true]
          rfl
      | cons second values =>
        have later := ih (fun value member => prints value (List.mem_cons_of_mem _ member)) (List.cons_ne_nil second values)
          (Nat.le_of_succ_le_succ enough)
        obtain ⟨tail, tails⟩ : ∃ tail, tail = (indented (level + 1)).toList ++
            ((joinWith ("," ++ indented (level + 1)) ((second :: values).map text)).toList ++
              ((indented level).toList ++ close :: rest)) := ⟨_, rfl⟩
        have joined : (joinWith ("," ++ indented (level + 1)) ((first :: second :: values).map text)).toList ++
            ((indented level).toList ++ close :: rest) = (text first).toList ++ ([] ++ ',' :: tail) := by
          simp [joinWith, tails]
        have ends : Ends ([] ++ ',' :: tail) := ends_cons rfl (by decide) tail
        have nothing : ∀ letter ∈ ([] : List Char), isBlank letter = true := List.forall_mem_nil _
        have read := here.spaced (indented_blank (level + 1)) nothing comma ends
        rw [← tails] at later
        rw [joined]
        simp only [readSeparated, read]
        rw [List.mapM_cons]
        cases image first with
        | none => rfl
        | some read =>
          simp only [Option.map_some, if_neg closes.differs, if_true, later]
          cases (second :: values).mapM image <;> rfl

/-- What is between the brackets. -/
def inside (level : Nat) (texts : List String) : List Char :=
  if texts = [] then []
  else (indented (level + 1)).toList ++ ((joinWith ("," ++ indented (level + 1)) texts).toList ++ (indented level).toList)

theorem toList_bracketed (opening closing : String) (level : Nat) (texts : List String) :
    (bracketed opening closing level texts).toList = opening.toList ++ (inside level texts ++ closing.toList) := by
  unfold bracketed inside
  split <;> simp

theorem decodeItems_lines {close : Char} (closes : Closes close) (known : close = ']' ∨ close = '\x7d') (level : Nat) {values : List α}
    (prints : ∀ value ∈ values, Prints text reader image value) (rest : List Char) :
    decodeItems reader close (inside level (values.map text) ++ close :: rest) =
      (values.mapM image).map (fun read => (read, rest)) := by
  cases values with
  | nil =>
    have empty : skipBlanks (close :: rest) = close :: rest := skipBlanks_cons closes.solid rest
    simp only [List.map_nil, inside, if_true, List.nil_append, decodeItems, empty]
    rfl
  | cons first values =>
    obtain ⟨letter, tail, begins, plain, other⟩ := (prints first (List.mem_cons_self ..)).head
    have written : ∀ value ∈ first :: values, (text value).toList ≠ [] := by
      intro value member
      obtain ⟨_, _, spelled, _⟩ := (prints value member).head
      simp [spelled]
    have short := length_le_joinWith ("," ++ indented (level + 1)) written
    have shape : inside level ((first :: values).map text) ++ close :: rest = (indented (level + 1)).toList ++
        ((joinWith ("," ++ indented (level + 1)) ((first :: values).map text)).toList ++
          ((indented level).toList ++ close :: rest)) := by
      simp [inside]
    obtain ⟨more, joined⟩ : ∃ more, (joinWith ("," ++ indented (level + 1)) ((first :: values).map text)).toList ++
        ((indented level).toList ++ close :: rest) = letter :: more := by
      cases values with
      | nil => simp [joinWith, begins]
      | cons second values => simp [joinWith, begins]
    have start : skipBlanks (inside level ((first :: values).map text) ++ close :: rest) = letter :: more := by
      rw [shape, skipBlanks_append (indented_blank (level + 1)), joined, skipBlanks_cons plain]
    have noClose : letter ≠ close := by
      rcases known with rfl | rfl
      · exact other.1
      · exact other.2
    have enough : (first :: values).length ≤ (inside level ((first :: values).map text) ++ close :: rest).length := by
      rw [shape, List.length_append, List.length_append]
      omega
    simp only [decodeItems, start, if_neg noClose]
    rw [shape] at enough ⊢
    exact readSeparated_lines closes level prints (List.cons_ne_nil first values) enough rest

end Lists

/-! ### Values -/

section Values
variable [Host] {named : List Char → Option Nat}

/-- Finite floats are written as numbers. -/
structure Numerals : Prop where
  letters : ∀ value, ∀ letter ∈ (Host.reprFloat value).toList, wordLetter letter = true
  numeral : ∀ value, (decodeNumber (Host.reprFloat value).toList).isSome = true

/-- What has no digit at its start is no number. -/
theorem decodeNumber_none {letters : List Char} (wordy : (minus letters).2.takeWhile Char.isDigit = []) :
    decodeNumber letters = none := by
  have empty : natural? [] = none := by decide
  simp only [decodeNumber, wordy, empty]
  rfl

theorem readNumber_word {word rest : List Char} (letters : ∀ letter ∈ word, wordLetter letter = true) (ends : Ends rest) :
    readNumber (word ++ rest) = if (decodeNumber word).isSome then some (.number word, rest) else none := by
  obtain ⟨taken, dropped⟩ := word_split letters (fun letter here => (ends letter here).1)
  simp only [readNumber, taken, dropped]

theorem readValue_word {word : List Char} {letter : Char} {tail : List Char} (spelled : word = letter :: tail)
    (letters : ∀ letter ∈ word, wordLetter letter = true) (left : Nat) {rest : List Char} (ends : Ends rest) :
    readValue named left (word ++ rest) = if (decodeNumber word).isSome then some (.number word, rest) else none := by
  have first := letters letter (by simp [spelled])
  have other (mark : Char) (strange : wordLetter mark = false) : letter ≠ mark := by
    rintro rfl
    rw [first] at strange
    cases strange
  have flat : readValue named left (word ++ rest) = readFlat named (word ++ rest) := by
    rw [spelled, List.cons_append]
    unfold readValue
    split
    next same => exact absurd (List.cons.inj same).1 (other '[' rfl)
    next same => exact absurd (List.cons.inj same).1 (other '\x7b' rfl)
    next => rfl
  have number : readFlat named (word ++ rest) = readNumber (word ++ rest) := by
    rw [spelled, List.cons_append]
    unfold readFlat
    split
    next same => exact absurd (List.cons.inj same).1 (other '"' rfl)
    next => rfl
  rw [flat, number, readNumber_word letters ends]

/-- No bracket is opened where none is left. -/
theorem readValue_zero {mark : Char} (quote : mark ≠ '"') (strange : wordLetter mark = false) (rest : List Char) :
    readValue named 0 (mark :: rest) = none := by
  have empty : decodeNumber [] = none := decodeNumber_none rfl
  have number : readNumber (mark :: rest) = none := by
    rw [readNumber, List.takeWhile_cons, strange, if_neg Bool.false_ne_true, empty]
    rfl
  have flat : readFlat named (mark :: rest) = none := by
    rw [readFlat]
    · exact number
    · intro _ same
      exact quote (List.cons.inj same).1
  exact flat

theorem literalItems_eq_mapM (text : String → List Nat) (left : Nat) (items : List Json) :
    literalItems text left items = items.mapM (literal text left) := by
  induction items with
  | nil => rfl
  | cons item rest ih => rw [literalItems, ih, List.mapM_cons]

def literalMember (text : String → List Nat) (left : Nat) (member : String × Json) : Option (List Nat × Literal) :=
  (literal text left member.2).map (Prod.mk (text member.1))

theorem literalMembers_eq_mapM (text : String → List Nat) (left : Nat) (members : List (String × Json)) :
    literalMembers text left members = members.mapM (literalMember text left) := by
  induction members with
  | nil => rfl
  | cons member rest ih =>
    rw [literalMembers, ih, List.mapM_cons, literalMember]
    cases literal text left member.2 <;> rfl

def prettyMember (level : Nat) (member : String × Json) : String := quoteAscii member.1 ++ ": " ++ pretty level member.2

theorem prettyItems_eq_map (level : Nat) (items : List Json) : prettyItems level items = items.map (pretty level) := by
  induction items with
  | nil => rfl
  | cons item rest ih => rw [prettyItems, ih, List.map_cons]

theorem prettyMembers_eq_map (level : Nat) (members : List (String × Json)) :
    prettyMembers level members = members.map (prettyMember level) := by
  induction members with
  | nil => rfl
  | cons member rest ih => rw [prettyMembers, ih, List.map_cons, prettyMember]

/-- A value that is written as a word. -/
theorem word_prints {value : Json} {level left : Nat} {word : List Char} (written : (pretty level value).toList = word)
    (letters : ∀ letter ∈ word, wordLetter letter = true) (inhabited : word ≠ [])
    (image : literal units left value = if (decodeNumber word).isSome then some (.number word) else none) :
    Prints (pretty level) (readValue named left) (literal units left) value := by
  obtain ⟨letter, tail, spelled⟩ := List.exists_cons_of_ne_nil inhabited
  have first := letters letter (by simp [spelled])
  have other (mark : Char) (strange : wordLetter mark = false) : letter ≠ mark := by
    rintro rfl
    rw [first] at strange
    cases strange
  constructor
  · refine ⟨letter, tail, written.trans spelled, ?_, other ']' rfl, other '\x7d' rfl⟩
    by_contra blank
    simp only [isBlank, Bool.not_eq_false, List.contains_iff_mem, List.mem_cons, List.not_mem_nil, or_false] at blank
    rcases blank with rfl | rfl | rfl | rfl
    · exact other ' ' rfl rfl
    · exact other '\t' rfl rfl
    · exact other '\n' rfl rfl
    · exact other '\r' rfl rfl
  · intro rest ends
    rw [written, readValue_word spelled letters left ends, image]
    split <;> rfl

omit [Host] in
theorem int_wordLetters (value : Int) : ∀ letter ∈ (toString value).toList, wordLetter letter = true := by
  intro letter member
  rw [toList_toString_int, List.mem_append] at member
  rcases member with sign | digit
  · split at sign
    · rw [List.mem_singleton.mp sign]
      rfl
    · cases sign
  · have plain := toDigits_isDigit digit
    simp [wordLetter, Char.isAlphanum, plain]

theorem int_prints (value : Int) (level left : Nat) :
    Prints (pretty level) (readValue named left) (literal units left) (.int value) := by
  have written : (pretty level (.int value)).toList = (toString value).toList := rfl
  apply word_prints written (int_wordLetters value) (int_letters_ne_nil value)
  rw [decodeNumber_toString, literal]
  cases prints value <;> rfl

theorem name_prints {value : Json} (word : String) (level left : Nat) (written : pretty level value = word)
    (letters : word.toList.all wordLetter = true) (inhabited : word.toList ≠ [])
    (wordy : (minus word.toList).2.takeWhile Char.isDigit = []) (nothing : literal units left value = none) :
    Prints (pretty level) (readValue named left) (literal units left) value := by
  apply word_prints (congrArg String.toList written) (List.all_eq_true.mp letters) inhabited
  rw [nothing, decodeNumber_none wordy]
  rfl

theorem float_prints (numerals : Numerals) (value : Double) (level left : Nat) :
    Prints (pretty level) (readValue named left) (literal units left) (.float value) := by
  cases value with
  | finite number =>
    have numeral := numerals.numeral number
    have written : (pretty level (.float (.finite number))).toList = (Host.reprFloat number).toList := rfl
    apply word_prints written (numerals.letters number)
    · intro empty
      rw [empty, decodeNumber_none rfl] at numeral
      cases numeral
    · rw [numeral, if_pos rfl, literal]
  | infinite negative =>
    cases negative with
    | false => exact name_prints "Infinity" level left rfl rfl (by decide) (by decide) rfl
    | true => exact name_prints "-Infinity" level left rfl rfl (by decide) (by decide) rfl
  | nan => exact name_prints "NaN" level left rfl rfl (by decide) (by decide) rfl

theorem str_prints (text : String) (level left : Nat) :
    Prints (pretty level) (readValue named left) (literal units left) (.str text) := by
  have quoted : (quoteAscii text).toList = '"' :: (text.toList.flatMap escapeAscii ++ ['"']) := by simp [quoteAscii]
  constructor
  · exact ⟨'"', _, quoted, by decide, by decide, by decide⟩
  · intro rest ends
    have noQuote : rest.head? ≠ some '"' := fun quote => (ends '"' quote).2 rfl
    have read := @readLine_quoteAscii named text _ noQuote
    have flat : readValue named left ((quoteAscii text).toList ++ rest) = readFlat named ((quoteAscii text).toList ++ rest) := by
      rw [quoted]
      cases left <;> rfl
    have line : readFlat named ((quoteAscii text).toList ++ rest) =
        (readLine named ((quoteAscii text).toList ++ rest)).map (Prod.map .text id) := by
      rw [quoted]
      rfl
    have written : (pretty level (.str text)).toList = (quoteAscii text).toList := rfl
    rw [written, flat, line, read, literal]
    rfl

omit [Host] in
theorem closes_list : Closes ']' := ⟨by decide, rfl, rfl, by decide⟩

omit [Host] in
theorem closes_dict : Closes '\x7d' := ⟨by decide, rfl, rfl, by decide⟩

theorem pretty_list (level : Nat) (items : List Json) :
    (pretty level (.list items)).toList = '[' :: (inside level (items.map (pretty (level + 1))) ++ [']']) := by
  rw [pretty, prettyItems_eq_map, toList_bracketed]
  rfl

theorem pretty_dict (level : Nat) (members : List (String × Json)) :
    (pretty level (.dict members)).toList = '\x7b' :: (inside level (members.map (prettyMember (level + 1))) ++ ['\x7d']) := by
  rw [pretty, prettyMembers_eq_map, toList_bracketed]
  rfl

theorem list_prints {items : List Json}
    (prints : ∀ item ∈ items, ∀ level left, Prints (pretty level) (readValue named left) (literal units left) item) (level left : Nat) :
    Prints (pretty level) (readValue named left) (literal units left) (.list items) := by
  constructor
  · exact ⟨'[', _, pretty_list level items, by decide, by decide, by decide⟩
  · intro rest _
    rw [pretty_list]
    cases left with
    | zero =>
      rw [List.cons_append, readValue_zero (by decide) rfl]
      rfl
    | succ left =>
      have read := decodeItems_lines closes_list (.inl rfl) level (fun item member => prints item member (level + 1) left) rest
      rw [List.cons_append, List.append_assoc, List.singleton_append, readValue, read, literal, literalItems_eq_mapM]
      cases items.mapM (literal units left) <;> rfl

theorem member_prints {member : String × Json} {level left : Nat}
    (prints : Prints (pretty level) (readValue named left) (literal units left) member.2) :
    Prints (prettyMember level) (readPair named (readValue named left)) (literalMember units left) member := by
  have quoted : (quoteAscii member.1).toList = '"' :: (member.1.toList.flatMap escapeAscii ++ ['"']) := by simp [quoteAscii]
  constructor
  · have begins : (prettyMember level member).toList = '"' :: (member.1.toList.flatMap escapeAscii ++ ['"'] ++
        ": ".toList ++ (pretty level member.2).toList) := by
      rw [prettyMember, String.toList_append, String.toList_append, quoted, List.cons_append, List.cons_append]
    exact ⟨'"', _, begins, by decide, by decide, by decide⟩
  · intro rest ends
    obtain ⟨letter, tail, begins, solid, _⟩ := prints.head
    have split : (prettyMember level member).toList ++ rest =
        (quoteAscii member.1).toList ++ ':' :: ([' '] ++ ((pretty level member.2).toList ++ rest)) := by
      simp [prettyMember]
    have noQuote : (':' :: ([' '] ++ ((pretty level member.2).toList ++ rest))).head? ≠ some '"' := by simp
    have name := @readLine_quoteAscii named member.1 _ noQuote
    have colon : skipBlanks (':' :: ([' '] ++ ((pretty level member.2).toList ++ rest))) =
        ':' :: ([' '] ++ ((pretty level member.2).toList ++ rest)) := skipBlanks_cons rfl _
    have value : skipBlanks ([' '] ++ ((pretty level member.2).toList ++ rest)) = (pretty level member.2).toList ++ rest := by
      rw [skipBlanks_append (List.forall_mem_singleton.mpr rfl), begins, List.cons_append, skipBlanks_cons solid]
    rw [split]
    simp only [readPair, name, colon, value, prints.reads rest ends, literalMember]
    cases literal units left member.2 <;> rfl

theorem dict_prints {members : List (String × Json)}
    (prints : ∀ member ∈ members, ∀ level left, Prints (pretty level) (readValue named left) (literal units left) member.2)
    (level left : Nat) : Prints (pretty level) (readValue named left) (literal units left) (.dict members) := by
  constructor
  · exact ⟨'\x7b', _, pretty_dict level members, by decide, by decide, by decide⟩
  · intro rest _
    rw [pretty_dict]
    cases left with
    | zero =>
      rw [List.cons_append, readValue_zero (by decide) rfl]
      rfl
    | succ left =>
      have read := decodeItems_lines closes_dict (.inr rfl) level
        (fun member inside => member_prints (prints member inside (level + 1) left)) rest
      rw [List.cons_append, List.append_assoc, List.singleton_append, readValue, read, literal, literalMembers_eq_mapM]
      cases members.mapM (literalMember units left) <;> rfl

/-- Printed with an indent, a value is read as source as the literal it has in units of 16 bits. -/
theorem pretty_prints (numerals : Numerals) (value : Json) :
    ∀ level left, Prints (pretty level) (readValue named left) (literal units left) value := by
  induction value using Json.nested_induction with
  | null => exact fun level left => name_prints "null" level left rfl rfl (by decide) (by decide) rfl
  | bool value =>
    cases value with
    | false => exact fun level left => name_prints "false" level left rfl rfl (by decide) (by decide) rfl
    | true => exact fun level left => name_prints "true" level left rfl rfl (by decide) (by decide) rfl
  | int value => exact int_prints value
  | float value => exact float_prints numerals value
  | str text => exact str_prints text
  | list items ih => exact list_prints ih
  | dict members ih => exact dict_prints ih

end Values

/-! ### What is read is what was printed -/

section Pointwise
variable {α β γ : Type} {first : α → Option β} {second : γ → Option β}

theorem all_eq_all {values : List α} {test other : α → Bool} (each : ∀ value ∈ values, test value = other value) :
    values.all test = values.all other := by
  rw [Bool.eq_iff_iff, List.all_eq_true, List.all_eq_true]
  exact forall₂_congr (fun value member => by rw [each value member])

theorem mapM_both {other : α → Option β} {values : List α}
    (each : ∀ value ∈ values, ∃ read, first value = some read ∧ other value = some read) :
    ∃ reads, values.mapM first = some reads ∧ values.mapM other = some reads := by
  induction values with
  | nil => exact ⟨[], rfl, rfl⟩
  | cons value rest ih =>
    obtain ⟨here, later⟩ := List.forall_mem_cons.mp each
    obtain ⟨read, one, another⟩ := here
    obtain ⟨reads, ones, others⟩ := ih later
    refine ⟨read :: reads, ?_, ?_⟩
    · rw [List.mapM_cons, one, ones]
      rfl
    · rw [List.mapM_cons, another, others]
      rfl

/-- Where two lists have one image, each value has the image of a value of the other list. -/
theorem mapM_meet {values : List α} {others : List γ} {reads : List β} (ones : values.mapM first = some reads)
    (twos : others.mapM second = some reads) : ∀ value ∈ values, ∃ read other, first value = some read ∧ second other = some read := by
  induction values generalizing others reads with
  | nil =>
    intro value member
    cases member
  | cons value rest ih =>
    rw [List.mapM_cons] at ones
    obtain ⟨read, here, later⟩ := Option.bind_eq_some_iff.mp ones
    obtain ⟨more, tail, whole⟩ := Option.bind_eq_some_iff.mp later
    cases Option.some.inj whole
    cases others with
    | nil => cases Option.some.inj twos
    | cons other others =>
      rw [List.mapM_cons] at twos
      obtain ⟨read', there, later'⟩ := Option.bind_eq_some_iff.mp twos
      obtain ⟨more', tail', whole'⟩ := Option.bind_eq_some_iff.mp later'
      cases Option.some.inj whole'
      intro sought member
      rcases List.mem_cons.mp member with rfl | inside
      · exact ⟨read, other, here, there⟩
      · exact ih tail tail' sought inside

end Pointwise

section Meaning

theorem units_of_basic {text : String} (basic : isBasic text = true) : units text = points text := by
  have each : ∀ letters : List Char, (∀ letter ∈ letters, letter.toNat < 0x10000) → letters.flatMap unitsOf = codes letters := by
    intro letters small
    induction letters with
    | nil => rfl
    | cons letter rest ih =>
      obtain ⟨here, later⟩ := List.forall_mem_cons.mp small
      rw [List.flatMap_cons, ih later, unitsOf, if_pos here]
      rfl
  apply each
  intro letter member
  exact of_decide_eq_true (List.all_eq_true.mp basic letter member)

/-- Half of a letter is no letter. -/
theorem basic_of_units {text other : String} (same : units text = points other) : isBasic text = true := by
  rw [isBasic, List.all_eq_true]
  intro letter member
  by_contra astral
  have large : ¬ letter.toNat < 0x10000 := fun small => astral (decide_eq_true small)
  have half : 0xd800 + (letter.toNat - 0x10000) / 0x400 ∈ units text := by
    apply List.mem_flatMap.mpr
    refine ⟨letter, member, ?_⟩
    rw [unitsOf, if_neg large]
    exact List.mem_cons_self ..
  rw [same] at half
  obtain ⟨whole, _, code⟩ := List.mem_map.mp half
  have bound : letter.toNat < 0x110000 := by
    rcases letter.valid with low | ⟨_, high⟩
    · exact Nat.lt_trans low (by decide)
    · exact high
  rcases whole.valid with low | ⟨high, _⟩
  · have below : whole.toNat < 0xd800 := low
    omega
  · have above : 0xdfff < whole.toNat := high
    omega

theorem writableItems_eq_all (left : Nat) (items : List Json) : writableItems left items = items.all (writable left) := by
  induction items with
  | nil => rfl
  | cons item rest ih => rw [writableItems, ih, List.all_cons]

def writableMember (left : Nat) (member : String × Json) : Bool := isBasic member.1 && writable left member.2

theorem writableMembers_eq_all (left : Nat) (members : List (String × Json)) :
    writableMembers left members = members.all (writableMember left) := by
  induction members with
  | nil => rfl
  | cons member rest ih => rw [writableMembers, ih, List.all_cons, writableMember]

variable [Host]

/-- What is writable has one literal, in units and in code points. -/
theorem literal_of_writable (value : Json) :
    ∀ left, writable left value = true → ∃ read, literal units left value = some read ∧ literal points left value = some read := by
  induction value using Json.nested_induction with
  | null =>
    intro left plain
    cases plain
  | bool value =>
    intro left plain
    cases plain
  | int value =>
    intro left plain
    have short : prints value = true := plain
    exact ⟨_, if_pos short, if_pos short⟩
  | float value =>
    intro left plain
    cases value with
    | finite number => exact ⟨_, rfl, rfl⟩
    | infinite => cases plain
    | nan => cases plain
  | str text =>
    intro left plain
    have same : units text = points text := units_of_basic plain
    refine ⟨.text (points text), ?_, rfl⟩
    rw [literal, same]
  | list items ih =>
    intro left plain
    cases left with
    | zero => cases plain
    | succ left =>
      rw [writable, writableItems_eq_all, List.all_eq_true] at plain
      obtain ⟨reads, ones, others⟩ := mapM_both (fun item member => ih item member left (plain item member))
      refine ⟨.list reads, ?_, ?_⟩
      · rw [literal, literalItems_eq_mapM, ones]
        rfl
      · rw [literal, literalItems_eq_mapM, others]
        rfl
  | dict members ih =>
    intro left plain
    cases left with
    | zero => cases plain
    | succ left =>
      rw [writable, writableMembers_eq_all, List.all_eq_true] at plain
      have each : ∀ member ∈ members, ∃ read, literalMember units left member = some read ∧
          literalMember points left member = some read := by
        intro member inside
        obtain ⟨name, value⟩ := Bool.and_eq_true_iff.mp (plain member inside)
        obtain ⟨read, one, other⟩ := ih member inside left value
        refine ⟨(points member.1, read), ?_, ?_⟩
        · rw [literalMember, one, units_of_basic name]
          rfl
        · rw [literalMember, other]
          rfl
      obtain ⟨reads, ones, others⟩ := mapM_both each
      refine ⟨.dict reads, ?_, ?_⟩
      · rw [literal, literalMembers_eq_mapM, ones]
        rfl
      · rw [literal, literalMembers_eq_mapM, others]
        rfl

theorem str_of_literal {text : String → List Nat} {left : Nat} {value : Json} {codes : List Nat}
    (stands : literal text left value = some (.text codes)) : ∃ written, value = .str written ∧ text written = codes := by
  cases value with
  | str written => exact ⟨written, rfl, (Literal.text.inj (Option.some.inj stands))⟩
  | int value =>
    rw [literal] at stands
    split at stands <;> cases stands
  | float value => cases value <;> cases stands
  | list items =>
    cases left with
    | zero => cases stands
    | succ left =>
      obtain ⟨_, _, same⟩ := Option.map_eq_some_iff.mp stands
      cases same
  | dict members =>
    cases left with
    | zero => cases stands
    | succ left =>
      obtain ⟨_, _, same⟩ := Option.map_eq_some_iff.mp stands
      cases same
  | _ => cases stands

theorem list_of_literal {text : String → List Nat} {left : Nat} {value : Json} {reads : List Literal}
    (stands : literal text left value = some (.list reads)) :
    ∃ items less, value = .list items ∧ items.mapM (literal text less) = some reads := by
  cases value with
  | list items =>
    cases left with
    | zero => cases stands
    | succ left =>
      obtain ⟨_, each, same⟩ := Option.map_eq_some_iff.mp stands
      cases same
      exact ⟨items, left, rfl, literalItems_eq_mapM text left items ▸ each⟩
  | int value =>
    rw [literal] at stands
    split at stands <;> cases stands
  | float value => cases value <;> cases stands
  | dict members =>
    cases left with
    | zero => cases stands
    | succ left =>
      obtain ⟨_, _, same⟩ := Option.map_eq_some_iff.mp stands
      cases same
  | _ => cases stands

theorem dict_of_literal {text : String → List Nat} {left : Nat} {value : Json} {reads : List (List Nat × Literal)}
    (stands : literal text left value = some (.dict reads)) :
    ∃ members less, value = .dict members ∧ members.mapM (literalMember text less) = some reads := by
  cases value with
  | dict members =>
    cases left with
    | zero => cases stands
    | succ left =>
      obtain ⟨_, each, same⟩ := Option.map_eq_some_iff.mp stands
      cases same
      exact ⟨members, left, rfl, literalMembers_eq_mapM text left members ▸ each⟩
  | int value =>
    rw [literal] at stands
    split at stands <;> cases stands
  | float value => cases value <;> cases stands
  | list items =>
    cases left with
    | zero => cases stands
    | succ left =>
      obtain ⟨_, _, same⟩ := Option.map_eq_some_iff.mp stands
      cases same
  | _ => cases stands

/-- What is read as the literal of some value was writable. -/
theorem writable_of_literal (value : Json) :
    ∀ left right other read, literal units left value = some read → literal points right other = some read →
      writable left value = true := by
  induction value using Json.nested_induction with
  | null =>
    intro left right other read written
    cases written
  | bool value =>
    intro left right other read written
    cases written
  | int value =>
    intro left right other read written _
    rw [literal] at written
    split at written
    next short => exact short
    next => cases written
  | float value =>
    intro left right other read written _
    cases value with
    | finite number => rfl
    | infinite => cases written
    | nan => cases written
  | str text =>
    intro left right other read written stands
    cases Option.some.inj written
    obtain ⟨_, _, same⟩ := str_of_literal stands
    exact basic_of_units same.symm
  | list items ih =>
    intro left right other read written stands
    cases left with
    | zero => cases written
    | succ left =>
      obtain ⟨reads, ones, rfl⟩ := Option.map_eq_some_iff.mp written
      rw [literalItems_eq_mapM] at ones
      obtain ⟨others, less, _, twos⟩ := list_of_literal stands
      rw [writable, writableItems_eq_all, List.all_eq_true]
      intro item member
      obtain ⟨read, meant, one, two⟩ := mapM_meet ones twos item member
      exact ih item member left less meant read one two
  | dict members ih =>
    intro left right other read written stands
    cases left with
    | zero => cases written
    | succ left =>
      obtain ⟨reads, ones, rfl⟩ := Option.map_eq_some_iff.mp written
      rw [literalMembers_eq_mapM] at ones
      obtain ⟨others, less, _, twos⟩ := dict_of_literal stands
      rw [writable, writableMembers_eq_all, List.all_eq_true]
      intro member inside
      obtain ⟨read, meant, one, two⟩ := mapM_meet ones twos member inside
      obtain ⟨value, here, rfl⟩ := Option.map_eq_some_iff.mp one
      obtain ⟨value', there, same⟩ := Option.map_eq_some_iff.mp two
      obtain ⟨name, rfl⟩ := Prod.mk.inj same
      rw [writableMember, Bool.and_eq_true]
      exact ⟨basic_of_units name.symm, ih member inside left less meant.2 value' here there⟩

omit [Host] in
/-- The order of members does not matter. -/
theorem writable_sorted (value : Json) : ∀ left, writable left value.sorted = writable left value := by
  induction value using Json.nested_induction with
  | list items ih =>
    intro left
    cases left with
    | zero => rfl
    | succ left =>
      have each : ∀ item ∈ items, (writable left ∘ Json.sorted) item = writable left item := fun item member => ih item member left
      rw [Json.sorted, writable, writable, writableItems_eq_all, writableItems_eq_all, sortedItems_eq_map, List.all_map]
      exact all_eq_all each
  | dict members ih =>
    intro left
    cases left with
    | zero => rfl
    | succ left =>
      have each : ∀ member ∈ members,
          (writableMember left ∘ fun member => (member.1, member.2.sorted)) member = writableMember left member := by
        intro member inside
        exact congrArg (isBasic member.1 && ·) (ih member inside left)
      rw [sorted_dict, writable, writable, writableMembers_eq_all, writableMembers_eq_all, List.all_map,
        (byName_perm members).all_eq]
      exact all_eq_all each
  | _ => exact fun _ => rfl

/-- The literal that is read of a printed value is that of the value, up to the order of members, just where it was writable. -/
theorem denotes_iff {left : Nat} {value : Json} {read : Literal} (written : literal units left value.sorted = some read) :
    (∃ meant, meant.sorted = value.sorted ∧ Denotes read meant) ↔ writable left value = true := by
  rw [← writable_sorted]
  constructor
  · intro ⟨meant, _, right, stands⟩
    exact writable_of_literal value.sorted left right meant read written stands
  · intro plain
    obtain ⟨_, same, stands⟩ := literal_of_writable value.sorted left plain
    rw [written] at same
    cases Option.some.inj same
    exact ⟨value.sorted, value.sorted_sorted, left, stands⟩

end Meaning

/-! ### The interpreter for tests -/

theorem minus_append {word : List Char} (inhabited : word ≠ []) (rest : List Char) :
    minus (word ++ rest) = ((minus word).1, (minus word).2 ++ rest) := by
  obtain ⟨letter, tail, rfl⟩ := List.exists_cons_of_ne_nil inhabited
  by_cases sign : letter = '-'
  · subst sign
    rfl
  · simp [minus, sign]

/-- A numerator, a point and a denominator make a numeral. -/
theorem decimalHost_numerals (documents : List (String × Json)) : @Numerals (decimalHost documents) := by
  have spelled (value : Rat) : ((decimalHost documents).reprFloat value).toList =
      (toString value.num).toList ++ '.' :: (toString value.den).toList := by
    change (toString value.num ++ "." ++ toString value.den).toList = _
    rw [String.toList_append, String.toList_append, List.append_assoc]
    rfl
  have below (value : Rat) : (toString value.den).toList = Nat.toDigits 10 value.den := by
    simp [toString, Nat.repr]
  have digits (value : Nat) : ∀ letter ∈ Nat.toDigits 10 value, letter.isDigit = true := fun _ member => toDigits_isDigit member
  refine @Numerals.mk (decimalHost documents) ?_ ?_
  · intro value letter member
    rw [spelled, below, List.mem_append, List.mem_cons] at member
    rcases member with above | rfl | after
    · exact int_wordLetters value.num letter above
    · rfl
    · simp [wordLetter, Char.isAlphanum, digits value.den letter after]
  · intro value
    have signed : minus ((toString value.num).toList ++ '.' :: (toString value.den).toList) =
        (decide (value.num < 0), Nat.toDigits 10 value.num.natAbs ++ '.' :: Nat.toDigits 10 value.den) := by
      have inhabited : (toString value.num).toList ≠ [] := @int_letters_ne_nil (decimalHost documents) value.num
      rw [below, minus_append inhabited, minus_toString]
    have whole : (Nat.toDigits 10 value.num.natAbs ++ '.' :: Nat.toDigits 10 value.den).takeWhile Char.isDigit =
        Nat.toDigits 10 value.num.natAbs := by
      rw [List.takeWhile_append_of_pos (digits _)]
      simp
    have rest : (Nat.toDigits 10 value.num.natAbs ++ '.' :: Nat.toDigits 10 value.den).dropWhile Char.isDigit =
        '.' :: Nat.toDigits 10 value.den := by
      rw [List.dropWhile_append_of_pos (digits _)]
      simp
    have part : fraction? ('.' :: Nat.toDigits 10 value.den) = some (Nat.toDigits 10 value.den, []) := by
      have taken : (Nat.toDigits 10 value.den).takeWhile Char.isDigit = Nat.toDigits 10 value.den :=
        List.takeWhile_eq_self_iff.mpr (digits _)
      have dropped : (Nat.toDigits 10 value.den).dropWhile Char.isDigit = [] := List.dropWhile_eq_nil_iff.mpr (digits _)
      rw [fraction?, taken, dropped, if_neg Nat.toDigits_ne_nil]
    have last : exponent? [] = some 0 := rfl
    rw [spelled]
    simp only [decodeNumber, signed, whole, rest, natural?_toDigits, part, last, Option.bind_eq_bind, Option.bind_some,
      Option.pure_def, if_neg (List.cons_ne_nil _ _), Option.isSome_some]

end Python.Written
