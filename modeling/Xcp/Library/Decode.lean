import Xcp.Library.Dict
import Xcp.Library.Dumps
import Xcp.Library.Loads

/-! `json.loads` of a text. It reads back what `json.dumps` wrote. Half of a
surrogate pair alone is no letter here, and the texts of errors are left out. -/

namespace Python
open Eth PrefixCode

/-! ### Strings -/

def unescaped? (mark : Char) : Option Char :=
  match mark with
  | '"' => some '"'
  | '\\' => some '\\'
  | '/' => some '/'
  | 'b' => some (Char.ofNat 8)
  | 'f' => some (Char.ofNat 12)
  | 'n' => some '\n'
  | 'r' => some '\r'
  | 't' => some '\t'
  | _ => none

/-- The letter that begins the inside of a string, and what is after it. -/
def decodeLetter (letters : List Char) : Option (Char × List Char) :=
  match unicode? letters with
  | some (code, rest) =>
    if 0xd800 ≤ code && code < 0xdc00 then
      match unicode? rest with
      | some (low, rest) =>
        if 0xdc00 ≤ low && low < 0xe000 then some (Char.ofNat (0x10000 + 0x400 * (code - 0xd800) + (low - 0xdc00)), rest)
        else none
      | none => none
    else if 0xdc00 ≤ code && code < 0xe000 then none
    else some (Char.ofNat code, rest)
  | none =>
    match letters with
    | [] => none
    | '\\' :: mark :: rest => (unescaped? mark).map (fun letter => (letter, rest))
    | letter :: rest => if letter.toNat < 32 || letter = '\\' then none else some (letter, rest)

def decodeText : List Char → Option (String × List Char)
  | '"' :: rest => (readUntil decodeLetter '"' rest.length rest).map (Prod.map String.ofList id)
  | _ => none

/-! ### Words -/

/-- A whole number without leading zeros. -/
def natural? (letters : List Char) : Option Nat :=
  let value := Nat.ofDigitChars 10 letters 0
  if Nat.toDigits 10 value = letters then some value else none

def digits? (letters : List Char) : Option Nat :=
  if letters ≠ [] && letters.all Char.isDigit then some (Nat.ofDigitChars 10 letters 0) else none

/-- The digits after the point, if there is one, and what is after them. -/
def fraction? : List Char → Option (List Char × List Char)
  | '.' :: rest =>
    let digits := rest.takeWhile Char.isDigit
    if digits = [] then none else some (digits, rest.dropWhile Char.isDigit)
  | rest => some ([], rest)

def exponent? : List Char → Option Int
  | [] => some 0
  | mark :: rest =>
    if mark = 'e' || mark = 'E' then
      match rest with
      | '-' :: digits => (digits? digits).map (fun value => -(value : Int))
      | '+' :: digits => (digits? digits).map (fun value => (value : Int))
      | digits => (digits? digits).map (fun value => (value : Int))
    else none

/-- Whether a numeral has a sign, and what is after it. -/
def minus : List Char → Bool × List Char
  | '-' :: rest => (true, rest)
  | rest => (false, rest)

def wordLetter (letter : Char) : Bool := letter.isAlphanum || ['-', '+', '.'].contains letter

section Decoder
variable [Host]

def decodeNumber (letters : List Char) : Option Json := do
  let (negative, unsigned) := minus letters
  let whole := unsigned.takeWhile Char.isDigit
  let rest := unsigned.dropWhile Char.isDigit
  let value ← natural? whole
  if rest = [] then
    guard (whole.length ≤ maxIntDigits)
    return .int (if negative then -value else value)
  else
    let (after, rest) ← fraction? rest
    let exponent ← exponent? rest
    let magnitude : Rat := Nat.ofDigitChars 10 (whole ++ after) 0 * (10 : Rat) ^ (exponent - after.length)
    return .float (Host.toDouble (if negative then -magnitude else magnitude))

def decodeConstant (word : String) : Option Json :=
  match word with
  | "null" => some .null
  | "true" => some (.bool true)
  | "false" => some (.bool false)
  | "NaN" => some (.float .nan)
  | "Infinity" => some (.float (.infinite false))
  | "-Infinity" => some (.float (.infinite true))
  | _ => none

def decodeWord (letters : List Char) : Option (Json × List Char) :=
  let word := letters.takeWhile wordLetter
  let rest := letters.dropWhile wordLetter
  match decodeConstant (String.ofList word) with
  | some value => some (value, rest)
  | none => (decodeNumber word).map (fun value => (value, rest))

/-! ### Documents -/

def isBlank (letter : Char) : Bool := [' ', '\t', '\n', '\r'].contains letter

def skipBlanks (letters : List Char) : List Char := letters.dropWhile isBlank

/-- What is read between blanks. -/
def spaced {α : Type} (reader : List Char → Option (α × List Char)) (letters : List Char) : Option (α × List Char) :=
  (reader (skipBlanks letters)).map (Prod.map id skipBlanks)

/-- What is between two brackets, of which the first one is read already. -/
def decodeItems {α : Type} (reader : List Char → Option (α × List Char)) (close : Char) (letters : List Char) :
    Option (List α × List Char) :=
  match skipBlanks letters with
  | [] => none
  | letter :: rest =>
    if letter = close then some ([], rest) else readSeparated (spaced reader) ',' close letters.length letters

def decodeMember (reader : List Char → Option (Json × List Char)) (letters : List Char) :
    Option ((String × Json) × List Char) :=
  match decodeText letters with
  | none => none
  | some (name, rest) =>
    match skipBlanks rest with
    | ':' :: rest => (reader (skipBlanks rest)).map (Prod.map (Prod.mk name) id)
    | _ => none

/-- Each name has its last value, in the place where it first stood. -/
def ofPairs (pairs : List (String × Json)) : List (String × Json) :=
  pairs.foldl (fun members pair => Dict.put pair.1 pair.2 members) []

/-- One value at the start of a text, nested less deep than `fuel`. -/
def decode : Nat → List Char → Option (Json × List Char)
  | 0, _ => none
  | fuel + 1, letters =>
    match letters with
    | '"' :: _ => (decodeText letters).map (Prod.map .str id)
    | '[' :: rest => (decodeItems (decode fuel) ']' rest).map (Prod.map .list id)
    | '\x7b' :: rest =>
      (decodeItems (decodeMember (decode fuel)) '\x7d' rest).map (Prod.map (fun pairs => .dict (ofPairs pairs)) id)
    | _ => decodeWord letters

/-- `json.loads(text)`. No text is nested deeper than it is long. -/
def jsonLoads (text : String) : Option Json :=
  match spaced (decode (text.toList.length + 1)) text.toList with
  | some (value, []) => some value
  | _ => none

end Decoder

/-! ### What is read back -/

theorem decodeLetter_plain {letter : Char} {rest : List Char} (other : letter ≠ '\\') (printed : 32 ≤ letter.toNat) :
    decodeLetter (letter :: rest) = some (letter, rest) := by
  have plain : unicode? (letter :: rest) = none := by
    unfold unicode?
    split
    next same => exact absurd (List.cons.inj same).1 other
    next => rfl
  simp only [decodeLetter, plain]
  split
  next same => cases same
  next same => exact absurd (List.cons.inj same).1 other
  next first _ _ same =>
    obtain ⟨rfl, rfl⟩ := List.cons.inj same
    have kept : (decide (letter.toNat < 32) || decide (letter = '\\')) = false := by simp [other, printed]
    rw [kept]
    rfl

theorem decodeLetter_escapeLetter (letter : Char) (rest : List Char) :
    decodeLetter (escapeLetter letter ++ rest) = some (letter, rest) := by
  have same : Char.ofNat letter.toNat = letter := Char.ofNat_toNat letter
  unfold escapeLetter
  split
  · rfl
  · rfl
  · rfl
  · rfl
  · rfl
  next quotes backslash _ _ _ =>
    split_ifs with back feed control
    · rw [← same, back]
      rfl
    · rw [← same, feed]
      rfl
    · have zero : hexDigit 0 = '0' := rfl
      have escape : ['\\', 'u', '0', '0', hexDigit (letter.toNat / 16), hexDigit (letter.toNat % 16)] =
          unicodeEscape letter.toNat := by
        have first : letter.toNat / 4096 = 0 := by omega
        have second : letter.toNat / 256 % 16 = 0 := by omega
        have third : letter.toNat / 16 % 16 = letter.toNat / 16 := by omega
        rw [unicodeEscape, first, second, third, zero]
      have high : (decide (0xd800 ≤ letter.toNat) && decide (letter.toNat < 0xdc00)) = false := by simp; omega
      have low : (decide (0xdc00 ≤ letter.toNat) && decide (letter.toNat < 0xe000)) = false := by simp; omega
      rw [escape]
      simp only [decodeLetter, unicode_escape (show letter.toNat < 0x10000 by omega), high, low, Bool.false_eq_true, if_false, same]
    · exact decodeLetter_plain backslash (by omega)

theorem decodeLetter_escapeAscii (letter : Char) (rest : List Char) :
    decodeLetter (escapeAscii letter ++ rest) = some (letter, rest) := by
  have same : Char.ofNat letter.toNat = letter := Char.ofNat_toNat letter
  rcases escapeAscii_cases letter with ⟨_, ascii⟩ | ⟨_, small, alone, basic⟩ | ⟨high, low, highs, lows, code, astral⟩
  · rw [ascii]
    exact decodeLetter_escapeLetter letter rest
  · have first : (decide (0xd800 ≤ letter.toNat) && decide (letter.toNat < 0xdc00)) = false := by simp; omega
    have second : (decide (0xdc00 ≤ letter.toNat) && decide (letter.toNat < 0xe000)) = false := by simp; omega
    rw [basic]
    simp only [decodeLetter, unicode_escape small, first, second, Bool.false_eq_true, if_false, same]
  · have first : (decide (0xd800 ≤ 0xd800 + high) && decide (0xd800 + high < 0xdc00)) = true := by simp; omega
    have second : (decide (0xdc00 ≤ 0xdc00 + low) && decide (0xdc00 + low < 0xe000)) = true := by simp; omega
    have whole : 0x10000 + 0x400 * (0xd800 + high - 0xd800) + (0xdc00 + low - 0xdc00) = letter.toNat := by omega
    rw [astral, List.append_assoc]
    simp only [decodeLetter, unicode_escape (show 0xd800 + high < 0x10000 by omega),
      unicode_escape (show 0xdc00 + low < 0x10000 by omega), first, second, if_true, whole, same]

theorem decodeText_quoteAscii (text : String) (rest : List Char) :
    decodeText ((quoteAscii text).toList ++ rest) = some (text, rest) := by
  have enough : text.toList.length < (text.toList.flatMap escapeAscii ++ '"' :: rest).length := by
    have short := length_le_flatMap escapeAscii_isCode.nonempty text.toList
    rw [List.length_append, List.length_cons]
    omega
  have read := readUntil_flatMap decodeLetter decodeLetter_escapeAscii escapeAscii_isCode.nonempty escapeAscii_not_quote enough rest
  have spelled : (quoteAscii text).toList ++ rest = '"' :: (text.toList.flatMap escapeAscii ++ '"' :: rest) := by
    simp [quoteAscii]
  rw [spelled]
  simp only [decodeText, read, Option.map_some, Prod.map_apply, String.ofList_toList, id]

/-! ### Words that are read back -/

theorem natural?_toDigits (value : Nat) : natural? (Nat.toDigits 10 value) = some value := by
  have read : Nat.ofDigitChars 10 (Nat.toDigits 10 value) 0 = value := Nat.ofDigitChars_ten_toDigits
  simp only [natural?, read, if_true]

theorem toDigits_isDigit {value : Nat} {letter : Char} (member : letter ∈ Nat.toDigits 10 value) : letter.isDigit = true :=
  Nat.isDigit_of_mem_toDigits (by decide) (by decide) member

/-- A numeral begins with a minus or not, and its digits are those of its size. -/
theorem toList_toString_int (value : Int) :
    (toString value).toList = (if value < 0 then ['-'] else []) ++ Nat.toDigits 10 value.natAbs := by
  cases value with
  | ofNat magnitude =>
    have sign : ¬ (Int.ofNat magnitude < 0) := by simp
    rw [if_neg sign]
    change magnitude.repr.toList = _
    rw [Nat.toList_repr]
    rfl
  | negSucc magnitude =>
    rw [if_pos (Int.negSucc_lt_zero magnitude)]
    change ("-" ++ (magnitude + 1).repr).toList = _
    simp

theorem minus_toString (value : Int) : minus (toString value).toList = (decide (value < 0), Nat.toDigits 10 value.natAbs) := by
  rw [toList_toString_int]
  by_cases below : value < 0
  · simp [below, minus]
  · rw [if_neg below, List.nil_append]
    unfold minus
    split
    next same =>
      have digit : Char.isDigit '-' = true := @toDigits_isDigit value.natAbs '-' (by simp [same])
      exact absurd digit (by decide)
    next => simp [below]

section Numbers
variable [Host]

/-- A numeral is read as its number where it is not too long. -/
theorem decodeNumber_toString (value : Int) :
    decodeNumber (toString value).toList = if prints value then some (.int value) else none := by
  have digits : ∀ letter ∈ Nat.toDigits 10 value.natAbs, letter.isDigit = true := fun _ member => toDigits_isDigit member
  have taken : (Nat.toDigits 10 value.natAbs).takeWhile Char.isDigit = Nat.toDigits 10 value.natAbs :=
    List.takeWhile_eq_self_iff.mpr digits
  have dropped : (Nat.toDigits 10 value.natAbs).dropWhile Char.isDigit = [] := List.dropWhile_eq_nil_iff.mpr digits
  have signed : (if value < 0 then -(value.natAbs : Int) else value.natAbs) = value := by
    split_ifs <;> omega
  simp only [decodeNumber, minus_toString, taken, dropped, natural?_toDigits, guard, if_true, signed, prints,
    Option.bind_eq_bind, Option.bind_some, Option.pure_def, decide_eq_true_eq]
  split_ifs <;> rfl

theorem decodeNumber_int {value : Int} (small : prints value = true) :
    decodeNumber (toString value).toList = some (.int value) := by
  rw [decodeNumber_toString, if_pos small]

omit [Host] in
/-- The constants end in letters that are no digits. -/
theorem decodeConstant_none {word : String} {last : Char} (ends : word.toList.getLast? = some last) (digit : last.isDigit = true) :
    decodeConstant word = none := by
  unfold decodeConstant
  split
  case h_7 => rfl
  all_goals
    obtain rfl := Option.some.inj ends
    exact absurd digit (by decide)

theorem decodeWord_int {value : Int} (small : prints value = true) {rest : List Char}
    (ends : ∀ letter ∈ rest.head?, wordLetter letter = false) :
    decodeWord ((toString value).toList ++ rest) = some (.int value, rest) := by
  have word : ∀ letter ∈ (toString value).toList, wordLetter letter = true := by
    intro letter member
    rw [toList_toString_int, List.mem_append] at member
    rcases member with sign | digit
    · split at sign
      · obtain rfl := List.mem_singleton.mp sign
        decide
      · cases sign
    · have plain := toDigits_isDigit digit
      simp [wordLetter, Char.isAlphanum, plain]
  obtain ⟨taken, dropped⟩ := word_split word ends
  have last : ∃ letter, (toString value).toList.getLast? = some letter ∧ letter.isDigit = true := by
    obtain ⟨letter, found⟩ := Option.isSome_iff_exists.mp (List.getLast?_isSome.mpr (Nat.toDigits_ne_nil (n := value.natAbs) (b := 10)))
    refine ⟨letter, ?_, toDigits_isDigit (List.mem_of_getLast? found)⟩
    rw [toList_toString_int, List.getLast?_append, found]
    rfl
  obtain ⟨letter, ended, digit⟩ := last
  have other : decodeConstant (String.ofList (toString value).toList) = none :=
    decodeConstant_none (by rwa [String.toList_ofList]) digit
  simp only [decodeWord, taken, dropped, other, decodeNumber_int small, Option.map_some]

end Numbers

/-! ### Documents that are read back -/

mutual
/-- No floats; whole numbers that print, and each name once. -/
def Json.plain : Json → Bool
  | .float _ => false
  | .int value => prints value
  | .list items => plainItems items
  | .dict members => (members.map Prod.fst).Nodup && plainMembers members
  | _ => true
termination_by structural value => value

def plainItems : List Json → Bool
  | [] => true
  | value :: rest => value.plain && plainItems rest
termination_by structural items => items

def plainMembers : List (String × Json) → Bool
  | [] => true
  | (_, value) :: rest => value.plain && plainMembers rest
termination_by structural members => members
end

theorem plainItems_eq_all (items : List Json) : plainItems items = items.all Json.plain := by
  induction items with
  | nil => rfl
  | cons item rest ih => rw [plainItems, ih, List.all_cons]

theorem plainMembers_eq_all (members : List (String × Json)) :
    plainMembers members = members.all (fun member => member.2.plain) := by
  induction members with
  | nil => rfl
  | cons member rest ih => rw [plainMembers, ih, List.all_cons]

theorem Json.plain_of_isFlat {value : Json} (flat : value.isFlat = true) : value.plain = true := by
  cases value with
  | str => rfl
  | int => exact flat
  | _ => cases flat

/-- The order in which a style writes the members of an object. -/
def DumpStyle.arrange (style : DumpStyle) (members : List (String × Json)) : List (String × Json) :=
  if style.sortKeys then byName members else members

/-- A document with its members in the order in which a style writes them. -/
def Json.arranged (style : DumpStyle) (value : Json) : Json := if style.sortKeys then value.sorted else value

theorem arrange_perm (style : DumpStyle) (members : List (String × Json)) : (style.arrange members).Perm members := by
  unfold DumpStyle.arrange
  split
  · exact byName_perm members
  · rfl

theorem arranged_of_isFlat (style : DumpStyle) {value : Json} (flat : value.isFlat = true) : value.arranged style = value := by
  unfold Json.arranged
  split
  · cases value with
    | str => rfl
    | int => rfl
    | _ => cases flat
  · rfl

theorem prints_of_word {value : Int} (natural : 0 ≤ value) (small : value < 2 ^ 256) : prints value = true := by
  have below : value.natAbs < 10 ^ 78 := by omega
  have short := Nat.toDigits_length 10 value.natAbs 78 (by decide) below
  exact decide_eq_true (Nat.le_trans short (by decide))

theorem arranged_list (style : DumpStyle) (items : List Json) :
    (Json.list items).arranged style = .list (items.map (fun item => item.arranged style)) := by
  cases sort : style.sortKeys <;> simp [Json.arranged, sort, Json.sorted, sortedItems_eq_map]

theorem arranged_dict (style : DumpStyle) (members : List (String × Json)) :
    (Json.dict members).arranged style =
      .dict ((style.arrange members).map (fun member => (member.1, member.2.arranged style))) := by
  cases sort : style.sortKeys
  · simp [Json.arranged, DumpStyle.arrange, sort]
  · simp only [Json.arranged, DumpStyle.arrange, sort, if_true, sorted_dict]

theorem find?_map_snd (change : Json → Json) (members : List (String × Json)) (name : String) :
    Json.find? (members.map (fun member => (member.1, change member.2))) name = (Json.find? members name).map change := by
  simp [Json.find?, List.find?_map, Function.comp_def]

/-- Members are found under their names in whatever order they stand. -/
theorem find?_arranged (style : DumpStyle) {members : List (String × Json)} (distinct : (members.map Prod.fst).Nodup)
    (name : String) :
    Json.find? ((style.arrange members).map (fun member => (member.1, member.2.arranged style))) name =
      (Json.find? members name).map (fun value => value.arranged style) := by
  rw [find?_map_snd (fun value => value.arranged style), find?_perm distinct (arrange_perm style members)]

/-- A member of an object in its normal form is the normal form of the member. -/
theorem item_sorted {members : List (String × Json)} (distinct : (members.map Prod.fst).Nodup) (name : String) :
    (Json.dict members).sorted.item name = Json.sorted <$> (Json.dict members).item name := by
  rw [sorted_dict, Json.item, Json.item, find?_map_snd, find?_perm distinct (byName_perm members)]
  cases Json.find? members name <;> rfl

theorem get_sorted {members : List (String × Json)} (distinct : (members.map Prod.fst).Nodup) (name : String) :
    (Json.dict members).sorted.get name = Json.sorted <$> (Json.dict members).get name := by
  rw [sorted_dict, Json.get, Json.get, find?_map_snd, find?_perm distinct (byName_perm members)]
  cases Json.find? members name <;> rfl

/-- Where the values are normal forms, the members are only put in another order. -/
theorem sorted_perm {members : List (String × Json)} (still : ∀ member ∈ members, member.2.sorted = member.2) :
    ∃ others, (Json.dict members).sorted = .dict others ∧ others.Perm members := by
  have same : (byName members).map (fun member => (member.1, member.2.sorted)) = (byName members).map id :=
    List.map_congr_left fun member inside => by
      rw [still member ((byName_perm members).mem_iff.mp inside)]
      rfl
  exact ⟨byName members, by rw [sorted_dict, same, List.map_id], byName_perm members⟩

theorem ofPairs_of_nodup {pairs : List (String × Json)} (distinct : (pairs.map Prod.fst).Nodup) : ofPairs pairs = pairs := by
  have each (before : List (String × Json)) (fresh : ((before ++ pairs).map Prod.fst).Nodup) :
      pairs.foldl (fun members pair => Dict.put pair.1 pair.2 members) before = before ++ pairs := by
    induction pairs generalizing before with
    | nil => rw [List.append_nil]; rfl
    | cons pair rest ih =>
      have shifted : before ++ pair :: rest = (before ++ [pair]) ++ rest := by simp
      rw [List.map_append, List.map_cons, List.nodup_append] at fresh
      have absent : pair.1 ∉ before.map Prod.fst := fun member => fresh.2.2 _ member _ (List.mem_cons_self ..) rfl
      rw [List.map_cons, List.nodup_cons] at distinct
      rw [List.foldl_cons, Dict.put_of_none (Dict.look_of_not_mem absent), shifted]
      apply ih distinct.2
      rw [← shifted, List.map_append, List.map_cons, List.nodup_append]
      exact fresh
  exact each [] distinct

/-! ### Styles -/

/-- A comma and a colon, and blanks after them. -/
structure DumpStyle.Standard (style : DumpStyle) : Prop where
  items : ∃ blanks : List Char, style.items.toList = ',' :: blanks ∧ ∀ letter ∈ blanks, isBlank letter = true
  members : ∃ blanks : List Char, style.members.toList = ':' :: blanks ∧ ∀ letter ∈ blanks, isBlank letter = true

theorem standard_default : DumpStyle.Standard {} := by
  have blank : ∀ letter ∈ [' '], isBlank letter = true := List.forall_mem_singleton.mpr rfl
  exact ⟨⟨[' '], rfl, blank⟩, ⟨[' '], rfl, blank⟩⟩

theorem skipBlanks_append {blanks : List Char} (blank : ∀ letter ∈ blanks, isBlank letter = true) (rest : List Char) :
    skipBlanks (blanks ++ rest) = skipBlanks rest := List.dropWhile_append_of_pos blank

theorem skipBlanks_cons {letter : Char} (solid : isBlank letter = false) (rest : List Char) :
    skipBlanks (letter :: rest) = letter :: rest := by
  simp [skipBlanks, solid]

/-! ### Between brackets -/

section Brackets
variable {α β : Type} {text : α → String} {reader : List Char → Option (β × List Char)} {image : α → β} {close : Char}

/-- A value is read up to a comma or to the bracket that closes its list. -/
structure ReadsItem (text : α → String) (reader : List Char → Option (β × List Char)) (image : α → β) (close : Char) (value : α) :
    Prop where
  head : ∃ letter rest, (text value).toList = letter :: rest ∧ isBlank letter = false ∧ letter ≠ close
  reads : ∀ mark rest, mark = ',' ∨ mark = close → reader ((text value).toList ++ mark :: rest) = some (image value, mark :: rest)

theorem ReadsItem.spaced {value : α} (item : ReadsItem text reader image close value) {blanks : List Char}
    (blank : ∀ letter ∈ blanks, isBlank letter = true) {mark : Char} (known : mark = ',' ∨ mark = close)
    (solid : isBlank close = false) (rest : List Char) :
    spaced reader (blanks ++ ((text value).toList ++ mark :: rest)) = some (image value, mark :: rest) := by
  obtain ⟨letter, tail, spelled, plain, _⟩ := item.head
  have stays : isBlank mark = false := by
    rcases known with rfl | rfl
    · decide
    · exact solid
  have bare : skipBlanks (blanks ++ ((text value).toList ++ mark :: rest)) = (text value).toList ++ mark :: rest := by
    rw [skipBlanks_append blank, spelled, List.cons_append, skipBlanks_cons plain]
  simp only [Python.spaced, bare, item.reads mark rest known, Option.map_some, Prod.map_apply, id, skipBlanks_cons stays]

theorem readSeparated_joinWith (differ : ',' ≠ close) (solid : isBlank close = false) {separator : String} {after : List Char}
    (spelled : separator.toList = ',' :: after) (blank : ∀ letter ∈ after, isBlank letter = true) {values : List α}
    (items : ∀ value ∈ values, ReadsItem text reader image close value) (inhabited : values ≠ []) (before : List Char)
    (blank' : ∀ letter ∈ before, isBlank letter = true) {fuel : Nat} (enough : values.length ≤ fuel) (rest : List Char) :
    readSeparated (spaced reader) ',' close fuel (before ++ ((joinWith separator (values.map text)).toList ++ close :: rest)) =
      some (values.map image, rest) := by
  induction values generalizing fuel before with
  | nil => exact absurd rfl inhabited
  | cons first values ih =>
    have here := items first (List.mem_cons_self ..)
    cases fuel with
    | zero => cases enough
    | succ fuel =>
      cases values with
      | nil => simp only [List.map_cons, List.map_nil, joinWith, readSeparated, here.spaced blank' (.inr rfl) solid, if_true]
      | cons second values =>
        have later := ih (fun value member => items value (List.mem_cons_of_mem _ member)) (List.cons_ne_nil second values)
          after blank (Nat.le_of_succ_le_succ enough)
        have split : (joinWith separator ((first :: second :: values).map text)).toList ++ close :: rest =
            (text first).toList ++ ',' :: (after ++ ((joinWith separator ((second :: values).map text)).toList ++ close :: rest)) := by
          simp [joinWith, spelled]
        rw [split]
        change _ = some (image first :: (second :: values).map image, rest)
        simp only [readSeparated, here.spaced blank' (.inl rfl) solid, if_neg differ, if_true, later, Option.map_some,
          Prod.map_apply, id]

theorem length_le_joinWith (separator : String) {values : List α} (written : ∀ value ∈ values, (text value).toList ≠ []) :
    values.length ≤ (joinWith separator (values.map text)).toList.length := by
  induction values with
  | nil => exact Nat.zero_le _
  | cons first values ih =>
    have word := List.length_pos_of_ne_nil (written first (List.mem_cons_self ..))
    have later := ih (fun value member => written value (List.mem_cons_of_mem _ member))
    cases values with
    | nil => exact word
    | cons second values =>
      simp only [List.map_cons, joinWith, String.toList_append, List.length_append, List.length_cons] at later ⊢
      omega

theorem length_le_joinWith_of_mem (text : α → String) (separator : String) {values : List α} {value : α} (member : value ∈ values) :
    (text value).toList.length ≤ (joinWith separator (values.map text)).toList.length := by
  induction values with
  | nil => cases member
  | cons first values ih =>
    cases values with
    | nil =>
      obtain rfl := List.mem_singleton.mp member
      exact Nat.le_refl _
    | cons second values =>
      simp only [List.map_cons, joinWith, String.toList_append, List.length_append] at ih ⊢
      rcases List.mem_cons.mp member with rfl | later
      · omega
      · have rest := ih later
        omega

theorem decodeItems_joinWith (differ : ',' ≠ close) (solid : isBlank close = false) {separator : String} {after : List Char}
    (spelled : separator.toList = ',' :: after) (blank : ∀ letter ∈ after, isBlank letter = true) {values : List α}
    (items : ∀ value ∈ values, ReadsItem text reader image close value) (rest : List Char) :
    decodeItems reader close ((joinWith separator (values.map text)).toList ++ close :: rest) = some (values.map image, rest) := by
  cases values with
  | nil =>
    have empty : skipBlanks (close :: rest) = close :: rest := skipBlanks_cons solid rest
    simp only [List.map_nil, joinWith, String.toList_empty, List.nil_append, decodeItems, empty, if_true]
  | cons first values =>
    obtain ⟨letter, tail, begins, plain, other⟩ := (items first (List.mem_cons_self ..)).head
    obtain ⟨more, joined⟩ : ∃ more, (joinWith separator ((first :: values).map text)).toList ++ close :: rest = letter :: more := by
      cases values with
      | nil => simp [joinWith, begins]
      | cons second values => simp [joinWith, begins]
    have written : ∀ value ∈ first :: values, (text value).toList ≠ [] := by
      intro value member
      obtain ⟨_, _, spelled, _⟩ := (items value member).head
      simp [spelled]
    have enough : (first :: values).length ≤ ((joinWith separator ((first :: values).map text)).toList ++ close :: rest).length := by
      have short := length_le_joinWith separator written
      rw [List.length_append]
      omega
    have start : skipBlanks ((joinWith separator ((first :: values).map text)).toList ++ close :: rest) = letter :: more := by
      rw [joined, skipBlanks_cons plain]
    have read := readSeparated_joinWith differ solid spelled blank items (List.cons_ne_nil first values) []
      (List.forall_mem_nil _) enough rest
    simp only [decodeItems, start, if_neg other]
    exact read

end Brackets

section Read
variable [Host] {style : DumpStyle}

def Json.dumped (style : DumpStyle) (value : Json) : List Char := (value.dumps style).toList

def dumpsMember (style : DumpStyle) (member : String × Json) : String :=
  quoteAscii member.1 ++ style.members ++ member.2.dumps style

theorem dumpsItems_eq_map (items : List Json) : dumpsItems style items = items.map (Json.dumps style) := by
  induction items with
  | nil => rfl
  | cons item rest ih => rw [dumpsItems, ih, List.map_cons]

theorem dumpsMembers_eq_map (members : List (String × Json)) :
    dumpsMembers style members = members.map (fun member => (member.1, member.2.dumps style)) := by
  induction members with
  | nil => rfl
  | cons member rest ih => rw [dumpsMembers, ih, List.map_cons]

theorem dumped_list (items : List Json) :
    (Json.list items).dumped style = '[' :: ((joinWith style.items (items.map (Json.dumps style))).toList ++ [']']) := by
  simp [Json.dumped, Json.dumps, dumpsItems_eq_map]

theorem dumped_dict (members : List (String × Json)) :
    (Json.dict members).dumped style =
      '\x7b' :: ((joinWith style.items ((style.arrange members).map (dumpsMember style))).toList ++ ['\x7d']) := by
  have member : dumpsMember style = fun member => quoteAscii member.1 ++ style.members ++ member.2.dumps style := rfl
  cases sort : style.sortKeys <;>
    simp [Json.dumped, Json.dumps, dumpsMembers_eq_map, DumpStyle.arrange, sort, insertionSort_map_snd, byName, Function.comp_def,
      member]

/-- No value begins with a blank or with a bracket that closes. -/
theorem dumped_head (style : DumpStyle) {value : Json} (plain : value.plain = true) :
    ∃ letter rest, value.dumped style = letter :: rest ∧ isBlank letter = false ∧ letter ≠ ']' := by
  cases value with
  | null => exact ⟨'n', ['u', 'l', 'l'], by simp [Json.dumped, Json.dumps], by decide, by decide⟩
  | bool value =>
    cases value with
    | false => exact ⟨'f', ['a', 'l', 's', 'e'], by simp [Json.dumped, Json.dumps], by decide, by decide⟩
    | true => exact ⟨'t', ['r', 'u', 'e'], by simp [Json.dumped, Json.dumps], by decide, by decide⟩
  | int value =>
    obtain ⟨letter, rest, spelled⟩ := List.exists_cons_of_ne_nil (int_letters_ne_nil value)
    have number := int_numberLetters value letter (by simp [spelled])
    refine ⟨letter, rest, spelled, ?_, ?_⟩
    · by_contra blank
      simp only [isBlank, Bool.not_eq_false, List.contains_iff_mem, List.mem_cons, List.not_mem_nil, or_false] at blank
      rcases blank with rfl | rfl | rfl | rfl <;> exact absurd number (by decide)
    · rintro rfl
      exact absurd number (by decide)
  | float => cases plain
  | str text => exact ⟨'"', _, by simp [Json.dumped, Json.dumps, quoteAscii]; rfl, by decide, by decide⟩
  | list items => exact ⟨_, _, dumped_list items, by decide, by decide⟩
  | dict members => exact ⟨_, _, dumped_dict members, by decide, by decide⟩

/-! ### Whole documents -/

/-- A value is read back before whatever cannot be part of it. -/
def DecodesBack (style : DumpStyle) (value : Json) : Prop :=
  ∀ fuel rest, (value.dumped style).length ≤ fuel → (∀ letter ∈ rest.head?, wordLetter letter = false) →
    decode fuel (value.dumped style ++ rest) = some (value.arranged style, rest)

/-- A word that is no numeral, before whatever is no part of it. -/
theorem decodeWord_constant {word : String} {value : Json} (known : decodeConstant word = some value)
    (letters : ∀ letter ∈ word.toList, wordLetter letter = true) {rest : List Char}
    (ends : ∀ letter ∈ rest.head?, wordLetter letter = false) : decodeWord (word.toList ++ rest) = some (value, rest) := by
  obtain ⟨taken, dropped⟩ := word_split letters ends
  simp only [decodeWord, taken, dropped, String.ofList_toList, known]

theorem decode_word {letter : Char} (other : letter ≠ '"' ∧ letter ≠ '[' ∧ letter ≠ '\x7b') (fuel : Nat) (rest : List Char) :
    decode (fuel + 1) (letter :: rest) = decodeWord (letter :: rest) := by
  unfold decode
  split
  next same => exact absurd (List.cons.inj same).1 other.1
  next same => exact absurd (List.cons.inj same).1 other.2.1
  next same => exact absurd (List.cons.inj same).1 other.2.2
  next => rfl

theorem list_decodesBack (standard : style.Standard) {items : List Json} (plain : ∀ item ∈ items, item.plain = true)
    (decodes : ∀ item ∈ items, DecodesBack style item) : DecodesBack style (.list items) := by
  obtain ⟨after, spelled, blank⟩ := standard.items
  intro fuel rest enough _
  rw [dumped_list] at enough ⊢
  cases fuel with
  | zero => cases enough
  | succ fuel =>
    have each : ∀ item ∈ items, ReadsItem (Json.dumps style) (decode fuel) (fun item => item.arranged style) ']' item := by
      intro item member
      have short := length_le_joinWith_of_mem (Json.dumps style) style.items member
      refine ⟨dumped_head style (plain item member), ?_⟩
      intro mark rest known
      apply decodes item member
      · simp only [List.length_cons, List.length_append, List.length_nil] at enough
        simp only [Json.dumped]
        omega
      · rintro letter ⟨⟩
        rcases known with rfl | rfl <;> decide
    have read := decodeItems_joinWith (by decide) (by decide) spelled blank each rest
    rw [List.cons_append, List.append_assoc, List.singleton_append]
    simp only [decode, read, Option.map_some, Prod.map_apply, id, arranged_list]

theorem dict_decodesBack (standard : style.Standard) {members : List (String × Json)} (distinct : (members.map Prod.fst).Nodup)
    (plain : ∀ member ∈ members, member.2.plain = true) (decodes : ∀ member ∈ members, DecodesBack style member.2) :
    DecodesBack style (.dict members) := by
  obtain ⟨after, spelled, blank⟩ := standard.items
  obtain ⟨between, colon, blank'⟩ := standard.members
  intro fuel rest enough _
  rw [dumped_dict] at enough ⊢
  cases fuel with
  | zero => cases enough
  | succ fuel =>
    have perm := arrange_perm style members
    have each : ∀ member ∈ style.arrange members, ReadsItem (dumpsMember style) (decodeMember (decode fuel))
        (fun member => (member.1, member.2.arranged style)) '\x7d' member := by
      intro member inside
      have known : member ∈ members := perm.mem_iff.mp inside
      have short := length_le_joinWith_of_mem (dumpsMember style) style.items inside
      obtain ⟨letter, tail, begins, solid, _⟩ := dumped_head style (plain member known)
      refine ⟨⟨'"', _, by simp [dumpsMember, quoteAscii]; rfl, by decide, by decide⟩, ?_⟩
      intro mark rest ends
      have size : (member.2.dumped style).length ≤ fuel := by
        simp only [List.length_cons, List.length_append, List.length_nil, dumpsMember, String.toList_append] at enough short
        simp only [Json.dumped]
        omega
      have read := decodes member known fuel (mark :: rest) size (by
        rintro letter ⟨⟩
        rcases ends with rfl | rfl <;> decide)
      have split : (dumpsMember style member).toList ++ mark :: rest =
          (quoteAscii member.1).toList ++ ':' :: (between ++ (member.2.dumped style ++ mark :: rest)) := by
        simp [dumpsMember, colon, Json.dumped]
      have here : skipBlanks (':' :: (between ++ (member.2.dumped style ++ mark :: rest))) =
          ':' :: (between ++ (member.2.dumped style ++ mark :: rest)) := skipBlanks_cons (by decide) _
      have value : skipBlanks (between ++ (member.2.dumped style ++ mark :: rest)) = member.2.dumped style ++ mark :: rest := by
        rw [skipBlanks_append blank', begins, List.cons_append, skipBlanks_cons solid]
      rw [split]
      simp only [decodeMember, decodeText_quoteAscii, here, value, read, Option.map_some, Prod.map_apply, id]
    have read := decodeItems_joinWith (by decide) (by decide) spelled blank each rest
    have names : ((style.arrange members).map (fun member => (member.1, member.2.arranged style))).map Prod.fst =
        (style.arrange members).map Prod.fst := by simp [Function.comp_def]
    have once : (((style.arrange members).map (fun member => (member.1, member.2.arranged style))).map Prod.fst).Nodup := by
      rw [names]
      exact (perm.map Prod.fst).nodup_iff.mpr distinct
    rw [List.cons_append, List.append_assoc, List.singleton_append]
    simp only [decode, read, Option.map_some, Prod.map_apply, id, arranged_dict, ofPairs_of_nodup once]

theorem word_decodesBack {value : Json} (word : String) (written : value.dumps style = word) (known : decodeConstant word = some value)
    (same : value.arranged style = value) (letters : word.toList.all wordLetter = true)
    (first : ∃ letter rest, word.toList = letter :: rest ∧ letter ≠ '"' ∧ letter ≠ '[' ∧ letter ≠ '\x7b') :
    DecodesBack style value := by
  obtain ⟨letter, tail, spelled, other⟩ := first
  intro fuel rest enough ends
  rw [Json.dumped, written] at enough ⊢
  cases fuel with
  | zero => simp [spelled] at enough
  | succ fuel =>
    have read := decodeWord_constant known (List.all_eq_true.mp letters) ends
    rw [same, ← read, spelled, List.cons_append, decode_word other]

theorem int_decodesBack {value : Int} (small : prints value = true) : DecodesBack style (.int value) := by
  intro fuel rest enough ends
  obtain ⟨letter, tail, spelled⟩ := List.exists_cons_of_ne_nil (int_letters_ne_nil value)
  have number := int_numberLetters value letter (by simp [spelled])
  have other : letter ≠ '"' ∧ letter ≠ '[' ∧ letter ≠ '\x7b' := by
    refine ⟨?_, ?_, ?_⟩ <;> rintro rfl <;> exact absurd number (by decide)
  have written : (Json.int value).dumped style = (toString value).toList := by rw [Json.dumped, Json.dumps]
  have letters : (toString value).toList = letter :: tail := spelled
  have same : (Json.int value).arranged style = .int value := arranged_of_isFlat style small
  cases fuel with
  | zero =>
    rw [written, letters] at enough
    cases enough
  | succ fuel =>
    have read := decodeWord_int small ends
    rw [written, same, ← read, letters, List.cons_append, decode_word other]

theorem str_decodesBack (text : String) : DecodesBack style (.str text) := by
  intro fuel rest enough _
  have written : (Json.str text).dumped style = (quoteAscii text).toList := by rw [Json.dumped, Json.dumps]
  have quoted : (quoteAscii text).toList = '"' :: (text.toList.flatMap escapeAscii ++ ['"']) := by simp [quoteAscii]
  have same : (Json.str text).arranged style = .str text := arranged_of_isFlat style rfl
  have read := decodeText_quoteAscii text rest
  rw [written, same]
  rw [written] at enough
  rw [quoted, List.cons_append] at read ⊢
  cases fuel with
  | zero => simp [quoted] at enough
  | succ fuel => simp only [decode, read, Option.map_some, Prod.map_apply, id]

theorem decodesBack (standard : style.Standard) {value : Json} (plain : value.plain = true) : DecodesBack style value := by
  induction value using Json.nested_induction with
  | null =>
    refine word_decodesBack "null" (by rw [Json.dumps]) rfl ?_ rfl ⟨'n', _, rfl, by decide⟩
    simp [Json.arranged, Json.sorted]
  | bool value =>
    have same : (Json.bool value).arranged style = .bool value := by simp [Json.arranged, Json.sorted]
    cases value with
    | false => exact word_decodesBack "false" (by rw [Json.dumps]) rfl same rfl ⟨'f', _, rfl, by decide⟩
    | true => exact word_decodesBack "true" (by rw [Json.dumps]) rfl same rfl ⟨'t', _, rfl, by decide⟩
  | int value => exact int_decodesBack plain
  | float => cases plain
  | str text => exact str_decodesBack text
  | list items ih =>
    rw [Json.plain, plainItems_eq_all, List.all_eq_true] at plain
    exact list_decodesBack standard plain (fun item member => ih item member (plain item member))
  | dict members ih =>
    rw [Json.plain, plainMembers_eq_all, Bool.and_eq_true, decide_eq_true_eq, List.all_eq_true] at plain
    exact dict_decodesBack standard plain.1 plain.2 (fun member inside => ih member inside (plain.2 member inside))

/-- `json.loads` reads back what `json.dumps` wrote, with its members in the order of the style. -/
theorem jsonLoads_dumps (standard : style.Standard) {value : Json} (plain : value.plain = true) :
    jsonLoads (value.dumps style) = some (value.arranged style) := by
  obtain ⟨letter, tail, begins, solid, _⟩ := dumped_head style plain
  have read := decodesBack standard plain ((value.dumped style).length + 1) [] (Nat.le_succ _) nofun
  have start : skipBlanks (value.dumped style) = value.dumped style := by rw [begins, skipBlanks_cons solid]
  rw [List.append_nil] at read
  change (match spaced (decode ((value.dumped style).length + 1)) (value.dumped style) with
    | some (value, []) => some value
    | _ => none) = _
  simp only [spaced, start, read, Option.map_some, Prod.map_apply, id]
  rfl

/-- Objects of texts and whole numbers are read from bytes as they were written. -/
def ReadsDumped [JsonDecoder] (style : DumpStyle) : Prop :=
  ∀ members : List (String × Json), (members.map Prod.fst).Nodup → (∀ member ∈ members, member.2.isFlat = true) →
    JsonDecoder.loads (utf8 ((Json.dict members).dumps style)) = .ok ((Json.dict members).arranged style)

/-- The decoder of texts, for documents that arrive as bytes. -/
@[reducible] def textDecoder : JsonDecoder where
  loads := fun data =>
    match (fromUtf8? data).bind jsonLoads with
    | some value => .ok value
    | none => raise .valueError ""

theorem textDecoder_readsDumped (standard : style.Standard) : @ReadsDumped _ textDecoder style := by
  intro members distinct flat
  have plain : (Json.dict members).plain = true := by
    rw [Json.plain, plainMembers_eq_all, Bool.and_eq_true, decide_eq_true_eq, List.all_eq_true]
    exact ⟨distinct, fun member inside => Json.plain_of_isFlat (flat member inside)⟩
  have read : (fromUtf8? (utf8 ((Json.dict members).dumps style))).bind jsonLoads =
      some ((Json.dict members).arranged style) := by
    rw [fromUtf8_utf8, Option.bind_some, jsonLoads_dumps standard plain]
  change (match (fromUtf8? _).bind jsonLoads with | some value => _ | none => _) = _
  rw [read]

/-- Any value that prints is read from bytes as it was written. -/
def ReadsPlain [JsonDecoder] (style : DumpStyle) : Prop :=
  ∀ value : Json, value.plain = true → JsonDecoder.loads (utf8 (value.dumps style)) = .ok (value.arranged style)

theorem textDecoder_readsPlain (standard : style.Standard) : @ReadsPlain _ textDecoder style := by
  intro value plain
  have read : (fromUtf8? (utf8 (value.dumps style))).bind jsonLoads = some (value.arranged style) := by
    rw [fromUtf8_utf8, Option.bind_some, jsonLoads_dumps standard plain]
  change (match (fromUtf8? _).bind jsonLoads with | some value => _ | none => _) = _
  rw [read]

end Read

end Python
