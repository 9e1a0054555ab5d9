import Mathlib
import Xcp.Library.PrefixCode
import Xcp.Library.PythonText

/-! The canonical form of `json.dumps` says what a value is, up to the order of
the members of its objects. -/

namespace Python
open PrefixCode

/-! ### Induction on documents -/

/-- The cases of a document, with an induction hypothesis for everything in it. -/
theorem Json.nested_induction {holds : Json → Prop} (null : holds .null) (bool : ∀ value, holds (.bool value))
    (int : ∀ value, holds (.int value)) (float : ∀ value, holds (.float value)) (str : ∀ text, holds (.str text))
    (list : ∀ items, (∀ item ∈ items, holds item) → holds (.list items))
    (dict : ∀ members, (∀ member ∈ members, holds member.2) → holds (.dict members)) (value : Json) : holds value := by
  refine @Json.rec holds (fun items => ∀ item ∈ items, holds item) (fun members => ∀ member ∈ members, holds member.2)
    (fun member => holds member.2) null bool int float str list dict ?_ ?_ ?_ ?_ ?_ value
  · simp
  · intro first rest here later
    simpa using ⟨here, later⟩
  · simp
  · intro first rest here later
    simp only [List.mem_cons, forall_eq_or_imp]
    exact ⟨here, later⟩
  · intro key value here
    exact here

/-! ### Normal forms -/

mutual
def Json.sorted : Json → Json
  | .list items => .list (sortedItems items)
  | .dict members => .dict ((sortedMembers members).insertionSort (fun first second => first.1 ≤ second.1))
  | other => other
termination_by structural value => value

def sortedItems : List Json → List Json
  | [] => []
  | value :: rest => value.sorted :: sortedItems rest
termination_by structural items => items

def sortedMembers : List (String × Json) → List (String × Json)
  | [] => []
  | (key, value) :: rest => (key, value.sorted) :: sortedMembers rest
termination_by structural members => members
end

theorem sortedItems_eq_map (items : List Json) : sortedItems items = items.map Json.sorted := by
  induction items with
  | nil => rfl
  | cons item rest ih => simp [sortedItems, ih]

theorem sortedMembers_eq_map (members : List (String × Json)) :
    sortedMembers members = members.map (fun member => (member.1, member.2.sorted)) := by
  induction members with
  | nil => rfl
  | cons member rest ih => simp [sortedMembers, ih]

theorem insertionSort_map_snd {α β : Type} (change : α → β) (members : List (String × α)) :
    (members.map (fun member => (member.1, change member.2))).insertionSort (fun first second => first.1 ≤ second.1) =
      (members.insertionSort (fun first second => first.1 ≤ second.1)).map (fun member => (member.1, change member.2)) := by
  symm
  apply List.map_insertionSort
  intros
  rfl

def byName (members : List (String × Json)) : List (String × Json) :=
  members.insertionSort (fun first second => first.1 ≤ second.1)

theorem sorted_dict (members : List (String × Json)) :
    (Json.dict members).sorted = .dict ((byName members).map (fun member => (member.1, member.2.sorted))) := by
  rw [Json.sorted, sortedMembers_eq_map, insertionSort_map_snd, byName]

theorem byName_byName (members : List (String × Json)) : byName (byName members) = byName members := by
  have ordered : List.Pairwise (fun first second : String × Json => first.1 ≤ second.1) (byName members) :=
    List.pairwise_insertionSort _ _
  exact ordered.insertionSort_eq

theorem Json.sorted_sorted (value : Json) : value.sorted.sorted = value.sorted := by
  induction value using Json.nested_induction with
  | list items ih =>
    have each : ∀ item ∈ items, (Json.sorted ∘ Json.sorted) item = item.sorted := ih
    rw [Json.sorted, sortedItems_eq_map, Json.sorted, sortedItems_eq_map, List.map_map, List.map_congr_left each]
  | dict members ih =>
    have each : ∀ member ∈ byName members, (member.1, member.2.sorted.sorted) = (member.1, member.2.sorted) := by
      intro member inside
      rw [ih member ((List.mem_insertionSort _).mp inside)]
    have again : byName ((byName members).map (fun member => (member.1, member.2.sorted))) =
        (byName members).map (fun member => (member.1, member.2.sorted)) := by
      rw [byName, insertionSort_map_snd, ← byName, byName_byName]
    rw [sorted_dict, sorted_dict, again, List.map_map]
    exact congrArg Json.dict (List.map_congr_left each)
  | _ => rfl

/-! ### Strings -/

/-- The letter that begins a text in a string, and what is after it. -/
def unescape : List Char → Char × List Char
  | '\\' :: 'u' :: _ :: _ :: high :: low :: rest =>
    (Char.ofNat (16 * (hexValue? high).getD 0 + (hexValue? low).getD 0), rest)
  | '\\' :: 'n' :: rest => ('\n', rest)
  | '\\' :: 'r' :: rest => ('\r', rest)
  | '\\' :: 't' :: rest => ('\t', rest)
  | '\\' :: 'b' :: rest => (Char.ofNat 8, rest)
  | '\\' :: 'f' :: rest => (Char.ofNat 12, rest)
  | '\\' :: letter :: rest => (letter, rest)
  | letter :: rest => (letter, rest)
  | [] => (default, [])

theorem hexValue_hexDigit : ∀ digit < 16, hexValue? (hexDigit digit) = some digit := by
  decide

theorem hexDigits_value {code : Nat} (small : code < 256) :
    16 * (hexValue? (hexDigit (code / 16))).getD 0 + (hexValue? (hexDigit (code % 16))).getD 0 = code := by
  have high := hexValue_hexDigit (code / 16) (by omega)
  have low := hexValue_hexDigit (code % 16) (by omega)
  rw [high, low, Option.getD_some, Option.getD_some]
  omega

theorem escape_head (letter : Char) :
    (∃ rest, escapeLetter letter = '\\' :: rest) ∨ escapeLetter letter = [letter] ∧ letter ≠ '"' := by
  unfold escapeLetter
  split
  · exact .inl ⟨_, rfl⟩
  · exact .inl ⟨_, rfl⟩
  · exact .inl ⟨_, rfl⟩
  · exact .inl ⟨_, rfl⟩
  · exact .inl ⟨_, rfl⟩
  next plain _ _ _ _ =>
    split
    · exact .inl ⟨_, rfl⟩
    split
    · exact .inl ⟨_, rfl⟩
    split
    · exact .inl ⟨_, rfl⟩
    · exact .inr ⟨rfl, plain⟩

theorem unescape_escape (letter : Char) (rest : List Char) : unescape (escapeLetter letter ++ rest) = (letter, rest) := by
  have same : Char.ofNat letter.toNat = letter := Char.ofNat_toNat letter
  unfold escapeLetter
  split
  · rfl
  · rfl
  · rfl
  · rfl
  · rfl
  next quotes backslash _ _ _ =>
    split
    next code => rw [← same, code]; rfl
    split
    next code => rw [← same, code]; rfl
    split
    next low =>
      have read := hexDigits_value (Nat.lt_trans low (by omega))
      simp only [List.cons_append, List.nil_append, unescape, read, same]
    · simp only [List.singleton_append]
      unfold unescape
      split <;> simp_all

theorem escape_isCode : IsPrefixCode escapeLetter where
  nonempty := by
    intro letter
    rcases escape_head letter with ⟨rest, escaped⟩ | ⟨plain, _⟩
    · simp [escaped]
    · simp [plain]
  reads := by
    intro first second rest others same
    have read := congrArg unescape same
    rw [unescape_escape, unescape_escape] at read
    exact Prod.mk.inj read

theorem escape_not_quote (letter : Char) (rest : List Char) : escapeLetter letter ≠ '"' :: rest := by
  intro same
  rcases escape_head letter with ⟨_, escaped⟩ | ⟨plain, other⟩
  · simp [escaped] at same
  · rw [plain, List.cons.injEq] at same
    exact other same.1

def quotedLetters (text : String) : List Char := '"' :: (text.toList.flatMap escapeLetter ++ ['"'])

theorem toList_quote (text : String) : (quote text).toList = quotedLetters text := by
  simp [quote, quotedLetters]

theorem quotedLetters_inj {first second : String} {rest others : List Char}
    (same : quotedLetters first ++ rest = quotedLetters second ++ others) : first = second ∧ rest = others := by
  simp only [quotedLetters, List.cons_append, List.append_assoc, List.nil_append, List.cons.injEq, true_and] at same
  obtain ⟨texts, tails⟩ := escape_isCode.until_inj escape_not_quote same
  exact ⟨String.toList_inj.mp texts, tails⟩

/-! ### The letters of a canonical form -/

theorem toList_joinWith {α : Type} (text : α → String) (values : List α) :
    (joinWith "," (values.map text)).toList = separated (fun value => (text value).toList) ',' values := by
  match values with
  | [] => rfl
  | [last] => rfl
  | first :: second :: rest =>
    have later := toList_joinWith text (second :: rest)
    simp only [List.map_cons, joinWith, String.toList_append, separated] at later ⊢
    rw [later]
    simp

theorem map_eq_of_forall₂ {α β : Type} {value : α → β} {first second : List α}
    (agree : List.Forall₂ (fun one other => value one = value other) first second) :
    first.map value = second.map value := by
  rw [← List.forall₂_eq_eq_eq, List.forall₂_map_left_iff, List.forall₂_map_right_iff]
  exact agree

theorem nat_letters (magnitude : Nat) : ∀ letter ∈ magnitude.repr.toList, letter.isDigit = true := by
  intro letter member
  rw [Nat.toList_repr] at member
  exact Nat.isDigit_of_mem_toDigits (by decide) (by decide) member

section Form
variable [Host]

theorem canonicalItems_eq_map (items : List Json) : canonicalItems items = items.map Json.canonical := by
  induction items with
  | nil => rfl
  | cons item rest ih => simp [canonicalItems, ih]

theorem canonicalMembers_eq_map (members : List (String × Json)) :
    canonicalMembers members = members.map (fun member => (member.1, member.2.canonical)) := by
  induction members with
  | nil => rfl
  | cons member rest ih => simp [canonicalMembers, ih]

def Json.letters (value : Json) : List Char := value.canonical.toList

def memberLetters (member : String × Json) : List Char := quotedLetters member.1 ++ ':' :: member.2.letters

theorem letters_str (text : String) : (Json.str text).letters = quotedLetters text := toList_quote text

theorem letters_list (items : List Json) :
    (Json.list items).letters = '[' :: (separated Json.letters ',' items ++ [']']) := by
  simp only [Json.letters, Json.canonical, canonicalItems_eq_map, String.toList_append, toList_joinWith]
  rfl

theorem letters_dict (members : List (String × Json)) :
    (Json.dict members).letters = '\x7b' :: (separated memberLetters ',' (byName members) ++ ['\x7d']) := by
  simp only [Json.letters, Json.canonical, canonicalMembers_eq_map, insertionSort_map_snd, List.map_map,
    String.toList_append, toList_joinWith]
  have member : (fun member : String × Json => ((fun pair => quote pair.1 ++ ":" ++ pair.2) ∘
      fun member : String × Json => (member.1, member.2.canonical)) member |>.toList) = memberLetters := by
    funext member
    simp [memberLetters, Json.letters, toList_quote]
  rw [member]
  rfl

/-! ### Words -/

def numberLetter (letter : Char) : Bool := letter.isDigit || ['-', '+', '.', 'e'].contains letter

/-- How finite floats print: in decimal, with a point or an exponent, and each
float in its own way. -/
structure LegibleFloats : Prop where
  letters : ∀ value, ∀ letter ∈ (Host.reprFloat value).toList, numberLetter letter = true
  fraction : ∀ value, '.' ∈ (Host.reprFloat value).toList ∨ 'e' ∈ (Host.reprFloat value).toList
  injective : Function.Injective Host.reprFloat

/-- The values that are written as a word without quotes or brackets. -/
def Json.isWord : Json → Bool
  | .null | .bool _ | .int _ | .float _ => true
  | .str _ | .list _ | .dict _ => false

theorem int_letters (value : Int) : ∀ letter ∈ (Json.int value).letters, letter.isDigit = true ∨ letter = '-' := by
  intro letter member
  simp only [Json.letters, Json.canonical] at member
  cases value with
  | ofNat magnitude => exact .inl (nat_letters magnitude letter member)
  | negSucc magnitude =>
    have split : (toString (Int.negSucc magnitude)).toList = '-' :: (magnitude + 1).repr.toList := by
      change ("-" ++ (magnitude + 1).repr).toList = _
      simp
    rw [split, List.mem_cons] at member
    exact member.symm.imp (nat_letters (magnitude + 1) letter) id

theorem int_letters_ne_nil (value : Int) : (Json.int value).letters ≠ [] := by
  simp only [Json.letters, Json.canonical]
  cases value with
  | ofNat magnitude =>
    change magnitude.repr.toList ≠ []
    rw [Nat.toList_repr]
    exact Nat.toDigits_ne_nil
  | negSucc magnitude =>
    change ("-" ++ (magnitude + 1).repr).toList ≠ []
    simp

theorem letters_float (value : Rat) : (Json.float (.finite value)).letters = (Host.reprFloat value).toList := rfl

def constants : List Json :=
  [.null, .bool true, .bool false, .float (.infinite true), .float (.infinite false), .float .nan]

omit [Host] in
theorem isWord_cases {value : Json} (word : value.isWord = true) :
    value ∈ constants ∨ (∃ number, value = .int number) ∨ ∃ number, value = .float (.finite number) := by
  cases value with
  | null => simp [constants]
  | bool value => cases value <;> simp [constants]
  | int number => exact .inr (.inl ⟨number, rfl⟩)
  | float value =>
    cases value with
    | finite number => exact .inr (.inr ⟨number, rfl⟩)
    | infinite negative => cases negative <;> simp [constants]
    | nan => simp [constants]
  | _ => cases word

theorem constant_letter {value : Json} (constant : value ∈ constants) :
    ∃ letter ∈ value.letters, numberLetter letter = false := by
  simp only [constants, List.mem_cons, List.not_mem_nil, or_false] at constant
  rcases constant with rfl | rfl | rfl | rfl | rfl | rfl
  · exact ⟨'u', by simp [Json.letters, Json.canonical], by decide⟩
  · exact ⟨'t', by simp [Json.letters, Json.canonical], by decide⟩
  · exact ⟨'f', by simp [Json.letters, Json.canonical], by decide⟩
  · exact ⟨'I', by simp [Json.letters, Json.canonical, Double.dumps], by decide⟩
  · exact ⟨'I', by simp [Json.letters, Json.canonical, Double.dumps], by decide⟩
  · exact ⟨'N', by simp [Json.letters, Json.canonical, Double.dumps], by decide⟩

theorem constants_inj {first second : Json} (one : first ∈ constants) (other : second ∈ constants)
    (same : first.letters = second.letters) : first = second := by
  simp only [constants, List.mem_cons, List.not_mem_nil, or_false] at one other
  rcases one with rfl | rfl | rfl | rfl | rfl | rfl <;> rcases other with rfl | rfl | rfl | rfl | rfl | rfl
  all_goals first | rfl | simp [Json.letters, Json.canonical, Double.dumps] at same

theorem int_numberLetters (value : Int) : ∀ letter ∈ (Json.int value).letters, numberLetter letter = true := by
  intro letter member
  rcases int_letters value letter member with digit | rfl
  · simp [numberLetter, digit]
  · decide

section Legible
variable (legible : LegibleFloats)
include legible

theorem float_numberLetters (value : Rat) :
    ∀ letter ∈ (Json.float (.finite value)).letters, numberLetter letter = true := legible.letters value

theorem word_letters_inj {first second : Json} (one : first.isWord = true) (other : second.isWord = true)
    (same : first.letters = second.letters) : first = second := by
  have apart {constant number : Json} (fixed : constant ∈ constants)
      (numeric : ∀ letter ∈ number.letters, numberLetter letter = true) (equal : constant.letters = number.letters) : False := by
    obtain ⟨letter, member, foreign⟩ := constant_letter fixed
    rw [equal] at member
    simp [numeric letter member] at foreign
  have fraction (whole : Int) (number : Rat) (equal : (Json.int whole).letters = (Json.float (.finite number)).letters) :
      False := by
    have digits := int_letters whole
    rw [equal, letters_float] at digits
    rcases legible.fraction number with point | exponent
    · exact absurd (digits _ point) (by decide)
    · exact absurd (digits _ exponent) (by decide)
  -- a constant has a letter that is in no number, and a float one that is in no whole number
  rcases isWord_cases one with fixed | ⟨whole, rfl⟩ | ⟨number, rfl⟩ <;>
    rcases isWord_cases other with fixed' | ⟨whole', rfl⟩ | ⟨number', rfl⟩
  · exact constants_inj fixed fixed' same
  · exact (apart fixed (int_numberLetters whole') same).elim
  · exact (apart fixed (float_numberLetters legible number') same).elim
  · exact (apart fixed' (int_numberLetters whole) same.symm).elim
  · exact congrArg Json.int (Int.repr_inj.mp (String.toList_inj.mp same))
  · exact (fraction whole number' same).elim
  · exact (apart fixed' (float_numberLetters legible number) same.symm).elim
  · exact (fraction whole' number same.symm).elim
  · exact congrArg (fun value => Json.float (.finite value)) (legible.injective (String.toList_inj.mp same))

/-! ### Where a value ends -/

/-- The letters that begin or end what is no word. -/
def isMark (letter : Char) : Bool := ['"', '[', '\x7b', ',', ']', '\x7d'].contains letter

theorem word_letters {value : Json} (word : value.isWord = true) :
    value.letters ≠ [] ∧ ∀ letter ∈ value.letters, isMark letter = false := by
  have numeric (letter : Char) (number : numberLetter letter = true) : isMark letter = false := by
    by_contra mark
    simp only [isMark, Bool.not_eq_false, List.contains_iff_mem, List.mem_cons, List.not_mem_nil, or_false] at mark
    rcases mark with rfl | rfl | rfl | rfl | rfl | rfl <;> exact absurd number (by decide)
  rcases isWord_cases word with fixed | ⟨whole, rfl⟩ | ⟨number, rfl⟩
  · simp only [constants, List.mem_cons, List.not_mem_nil, or_false] at fixed
    rcases fixed with rfl | rfl | rfl | rfl | rfl | rfl <;>
      simp [Json.letters, Json.canonical, Double.dumps, isMark]
  · exact ⟨int_letters_ne_nil whole, fun letter member => numeric letter (int_numberLetters whole letter member)⟩
  · refine ⟨?_, fun letter member => numeric letter (legible.letters number letter member)⟩
    rcases legible.fraction number with point | exponent
    · exact List.ne_nil_of_mem point
    · exact List.ne_nil_of_mem exponent

/-- The mark that begins a value, if one does. -/
def opening : Json → Option Char
  | .str _ => some '"'
  | .list _ => some '['
  | .dict _ => some '\x7b'
  | _ => none

omit [Host] legible in
theorem isWord_iff (value : Json) : value.isWord = true ↔ opening value = none := by
  cases value <;> simp [Json.isWord, opening]

theorem letters_head (value : Json) :
    ∃ letter rest, value.letters = letter :: rest ∧ (if isMark letter then some letter else none) = opening value := by
  by_cases word : value.isWord = true
  · obtain ⟨nonempty, plain⟩ := word_letters legible word
    obtain ⟨letter, rest, spelled⟩ := List.exists_cons_of_ne_nil nonempty
    refine ⟨letter, rest, spelled, ?_⟩
    rw [plain letter (by simp [spelled]), (isWord_iff value).mp word]
    rfl
  · cases value with
    | str text => exact ⟨_, _, letters_str text, rfl⟩
    | list items => exact ⟨_, _, letters_list items, rfl⟩
    | dict members => exact ⟨_, _, letters_dict members, rfl⟩
    | _ => exact absurd rfl word

theorem opening_eq {first second : Json} {rest others : List Char}
    (same : first.letters ++ rest = second.letters ++ others) : opening first = opening second := by
  obtain ⟨letter, tail, spelled, mark⟩ := letters_head legible first
  obtain ⟨letter', tail', spelled', mark'⟩ := letters_head legible second
  rw [spelled, spelled', List.cons_append, List.cons_append, List.cons.injEq] at same
  rw [← mark, ← mark', same.1]

theorem letters_not_close (value : Json) (rest tail : List Char) : value.letters ++ rest ≠ ']' :: tail := by
  intro same
  obtain ⟨letter, later, spelled, mark⟩ := letters_head legible value
  rw [spelled, List.cons_append, List.cons.injEq] at same
  rw [same.1] at mark
  cases value <;> cases mark

/-- A value can be read off the start of a text in one way only. -/
def Readable (value : Json) : Prop :=
  ∀ (other : Json) (rest others : List Char), Bounded isMark rest → Bounded isMark others →
    value.letters ++ rest = other.letters ++ others → value.sorted = other.sorted ∧ rest = others

theorem word_readable {value : Json} (word : value.isWord = true) : Readable value := by
  intro other rest others ends ends' same
  have opens := opening_eq legible same
  have otherWord : other.isWord = true := by
    rw [isWord_iff] at word ⊢
    exact opens ▸ word
  obtain ⟨letters, tails⟩ := PrefixCode.word_inj (word_letters legible word).2 (word_letters legible otherWord).2 ends ends' same
  exact ⟨congrArg Json.sorted (word_letters_inj legible word otherWord letters), tails⟩

theorem str_readable (text : String) : Readable (.str text) := by
  intro other rest others _ _ same
  have opens := opening_eq legible same
  cases other with
  | str text' =>
    rw [letters_str, letters_str] at same
    obtain ⟨rfl, tails⟩ := quotedLetters_inj same
    exact ⟨rfl, tails⟩
  | _ => cases opens

theorem list_readable {items : List Json} (readable : ∀ item ∈ items, Readable item) : Readable (.list items) := by
  intro other rest others _ _ same
  have opens := opening_eq legible same
  cases other with
  | list items' =>
    simp only [letters_list, List.cons_append, List.append_assoc, List.nil_append, List.cons.injEq, true_and] at same
    have reads : ∀ item ∈ items, ∀ (item' : Json) (rest others : List Char), Bounded isMark rest → Bounded isMark others →
        item.letters ++ rest = item'.letters ++ others → item.sorted = item'.sorted ∧ rest = others := readable
    obtain ⟨agree, tails⟩ := separated_inj (by decide) (by simp [Bounded, isMark]) (by simp [Bounded, isMark])
      (letters_not_close legible) reads same
    refine ⟨?_, tails⟩
    rw [Json.sorted, Json.sorted, sortedItems_eq_map, sortedItems_eq_map, map_eq_of_forall₂ agree]
  | _ => cases opens

theorem dict_readable {members : List (String × Json)} (readable : ∀ member ∈ members, Readable member.2) :
    Readable (.dict members) := by
  intro other rest others _ _ same
  have opens := opening_eq legible same
  cases other with
  | dict members' =>
    simp only [letters_dict, List.cons_append, List.append_assoc, List.nil_append, List.cons.injEq, true_and] at same
    have reads : ∀ member ∈ byName members, ∀ member' rest others, Bounded isMark rest → Bounded isMark others →
        memberLetters member ++ rest = memberLetters member' ++ others →
        (member.1, member.2.sorted) = (member'.1, member'.2.sorted) ∧ rest = others := by
      intro member inside member' rest others ends ends' same
      simp only [memberLetters, List.append_assoc, List.cons_append] at same
      obtain ⟨name, texts⟩ := quotedLetters_inj same
      -- the members are written in another order than the induction hypothesis has them
      have inner : member ∈ members := (List.mem_insertionSort _).mp inside
      obtain ⟨value, tails⟩ := readable member inner _ _ _ ends ends' (List.cons.inj texts).2
      exact ⟨by rw [name, value], tails⟩
    obtain ⟨agree, tails⟩ := separated_inj (by decide) (by simp [Bounded, isMark]) (by simp [Bounded, isMark])
      (by intro member rest tail; simp [memberLetters, quotedLetters]) reads same
    refine ⟨?_, tails⟩
    rw [sorted_dict, sorted_dict, map_eq_of_forall₂ agree]
  | _ => cases opens

theorem readable (value : Json) : Readable value := by
  induction value using Json.nested_induction with
  | null => exact word_readable legible rfl
  | bool => exact word_readable legible rfl
  | int => exact word_readable legible rfl
  | float => exact word_readable legible rfl
  | str text => exact str_readable legible text
  | list items ih => exact list_readable legible ih
  | dict members ih => exact dict_readable legible ih

/-- Values with one canonical form are equal up to the order of their members. -/
theorem canonical_inj {first second : Json} (same : first.canonical = second.canonical) : first.sorted = second.sorted := by
  have ends : Bounded isMark [] := by simp [Bounded]
  refine (readable legible first second [] [] ends ends ?_).1
  rw [Json.letters, Json.letters, same]

end Legible

end Form

/-! ### An interpreter whose floats are legible -/

/-- The interpreter for tests, with floats as a numerator and a denominator. -/
@[reducible] def decimalHost (documents : List (String × Json)) : Host :=
  { asciiHost documents with reprFloat := fun value => toString value.num ++ "." ++ toString value.den }

theorem decimalHost_legible (documents : List (String × Json)) : @LegibleFloats (decimalHost documents) := by
  have whole (value : Int) : ∀ letter ∈ (toString value).toList, letter.isDigit = true ∨ letter = '-' :=
    @int_letters (decimalHost documents) value
  have spelled (value : Rat) : ((decimalHost documents).reprFloat value).toList =
      (toString value.num).toList ++ '.' :: (toString value.den).toList := by
    change (toString value.num ++ "." ++ toString value.den).toList = _
    rw [String.toList_append, String.toList_append, List.append_assoc]
    rfl
  refine @LegibleFloats.mk (decimalHost documents) ?_ ?_ ?_
  · intro value letter member
    rw [spelled, List.mem_append, List.mem_cons] at member
    rcases member with above | rfl | below
    · rcases whole value.num letter above with digit | rfl
      · simp [numberLetter, digit]
      · decide
    · decide
    · simp [numberLetter, nat_letters value.den letter below]
  · intro value
    rw [spelled]
    simp
  · intro first second same
    have letters := congrArg String.toList same
    rw [spelled, spelled] at letters
    have plain (value : Int) : ∀ letter ∈ (toString value).toList, decide (letter = '.') = false := by
      intro letter member
      rcases whole value letter member with digit | rfl
      · by_contra point
        simp only [Bool.not_eq_false, decide_eq_true_eq] at point
        subst point
        exact absurd digit (by decide)
      · decide
    have ends (tail : List Char) : Bounded (fun letter => decide (letter = '.')) ('.' :: tail) := by simp [Bounded]
    obtain ⟨above, below⟩ := PrefixCode.word_inj (plain _) (plain _) (ends _) (ends _) letters
    have nums : first.num = second.num := Int.repr_inj.mp (String.toList_inj.mp above)
    have dens : first.den = second.den := Nat.repr_inj.mp (String.toList_inj.mp (List.cons.inj below).2)
    exact Rat.ext nums dens

end Python
