import Mathlib.Tactic.SplitIfs
import Xcp.Library.Canonical

/-! `json.dumps` as it is by default: every letter that is not printable ASCII
is written as an escape, astral ones as two. -/

namespace Python
open PrefixCode

/-! ### Escapes -/

def unicodeEscape (code : Nat) : List Char :=
  ['\\', 'u', hexDigit (code / 4096), hexDigit (code / 256 % 16), hexDigit (code / 16 % 16), hexDigit (code % 16)]

def escapeAscii (letter : Char) : List Char :=
  let code := letter.toNat
  if code < 127 then escapeLetter letter
  else if code < 0x10000 then unicodeEscape code
  else unicodeEscape (0xd800 + (code - 0x10000) / 0x400) ++ unicodeEscape (0xdc00 + (code - 0x10000) % 0x400)

/-- The code of an escape at the start of a text, and what is after it. -/
def unicode? : List Char → Option (Nat × List Char)
  | '\\' :: 'u' :: a :: b :: c :: d :: rest => do
    let a ← hexValue? a
    let b ← hexValue? b
    let c ← hexValue? c
    let d ← hexValue? d
    return (4096 * a + 256 * b + 16 * c + d, rest)
  | _ => none

theorem unicode_escape {code : Nat} (small : code < 0x10000) (rest : List Char) :
    unicode? (unicodeEscape code ++ rest) = some (code, rest) := by
  have first := hexValue_hexDigit (code / 4096) (by omega)
  have second := hexValue_hexDigit (code / 256 % 16) (by omega)
  have third := hexValue_hexDigit (code / 16 % 16) (by omega)
  have fourth := hexValue_hexDigit (code % 16) (by omega)
  simp only [unicodeEscape, List.cons_append, List.nil_append, unicode?, first, second, third, fourth, Option.bind_eq_bind,
    Option.bind_some, Option.pure_def, Option.some.injEq, Prod.mk.injEq, and_true]
  omega

/-- Of the ASCII letters only control characters are written by their code. -/
theorem unicode_escapeLetter {letter : Char} {rest tail : List Char} {code : Nat}
    (read : unicode? (escapeLetter letter ++ rest) = some (code, tail)) : code < 32 := by
  unfold escapeLetter at read
  split at read
  · cases read
  · cases read
  · cases read
  · cases read
  · cases read
  next quotes backslash _ _ _ =>
    split_ifs at read with back feed control
    · cases read
    · cases read
    · have zero := hexValue_hexDigit 0 (by omega)
      have high := hexValue_hexDigit (letter.toNat / 16) (by omega)
      have low := hexValue_hexDigit (letter.toNat % 16) (by omega)
      have digit : hexDigit 0 = '0' := rfl
      rw [digit] at zero
      simp only [List.cons_append, List.nil_append, unicode?, zero, high, low, Option.bind_eq_bind, Option.bind_some,
        Option.pure_def, Option.some.injEq, Prod.mk.injEq] at read
      omega
    · simp only [List.singleton_append] at read
      unfold unicode? at read
      split at read <;> simp_all

/-- A letter is ASCII, or one unit of UTF-16 that is no surrogate, or two that are. -/
theorem escapeAscii_cases (letter : Char) :
    (letter.toNat < 127 ∧ escapeAscii letter = escapeLetter letter) ∨
    (127 ≤ letter.toNat ∧ letter.toNat < 0x10000 ∧ ¬ (0xd800 ≤ letter.toNat ∧ letter.toNat < 0xe000) ∧
      escapeAscii letter = unicodeEscape letter.toNat) ∨
    ∃ high low, high < 0x400 ∧ low < 0x400 ∧ letter.toNat = 0x10000 + 0x400 * high + low ∧
      escapeAscii letter = unicodeEscape (0xd800 + high) ++ unicodeEscape (0xdc00 + low) := by
  have valid : letter.toNat < 0xd800 ∨ 0xdfff < letter.toNat ∧ letter.toNat < 0x110000 := letter.valid
  simp only [escapeAscii]
  split_ifs with ascii basic
  · exact .inl ⟨ascii, rfl⟩
  · exact .inr (.inl ⟨by omega, basic, by omega, rfl⟩)
  · exact .inr (.inr ⟨(letter.toNat - 0x10000) / 0x400, (letter.toNat - 0x10000) % 0x400, by omega, by omega, by omega, rfl⟩)

theorem escapeAscii_isCode : IsPrefixCode escapeAscii where
  nonempty := by
    intro letter
    rcases escapeAscii_cases letter with ⟨_, ascii⟩ | ⟨_, _, _, basic⟩ | ⟨high, low, _, _, _, astral⟩
    · rw [ascii]
      exact escape_isCode.nonempty letter
    · simp [basic, unicodeEscape]
    · simp [astral, unicodeEscape]
  reads := by
    intro first second rest others same
    -- the first escape tells the three kinds of letters apart: no letter is a surrogate
    have read := congrArg unicode? same
    have equal (codes : first.toNat = second.toNat) : first = second := Char.toNat_inj.mp codes
    rcases escapeAscii_cases first with ⟨_, ascii⟩ | ⟨_, small, alone, basic⟩ | ⟨high, low, _, _, code, astral⟩ <;>
      rcases escapeAscii_cases second with ⟨_, ascii'⟩ | ⟨_, small', alone', basic'⟩ | ⟨high', low', _, _, code', astral'⟩
    · rw [ascii, ascii'] at same
      exact escape_isCode.reads first second rest others same
    · rw [ascii, basic', unicode_escape small'] at read
      have control := unicode_escapeLetter read
      omega
    · rw [ascii, astral', List.append_assoc, unicode_escape (by omega)] at read
      have control := unicode_escapeLetter read
      omega
    · rw [basic, ascii', unicode_escape small] at read
      have control := unicode_escapeLetter read.symm
      omega
    · rw [basic, basic', unicode_escape small, unicode_escape small', Option.some.injEq, Prod.mk.injEq] at read
      exact ⟨equal read.1, read.2⟩
    · rw [basic, astral', List.append_assoc, unicode_escape small, unicode_escape (by omega), Option.some.injEq,
        Prod.mk.injEq] at read
      omega
    · rw [astral, ascii', List.append_assoc, unicode_escape (by omega)] at read
      have control := unicode_escapeLetter read.symm
      omega
    · rw [astral, basic', List.append_assoc, unicode_escape (by omega), unicode_escape small', Option.some.injEq,
        Prod.mk.injEq] at read
      omega
    · rw [astral, astral', List.append_assoc, List.append_assoc, unicode_escape (by omega), unicode_escape (by omega),
        Option.some.injEq, Prod.mk.injEq] at read
      have again := congrArg unicode? read.2
      rw [unicode_escape (by omega), unicode_escape (by omega), Option.some.injEq, Prod.mk.injEq] at again
      exact ⟨equal (by omega), again.2⟩

theorem escapeAscii_not_quote (letter : Char) (rest : List Char) : escapeAscii letter ≠ '"' :: rest := by
  rcases escapeAscii_cases letter with ⟨_, ascii⟩ | ⟨_, _, _, basic⟩ | ⟨high, low, _, _, _, astral⟩
  · rw [ascii]
    exact escape_not_quote letter rest
  · simp [basic, unicodeEscape]
  · simp [astral, unicodeEscape]

def quoteAscii (text : String) : String := "\"" ++ String.ofList (text.toList.flatMap escapeAscii) ++ "\""

theorem quoteAscii_inj {first second : String} {rest others : List Char}
    (same : (quoteAscii first).toList ++ rest = (quoteAscii second).toList ++ others) : first = second ∧ rest = others := by
  simp only [quoteAscii, String.toList_append, String.toList_ofList, List.append_assoc] at same
  simp only [String.reduceToList, List.cons_append, List.nil_append, List.cons.injEq, true_and] at same
  obtain ⟨texts, tails⟩ := escapeAscii_isCode.until_inj escapeAscii_not_quote same
  exact ⟨String.toList_inj.mp texts, tails⟩

/-! ### Documents -/

/-- The separators and whether the members of objects are sorted. -/
structure DumpStyle where
  items : String := ", "
  members : String := ": "
  sortKeys : Bool := false

def DumpStyle.compact : DumpStyle where
  items := ","
  members := ":"
  sortKeys := true

mutual
/-- `json.dumps(value)`, and with other separators and `sort_keys`. -/
def Json.dumps [Host] (style : DumpStyle) : Json → String
  | .null => "null"
  | .bool true => "true"
  | .bool false => "false"
  | .int value => toString value
  | .float value => value.dumps
  | .str text => quoteAscii text
  | .list items => "[" ++ joinWith style.items (dumpsItems style items) ++ "]"
  | .dict members =>
    let dumped := dumpsMembers style members
    let dumped := if style.sortKeys then dumped.insertionSort (fun first second => first.1 ≤ second.1) else dumped
    "\x7b" ++ joinWith style.items (dumped.map (fun member => quoteAscii member.1 ++ style.members ++ member.2)) ++ "\x7d"
termination_by structural value => value

def dumpsItems [Host] (style : DumpStyle) : List Json → List String
  | [] => []
  | value :: rest => value.dumps style :: dumpsItems style rest
termination_by structural items => items

def dumpsMembers [Host] (style : DumpStyle) : List (String × Json) → List (String × String)
  | [] => []
  | (key, value) :: rest => (key, value.dumps style) :: dumpsMembers style rest
termination_by structural members => members
end

theorem dumps_texts [Host] (texts : List String) :
    (Json.dumps .compact (.list (texts.map Json.str))).toList =
      '[' :: (separated (fun text => (quoteAscii text).toList) ',' texts ++ [']']) := by
  have items : dumpsItems .compact (texts.map Json.str) = texts.map quoteAscii := by
    induction texts with
    | nil => rfl
    | cons text rest ih => rw [List.map_cons, List.map_cons, dumpsItems, Json.dumps, ih]
  have separator : DumpStyle.compact.items = "," := rfl
  simp only [Json.dumps, items, separator, String.toList_append, toList_joinWith]
  rfl

theorem dumps_texts_inj [Host] {first second : List String} {rest others : List Char}
    (same : (Json.dumps .compact (.list (first.map Json.str))).toList ++ rest =
      (Json.dumps .compact (.list (second.map Json.str))).toList ++ others) : first = second ∧ rest = others := by
  rw [dumps_texts, dumps_texts] at same
  simp only [List.cons_append, List.append_assoc, List.nil_append, List.cons.injEq, true_and] at same
  have starts (text : String) (rest tail : List Char) : (quoteAscii text).toList ++ rest ≠ ']' :: tail := by
    simp [quoteAscii]
  have reads : ∀ text ∈ first, ∀ (other : String) (rest others : List Char), True → True →
      (quoteAscii text).toList ++ rest = (quoteAscii other).toList ++ others → text = other ∧ rest = others :=
    fun _ _ _ _ _ _ _ => quoteAscii_inj
  obtain ⟨agree, tails⟩ := separated_inj (by decide) (fun _ => trivial) (fun _ => trivial) starts reads same
  exact ⟨List.forall₂_eq_eq_eq ▸ agree, tails⟩

end Python
