import Mathlib.Data.Rat.Floor
import Xcp.Library.Python

/-! Python's conversions between values and text: `str.isdigit`, `int`, `str` and
the canonical form of `json.dumps`. -/

namespace Python
open Checked

/-! ### Digits -/

/-- Every block of ten decimal digits begins at one of these code points. -/
def decimalZeros : List Nat :=
  [0x30, 0x660, 0x6f0, 0x7c0, 0x966, 0x9e6, 0xa66, 0xae6, 0xb66, 0xbe6, 0xc66, 0xce6, 0xd66, 0xde6,
   0xe50, 0xed0, 0xf20, 0x1040, 0x1090, 0x17e0, 0x1810, 0x1946, 0x19d0, 0x1a80, 0x1a90, 0x1b50, 0x1bb0,
   0x1c40, 0x1c50, 0xa620, 0xa8d0, 0xa900, 0xa9d0, 0xa9f0, 0xaa50, 0xabf0, 0xff10, 0x104a0, 0x10d30,
   0x11066, 0x110f0, 0x11136, 0x111d0, 0x112f0, 0x11450, 0x114d0, 0x11650, 0x116c0, 0x11730, 0x118e0,
   0x11950, 0x11c50, 0x11d50, 0x11da0, 0x16a60, 0x16ac0, 0x16b50, 0x1d7ce, 0x1d7d8, 0x1d7e2, 0x1d7ec,
   0x1d7f6, 0x1e140, 0x1e2f0, 0x1e950, 0x1fbf0]

/-- Code points, as ranges, that are digits without being decimal digits:
superscripts, subscripts, circled digits and the like. -/
def digitRanges : List (Nat × Nat) :=
  [(0xb2, 0xb3), (0xb9, 0xb9), (0x1369, 0x1371), (0x19da, 0x19da), (0x2070, 0x2070), (0x2074, 0x2079),
   (0x2080, 0x2089), (0x2460, 0x2468), (0x2474, 0x247c), (0x2488, 0x2490), (0x24ea, 0x24ea),
   (0x24f5, 0x24fd), (0x24ff, 0x24ff), (0x2776, 0x277e), (0x2780, 0x2788), (0x278a, 0x2792),
   (0x10a40, 0x10a43), (0x10e60, 0x10e68), (0x11052, 0x1105a), (0x1f100, 0x1f10a)]

/-- The value of a decimal digit of any script. -/
def decimal? (letter : Char) : Option Nat :=
  (decimalZeros.find? (fun start => start ≤ letter.toNat && letter.toNat < start + 10)).map (letter.toNat - ·)

def isDigitChar (letter : Char) : Bool :=
  (decimal? letter).isSome || digitRanges.any (fun range => range.1 ≤ letter.toNat && letter.toNat ≤ range.2)

def isDigit (text : String) : Bool := text ≠ "" && text.toList.all isDigitChar

/-! ### `int` -/

/-- `int` trims the spaces of `str.strip` but for the four separators below it. -/
def isIntSpace (letter : Char) : Bool := isSpace letter && !(28 ≤ letter.toNat && letter.toNat ≤ 31)

/-- The values of a run of digits in which single underscores may stand
between two digits. -/
def digitsOf : List Char → Option (List Nat)
  | [] => none
  | [last] => (decimal? last).map ([·])
  | first :: '_' :: rest => do
    let digit ← decimal? first
    let digits ← digitsOf rest
    return digit :: digits
  | first :: rest => do
    let digit ← decimal? first
    let digits ← digitsOf rest
    return digit :: digits

def ofDigits (digits : List Nat) : Nat := digits.foldl (fun total digit => 10 * total + digit) 0

/-- More digits than this are refused before they are read. -/
def maxIntDigits : Nat := 4300

def parseInt? (text : String) : Option Int := do
  let trimmed := stripBy isIntSpace text.toList
  let (negative, digits) := match trimmed with
    | '-' :: rest => (true, rest)
    | '+' :: rest => (false, rest)
    | unsigned => (false, unsigned)
  let values ← digitsOf digits
  guard (values.length ≤ maxIntDigits)
  let magnitude : Int := ofDigits values
  return if negative then -magnitude else magnitude

def intOfText (text : String) : Raises Int :=
  match parseInt? text with
  | some value => .ok value
  | none => raise .valueError s!"invalid literal for int() with base 10: '{text}'"

def Json.toInt : Json → Raises Int
  | .bool value => .ok (if value then 1 else 0)
  | .int value => .ok value
  | .float (.finite value) => .ok (Int.tdiv value.num value.den)
  | .float (.infinite _) => raise .overflowError "cannot convert float infinity to integer"
  | .float .nan => raise .valueError "cannot convert float NaN to integer"
  | .str text => intOfText text
  | other =>
    raise .typeError s!"int() argument must be a string, a bytes-like object or a real number, not '{other.typeName}'"

def Json.getInt (value : Json) (name : String) (default : Int) : Raises Int := do
  let found ← value.get name (.int default)
  found.toInt

/-! ### Bytes -/

def hexValue? (letter : Char) : Option Nat :=
  let code := letter.toNat
  if 48 ≤ code && code ≤ 57 then some (code - 48)
  else if 97 ≤ code && code ≤ 102 then some (code - 87)
  else if 65 ≤ code && code ≤ 70 then some (code - 55)
  else none

/-- Pairs of hex digits, with ASCII spaces between pairs. -/
def fromHexLetters : List Char → Option (List Nat)
  | [] => some []
  | [last] => if [9, 10, 11, 12, 13, 32].contains last.toNat then some [] else none
  | first :: second :: rest =>
    if [9, 10, 11, 12, 13, 32].contains first.toNat then fromHexLetters (second :: rest)
    else do
      let high ← hexValue? first
      let low ← hexValue? second
      let bytes ← fromHexLetters rest
      return (16 * high + low) :: bytes

def fromHex (text : String) : Raises (List Nat) :=
  match fromHexLetters text.toList with
  | some bytes => .ok bytes
  | none => raise .valueError "non-hexadecimal number found in fromhex() arg"

/-- `bytes.rjust(width, b"\0")`. -/
def rjust (bytes : List Nat) (width : Nat) : List Nat := List.replicate (width - bytes.length) 0 ++ bytes

/-- `int.from_bytes(bytes, "big")`. -/
def ofBytes (bytes : List Nat) : Nat := bytes.foldl (fun total byte => 256 * total + byte) 0

/-- `int(value)` of a finite number: towards zero. -/
def truncate (value : Rat) : Int := Int.tdiv value.num value.den

theorem truncate_eq_floor {value : Rat} (after : 0 ≤ value) : truncate value = ⌊value⌋ := by
  rw [truncate, Rat.floor_def', Int.tdiv_eq_ediv_of_nonneg (Rat.num_nonneg.mpr after)]

/-! ### `str` and `json.dumps` -/

def Json.toStr [Host] : Json → String
  | .null => "None"
  | .bool true => "True"
  | .bool false => "False"
  | .int value => toString value
  | .str text => text
  | other => Host.repr other

def hexDigit (digit : Nat) : Char := Char.ofNat (if digit < 10 then 48 + digit else 87 + digit)

def toHex (bytes : List Nat) : String :=
  String.ofList (bytes.flatMap (fun byte => [hexDigit (byte / 16), hexDigit (byte % 16)]))

/-- The letters that stand for one letter inside a JSON string. -/
def escapeLetter (letter : Char) : List Char :=
  match letter with
  | '"' => ['\\', '"']
  | '\\' => ['\\', '\\']
  | '\n' => ['\\', 'n']
  | '\r' => ['\\', 'r']
  | '\t' => ['\\', 't']
  | _ =>
    if letter.toNat = 8 then ['\\', 'b']
    else if letter.toNat = 12 then ['\\', 'f']
    else if letter.toNat < 32 then
      ['\\', 'u', '0', '0', hexDigit (letter.toNat / 16), hexDigit (letter.toNat % 16)]
    else [letter]

def quote (text : String) : String := "\"" ++ String.ofList (text.toList.flatMap escapeLetter) ++ "\""

def Double.dumps [Host] : Double → String
  | .finite value => Host.reprFloat value
  | .infinite false => "Infinity"
  | .infinite true => "-Infinity"
  | .nan => "NaN"

mutual
/-- `json.dumps(value, separators=(",", ":"), sort_keys=True, ensure_ascii=False)`. -/
def Json.canonical [Host] : Json → String
  | .null => "null"
  | .bool true => "true"
  | .bool false => "false"
  | .int value => toString value
  | .float value => value.dumps
  | .str text => quote text
  | .list items => "[" ++ joinWith "," (canonicalItems items) ++ "]"
  | .dict members =>
    let sorted := (canonicalMembers members).insertionSort (fun first second => first.1 ≤ second.1)
    "\x7b" ++ joinWith "," (sorted.map (fun member => quote member.1 ++ ":" ++ member.2)) ++ "\x7d"
termination_by structural value => value

def canonicalItems [Host] : List Json → List String
  | [] => []
  | value :: rest => value.canonical :: canonicalItems rest
termination_by structural items => items

def canonicalMembers [Host] : List (String × Json) → List (String × String)
  | [] => []
  | (key, value) :: rest => (key, value.canonical) :: canonicalMembers rest
termination_by structural members => members
end

/-! ### Dataclasses -/

def quoted (name : String) : String := s!"'{name}'"

def listNames : List String → String
  | [] => ""
  | [name] => quoted name
  | [first, second] => quoted first ++ " and " ++ quoted second
  | names => joinWith ", " (names.dropLast.map quoted) ++ ", and " ++ quoted (names.getLast?.getD "")

/-- What `Class(**document)` says of the required fields that a document lacks. -/
def requireFields (className : String) (required : List String) (members : List (String × Json)) : Raises Unit :=
  let missing := required.filter (fun name => (Json.find? members name).isNone)
  let plural := if missing.length = 1 then "" else "s"
  require (missing = []) (⟨.typeError, s!"{className}.__init__() missing {missing.length} required positional " ++
    s!"argument{plural}: {listNames missing}"⟩ : Exception)

/-- What `Class(**document)` says of a member that is no field. -/
def refuseUnknown (className : String) (known : List String) (members : List (String × Json)) : Raises Unit :=
  match members.find? (fun member => !known.contains member.1) with
  | none => .ok ()
  | some member => raise .typeError s!"{className}.__init__() got an unexpected keyword argument {quoted member.1}"

/-- The members of `document` in `Class(**document)`. -/
def keywords (className : String) (document : Json) : Raises (List (String × Json)) :=
  match document with
  | .dict members => .ok members
  | other => raise .typeError s!"{className}() argument after ** must be a mapping, not {other.typeName}"

def field (members : List (String × Json)) (name : String) (default : Json := .null) : Json :=
  (Json.find? members name).getD default

/-! ### An interpreter for tests -/

def lowerLetter (letter : Char) : Char :=
  if 65 ≤ letter.toNat ∧ letter.toNat ≤ 90 then Char.ofNat (letter.toNat + 32) else letter

def upperLetter (letter : Char) : Char :=
  if 97 ≤ letter.toNat ∧ letter.toNat ≤ 122 then Char.ofNat (letter.toNat - 32) else letter

theorem lowerLetter_lowerLetter (letter : Char) : lowerLetter (lowerLetter letter) = lowerLetter letter := by
  by_cases upper : 65 ≤ letter.toNat ∧ letter.toNat ≤ 90
  · have codes : ∀ code < 91, (Char.ofNat (code + 32)).toNat = code + 32 := by decide
    simp only [lowerLetter, upper, and_self, if_true, codes letter.toNat (by omega)]
    rw [if_neg (by omega)]
  · simp [lowerLetter, upper]

def lowerAscii (text : String) : String := String.ofList (text.toList.map lowerLetter)

def upperAscii (text : String) : String := String.ofList (text.toList.map upperLetter)

theorem lowerAscii_lowerAscii (text : String) : lowerAscii (lowerAscii text) = lowerAscii text := by
  simp [lowerAscii, Function.comp_def, lowerLetter_lowerLetter]

/-- Enough of an interpreter for ASCII strings and whole numbers, with the
decoder of the documents at hand. -/
@[reducible] def asciiHost (documents : List (String × Json)) : Host where
  lower := lowerAscii
  lower_lower := lowerAscii_lowerAscii
  upper := upperAscii
  isAlnum := fun letter => letter.isAlphanum
  nfkc := id
  loads := fun text =>
    match Json.find? documents text with
    | some document => .ok document
    | none => raise .valueError "Expecting value: line 1 column 1 (char 0)"
  toDouble := .finite
  reprFloat := fun value => toString value
  repr := Json.typeName

end Python
