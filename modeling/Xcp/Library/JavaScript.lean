import Mathlib.Data.List.Lex
import Xcp.Library.PythonText

/-! Values that JavaScript's JSON decoder produces, and the conversions that
programs apply to them. What throws has no result. -/

namespace JavaScript
open Python (Double Json joinWith stripBy)

inductive Value where
  | undefined
  | null
  | bool (value : Bool)
  | number (value : Double)
  | string (text : String)
  | array (items : List Value)
  | object (members : List (String × Value))

/-- What programs take from the engine as given: the JSON decoder, which may
throw, rounding to doubles, and how numbers print. -/
class Engine where
  parse : String → Option Value
  toDouble : Rat → Double
  numberText : Double → String

/-! ### Numerals -/

def isSpace (letter : Char) : Bool :=
  let code := letter.toNat
  (9 ≤ code && code ≤ 13) || code = 32 || code = 160 || code = 5760 || (8192 ≤ code && code ≤ 8202) || code = 8232 ||
    code = 8233 || code = 8239 || code = 8287 || code = 12288 || code = 65279

def digit? (base : Nat) (letter : Char) : Option Nat :=
  let code := letter.toNat
  let value :=
    if 48 ≤ code && code ≤ 57 then code - 48
    else if 97 ≤ code && code ≤ 122 then code - 87
    else if 65 ≤ code && code ≤ 90 then code - 55
    else base
  if value < base then some value else none

/-- A run of digits, which may be empty. -/
def natural? (base : Nat) (letters : List Char) : Option Nat := do
  let digits ← letters.mapM (digit? base)
  return digits.foldl (fun total digit => base * total + digit) 0

def whole? (base : Nat) (letters : List Char) : Option Nat := if letters = [] then none else natural? base letters

/-- What is after the digits of a decimal numeral. -/
def exponent? : List Char → Option Int
  | [] => some 0
  | mark :: rest =>
    if mark = 'e' || mark = 'E' then
      match rest with
      | '-' :: digits => (whole? 10 digits).map (fun value => -(value : Int))
      | '+' :: digits => (whole? 10 digits).map (fun value => (value : Int))
      | digits => (whole? 10 digits).map (fun value => (value : Int))
    else none

def decimal? (letters : List Char) : Option Rat := do
  let isDigit := fun letter => (digit? 10 letter).isSome
  let before := letters.takeWhile isDigit
  let rest := letters.drop before.length
  let (after, rest) := match rest with
    | '.' :: more => (more.takeWhile isDigit, more.dropWhile isDigit)
    | other => ([], other)
  guard (before ++ after ≠ [])
  let digits ← natural? 10 (before ++ after)
  let exponent ← exponent? rest
  return digits * (10 : Rat) ^ (exponent - after.length)

variable [Engine]

def unsigned (letters : List Char) : Double :=
  if letters = "Infinity".toList then .infinite false
  else match decimal? letters with
  | some value => Engine.toDouble value
  | none => .nan

def based (base : Nat) (letters : List Char) : Double :=
  match whole? base letters with
  | some value => Engine.toDouble value
  | none => .nan

/-- `Number(text)`: blank texts are zero, and other texts that are no numeral NaN. -/
def numberOfText (text : String) : Double :=
  match stripBy isSpace text.toList with
  | [] => .finite 0
  | '0' :: mark :: digits =>
    if mark = 'x' || mark = 'X' then based 16 digits
    else if mark = 'o' || mark = 'O' then based 8 digits
    else if mark = 'b' || mark = 'B' then based 2 digits
    else unsigned ('0' :: mark :: digits)
  | '-' :: letters => (unsigned letters).neg
  | '+' :: letters => unsigned letters
  | letters => unsigned letters

/-- `first === second` of numbers. -/
def strictlyEqual (first second : Double) : Bool := first = second && first ≠ .nan

/-- `first - second`. -/
def subtract : Double → Double → Double
  | .nan, _ | _, .nan => .nan
  | .finite a, .finite b => Engine.toDouble (a - b)
  | .infinite below, .finite _ => .infinite below
  | .finite _, .infinite below => .infinite (!below)
  | .infinite a, .infinite b => if a = b then .nan else .infinite a

/-! ### Conversions -/

namespace Value

omit [Engine] in
def truthy : Value → Bool
  | .undefined | .null => false
  | .bool value => value
  | .number value => value ≠ .finite 0 && value ≠ .nan
  | .string text => text ≠ ""
  | .array _ | .object _ => true

omit [Engine] in
/-- `value.name` for a name that no prototype has. -/
def get (value : Value) (name : String) : Option Value :=
  match value with
  | .undefined | .null => none
  | .object members => some (((members.find? (fun member => member.1 = name)).map Prod.snd).getD .undefined)
  | _ => some .undefined

omit [Engine] in
def orElse (value other : Value) : Value := if value.truthy then value else other

omit [Engine] in
/-- `value ?? other`. -/
def coalesce (value other : Value) : Value :=
  match value with
  | .undefined | .null => other
  | present => present

mutual
/-- `String(value)`. A member of an object hides the method of its prototype. -/
def toText : Value → Option String
  | .undefined => some "undefined"
  | .null => some "null"
  | .bool value => some (if value then "true" else "false")
  | .number value => some (Engine.numberText value)
  | .string text => some text
  | .array items => (joinWith ",") <$> textItems items
  | .object members => if members.any (fun member => member.1 = "toString") then none else some "[object Object]"
termination_by structural value => value

def textItems : List Value → Option (List String)
  | [] => some []
  | .undefined :: rest | .null :: rest => do
    let texts ← textItems rest
    return "" :: texts
  | value :: rest => do
    let text ← value.toText
    let texts ← textItems rest
    return text :: texts
termination_by structural items => items
end

def toNumber : Value → Option Double
  | .undefined => some .nan
  | .null => some (.finite 0)
  | .bool value => some (.finite (if value then 1 else 0))
  | .number value => some value
  | .string text => some (numberOfText text)
  | other => numberOfText <$> other.toText

end Value

/-! ### Strings -/

/-- `text.trim()`. -/
def trim (text : String) : String := String.ofList (stripBy isSpace text.toList)

/-- `BigInt(text)`, which throws at what is no numeral of a whole number. -/
def bigInt? (text : String) : Option Int :=
  match stripBy isSpace text.toList with
  | [] => some 0
  | '0' :: mark :: digits =>
    if mark = 'x' || mark = 'X' then (whole? 16 digits).map (fun value => (value : Int))
    else if mark = 'o' || mark = 'O' then (whole? 8 digits).map (fun value => (value : Int))
    else if mark = 'b' || mark = 'B' then (whole? 2 digits).map (fun value => (value : Int))
    else (whole? 10 ('0' :: mark :: digits)).map (fun value => (value : Int))
  | '-' :: digits => (whole? 10 digits).map (fun value => -(value : Int))
  | '+' :: digits => (whole? 10 digits).map (fun value => (value : Int))
  | digits => (whole? 10 digits).map (fun value => (value : Int))

/-- The code units of a text in UTF-16. -/
def codeUnits (text : String) : List Nat :=
  text.toList.flatMap (fun letter =>
    let code := letter.toNat
    if code < 0x10000 then [code] else [0xd800 + (code - 0x10000) / 0x400, 0xdc00 + (code - 0x10000) % 0x400])

/-- `texts.sort()`: by code units. -/
def sortTexts (texts : List String) : List String :=
  texts.insertionSort (fun first second => codeUnits first ≤ codeUnits second)

/-- `JSON.stringify(texts)`. -/
def stringify (texts : List String) : String := "[" ++ joinWith "," (texts.map Python.quote) ++ "]"

/-- What programs take from the engine's tables of Unicode as given. -/
class Unicode where
  /-- `text.toLowerCase()`. -/
  toLowerCase : String → String

/-! ### Documents -/

mutual
/-- A document as Python decodes it is, in JavaScript, one without integers. -/
def ofJson : Json → Value
  | .null => .null
  | .bool value => .bool value
  | .int value => .number (Engine.toDouble value)
  | .float value => .number value
  | .str text => .string text
  | .list items => .array (ofItems items)
  | .dict members => .object (ofMembers members)
termination_by structural document => document

def ofItems : List Json → List Value
  | [] => []
  | item :: rest => ofJson item :: ofItems rest
termination_by structural items => items

def ofMembers : List (String × Json) → List (String × Value)
  | [] => []
  | (name, value) :: rest => (name, ofJson value) :: ofMembers rest
termination_by structural members => members
end

theorem ofItems_eq_map (items : List Json) : ofItems items = items.map ofJson := by
  induction items with
  | nil => rfl
  | cons item rest ih => rw [ofItems, List.map_cons, ih]

theorem find?_ofMembers (members : List (String × Json)) (name : String) :
    ((ofMembers members).find? (fun member => member.1 = name)).map Prod.snd = (Json.find? members name).map ofJson := by
  induction members with
  | nil => rfl
  | cons member rest ih =>
    obtain ⟨key, value⟩ := member
    simp only [ofMembers, Json.find?, List.find?_cons] at ih ⊢
    by_cases here : key = name
    · simp [here]
    · simpa [here] using ih

theorem get_ofJson_dict (members : List (String × Json)) (name : String) :
    (ofJson (.dict members)).get name = some (((Json.find? members name).map ofJson).getD .undefined) := by
  rw [ofJson, Value.get, find?_ofMembers]

/-- What is found in a document and counts as true is a member of an object. -/
theorem get_ofJson_truthy {document : Json} {name : String} {value : Value} (got : (ofJson document).get name = some value)
    (present : value.truthy = true) :
    ∃ members found, document = .dict members ∧ Json.find? members name = some found ∧ value = ofJson found := by
  cases document with
  | dict members =>
    rw [get_ofJson_dict] at got
    cases found : Json.find? members name with
    | none =>
      obtain rfl : Value.undefined = value := by simpa [found] using got
      cases present
    | some item =>
      obtain rfl : ofJson item = value := by simpa [found] using got
      exact ⟨members, item, rfl, found, rfl⟩
  | null => cases got
  | bool _ | int _ | float _ | str _ | list _ =>
    obtain rfl : Value.undefined = value := by simpa [ofJson, Value.get] using got
    cases present

end JavaScript
