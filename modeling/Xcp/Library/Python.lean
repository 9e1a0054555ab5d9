import Mathlib.Data.Rat.Defs
import Mathlib.Data.List.Sort
import Xcp.Library.Checked

/-! Values that Python's JSON decoder produces and the operations programs
apply to them without looking at their type first. An operation that Python
refuses raises, with the exception that Python raises. A function that bears
the name of a built-in function or of a method is that function. -/

namespace Python
open Checked

/-- A double: every finite one is a rational. -/
inductive Double where
  | finite (value : Rat)
  | infinite (negative : Bool)
  | nan
deriving DecidableEq, Repr

/-- A decoded JSON document. Objects keep the order of their members. -/
inductive Json where
  | null
  | bool (value : Bool)
  | int (value : Int)
  | float (value : Double)
  | str (value : String)
  | list (items : List Json)
  | dict (members : List (String × Json))
deriving Inhabited, Repr

inductive ExceptionKind where
  | typeError | attributeError | valueError | keyError | overflowError
  /-- An error class of some package, by its name. -/
  | package (name : String)
deriving DecidableEq, Repr

/-- `type(e).__name__`. -/
def ExceptionKind.className : ExceptionKind → String
  | typeError => "TypeError"
  | attributeError => "AttributeError"
  | valueError => "ValueError"
  | keyError => "KeyError"
  | overflowError => "OverflowError"
  | package name => name

structure Exception where
  kind : ExceptionKind
  text : String := ""
deriving DecidableEq, Repr

abbrev Raises := Except Exception

def raise {α : Type} (kind : ExceptionKind) (text : String) : Raises α := .error ⟨kind, text⟩

/-- What programs take from the interpreter as given: what Unicode says of
letters and of the case and the normal form of strings, where `lower` is
idempotent, the JSON decoder, rounding to doubles, and how finite doubles and
containers print. -/
class Host where
  lower : String → String
  lower_lower : ∀ text, lower (lower text) = lower text
  upper : String → String
  isAlnum : Char → Bool
  nfkc : String → String
  loads : String → Raises Json
  toDouble : Rat → Double
  reprFloat : Rat → String
  repr : Json → String

export Host (lower lower_lower upper)

attribute [simp] lower_lower

namespace Json

mutual
def decEq : (first second : Json) → Decidable (first = second)
  | .null, .null => isTrue rfl
  | .bool a, .bool b => decidable_of_iff (a = b) (by simp)
  | .int a, .int b => decidable_of_iff (a = b) (by simp)
  | .float a, .float b => decidable_of_iff (a = b) (by simp)
  | .str a, .str b => decidable_of_iff (a = b) (by simp)
  | .list a, .list b => @decidable_of_iff _ (a = b) (by simp) (decEqList a b)
  | .dict a, .dict b => @decidable_of_iff _ (a = b) (by simp) (decEqMembers a b)
  | .null, .bool _ | .null, .int _ | .null, .float _ | .null, .str _ | .null, .list _ | .null, .dict _
  | .bool _, .null | .bool _, .int _ | .bool _, .float _ | .bool _, .str _ | .bool _, .list _
  | .bool _, .dict _ | .int _, .null | .int _, .bool _ | .int _, .float _ | .int _, .str _
  | .int _, .list _ | .int _, .dict _ | .float _, .null | .float _, .bool _ | .float _, .int _
  | .float _, .str _ | .float _, .list _ | .float _, .dict _ | .str _, .null | .str _, .bool _
  | .str _, .int _ | .str _, .float _ | .str _, .list _ | .str _, .dict _ | .list _, .null
  | .list _, .bool _ | .list _, .int _ | .list _, .float _ | .list _, .str _ | .list _, .dict _
  | .dict _, .null | .dict _, .bool _ | .dict _, .int _ | .dict _, .float _ | .dict _, .str _
  | .dict _, .list _ => isFalse (by simp)
termination_by structural first => first

def decEqList : (first second : List Json) → Decidable (first = second)
  | [], [] => isTrue rfl
  | [], _ :: _ | _ :: _, [] => isFalse (by simp)
  | a :: first, b :: second =>
    @decidable_of_iff _ (a = b ∧ first = second) (by simp)
      (@instDecidableAnd _ _ (decEq a b) (decEqList first second))
termination_by structural first => first

def decEqMembers : (first second : List (String × Json)) → Decidable (first = second)
  | [], [] => isTrue rfl
  | [], _ :: _ | _ :: _, [] => isFalse (by simp)
  | (k, a) :: first, (l, b) :: second =>
    @decidable_of_iff _ (k = l ∧ a = b ∧ first = second) (by simp [and_assoc])
      (@instDecidableAnd _ _ (inferInstance : Decidable (k = l))
        (@instDecidableAnd _ _ (decEq a b) (decEqMembers first second)))
termination_by structural first => first
end

instance : DecidableEq Json := decEq

def typeName : Json → String
  | .null => "NoneType"
  | .bool _ => "bool"
  | .int _ => "int"
  | .float _ => "float"
  | .str _ => "str"
  | .list _ => "list"
  | .dict _ => "dict"

def truthy : Json → Bool
  | .null => false
  | .bool value => value
  | .int value => value ≠ 0
  | .float value => value ≠ .finite 0
  | .str value => value ≠ ""
  | .list items => items ≠ []
  | .dict members => !members.isEmpty

def orElse (value other : Json) : Json := if value.truthy then value else other

def noAttribute {α : Type} (value : Json) (name : String) : Raises α :=
  raise .attributeError s!"'{value.typeName}' object has no attribute '{name}'"

def find? (members : List (String × Json)) (key : String) : Option Json :=
  (members.find? (fun member => member.1 = key)).map Prod.snd

def get (value : Json) (key : String) (default : Json := .null) : Raises Json :=
  match value with
  | .dict members => .ok ((find? members key).getD default)
  | other => other.noAttribute "get"

/-- `value[key]` with a string key. -/
def item (value : Json) (key : String) : Raises Json :=
  match value with
  | .dict members =>
    match find? members key with
    | some found => .ok found
    | none => raise .keyError s!"'{key}'"
  | .list _ => raise .typeError "list indices must be integers or slices, not str"
  | .str _ => raise .typeError "string indices must be integers, not 'str'"
  | other => raise .typeError s!"'{other.typeName}' object is not subscriptable"

def asStr (value : Json) (method : String) : Raises String :=
  match value with
  | .str text => .ok text
  | other => other.noAttribute method

def lower [Host] (value : Json) : Raises String := do
  let text ← value.asStr "lower"
  return Python.lower text

def isDict : Json → Bool
  | .dict _ => true
  | _ => false

def isList : Json → Bool
  | .list _ => true
  | _ => false

def hashable : Json → Bool
  | .list _ | .dict _ => false
  | _ => true

def toList : Json → Raises (List Json)
  | .list items => .ok items
  | .str text => .ok (text.toList.map (fun letter => .str (String.singleton letter)))
  | .dict members => .ok (members.map (fun member => .str member.1))
  | other => raise .typeError s!"'{other.typeName}' object is not iterable"

/-- `value[:count]`. -/
def takeFirst (value : Json) (count : Nat) : Raises Json :=
  match value with
  | .str text => .ok (.str (String.ofList (text.toList.take count)))
  | .list items => .ok (.list (items.take count))
  | .dict _ => raise .typeError "unhashable type: 'slice'"
  | other => raise .typeError s!"'{other.typeName}' object is not subscriptable"

/-- `value[place]` with a whole number. -/
def atIndex (value : Json) (place : Nat) : Raises Json :=
  match value with
  | .str text =>
    match text.toList[place]? with
    | some letter => .ok (.str (String.singleton letter))
    | none => raise (.package "IndexError") "string index out of range"
  | .list items =>
    match items[place]? with
    | some found => .ok found
    | none => raise (.package "IndexError") "list index out of range"
  | .dict _ => raise .keyError (toString place)
  | other => raise .typeError s!"'{other.typeName}' object is not subscriptable"

/-- Numbers of every type compare by value; `bool` is an `int`. -/
def number? : Json → Option Double
  | .bool value => some (.finite (if value then 1 else 0))
  | .int value => some (.finite value)
  | .float value => some value
  | _ => none

mutual
/-- `first == second`. -/
def same : Json → Json → Bool
  | .list first, .list second => sameItems first second
  | .dict first, .dict second => first.length = second.length && sameMembers first second
  | first, second =>
    match first.number?, second.number? with
    | some a, some b => a = b && a ≠ .nan
    | none, none => first = second
    | _, _ => false
termination_by structural first => first

def sameItems : List Json → List Json → Bool
  | [], [] => true
  | first :: rest, second :: others => first.same second && sameItems rest others
  | _, _ => false
termination_by structural first => first

def sameMembers : List (String × Json) → List (String × Json) → Bool
  | [], _ => true
  | (key, value) :: rest, others => (find? others key).any value.same && sameMembers rest others
termination_by structural first => first
end

@[simp] theorem same_str (value : Json) (text : String) : value.same (.str text) = true ↔ value = .str text := by
  cases value <;> simp [same, number?]

@[simp] theorem str_same (text : String) (value : Json) : (Json.str text).same value = true ↔ value = .str text := by
  cases value <;> simp [same, number?, eq_comm]

@[simp] theorem int_same_int (first second : Int) : (Json.int first).same (.int second) = true ↔ first = second := by
  simp [same, number?]

/-- The value of an `int`, of which `bool` is a kind. -/
def whole? : Json → Option Int
  | .bool value => some (if value then 1 else 0)
  | .int value => some value
  | _ => none

/-- What a dict or a set knows a value by: equal numbers are one key. -/
def key (value : Json) : Raises Json := do
  require (value.hashable = true) (⟨.typeError, s!"unhashable type: '{value.typeName}'"⟩ : Exception)
  match value.number? with
  | some number => return .float number
  | none => return value

@[simp] theorem key_str (text : String) : key (.str text) = .ok (.str text) := rfl

@[simp] theorem key_eq_str (value : Json) (text : String) : value.key = .ok (.str text) ↔ value = .str text := by
  cases value <;> simp [key, hashable, number?, require]

end Json

namespace Double

def lt : Double → Double → Bool
  | .nan, _ | _, .nan => false
  | .finite a, .finite b => a < b
  | .infinite below, .finite _ => below
  | .finite _, .infinite below => !below
  | .infinite a, .infinite b => a && !b

def le (a b : Double) : Bool := a.lt b || (a == b && a != .nan)

/-- `+` on doubles; an `int` operand is one already. -/
def add [Host] : Double → Double → Double
  | .nan, _ | _, .nan => .nan
  | .finite a, .finite b => Host.toDouble (a + b)
  | .infinite below, .finite _ | .finite _, .infinite below => .infinite below
  | .infinite a, .infinite b => if a = b then .infinite a else .nan

def neg : Double → Double
  | .nan => .nan
  | .finite a => .finite (-a)
  | .infinite below => .infinite (!below)

def sub [Host] (a b : Double) : Double := a.add b.neg

/-- A whole number beside a double. -/
def ofInt [Host] (value : Int) : Raises Double :=
  match Host.toDouble value with
  | .infinite _ => raise .overflowError "int too large to convert to float"
  | near => .ok near

end Double

namespace Json

def arithmetic (symbol : String) (ints : Int → Int → Int) (doubles : Double → Double → Double)
    (first second : Json) : Raises Json :=
  match first.whole?, second.whole? with
  | some a, some b => .ok (.int (ints a b))
  | _, _ =>
    match first.number?, second.number? with
    | some a, some b => .ok (.float (doubles a b))
    | _, _ =>
      raise .typeError s!"unsupported operand type(s) for {symbol}: '{first.typeName}' and '{second.typeName}'"

/-- `first + second` and `first - second`, for operands one of which is a number. -/
def add [Host] : Json → Json → Raises Json := arithmetic "+" (· + ·) Double.add
def sub [Host] : Json → Json → Raises Json := arithmetic "-" (· - ·) Double.sub

def compare (symbol : String) (relation : Double → Double → Bool) (first second : Json) : Raises Bool :=
  match first.number?, second.number? with
  | some a, some b => .ok (relation a b)
  | _, _ =>
    raise .typeError s!"'{symbol}' not supported between instances of '{first.typeName}' and '{second.typeName}'"

/-- `first < second` and its three siblings, for operands one of which is a number. -/
def lt : Json → Json → Raises Bool := compare "<" Double.lt
def le : Json → Json → Raises Bool := compare "<=" Double.le
def gt : Json → Json → Raises Bool := compare ">" (fun a b => b.lt a)
def ge : Json → Json → Raises Bool := compare ">=" (fun a b => b.le a)

theorem compare_eq_ok {symbol : String} {relation : Double → Double → Bool} {first second : Json} {holds : Bool} :
    compare symbol relation first second = .ok holds ↔
      ∃ a b, first.number? = some a ∧ second.number? = some b ∧ relation a b = holds := by
  unfold compare
  cases first.number? <;> cases second.number? <;> simp [raise]

theorem int_gt_int (first second : Int) : (Json.int first).gt (.int second) = .ok (decide (second < first)) := by
  simp [gt, compare, number?, Double.lt, Rat.intCast_lt_intCast]

theorem int_ge_int (first second : Int) : (Json.int first).ge (.int second) = .ok (decide (second ≤ first)) := by
  rw [ge, compare, number?, number?, Except.ok.injEq, Bool.eq_iff_iff]
  simp [Double.le, Double.lt, Rat.intCast_lt_intCast, le_iff_lt_or_eq]

theorem int_lt_int (first second : Int) : (Json.int first).lt (.int second) = .ok (decide (first < second)) := by
  simp [lt, compare, number?, Double.lt, Rat.intCast_lt_intCast]

theorem int_le_int (first second : Int) : (Json.int first).le (.int second) = .ok (decide (first ≤ second)) := by
  rw [le, compare, number?, number?, Except.ok.injEq, Bool.eq_iff_iff]
  simp [Double.le, Double.lt, Rat.intCast_lt_intCast, le_iff_lt_or_eq]

theorem int_sub_int [Host] (first second : Int) : (Json.int first).sub (.int second) = .ok (.int (first - second)) := rfl

end Json

/-! ### Strings -/

def isSpace (letter : Char) : Bool :=
  let code := letter.toNat
  (9 ≤ code && code ≤ 13) || (28 ≤ code && code ≤ 32) || code = 133 || code = 160 || code = 5760 ||
    (8192 ≤ code && code ≤ 8202) || code = 8232 || code = 8233 || code = 8239 || code = 8287 || code = 12288

def stripBy (drop : Char → Bool) (letters : List Char) : List Char :=
  ((letters.dropWhile drop).reverse.dropWhile drop).reverse

def strip (text : String) : String := String.ofList (stripBy isSpace text.toList)

def startsWith (text start : String) : Bool := start.toList.isPrefixOf text.toList

def endsWith (text finish : String) : Bool := finish.toList.isSuffixOf text.toList

def dropStart (text : String) (count : Nat) : String := String.ofList (text.toList.drop count)

/-- `text[:-count]`. -/
def dropEnd (text : String) (count : Nat) : String := String.ofList (text.toList.take (text.toList.length - count))

/-- `text.rstrip(letter)` for a single letter. -/
def rstrip (text : String) (letter : Char) : String :=
  String.ofList (text.toList.reverse.dropWhile (· = letter)).reverse

/-- `text.split(separator)` for a separator of one letter. -/
def splitOn (text : String) (separator : Char) : List String :=
  (text.toList.splitOn separator).map String.ofList

/-- `text.partition(separator)`, with whether the separator was found. -/
def partition (text : String) (separator : Char) : String × Bool × String :=
  let before := text.toList.takeWhile (· ≠ separator)
  let rest := text.toList.drop before.length
  (String.ofList before, !rest.isEmpty, String.ofList (rest.drop 1))

/-- `text.rpartition(separator)`; where it is not found, all is after it. -/
def rpartition (text : String) (separator : Char) : String × Bool × String :=
  let after := (text.toList.reverse.takeWhile (· ≠ separator)).reverse
  let rest := text.toList.take (text.toList.length - after.length)
  (String.ofList rest.dropLast, !rest.isEmpty, String.ofList after)

def isAscii (text : String) : Bool := text.toList.all (·.toNat < 128)

/-- `part in text` for a part of one letter. -/
def contains (text : String) (letter : Char) : Bool := text.toList.contains letter

/-- `part in text`. -/
def containsText (text part : String) : Bool := text.toList.tails.any (part.toList.isPrefixOf ·)

def joinWith (separator : String) : List String → String
  | [] => ""
  | [part] => part
  | part :: rest => part ++ separator ++ joinWith separator rest

/-- `text in value`. -/
def Json.contains (value : Json) (text : String) : Raises Bool :=
  match value with
  | .dict members => .ok (find? members text).isSome
  | .list items => .ok (items.any (Json.str text).same)
  | .str whole => .ok (containsText whole text)
  | other => raise .typeError s!"argument of type '{other.typeName}' is not iterable"

theorem Json.get_of_item {value found : Json} {name : String} (held : value.item name = .ok found) (default : Json) :
    value.get name default = .ok found := by
  unfold Json.item at held
  split at held
  next members =>
    split at held
    next here =>
      obtain rfl := Except.ok.inj held
      simp [Json.get, here]
    next => cases held
  all_goals cases held

theorem Json.item_of_get {value found : Json} {name : String} (held : value.get name = .ok found) (some : found ≠ .null) :
    value.item name = .ok found := by
  cases value with
  | dict members =>
    have member : (find? members name).getD .null = found := Except.ok.inj held
    cases here : find? members name with
    | none =>
      rw [here] at member
      exact absurd member.symm some
    | some other =>
      rw [here, Option.getD_some] at member
      simp [Json.item, here, member]
  | _ => cases held

end Python
