import Xcp.Library.ShortCircuit
import Xcp.Security.Sandbox

/-! When evaluating an expression safely gives what Python gives for it. The two
differ in `and` and `or`: Python stops at the operand that decides, and gives that. -/

namespace Xcp.Security.Sandbox
open Checked Python ShortCircuit

/-! ### The meaning of expressions -/

section Meaning
variable {Value : Type} [Interpreter Value] (names : Dict String Value)

/-- Whether a value decides `and` or `or`. -/
def decides (op : BoolOperator) (value : Value) : Bool :=
  match op with
  | .and => !Interpreter.truth value
  | .or => Interpreter.truth value

mutual
/-- What Python makes of a tree. -/
def Node.python : Node → Raises Value
  | .constant value => .ok (Interpreter.constant value)
  | .name id =>
    match names.get? id with
    | some value => .ok value
    | none => raise (.package "NameError") s!"name '{id}' is not defined"
  | .binOp op left right => do
    let first ← left.python
    let second ← right.python
    Interpreter.binary op first second
  | .unaryOp op operand => do
    let value ← operand.python
    Interpreter.unary op value
  | .boolOp op values => pythonBool op values
  | .compare left rest => do
    let value ← left.python
    Interpreter.bool <$> pythonChain value rest
  | .list elts | .tuple elts => Interpreter.list <$> pythonAll elts
  | .other className => raise (.package "SyntaxError") className
termination_by structural node => node

/-- Operands are evaluated up to the one that decides. -/
def pythonBool (op : BoolOperator) : List Node → Raises Value
  | [] => raise (.package "SyntaxError") "no operand"
  | node :: rest => do
    let value ← node.python
    if rest.isEmpty || decides op value then return value else pythonBool op rest
termination_by structural nodes => nodes

def pythonAll : List Node → Raises (List Value)
  | [] => .ok []
  | node :: rest => do
    let value ← node.python
    let values ← pythonAll rest
    return value :: values
termination_by structural nodes => nodes

def pythonChain (left : Value) : List (Comparison × Node) → Raises Bool
  | [] => .ok true
  | (op, node) :: rest => do
    let right ← node.python
    let passed ← Interpreter.compare op left right
    if passed then pythonChain right rest else return false
termination_by structural nodes => nodes
end

/-! ### Parts of expressions -/

def Node.parts : Node → List Node
  | .constant _ | .name _ | .other _ => []
  | .binOp _ left right => [left, right]
  | .unaryOp _ operand => [operand]
  | .boolOp _ values => values
  | .compare left rest => left :: rest.map Prod.snd
  | .list elts | .tuple elts => elts

/-- A property of a node and of all its parts, down to the leaves. -/
inductive Throughout (property : Node → Prop) : Node → Prop
  | node {node : Node} (here : property node) (below : ∀ part ∈ node.parts, Throughout property part) : Throughout property node

theorem Throughout.here {property : Node → Prop} {node : Node} (all : Throughout property node) : property node := by
  cases all with
  | node here below => exact here

theorem Throughout.parts {property : Node → Prop} {node : Node} (all : Throughout property node) :
    ∀ part ∈ node.parts, Throughout property part := by
  cases all with
  | node here below => exact below

/-- A form of the grammar: literals, names that are provided, and the operators on the lists. -/
def Allowed : Node → Prop
  | .constant (.int _) | .constant (.bool _) => True
  | .name id => (names.get? id).isSome
  | .binOp op _ _ => op ∈ allowedBinary
  | .unaryOp op _ => op ∈ allowedUnary
  | .boolOp _ values => values ≠ []
  | .compare _ rest => ∀ step ∈ rest, step.1 ∈ allowedComparisons
  | _ => False

/-- An exponent is within the bound. -/
def Bounded (maxPow : Int) : Node → Prop
  | .binOp .pow _ right => ∀ value, right.python names = .ok value → Interpreter.exceeds value maxPow = false
  | _ => True

/-- Where `and` or `or` has a value, it is a boolean, and all operands have values. -/
def Plain : Node → Prop
  | .boolOp op values => ∀ value, (Node.boolOp op values).python names = .ok value →
      (∃ decided, value = Interpreter.bool decided) ∧ ∀ part ∈ values, (part.python names).toOption.isSome
  | _ => True

/-! ### Step by step -/

variable {names} {maxPow : Int}

/-- What an operator gives that takes all operands for what is decided. -/
def made (op : BoolOperator) (decided : Bool) : Value :=
  match op with
  | .and => Interpreter.bool (!decided)
  | .or => Interpreter.bool decided

end Meaning

/-! ### Expressions at hand -/

section Sample

/-- A property of a node and of its parts, down to a depth that has no more of them. -/
def Within (property : Node → Prop) : Nat → Node → Prop
  | 0, _ => False
  | depth + 1, node => property node ∧ ∀ part ∈ node.parts, Within property depth part

/-- Numbers and booleans. -/
inductive Small where
  | int (value : Int)
  | bool (value : Bool)
deriving DecidableEq

def Small.number : Small → Int
  | int value => value
  | bool value => if value then 1 else 0

/-- `1 < 2 and a == 4`. -/
def comparisons : Node := .boolOp .and [
  .compare (.constant (.int 1)) [(.lt, .constant (.int 2))], .compare (.name "a") [(.eq, .constant (.int 4))]]

/-- `2 and 3`. -/
def numbers : Node := .boolOp .and [.constant (.int 2), .constant (.int 3)]

/-- `False and 1 // 0`. -/
def guarded : Node := .boolOp .and [.constant (.bool false), .binOp .floorDiv (.constant (.int 1)) (.constant (.int 0))]

local instance small : Interpreter Small where
  parse text :=
    if text = "1 < 2 and a == 4" then .ok comparisons
    else if text = "2 and 3" then .ok numbers
    else if text = "False and 1 // 0" then .ok guarded
    else .error "invalid syntax"
  constant
    | .int value => .int value
    | .bool value => .bool value
    | _ => .int 0
  bool := .bool
  list := fun _ => .int 0
  binary op first second :=
    match op with
    | .add => .ok (.int (first.number + second.number))
    | .floorDiv =>
      if second.number = 0 then raise (.package "ZeroDivisionError") "integer division or modulo by zero"
      else .ok (.int (first.number.fdiv second.number))
    | _ => raise .typeError "unsupported operand types"
  unary op value :=
    match op with
    | .uSub => .ok (.int (-value.number))
    | _ => .ok (.int value.number)
  compare op first second :=
    match op with
    | .eq => .ok (first.number = second.number)
    | .lt => .ok (first.number < second.number)
    | _ => raise .typeError "not supported"
  truth value := value.number ≠ 0
  truth_bool := by decide
  exceeds value bound := bound < value.number.natAbs

end Sample

end Xcp.Security.Sandbox
