import Xcp.Library.Dict
import Xcp.Library.Python

/-! Expressions of arithmetic and logic that are evaluated without giving them
anything else to reach. What is not on a list is refused. -/

namespace Xcp.Security.Sandbox
open Checked Python

/-! ### Expressions -/

inductive BinaryOperator where
  | add | sub | mult | matMult | div | mod | pow | lShift | rShift | bitOr | bitXor | bitAnd | floorDiv
deriving DecidableEq, Repr

inductive UnaryOperator where
  | invert | not | uAdd | uSub
deriving DecidableEq, Repr

inductive BoolOperator where
  | and | or
deriving DecidableEq, Repr

inductive Comparison where
  | eq | notEq | lt | ltE | gt | gtE | is | isNot | in | notIn
deriving DecidableEq, Repr

/-- A constant in an expression, of which others are not allowed. -/
inductive Literal where
  | int (value : Int)
  | float (value : Double)
  | bool (value : Bool)
  | str (value : String)
  | none
  | other
deriving DecidableEq, Repr

/-- A node of a tree that `ast.parse` gives. A comparison goes from operand to operand. -/
inductive Node where
  | constant (value : Literal)
  | name (id : String)
  | binOp (op : BinaryOperator) (left right : Node)
  | unaryOp (op : UnaryOperator) (operand : Node)
  | boolOp (op : BoolOperator) (values : List Node)
  | compare (left : Node) (rest : List (Comparison × Node))
  | list (elts : List Node)
  | tuple (elts : List Node)
  | other (className : String)
deriving Inhabited

/-- What the interpreter knows of values: its operators, and what it makes of a text. Comparing gives booleans. -/
class Interpreter (Value : Type) where
  parse : String → Except String Node
  constant : Literal → Value
  bool : Bool → Value
  list : List Value → Value
  binary : BinaryOperator → Value → Value → Raises Value
  unary : UnaryOperator → Value → Raises Value
  compare : Comparison → Value → Value → Raises Bool
  /-- `bool(value)`. -/
  truth : Value → Bool
  truth_bool : ∀ value, truth (bool value) = value
  /-- `isinstance(value, (int, float)) and abs(value) > bound`. -/
  exceeds : Value → Int → Bool

/-! ### Evaluation -/

def allowedBinary : List BinaryOperator := [.add, .sub, .mult, .div, .floorDiv, .mod, .pow]

def allowedUnary : List UnaryOperator := [.uAdd, .uSub]

def allowedComparisons : List Comparison := [.eq, .notEq, .lt, .ltE, .gt, .gtE]

def unsafeExpression {α : Type} (text : String) : Raises α := raise (.package "UnsafeExpression") text

section Evaluation
variable {Value : Type} [Interpreter Value] (names : Dict String Value) (maxPow : Int)

/-- `all(values)` and `any(values)`. -/
def holds (op : BoolOperator) (values : List Value) : Bool :=
  match op with
  | .and => values.all (@Interpreter.truth Value _)
  | .or => values.any (@Interpreter.truth Value _)

/-- An exponent is evaluated for its size, and then once more as an operand. -/
def inBound (op : BinaryOperator) (exponent : Raises Value) : Raises Unit :=
  if op = .pow then do
    let exponent ← exponent
    if Interpreter.exceeds exponent maxPow then unsafeExpression "exponent too large" else return ()
  else return ()

mutual
def Node.eval : Node → Raises Value
  | .constant .other => unsafeExpression "disallowed constant type"
  | .constant value => .ok (Interpreter.constant value)
  | .name id =>
    match names.get? id with
    | some value => .ok value
    | none => unsafeExpression s!"unknown name '{id}'"
  | .binOp op left right =>
    if op ∈ allowedBinary then do
      let _ ← inBound maxPow op right.eval
      let first ← left.eval
      let second ← right.eval
      Interpreter.binary op first second
    else unsafeExpression "disallowed syntax: BinOp"
  | .unaryOp op operand =>
    if op ∈ allowedUnary then do
      let value ← operand.eval
      Interpreter.unary op value
    else unsafeExpression "disallowed syntax: UnaryOp"
  | .boolOp op values => do
    let values ← evalAll values
    return Interpreter.bool (holds op values)
  | .compare left rest => do
    let value ← left.eval
    Interpreter.bool <$> evalChain value rest
  | .list elts | .tuple elts => Interpreter.list <$> evalAll elts
  | .other className => unsafeExpression s!"disallowed syntax: {className}"
termination_by structural node => node

def evalAll : List Node → Raises (List Value)
  | [] => .ok []
  | node :: rest => do
    let value ← node.eval
    let values ← evalAll rest
    return value :: values
termination_by structural nodes => nodes

/-- A chain of comparisons ends with the first one that fails. -/
def evalChain (left : Value) : List (Comparison × Node) → Raises Bool
  | [] => .ok true
  | (op, node) :: rest =>
    if op ∈ allowedComparisons then do
      let right ← node.eval
      let passed ← Interpreter.compare op left right
      if passed then evalChain right rest else return false
    else unsafeExpression "disallowed comparison"
termination_by structural nodes => nodes
end

end Evaluation

end Xcp.Security.Sandbox
