import Mathlib.Data.List.Basic

/-! Operands of which one decides, with operands that may have no value. Taking them
in order stops at the first that decides and gives that one; taking them all needs
all of them, and gives only what is decided. -/

namespace ShortCircuit

variable {α : Type*} (stops : α → Bool)

/-- The first operand that decides, or else the last one. What comes later is not asked for. -/
def first? : List (Option α) → Option α
  | [] => none
  | [last] => last
  | none :: _ => none
  | some value :: rest => if stops value then some value else first? rest

variable {stops}

end ShortCircuit
