import Mathlib.Data.Rat.Floor
import Xcp.Library.JavaScript

/-! The mandate gates of the two gateways in JavaScript. A gate throws where it
applies a method to a value that has none. -/

namespace Xcp.GatewayTs
open Python JavaScript

def covers (granted : Value) (wanted : String) : Option Bool :=
  match granted with
  | .string text =>
    if text = wanted then some true
    else if endsWith text "/*" then some (startsWith wanted (dropEnd text 1))
    else if endsWith text "*" then some (startsWith wanted (dropEnd text 1))
    else some false
  | _ => none

def scopeCovered (wanted : String) : List Value → Option Bool
  | [] => some false
  | granted :: rest => do
    let found ← covers granted wanted
    if found then return true else scopeCovered wanted rest

variable [Engine]

def checkDocument (now : Rat) (mandate : Value) (wantedScope : String) : Option Bool := do
  let notAfter ← mandate.get "notAfter"
  let notAfter ← (notAfter.orElse (.number (.finite 0))).toNumber
  if !(Value.number notAfter).truthy || notAfter.lt (.finite ⌊now⌋) then return false
  else do
    let scopes ← mandate.get "mandateScope"
    match scopes with
    | .array scopes => scopeCovered wantedScope scopes
    | _ => scopeCovered wantedScope []

def checkMandate (now : Rat) (header wantedScope : String) : Option Bool :=
  if header = "" then some false
  else match Engine.parse header with
  | none => some false
  | some mandate => checkDocument now mandate wantedScope

end Xcp.GatewayTs

namespace Xcp.ImplNode
open Python JavaScript

def covers (granted : Value) (scope : String) : Option Bool :=
  match granted with
  | .string text => some (text = scope || endsWith text "*" && startsWith scope (dropEnd text 1))
  | _ => none

/-- `scopes.some`, which only arrays have. -/
def someCovers (scope : String) : List Value → Option Bool
  | [] => some false
  | granted :: rest => do
    let found ← covers granted scope
    if found then return true else someCovers scope rest

variable [Engine]

/-- `!m.notAfter || Number(m.notAfter) < Date.now() / 1000`. -/
def expired (now : Rat) (notAfter : Value) : Option Bool :=
  if notAfter.truthy then (fun number => number.lt (.finite now)) <$> notAfter.toNumber else some true

def checkDocument (now : Rat) (mandate : Value) (scope : String) : Option Bool := do
  let notAfter ← mandate.get "notAfter"
  let late ← expired now notAfter
  if late then return false
  else do
    let scopes ← mandate.get "mandateScope"
    match scopes.orElse (.array []) with
    | .array scopes => someCovers scope scopes
    | _ => none

def checkMandate (now : Rat) (header scope : String) : Option Bool :=
  if header = "" then some false
  else match Engine.parse header with
  | none => some false
  | some mandate => checkDocument now mandate scope

end Xcp.ImplNode
