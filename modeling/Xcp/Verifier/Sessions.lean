import Mathlib.Logic.Function.Basic
import Xcp.Library.Url
import Xcp.Library.PythonText
import Xcp.Library.Transition

/-! The verifier's session check: a registry that reads the chain or its own
memory, behind a short cache. Bindings are objects that the memory and the cache
share, so the state keeps them in a list and both tables hold positions in it. -/

namespace Xcp.Verifier
open Checked Python Http

structure Binding where
  valid : Bool
  agentId : Int
  mandateRoot : Json
  railsBitmap : Int
  notAfter : Int
  revoked : Bool := false

/-- `onChain` is set when the contract could be reached at start-up. -/
structure Config where
  onChain : Bool
  cacheTtl : Int := 30

structure State where
  objects : List Binding := []
  mem : Json → Option Nat := fun _ => none
  revoked : Json → Bool := fun _ => false
  cache : Json → Option (Rat × Nat) := fun _ => none
  allocated : ∀ footprint object, mem footprint = some object → object < objects.length := by simp

/-- The clock is read up to three times for one request. -/
structure Clock where
  looked : Rat
  bound : Rat
  answered : Rat

/-- What the contract's `verifySession` returns. -/
structure ChainAnswer where
  valid : Bool
  agentId : Nat
  mandateRoot : List Nat
  railsBitmap : List Nat

/-- The contract as it stands, asked for a footprint of 32 bytes; the call may fail. -/
abbrev Chain := List Nat → Option ChainAnswer

def Binding.isValid (binding : Binding) (clock : Clock) : Bool :=
  binding.valid && !binding.revoked && truncate clock.answered < binding.notAfter

def Binding.toJson (binding : Binding) (clock : Clock) : Json :=
  .dict [("valid", .bool (binding.isValid clock)), ("agentId", .int binding.agentId),
    ("mandateRoot", binding.mandateRoot), ("railsBitmap", .int binding.railsBitmap),
    ("revoked", .bool binding.revoked)]

namespace State

def allocate (state : State) (binding : Binding) : State :=
  { state with
    objects := state.objects ++ [binding]
    allocated := fun footprint object held =>
      Nat.lt_of_lt_of_le (state.allocated footprint object held) (by simp) }

def setRevoked (state : State) (object : Nat) : State :=
  { state with
    objects := state.objects.modify object (fun binding => { binding with revoked := true })
    allocated := by simpa using state.allocated }

def isRevoked (state : State) (object : Nat) : Bool := (state.objects[object]?).any Binding.revoked

end State

/-! ### Registry -/

section Registry
variable (config : Config)

def chainFootprint (footprint : Json) : Raises (List Nat) := do
  let text ← footprint.asStr "startswith"
  let bytes ← fromHex (if startsWith text "0x" then dropStart text 2 else text)
  return (rjust bytes 32).take 32

/-- The chain read, whose exceptions count as no binding. -/
def readChain (chain : Chain) (clock : Clock) (footprint : Json) : Raises Binding := do
  let bytes ← chainFootprint footprint
  match chain bytes with
  | none => raise (.package "ContractLogicError") "chain read failed"
  | some answer =>
    return {
      valid := answer.valid
      agentId := answer.agentId
      mandateRoot := .str ("0x" ++ toHex answer.mandateRoot)
      railsBitmap := ofBytes answer.railsBitmap
      notAfter := truncate clock.bound + config.cacheTtl
      revoked := !answer.valid }

def verifySession (state : State) (chain : Chain) (clock : Clock) (footprint : Json) : State × Option Nat :=
  if config.onChain then
    match readChain config chain clock footprint with
    | .ok binding => (state.allocate binding, some state.objects.length)
    | .error _ => (state, none)
  else
    match state.mem footprint with
    | some object => (if state.revoked footprint then state.setRevoked object else state, some object)
    | none => (state, none)

def bind (state : State) (footprint : Json) (binding : Binding) : State :=
  { state.allocate binding with
    mem := Function.update state.mem footprint (some state.objects.length)
    allocated := by
      intro other object held
      rw [Function.update_apply] at held
      split at held
      · cases held
        simp [State.allocate]
      · exact (state.allocate binding).allocated other object held }

def revoke (state : State) (footprint : Json) : State :=
  let state := { state with revoked := Function.update state.revoked footprint true }
  match state.mem footprint with
  | some object => state.setRevoked object
  | none => state

/-! ### Cache -/

def cached (state : State) (clock : Clock) (footprint : Json) : Option Nat :=
  match state.cache footprint with
  | some (expiry, object) => if clock.looked < expiry && !state.isRevoked object then some object else none
  | none => none

def cachedVerify (state : State) (chain : Chain) (clock : Clock) (footprint : Json) : State × Option Nat :=
  match cached state clock footprint with
  | some object => (state, some object)
  | none =>
    match verifySession config state chain clock footprint with
    | (state, some object) =>
      ({ state with cache := Function.update state.cache footprint (some (clock.looked + config.cacheTtl, object)) },
        some object)
    | (state, none) => (state, none)

def invalidate (state : State) (footprint : Json) : State :=
  { state with cache := Function.update state.cache footprint none }

/-! ### Endpoints -/

def verify (state : State) (chain : Chain) (clock : Clock) (body : Json) : Handler (State × Response) := do
  let footprint ← attempt (body.get "footprint" (.str ""))
  require (footprint.truthy = true)
    ({ body := .dict [("valid", .bool false), ("reason", .str "no footprint")], status := 400 } : Response)
  let footprint ← attempt footprint.key
  let (state, object) := cachedVerify config state chain clock footprint
  match object.bind (state.objects[·]?) with
  | some binding => return (state, { body := binding.toJson clock })
  | none => return (state, { body := .dict [("valid", .bool false), ("reason", .str "no on-chain binding")] })

def adminRevoke (state : State) (footprint : String) : State × Response :=
  (invalidate (revoke state (.str footprint)) (.str footprint), { body := .dict [("revoked", .str footprint)] })

def adminBind (state : State) (clock : Clock) (body : Json) : Handler (State × Response) := do
  let footprint ← attempt (body.item "footprint")
  let agentId ← attempt (body.getInt "agentId" 42001)
  let mandateRoot ← attempt (body.get "mandateRoot" (.str ("0x" ++ toHex (List.replicate 32 0))))
  let rails ← attempt (body.getInt "railsBitmap" 3)
  let ttl ← attempt (body.getInt "ttl" 86400)
  let binding : Binding :=
    { valid := true, agentId, mandateRoot, railsBitmap := rails, notAfter := truncate clock.bound + ttl }
  let key ← attempt footprint.key
  let state := invalidate (bind state key binding) key
  return (state, { body := .dict [("bound", footprint), ("binding", binding.toJson clock)] })

/-! ### Runs -/

inductive Request where
  | verify (body : Json) (clock : Clock) (chain : Chain)
  | adminRevoke (footprint : String)
  | adminBind (body : Json) (clock : Clock)

def handle (state : State) : Request → State × Response
  | .verify body clock chain => serve state (verify config state chain clock body)
  | .adminRevoke footprint => adminRevoke state footprint
  | .adminBind body clock => serve state (adminBind state clock body)

def step (state : State) (request : Request) : State := (handle config state request).1

end Registry

end Xcp.Verifier
