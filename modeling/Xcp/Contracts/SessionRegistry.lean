import Mathlib.Logic.Function.Basic
import Xcp.Library.Evm
import Xcp.Library.Transition

/-! The SessionRegistry contract: an agent's identity bound to a live session
through the footprint of its certificate. Bindings are kept by footprint, the
right to revoke and to update them by session id. -/

namespace Xcp.SessionRegistry
open Checked Evm

structure SessionBinding where
  agentId : Nat := 0
  certFootprint : Bytes32 := 0
  notBefore : Nat := 0
  notAfter : Nat := 0
  mandateRoot : Bytes32 := 0
  railsBitmap : Bytes32 := 0
  revoked : Bool := false
deriving DecidableEq, Repr

inductive Event where
  | sessionBound (sessionId : Bytes32) (agentId : Nat) (certFootprint : Bytes32) (notAfter : Nat)
  | sessionRevoked (sessionId : Bytes32) (agentId : Nat)
  | mandateRootUpdated (sessionId newRoot : Bytes32)
deriving DecidableEq, Repr

inductive Revert where
  | failed (reason : String)
  | nonPayable
deriving DecidableEq, Repr

structure State where
  byFootprint : Bytes32 → SessionBinding := fun _ => {}
  footprintOf : Bytes32 → Bytes32 := fun _ => 0
  controllerOf : Bytes32 → Address := fun _ => 0
  agentController : Nat → Address := fun _ => 0
  isGuardian : Nat → Address → Bool := fun _ _ => false
  events : List Event := []

def MAX_TTL : Nat := 7 * 86400

namespace State

def setBinding (state : State) (footprint : Bytes32) (binding : SessionBinding) : State :=
  { state with byFootprint := Function.update state.byFootprint footprint binding }

def setSession (state : State) (sessionId footprint : Bytes32) (controller : Address) : State :=
  { state with
    footprintOf := Function.update state.footprintOf sessionId footprint
    controllerOf := Function.update state.controllerOf sessionId controller }

def emit (state : State) (event : Event) : State := { state with events := state.events ++ [event] }

end State

def nonPayable (msg : Msg) : Except Revert Unit := require (msg.value = 0) .nonPayable

def bindSession (keccak256 : Preimage → Bytes32) (state : State) (msg : Msg) (agentId : Nat)
    (certFootprint : Bytes32) (notAfter : Nat) (mandateRoot railsBitmap : Bytes32) : Except Revert State := do
  nonPayable msg
  require (certFootprint ≠ 0) (.failed "footprint=0")
  require (msg.timestamp < notAfter) (.failed "expired")
  require (notAfter ≤ msg.timestamp + MAX_TTL) (.failed "ttl>7d")
  let ctrl := state.agentController agentId
  require (ctrl ≠ 0 → msg.sender = ctrl ∨ state.isGuardian agentId msg.sender = true) (.failed "not agent controller")
  let controller := if ctrl = 0 then msg.sender else ctrl
  let state := { state with agentController := Function.update state.agentController agentId controller }
  let sessionId := keccak256 (.packed [agentId, certFootprint, notAfter])
  let state := state.setBinding certFootprint
    { agentId, certFootprint, notBefore := uint64 msg.timestamp, notAfter, mandateRoot, railsBitmap, revoked := false }
  let state := state.setSession sessionId certFootprint msg.sender
  return state.emit (.sessionBound sessionId agentId certFootprint notAfter)

/-- The checks that revoking and updating a session share. -/
def authorize (state : State) (msg : Msg) (sessionId : Bytes32) : Except Revert Bytes32 := do
  nonPayable msg
  let footprint := state.footprintOf sessionId
  require (footprint ≠ 0) (.failed "unknown session")
  let binding := state.byFootprint footprint
  require (msg.sender = state.controllerOf sessionId ∨ state.isGuardian binding.agentId msg.sender = true)
    (.failed "not authorized")
  return footprint

def revokeSession (state : State) (msg : Msg) (sessionId : Bytes32) : Except Revert State := do
  let footprint ← authorize state msg sessionId
  let binding := state.byFootprint footprint
  let state := state.setBinding footprint { binding with revoked := true }
  return state.emit (.sessionRevoked sessionId binding.agentId)

def updateMandateRoot (state : State) (msg : Msg) (sessionId newRoot : Bytes32) : Except Revert State := do
  let footprint ← authorize state msg sessionId
  let binding := state.byFootprint footprint
  let state := state.setBinding footprint { binding with mandateRoot := newRoot }
  return state.emit (.mandateRootUpdated sessionId newRoot)

def addGuardian (state : State) (msg : Msg) (agentId : Nat) (guardian : Address) : Except Revert State := do
  nonPayable msg
  require (msg.sender = state.agentController agentId) (.failed "not controller")
  return { state with
    isGuardian := Function.update state.isGuardian agentId
      (Function.update (state.isGuardian agentId) guardian true) }

structure Verdict where
  valid : Bool
  agentId : Nat
  mandateRoot : Bytes32
  railsBitmap : Bytes32
deriving DecidableEq, Repr

def verifySession (state : State) (timestamp : Nat) (certFootprint : Bytes32) : Verdict :=
  let binding := state.byFootprint certFootprint
  { valid := binding.certFootprint ≠ 0 && !binding.revoked && timestamp < binding.notAfter &&
      binding.notBefore ≤ timestamp
    agentId := binding.agentId
    mandateRoot := binding.mandateRoot
    railsBitmap := binding.railsBitmap }

/-! ### Transactions -/

inductive Call where
  | bindSession (agentId : Nat) (certFootprint : Bytes32) (notAfter : Nat) (mandateRoot railsBitmap : Bytes32)
  | revokeSession (sessionId : Bytes32)
  | updateMandateRoot (sessionId newRoot : Bytes32)
  | addGuardian (agentId : Nat) (guardian : Address)

structure Tx where
  msg : Msg
  call : Call

section Hashing
variable (keccak256 : Preimage → Bytes32)

def execute (state : State) (tx : Tx) : Except Revert State :=
  match tx.call with
  | .bindSession agentId certFootprint notAfter mandateRoot railsBitmap =>
    bindSession keccak256 state tx.msg agentId certFootprint notAfter mandateRoot railsBitmap
  | .revokeSession sessionId => revokeSession state tx.msg sessionId
  | .updateMandateRoot sessionId newRoot => updateMandateRoot state tx.msg sessionId newRoot
  | .addGuardian agentId guardian => addGuardian state tx.msg agentId guardian

def step (state : State) (tx : Tx) : State := settle state (execute keccak256 state tx)

def run (txs : List Tx) : State := Transition.run (step keccak256) {} txs

end Hashing

end Xcp.SessionRegistry
