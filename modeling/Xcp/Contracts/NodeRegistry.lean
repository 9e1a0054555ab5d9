import Mathlib.Logic.Function.Basic
import Xcp.Library.Evm
import Xcp.Library.Merkle
import Xcp.Library.Transition
import Xcp.Federation.Ledger

/-! The NodeRegistry contract: bonded node identities, clusters by membership
root, and optimistic claims for paid transport.

A call that a payee makes from inside a transfer runs after every write of the
function that pays it, so it is the next transaction of the run; `transfers` has
such calls as they are made. -/

namespace Xcp.NodeRegistry
open Checked Evm

structure Node where
  operator : Address := 0
  domainHash : Bytes32 := 0
  nodeId : Bytes32 := 0
  bond : Nat := 0
  registeredAt : Nat := 0
  revokedAt : Nat := 0
  unbondAt : Nat := 0
  exists_ : Bool := false
deriving DecidableEq, Repr

structure Cluster where
  admin : Address := 0
  membershipRoot : Bytes32 := 0
  policyHash : Bytes32 := 0
  bond : Nat := 0
  updatedAt : Nat := 0
  open_ : Bool := false
  exists_ : Bool := false
deriving DecidableEq, Repr

structure Claim where
  root : Bytes32 := 0
  epoch : Nat := 0
  routeCount : Nat := 0
  totalMinor : Nat := 0
  postedAt : Nat := 0
  settled : Bool := false
  challenged : Bool := false
deriving DecidableEq, Repr

inductive Event where
  | nodeRegistered (nodeId : Bytes32) (operator : Address) (bond : Nat)
  | nodeRevoked (nodeId : Bytes32) (at_ : Nat) (reason : String)
  | bondIncreased (nodeId : Bytes32) (total : Nat)
  | clusterUpdated (clusterId membershipRoot policyHash : Bytes32)
  | claimPosted (nodeId : Bytes32) (epoch : Nat) (root : Bytes32) (totalMinor : Nat)
  | claimSettled (nodeId : Bytes32) (epoch amount : Nat)
  | claimChallenged (nodeId : Bytes32) (epoch : Nat) (challenger : Address) (kind : Nat)
  | slashed (nodeId : Bytes32) (amount : Nat) (challenger : Address) (kind : Nat)
  | unbondRequested (nodeId : Bytes32) (claimableAt : Nat)
  | bondWithdrawn (nodeId : Bytes32) (amount : Nat)
deriving DecidableEq, Repr

/-- The contract's errors, and the reverts that the compiler adds. -/
inductive Revert where
  | notOperator | alreadyExists | noSuchNode | bondTooSmall | nodeIsRevoked | claimExists | windowOpen
  | alreadySettled | unbondPending | nothingToWithdraw | cooldownActive | proofDoesNotVerify
  | failed (reason : String)
  | nonPayable
  | overflow
deriving DecidableEq, Repr

structure State where
  nodes : Bytes32 → Node := fun _ => {}
  operatorNode : Address → Bytes32 := fun _ => 0
  clusters : Bytes32 → Cluster := fun _ => {}
  claims : Bytes32 → Nat → Claim := fun _ _ => {}
  spentRoute : Bytes32 → Bool := fun _ => false
  totalForfeited : Nat := 0
  /-- The ether the contract holds. -/
  balance : Nat := 0
  events : List Event := []

def MIN_BOND : Nat := 5 * 10 ^ 16

def CHALLENGE_WINDOW : Nat := 7 * 86400

def CHALLENGER_SHARE_BPS : Nat := 2000

def UNBOND_DELAY : Nat := 14 * 86400

namespace State

def setNode (state : State) (nodeId : Bytes32) (node : Node) : State :=
  { state with nodes := Function.update state.nodes nodeId node }

def setCluster (state : State) (clusterId : Bytes32) (cluster : Cluster) : State :=
  { state with clusters := Function.update state.clusters clusterId cluster }

def setClaim (state : State) (nodeId : Bytes32) (epoch : Nat) (claim : Claim) : State :=
  { state with claims := Function.update state.claims nodeId (Function.update (state.claims nodeId) epoch claim) }

def emit (state : State) (event : Event) : State := { state with events := state.events ++ [event] }

/-- A payable function has the ether of its call from the start. -/
def receive (state : State) (msg : Msg) : State := { state with balance := state.balance + msg.value }

end State

/-- `payee.call{value: amount}("")`, whose failure reverts everything. -/
def pay (state : State) (msg : Msg) (amount : Nat) (reason : String) : Except Revert State := do
  require (msg.accepts = true ∧ amount ≤ state.balance) (.failed reason)
  return { state with balance := state.balance - amount }

def nonPayable (msg : Msg) : Except Revert Unit := require (msg.value = 0) .nonPayable

/-! ### Registration -/

def registerNode (state : State) (msg : Msg) (nodeId domainHash : Bytes32) : Except Revert State := do
  let state := state.receive msg
  require ((state.nodes nodeId).exists_ = false) .alreadyExists
  require (MIN_BOND ≤ msg.value) .bondTooSmall
  let state := state.setNode nodeId
    { operator := msg.sender, domainHash, nodeId, bond := msg.value,
      registeredAt := uint64 msg.timestamp, revokedAt := 0, unbondAt := 0, exists_ := true }
  let state := { state with operatorNode := Function.update state.operatorNode msg.sender nodeId }
  return state.emit (.nodeRegistered nodeId msg.sender msg.value)

def increaseBond (state : State) (msg : Msg) (nodeId : Bytes32) : Except Revert State := do
  let state := state.receive msg
  let node := state.nodes nodeId
  require (node.exists_ = true) .noSuchNode
  let bond ← add 256 .overflow node.bond msg.value
  return (state.setNode nodeId { node with bond }).emit (.bondIncreased nodeId bond)

def revokeNode (state : State) (msg : Msg) (nodeId : Bytes32) (reason : String) : Except Revert State := do
  nonPayable msg
  let node := state.nodes nodeId
  require (node.exists_ = true) .noSuchNode
  require (msg.sender = node.operator) .notOperator
  let revokedAt := uint64 msg.timestamp
  return (state.setNode nodeId { node with revokedAt }).emit (.nodeRevoked nodeId revokedAt reason)

def requestUnbond (state : State) (msg : Msg) (nodeId : Bytes32) : Except Revert State := do
  nonPayable msg
  let node := state.nodes nodeId
  require (node.exists_ = true) .noSuchNode
  require (msg.sender = node.operator) .notOperator
  require (node.unbondAt = 0) .unbondPending
  let unbondAt ← add 64 .overflow (uint64 msg.timestamp) UNBOND_DELAY
  let revokedAt := uint64 msg.timestamp
  let state := state.setNode nodeId { node with unbondAt, revokedAt }
  let state := state.emit (.unbondRequested nodeId unbondAt)
  return state.emit (.nodeRevoked nodeId revokedAt "unbonding")

def withdrawBond (state : State) (msg : Msg) (nodeId : Bytes32) : Except Revert State := do
  nonPayable msg
  let node := state.nodes nodeId
  require (node.exists_ = true) .noSuchNode
  require (msg.sender = node.operator) .notOperator
  require (node.unbondAt ≠ 0) .nothingToWithdraw
  require (node.unbondAt ≤ msg.timestamp) .cooldownActive
  let amount := node.bond
  require (amount ≠ 0) .nothingToWithdraw
  let state := state.setNode nodeId { node with bond := 0 }
  let state := state.emit (.bondWithdrawn nodeId amount)
  pay state msg amount "bond transfer failed"

def isLive (state : State) (nodeId : Bytes32) : Bool :=
  (state.nodes nodeId).exists_ && (state.nodes nodeId).revokedAt = 0

/-! ### Clusters: roots, never rosters -/

section Hashing
variable (keccak256 : Preimage → Bytes32)

/-- `keccak256(abi.encodePacked(a, b))`. -/
def hashPair (a b : Bytes32) : Bytes32 := keccak256 (.packed [a, b])

def upsertCluster (state : State) (msg : Msg) (clusterId membershipRoot policyHash : Bytes32) (open_ : Bool) :
    Except Revert State := do
  let state := state.receive msg
  let cluster := state.clusters clusterId
  require (cluster.exists_ = true → msg.sender = cluster.admin) .notOperator
  require (cluster.exists_ = false → MIN_BOND ≤ msg.value) .bondTooSmall
  let bond ← (if cluster.exists_ then add 256 .overflow cluster.bond msg.value else .ok msg.value :
    Except Revert Nat)
  let admin := if cluster.exists_ then cluster.admin else msg.sender
  let state := state.setCluster clusterId
    { admin, membershipRoot, policyHash, bond, updatedAt := uint64 msg.timestamp, open_, exists_ := true }
  return state.emit (.clusterUpdated clusterId membershipRoot policyHash)

def verifyMembership (state : State) (clusterId nodeId : Bytes32) (proof : List Bytes32) : Bool :=
  (state.clusters clusterId).exists_ &&
    Merkle.climb (hashPair keccak256) nodeId proof = (state.clusters clusterId).membershipRoot

/-! ### Paid transport -/

def postClaim (state : State) (msg : Msg) (nodeId : Bytes32) (epoch : Nat) (root : Bytes32)
    (routeCount totalMinor : Nat) : Except Revert State := do
  nonPayable msg
  let node := state.nodes nodeId
  require (node.exists_ = true) .noSuchNode
  require (msg.sender = node.operator) .notOperator
  require (node.revokedAt = 0) .nodeIsRevoked
  require ((state.claims nodeId epoch).postedAt = 0) .claimExists
  let state := state.setClaim nodeId epoch
    { root, epoch, routeCount, totalMinor, postedAt := uint64 msg.timestamp, settled := false, challenged := false }
  return state.emit (.claimPosted nodeId epoch root totalMinor)

def settleClaim (state : State) (msg : Msg) (nodeId : Bytes32) (epoch : Nat) : Except Revert State := do
  nonPayable msg
  let claim := state.claims nodeId epoch
  require ((state.nodes nodeId).exists_ = true ∧ claim.postedAt ≠ 0) .noSuchNode
  require (claim.settled = false) .alreadySettled
  let closes ← add 64 .overflow claim.postedAt CHALLENGE_WINDOW
  require (closes ≤ msg.timestamp) .windowOpen
  return (state.setClaim nodeId epoch { claim with settled := true }).emit (.claimSettled nodeId epoch claim.totalMinor)

def slash (state : State) (msg : Msg) (nodeId : Bytes32) (challenger : Address) (kind : Nat) :
    Except Revert State := do
  let node := state.nodes nodeId
  let amount := node.bond
  let revokedAt := uint64 msg.timestamp
  let state := state.setNode nodeId { node with bond := 0, revokedAt }
  let share ← mul 256 .overflow amount CHALLENGER_SHARE_BPS
  let reward := share / 10000
  let totalForfeited ← add 256 .overflow state.totalForfeited (amount - reward)
  let state := { state with totalForfeited }
  let state := state.emit (.slashed nodeId amount challenger kind)
  let state := state.emit (.nodeRevoked nodeId revokedAt "slashed")
  pay state msg reward "reward transfer failed"

def challengeDoubleClaim (state : State) (msg : Msg) (nodeId : Bytes32) (epoch : Nat) (routeIdHash leaf : Bytes32)
    (proof : List Bytes32) : Except Revert State := do
  nonPayable msg
  let claim := state.claims nodeId epoch
  require (claim.postedAt ≠ 0) .noSuchNode
  require (claim.settled = false) .alreadySettled
  require (Merkle.climb (hashPair keccak256) leaf proof = claim.root) .proofDoesNotVerify
  if state.spentRoute routeIdHash = false then
    -- the first proven sighting of the route id
    return { state with spentRoute := Function.update state.spentRoute routeIdHash true }
  else
    let state := state.setClaim nodeId epoch { claim with challenged := true }
    let state := state.emit (.claimChallenged nodeId epoch msg.sender 0)
    slash state msg nodeId msg.sender 0

/-! ### Transactions -/

inductive Call where
  | registerNode (nodeId domainHash : Bytes32)
  | increaseBond (nodeId : Bytes32)
  | revokeNode (nodeId : Bytes32) (reason : String)
  | requestUnbond (nodeId : Bytes32)
  | withdrawBond (nodeId : Bytes32)
  | upsertCluster (clusterId membershipRoot policyHash : Bytes32) (open_ : Bool)
  | postClaim (nodeId : Bytes32) (epoch : Nat) (root : Bytes32) (routeCount totalMinor : Nat)
  | settleClaim (nodeId : Bytes32) (epoch : Nat)
  | challengeDoubleClaim (nodeId : Bytes32) (epoch : Nat) (routeIdHash leaf : Bytes32) (proof : List Bytes32)

structure Tx where
  msg : Msg
  call : Call

def execute (state : State) (tx : Tx) : Except Revert State :=
  match tx.call with
  | .registerNode nodeId domainHash => registerNode state tx.msg nodeId domainHash
  | .increaseBond nodeId => increaseBond state tx.msg nodeId
  | .revokeNode nodeId reason => revokeNode state tx.msg nodeId reason
  | .requestUnbond nodeId => requestUnbond state tx.msg nodeId
  | .withdrawBond nodeId => withdrawBond state tx.msg nodeId
  | .upsertCluster clusterId membershipRoot policyHash open_ =>
    upsertCluster state tx.msg clusterId membershipRoot policyHash open_
  | .postClaim nodeId epoch root routeCount totalMinor =>
    postClaim state tx.msg nodeId epoch root routeCount totalMinor
  | .settleClaim nodeId epoch => settleClaim state tx.msg nodeId epoch
  | .challengeDoubleClaim nodeId epoch routeIdHash leaf proof =>
    challengeDoubleClaim keccak256 state tx.msg nodeId epoch routeIdHash leaf proof

/-- A transaction that reverts leaves the state as it was. -/
def step (state : State) (tx : Tx) : State := settle state (execute keccak256 state tx)

def run (txs : List Tx) : State := Transition.run (step keccak256) {} txs

/-! ### Transfers and their payees -/

/-- What the function sends at its end, and nothing where it makes no transfer.
The reward for a challenge is sent even when it is zero. -/
def payout (state : State) (tx : Tx) : Option Nat :=
  match tx.call with
  | .withdrawBond nodeId => some (state.nodes nodeId).bond
  | .challengeDoubleClaim nodeId _ routeIdHash _ _ =>
    if state.spentRoute routeIdHash then some ((state.nodes nodeId).bond * CHALLENGER_SHARE_BPS / 10000) else none
  | _ => none

def Tx.accepted (tx : Tx) : Tx := { tx with msg := { tx.msg with accepts := true } }

/-- The contract beside all the ether that its functions were called with and
all that it sent. -/
structure Account where
  contract : State := {}
  received : Nat := 0
  sent : Nat := 0

def transact (account : Account) (tx : Tx) : Except Revert Account := do
  let contract ← execute keccak256 account.contract tx.accepted
  return { contract, received := account.received + tx.msg.value,
           sent := account.sent + (payout account.contract tx).getD 0 }

/-- Transactions whose payees may call the contract before they take the ether
or refuse it. -/
def transfers : Reentry.Machine Account Tx Revert where
  body := transact keccak256
  pays account tx := (payout account.contract tx).isSome
  takes tx := tx.msg.accepts

end Hashing

end Xcp.NodeRegistry
