import Mathlib.Data.String.Basic
import Xcp.Library.Dict
import Xcp.Library.Eth
import Xcp.Library.Merkle
import Xcp.Library.Transition

/-! Paid transport: the receipt of one routed call, signed by its payer. -/

namespace Xcp.Transport
open Checked Python Eth

/-- What a node actually did, which is what it may charge for. -/
inductive RouteClass where
  | a2t | a2a | t2t | wrap | relay
deriving DecidableEq, Repr

def RouteClass.value : RouteClass → String
  | .a2t => "a2t"
  | .a2a => "a2a"
  | .t2t => "t2t"
  | .wrap => "wrap"
  | .relay => "relay"

/-- One routed call. The scope and the peer are kept for a dispute only. -/
structure TransportReceipt where
  routeId : String
  nodeId : String
  payerAgent : Int
  routeClass : RouteClass
  priceMinor : Int
  currency : String := "USDC"
  epoch : Int := 0
  ts : Int := 0
  scope : String := ""
  peerHint : String := ""
  payerAddress : String := ""
  signature : String := ""
deriving DecidableEq, Repr

/-- Exactly what the payer signs, and the only fields that reach the Merkle tree. -/
def TransportReceipt.billablePayload (receipt : TransportReceipt) : Json :=
  .dict [("routeId", .str receipt.routeId), ("nodeId", .str receipt.nodeId),
    ("payerAgent", .int receipt.payerAgent), ("class", .str receipt.routeClass.value),
    ("priceMinor", .int receipt.priceMinor), ("currency", .str receipt.currency),
    ("epoch", .int receipt.epoch)]

def typed (payload : Json) (chainId : Int) : TypedData where
  domain := "XCPTransport"
  primaryType := "TransportReceipt"
  fields := [("routeId", "string"), ("nodeId", "string"), ("payerAgent", "uint256"), ("class", "string"),
    ("priceMinor", "uint256"), ("currency", "string"), ("epoch", "uint64")]
  chainId := .int chainId
  message := payload

variable [Host] [Packages]

def TransportReceipt.leaf (receipt : TransportReceipt) : String := digestJson receipt.billablePayload

def signer (payload : Json) (chainId : Int) (signature : Json) : Raises String := do
  let signable ← Packages.encode (typed payload chainId)
  Packages.recover signable (.given signature)

def signatureProblems (receipt : TransportReceipt) (chainId : Int) : List String :=
  if receipt.signature = "" then ["unsigned — a node cannot bill for a route nobody authorised"]
  else
    match signer receipt.billablePayload chainId (.str receipt.signature) with
    | .ok recovered =>
      problemIf (receipt.payerAddress ≠ "" && lower recovered ≠ lower receipt.payerAddress)
        "signature does not match the declared payer"
    | .error exception => [s!"signature failed to recover: {exception.text}"]

def verifyReceipt (receipt : TransportReceipt) (chainId : Int) (expectedNode : String) : List String :=
  problemIf (receipt.priceMinor < 0) "negative price" ++
    problemIf (receipt.routeId = "") "no route id" ++
    problemIf (expectedNode ≠ "" && receipt.nodeId ≠ expectedNode) "receipt is for a different node" ++
    signatureProblems receipt chainId

end Xcp.Transport

/-! What a node keeps of its routes, what it publishes of them once an epoch is
closed, and the fraud proofs that anyone can check. -/

namespace Xcp.Transport
open Checked Python Eth

def EPOCH_SECONDS : Int := 3600

def genesis : String := "0x" ++ toHex (List.replicate 32 0)

def transportError {α : Type} (text : String) : Raises α := raise (.package "TransportError") text

def sorted (leaves : List String) : List String := leaves.insertionSort (· ≤ ·)

/-- Round a route count up to a bucket before it is published. -/
def bucketCount (count bucket : Int) : Int :=
  if bucket ≤ 1 then count else (count + bucket - 1) / bucket * bucket

/-- The entire public footprint of an epoch's traffic. -/
structure EpochCommitment where
  nodeId : String
  epoch : Int
  root : String
  routeCount : Int
  totalMinor : Int
  currency : String := "USDC"
  specVersion : String := "0.1-draft"
deriving DecidableEq, Repr

structure RoutingLedger where
  nodeId : String
  chainId : Int := 8453
  receipts : Dict Int (List TransportReceipt) := {}
  claimedRoutes : List String := []
  committed : Dict Int EpochCommitment := {}

def RoutingLedger.held (ledger : RoutingLedger) (epoch : Int) : List TransportReceipt :=
  (ledger.receipts.get? epoch).getD []

def epochOf (clock : Int) : Int := clock / EPOCH_SECONDS

/-- `receipt.epoch or self.epoch_of()`. -/
def filedUnder (receipt : TransportReceipt) (clock : Int) : Int :=
  if receipt.epoch = 0 then epochOf clock else receipt.epoch

def RoutingLedger.file (ledger : RoutingLedger) (receipt : TransportReceipt) (epoch : Int) : RoutingLedger :=
  { ledger with
    receipts := ledger.receipts.set epoch (ledger.held epoch ++ [{ receipt with epoch }])
    claimedRoutes := ledger.claimedRoutes ++ [receipt.routeId] }

section Trees
variable [Packages]

def pair (first second : String) : Raises String := do
  let (low, high) := if second < first then (second, first) else (first, second)
  let low ← fromHex (dropStart low 2)
  let high ← fromHex (dropStart high 2)
  return digest (low ++ high)

theorem pair_comm (first second : String) : pair first second = pair second first := by
  rcases lt_trichotomy first second with less | rfl | greater
  · simp [pair, less, less.asymm]
  · rfl
  · simp [pair, greater, greater.asymm]

def merkleRoot (leaves : List String) : Raises String :=
  if leaves = [] then .ok genesis
  else do
    let top ← MerkleTree.ascend pair leaves.length (sorted leaves)
    return top.headD genesis

def merkleProof (leaves : List String) (target : String) : Raises (List String) :=
  if (sorted leaves).contains target then
    MerkleTree.siblings pair leaves.length (sorted leaves) ((sorted leaves).idxOf target)
  else transportError "leaf not in the tree"

/-- Where a tree has a root, each of its leaves has a proof that leads to it. -/
theorem merkleProof_climbs {leaves : List String} {root : String} (built : merkleRoot leaves = .ok root) {leaf : String}
    (member : leaf ∈ leaves) :
    ∃ proof, merkleProof leaves leaf = .ok proof ∧ MerkleTree.climb pair leaf proof = .ok root := by
  have inside : leaf ∈ sorted leaves := (List.mem_insertionSort _).mpr member
  have nonempty : leaves ≠ [] := List.ne_nil_of_mem member
  simp only [merkleRoot, nonempty, if_false, bind_eq_ok, pure_eq_ok] at built
  obtain ⟨top, up, head⟩ := built
  have size : (sorted leaves).length = leaves.length := List.length_insertionSort _ _
  obtain ⟨single, rfl⟩ := MerkleTree.ascend_single (by omega) (List.ne_nil_of_mem inside) up
  obtain rfl : single = root := head
  have here : (sorted leaves)[(sorted leaves).idxOf leaf]? = some leaf := List.getElem?_idxOf inside
  obtain ⟨proof, met, climbs⟩ := MerkleTree.siblings_climb pair_comm up here
  exact ⟨proof, by simp [merkleProof, inside, met], climbs⟩

/-- `_pair` on the nodes that a disclosure names: only strings can be hashed. -/
def pairAny (first second : Json) : Raises Json :=
  match first, second with
  | .str first, .str second => do
    let parent ← pair first second
    return .str parent
  | first, second =>
    raise .typeError s!"'<' not supported between instances of '{second.typeName}' and '{first.typeName}'"

def verifyProof (leaf proof root : Json) : Raises Bool := do
  let proof ← proof.toList
  let node ← MerkleTree.climb pairAny leaf proof
  return node.same root

theorem climb_pairAny (leaf : String) (proof : List String) :
    MerkleTree.climb pairAny (.str leaf) (proof.map Json.str) = Json.str <$> MerkleTree.climb pair leaf proof := by
  induction proof generalizing leaf with
  | nil => rfl
  | cons sibling rest ih =>
    simp only [MerkleTree.climb, List.map_cons, List.foldlM_cons] at ih ⊢
    simp only [pairAny]
    cases pair leaf sibling with
    | error exception => rfl
    | ok parent => exact ih parent

theorem verifyProof_of_climb {leaf root : String} {proof : List String}
    (climbs : MerkleTree.climb pair leaf proof = .ok root) :
    verifyProof (.str leaf) (.list (proof.map Json.str)) (.str root) = .ok true := by
  simp [verifyProof, Json.toList, ok_bind, climb_pairAny, climbs, Functor.map, Except.map, Json.same, Json.number?]

end Trees

variable [Host] [Packages]

namespace RoutingLedger

def record (ledger : RoutingLedger) (receipt : TransportReceipt) (clock : Int) : RoutingLedger × List String :=
  match verifyReceipt receipt ledger.chainId ledger.nodeId with
  | problem :: rest => (ledger, problem :: rest)
  | [] =>
    if ledger.claimedRoutes.contains receipt.routeId then
      (ledger, ["route id already claimed — double-billing is provable fraud"])
    else if (ledger.committed.get? receipt.epoch).isSome then
      (ledger, [s!"epoch {receipt.epoch} is already committed"])
    else (ledger.file receipt (filedUnder receipt clock), [])

def leaves (ledger : RoutingLedger) (epoch : Int) : List String := (ledger.held epoch).map TransportReceipt.leaf

/-- Close an epoch and produce the only artifact that goes public. -/
def commit (ledger : RoutingLedger) (epoch bucket : Int) : Raises (RoutingLedger × EpochCommitment) :=
  match ledger.held epoch with
  | [] => transportError s!"nothing to commit for epoch {epoch}"
  | first :: rest =>
    if (ledger.committed.get? epoch).isSome then transportError s!"epoch {epoch} already committed"
    else do
      let root ← merkleRoot (ledger.leaves epoch)
      let commitment : EpochCommitment := {
        nodeId := ledger.nodeId
        epoch
        root
        routeCount := bucketCount (first :: rest).length bucket
        totalMinor := ((first :: rest).map TransportReceipt.priceMinor).sum
        currency := first.currency }
      return ({ ledger with committed := ledger.committed.set epoch commitment }, commitment)

def prove (ledger : RoutingLedger) (epoch : Int) (routeId : String) : Raises Json :=
  match (ledger.held epoch).find? (fun receipt => receipt.routeId = routeId) with
  | none => transportError "no such route in that epoch"
  | some target => do
    let proof ← merkleProof (ledger.leaves epoch) target.leaf
    let root ← merkleRoot (ledger.leaves epoch)
    return .dict [("receipt", target.billablePayload), ("signature", .str target.signature),
      ("payerAddress", .str target.payerAddress), ("leaf", .str target.leaf), ("proof", .list (proof.map Json.str)),
      ("root", .str root)]

end RoutingLedger

/-! ### Fraud proofs -/

/-- Whether the payer's signature of a disclosed receipt does not verify. -/
def proveBadSignature (disclosure : Json) (chainId : Int) : Raises Bool :=
  let recovered : Raises String := do
    let receipt ← disclosure.item "receipt"
    let signable ← Packages.encode (typed receipt chainId)
    let signature ← disclosure.item "signature"
    Packages.recover signable (.given signature)
  match recovered with
  | .error _ => .ok true
  | .ok recovered => do
    let named ← disclosure.get "payerAddress" (.str "")
    return lower recovered ≠ lower named.toStr

def proveNotInTree (disclosure : Json) : Raises Bool := do
  let leaf ← disclosure.item "leaf"
  let proof ← disclosure.item "proof"
  let root ← disclosure.item "root"
  let inside ← verifyProof leaf proof root
  return !inside

/-- Whether one route id was billed in two epochs. -/
def proveDoubleClaim (first second : EpochCommitment) (disclosureA disclosureB : Json) : Raises Bool :=
  if first.epoch = second.epoch then .ok false
  else do
    let receiptA ← disclosureA.item "receipt"
    let receiptB ← disclosureB.item "receipt"
    let routeA ← receiptA.get "routeId"
    let routeB ← receiptB.get "routeId"
    if !routeA.same routeB then return false
    let leafA ← disclosureA.item "leaf"
    let proofA ← disclosureA.item "proof"
    let insideA ← verifyProof leafA proofA (.str first.root)
    if !insideA then return false
    let leafB ← disclosureB.item "leaf"
    let proofB ← disclosureB.item "proof"
    verifyProof leafB proofB (.str second.root)

/-! ### Calls -/

inductive Call where
  | record (receipt : TransportReceipt) (clock : Int)
  | commit (epoch bucket : Int)

def step (ledger : RoutingLedger) : Call → RoutingLedger
  | .record receipt clock => (ledger.record receipt clock).1
  | .commit epoch bucket => settle ledger (Prod.fst <$> ledger.commit epoch bucket)

end Xcp.Transport
