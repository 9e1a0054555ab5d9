import Xcp.Library.Merkle
import Xcp.Federation.Identity

/-! Membership of a private federation: a charter commits to the member set by
its root, and a member proves its place under the root that the verifier holds. -/

namespace Xcp.Cluster
open Checked Python Eth Identity

def clusterError {α : Type} (text : String) : Raises α := raise (.package "ClusterError") text

def isClusterError (exception : Exception) : Bool := exception.kind = .package "ClusterError"

/-- What a charter that verified at start-up says. -/
structure Charter where
  clusterId : String
  membershipRoot : String
  epoch : Int
  open_ : Bool := false
deriving DecidableEq, Repr

/-- What a node publishes to be judged by the charter of the reader. -/
structure MembershipClaim where
  clusterId : String
  nodeId : String
  epoch : Int
  proof : List String
deriving DecidableEq, Repr

structure Posture where
  charter : Option Charter := none
  claim : Option MembershipClaim := none

/-- Only members may peer. -/
def Posture.closed (posture : Posture) : Bool := posture.charter.any (fun charter => !charter.open_)

def Posture.clusterId (posture : Posture) : String := (posture.charter.map Charter.clusterId).getD ""

variable [Host]

def readClaim (document : Json) : Raises MembershipClaim := do
  let proof ← document.get "proof"
  let proof ← (proof.orElse (.list [])).toList
  let clusterId ← document.item "clusterId"
  let nodeId ← document.item "nodeId"
  let epoch ← document.item "epoch"
  let epoch ← epoch.toInt
  return { clusterId := clusterId.toStr, nodeId := nodeId.toStr, epoch, proof := proof.map Json.toStr }

def MembershipClaim.fromDict (document : Json) : Raises MembershipClaim :=
  if !document.isDict then clusterError "membership claim must be an object"
  else match readClaim document with
  | .ok claim => .ok claim
  | .error exception =>
    if [.keyError, .typeError, .valueError].contains exception.kind then
      clusterError s!"malformed membership claim: {exception.text}"
    else .error exception

def MembershipClaim.toDict (claim : MembershipClaim) : Json :=
  .dict [("clusterId", .str claim.clusterId), ("nodeId", .str claim.nodeId), ("epoch", .int claim.epoch),
    ("proof", .list (claim.proof.map Json.str))]

/-! ### Proofs -/

def normalise (leaf : String) : Raises String :=
  if !startsWith leaf "0x" || leaf.length ≠ 66 then
    clusterError s!"a member id must be 0x and 32 bytes, got {quoted leaf}"
  else .ok (lower leaf)

def idBytes (id : String) : Raises (List Nat) := fromHex (dropStart id 2)

variable [Packages]

/-- The smaller of the two comes first. -/
def pair (first second : String) : Raises String := do
  let (low, high) := if second < first then (second, first) else (first, second)
  let low ← idBytes low
  let high ← idBytes high
  return digest (low ++ high)

/-- Pairs are sorted and hashed, level by level, and an odd node goes up as it is. -/
def membershipRoot (leaves : List String) : Raises String :=
  if leaves = [] then clusterError "a cluster with no members has no root"
  else do
    let level ← leaves.mapM normalise
    let top ← MerkleTree.ascend pair level.length (level.insertionSort (· ≤ ·))
    return top.headD ""

/-- The siblings on the way up from a member. -/
def membershipProof (leaves : List String) (target : String) : Raises (List String) := do
  let level ← leaves.mapM normalise
  let target ← normalise target
  let sorted := level.insertionSort (· ≤ ·)
  if target ∈ sorted then MerkleTree.siblings pair level.length sorted (sorted.idxOf target)
  else clusterError "that node is not in this member set"

def minLeaves : Nat := 2

/-- What the authority of a cluster keeps to itself. -/
structure MemberSet where
  clusterId : String
  nodeIds : List String := []
  /-- Random values that hide how many members there are. -/
  pads : List String := []
deriving DecidableEq, Repr

def MemberSet.leaves (set : MemberSet) : List String := set.nodeIds ++ set.pads

def MemberSet.root (set : MemberSet) : Raises String := membershipRoot set.leaves

def MemberSet.proofFor (set : MemberSet) (nodeId : String) : Raises (List String) := membershipProof set.leaves nodeId

/-- The pads are random: `tokenBytes` gives 32 bytes whenever it is asked. -/
def buildMemberSet (clusterId : String) (nodeIds : List String) (tokenBytes : Nat → List Nat) : Raises MemberSet := do
  let ids ← nodeIds.mapM normalise
  if ids = [] then clusterError "a cluster needs at least one member"
  else if ¬ ids.Nodup then clusterError "duplicate member ids"
  else
    let pads := (List.range (minLeaves - ids.length)).map (fun index => "0x" ++ toHex (tokenBytes index))
    return { clusterId, nodeIds := ids, pads }

def climb : String → List String → Raises String
  | node, [] => .ok node
  | node, sibling :: rest => do
    let sibling ← normalise sibling
    let node ← pair node sibling
    climb node rest

def verifyMembershipProof (nodeId : String) (proof : List String) (root : String) : Raises Bool := do
  let leaf ← normalise nodeId
  let found ← climb leaf proof
  return found = lower root

def proofProblems (charter : Charter) (claim : MembershipClaim) : Raises (List String) :=
  match verifyMembershipProof claim.nodeId claim.proof charter.membershipRoot with
  | .ok verifies => .ok (problemIf (!verifies) "membership proof does not verify against this cluster's root")
  | .error exception => if isClusterError exception then .ok [exception.text] else .error exception

/-- The problems of a claim; none means the node is a member as the charter
defines the cluster. -/
def verifyMember (charter : Charter) (claim : MembershipClaim) (expectedNodeId : Json) : Raises (List String) := do
  let otherNode ← andThen expectedNodeId.truthy (differs (.str claim.nodeId) expectedNodeId)
  let proof ← proofProblems charter claim
  return problemIf (lower claim.clusterId ≠ lower charter.clusterId) "claim is for a different cluster" ++
    problemIf otherNode
      "claim is for a different node than the one presenting it" ++
    problemIf (claim.epoch < charter.epoch) (s!"claim proves membership of epoch {claim.epoch}, and this cluster " ++
      s!"is at epoch {charter.epoch} — the member set has changed since") ++
    proof

/-! ### Access to gated records -/

def accessTtl : Int := 60

/-- A member's proof, to one audience, that it is a member now. -/
structure AccessRequest where
  claim : MembershipClaim
  audience : String
  issuedAt : Int
  expiresAt : Int
  signature : String := ""
deriving DecidableEq, Repr

/-- Commits to the proof, so that it cannot be exchanged. -/
def proofDigest (claim : MembershipClaim) : String :=
  digestJson (.list [.str claim.clusterId, .str claim.nodeId, .int claim.epoch, .list (claim.proof.map Json.str)])

def readRequest (document : Json) : Raises AccessRequest := do
  let claim ← document.item "claim"
  let claim ← MembershipClaim.fromDict claim
  let audience ← document.item "audience"
  let issuedAt ← document.item "issuedAt"
  let issuedAt ← issuedAt.toInt
  let expiresAt ← document.item "expiresAt"
  let expiresAt ← expiresAt.toInt
  let signature ← document.get "signature"
  return { claim, audience := audience.toStr, issuedAt, expiresAt, signature := (signature.orElse (.str "")).toStr }

def AccessRequest.fromDict (document : Json) : Raises AccessRequest :=
  if !document.isDict then clusterError "access request must be an object"
  else match readRequest document with
  | .ok request => .ok request
  | .error exception =>
    if [.keyError, .typeError, .valueError].contains exception.kind then
      clusterError s!"malformed access request: {exception.text}"
    else .error exception

namespace AccessRequest

def payload (request : AccessRequest) : Json :=
  .dict [("clusterId", .str request.claim.clusterId), ("nodeId", .str request.claim.nodeId),
    ("epoch", .int request.claim.epoch), ("proofRoot", .str (proofDigest request.claim)),
    ("audience", .str (lower request.audience)), ("issuedAt", .int request.issuedAt),
    ("expiresAt", .int request.expiresAt)]

def typed (request : AccessRequest) : TypedData where
  domain := "XCPClusterAccess"
  primaryType := "ClusterAccess"
  fields := [("clusterId", "string"), ("nodeId", "string"), ("epoch", "uint64"), ("proofRoot", "string"),
    ("audience", "string"), ("issuedAt", "uint64"), ("expiresAt", "uint64")]
  message := request.payload

def expired (request : AccessRequest) (now : Int) : Bool := request.expiresAt < now

/-- Whose key the request was signed with. -/
def signer (request : AccessRequest) : Raises String := do
  let signable ← Packages.encode request.typed
  let signature ← fromHex (dropStart request.signature 2)
  Packages.recover signable (.bytes signature)

def signatureProblems (request : AccessRequest) : List String :=
  if request.signature = "" then ["access request is unsigned"]
  else match request.signer with
  | .error exception => [s!"access signature is malformed: {exception.kind.className}"]
  | .ok signer =>
    problemIf (lower (nodeIdFromAddress signer) ≠ lower request.claim.nodeId)
      "access request is not signed by the node its claim names"

def toDict (request : AccessRequest) : Json :=
  .dict [("claim", request.claim.toDict), ("audience", .str request.audience), ("issuedAt", .int request.issuedAt),
    ("expiresAt", .int request.expiresAt), ("signature", .str request.signature)]

end AccessRequest

def signAccessRequest (nodeKey : String) (claim : MembershipClaim) (audience : String) (now : Int) :
    Raises AccessRequest :=
  if strip audience = "" then clusterError "an access request must name its audience"
  else do
    let request : AccessRequest :=
      { claim, audience := lower (strip audience), issuedAt := now, expiresAt := now + accessTtl }
    let signable ← Packages.encode request.typed
    let signature ← Packages.sign signable nodeKey
    return { request with signature := "0x" ++ toHex signature }

/-- The problems of a request; none means a member of the cluster is asking us. -/
def verifyAccessRequest (charter : Charter) (request : AccessRequest) (audience : String) (now maxTtl : Int) :
    Raises (List String) := do
  let member ← verifyMember charter request.claim (.str "")
  return problemIf (lower request.audience ≠ lower (strip audience))
      "access request was minted for a different audience" ++
    problemIf (request.expired now) "access request has expired" ++
    problemIf (now + 5 < request.issuedAt) "access request is issued in the future" ++
    problemIf (maxTtl < request.expiresAt - request.issuedAt) (s!"access request lives longer than {maxTtl}s; " ++
      "refusing a credential whose expiry does not bound replay") ++
    member ++ request.signatureProblems

end Xcp.Cluster
