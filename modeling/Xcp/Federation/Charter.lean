import Xcp.Federation.Cluster

/-! Charters. The authority of a cluster signs one for the members of an epoch and hands
each of them its claim, and a node starts only with what verifies. -/

namespace Xcp.Cluster
open Checked Python Eth Identity

def defaultCharterTtl : Int := 180 * 86400

def systemExit {α : Type} (text : String) : Raises α := raise (.package "SystemExit") text

def runtimeError {α : Type} (text : String) : Raises α := raise (.package "RuntimeError") text

/-- A signed statement that a cluster has a member set in an epoch, which names no member.
The fields are as they came. -/
structure ClusterCharter where
  clusterId : Json
  membershipRoot : Json
  policyHash : Json
  epoch : Json
  notBefore : Json
  notAfter : Json
  /-- The address that signs. -/
  authority : Json
  open_ : Json := .bool false
  specVersion : Json := .str "0.1-draft"
  signature : Json := .str ""
deriving DecidableEq

/-! ### Documents -/

def camel : List (String × String) :=
  [("clusterId", "cluster_id"), ("membershipRoot", "membership_root"), ("policyHash", "policy_hash"),
   ("notBefore", "not_before"), ("notAfter", "not_after"), ("specVersion", "spec_version")]

def snake (key : String) : String := (camel.lookup key).getD key

/-- How a list of texts prints. -/
def listOf (names : List String) : String := "[" ++ joinWith ", " (names.map quoted) ++ "]"

namespace ClusterCharter

def required : List String :=
  ["cluster_id", "membership_root", "policy_hash", "epoch", "not_before", "not_after", "authority"]

def spells (name : String) : Json → Bool
  | .str key => snake key = name
  | _ => false

def missing (keys : List Json) : List String :=
  ["authority", "cluster_id", "epoch", "membership_root"].filter (fun name => !keys.any (spells name))

/-- The members under the names of the fields, the last one first. -/
def named (members : List (String × Json)) : List (String × Json) :=
  (members.map (fun member => (snake member.1, member.2))).reverse

/-- Of two spellings of a field the last one counts. -/
def fromDict (document : Json) : Raises ClusterCharter := do
  let keys ← document.toList
  let _ ← require (missing keys = []) (⟨.package "ClusterError", s!"charter is missing {listOf (missing keys)}"⟩ : Exception)
  match document with
  | .dict members => do
    let named := named members
    let _ ← requireFields "ClusterCharter" required named
    return {
      clusterId := field named "cluster_id"
      membershipRoot := field named "membership_root"
      policyHash := field named "policy_hash"
      epoch := field named "epoch"
      notBefore := field named "not_before"
      notAfter := field named "not_after"
      authority := field named "authority"
      open_ := field named "open" (.bool false)
      specVersion := field named "spec_version" (.str "0.1-draft")
      signature := field named "signature" (.str "") }
  | other => other.noAttribute "items"

def payload (charter : ClusterCharter) : Json :=
  .dict [("clusterId", charter.clusterId), ("membershipRoot", charter.membershipRoot),
    ("policyHash", charter.policyHash), ("epoch", charter.epoch), ("notBefore", charter.notBefore),
    ("notAfter", charter.notAfter), ("open", charter.open_)]

def members (charter : ClusterCharter) : List (String × Json) :=
  [("cluster_id", charter.clusterId), ("membership_root", charter.membershipRoot), ("policy_hash", charter.policyHash),
   ("epoch", charter.epoch), ("not_before", charter.notBefore), ("not_after", charter.notAfter),
   ("authority", charter.authority), ("open", charter.open_), ("spec_version", charter.specVersion),
   ("signature", charter.signature)]

def toDict (charter : ClusterCharter) : Json := .dict charter.members

def typed (charter : ClusterCharter) : TypedData where
  domain := "XCPClusterCharter"
  primaryType := "ClusterCharter"
  fields := [("clusterId", "string"), ("membershipRoot", "string"), ("policyHash", "string"), ("epoch", "uint64"),
    ("notBefore", "uint64"), ("notAfter", "uint64"), ("open", "bool")]
  message := charter.payload

def active (charter : ClusterCharter) (now : Int) : Raises Bool := do
  let begun ← charter.notBefore.le (.int now)
  andThen begun ((Json.int now).le charter.notAfter)

/-- What the node judges claims by. What a text or a whole number is asked of here is one,
or the node has stopped before. -/
def held (charter : ClusterCharter) : Raises Charter := do
  let clusterId ← charter.clusterId.asStr "lower"
  let membershipRoot ← charter.membershipRoot.asStr "startswith"
  match charter.epoch with
  | .int epoch => return { clusterId, membershipRoot, epoch, open_ := charter.open_.truthy }
  | other => raise .typeError s!"'<' not supported between instances of 'int' and '{other.typeName}'"

end ClusterCharter

/-- `bytes.fromhex(value[2:])`. -/
def bytesBehind (value : Json) : Raises (List Nat) :=
  match value with
  | .str text => fromHex (dropStart text 2)
  | .list _ => raise .typeError "fromhex() argument must be str, not list"
  | .dict _ => raise .typeError "unhashable type: 'slice'"
  | other => raise .typeError s!"'{other.typeName}' object is not subscriptable"

variable [Host]

def rootProblems (root : Json) : Raises (List String) := do
  let root ← root.asStr "startswith"
  match normalise root with
  | .ok _ => return []
  | .error exception => return [exception.text]

section Signing
variable [Packages]

namespace ClusterCharter

/-- Whose key the charter was signed with. -/
def signer (charter : ClusterCharter) : Raises String := do
  let signable ← Packages.encode charter.typed
  let signature ← bytesBehind charter.signature
  Packages.recover signable (.bytes signature)

def signatureProblems (charter : ClusterCharter) : Raises (List String) :=
  if !charter.signature.truthy then .ok ["charter is unsigned"]
  else
    match charter.signer with
    | .error exception => .ok [s!"charter signature is malformed: {exception.kind.className}"]
    | .ok signer => do
      let authority ← charter.authority.lower
      return problemIf (lower signer ≠ authority) "charter signature does not match its authority"

end ClusterCharter

structure CharterExpected where
  clusterId : String := ""
  authority : String := ""
  minEpoch : Int := 0

/-- The problems of a charter; none means that the authority says so of its cluster now. -/
def verifyCharter (charter : ClusterCharter) (expected : CharterExpected) (now : Int) : Raises (List String) := do
  let otherCluster ← andThen (expected.clusterId ≠ "") (differs charter.clusterId (.str expected.clusterId))
  let otherAuthority ← andThen (expected.authority ≠ "") (differs charter.authority (.str expected.authority))
  let active ← charter.active now
  let older ← charter.epoch.lt (.int expected.minEpoch)
  let root ← rootProblems charter.membershipRoot
  let unsigned ← charter.signatureProblems
  return problemIf otherCluster "charter is for a different cluster" ++
    problemIf otherAuthority s!"charter is signed by {charter.authority.toStr}, not the expected authority" ++
    problemIf (!active) "charter is expired or not yet valid" ++
    problemIf older (s!"charter epoch {charter.epoch.toStr} is older than {expected.minEpoch} — " ++
      "refusing a rolled-back charter") ++
    root ++ unsigned

/-! ### The authority -/

structure CharterTerms where
  policyHash : String := "0x" ++ toHex (List.replicate 32 0)
  epoch : Int
  open_ : Bool := false
  ttl : Int := defaultCharterTtl

variable [Accounts]

def signCharter (authorityKey : String) (members : MemberSet) (terms : CharterTerms) (now : Int) : Raises ClusterCharter :=
  if terms.epoch < 1 then clusterError "epoch starts at 1"
  else do
    let address ← Accounts.address authorityKey
    let root ← members.root
    let unsigned : ClusterCharter := {
      clusterId := .str members.clusterId
      membershipRoot := .str root
      policyHash := .str terms.policyHash
      epoch := .int terms.epoch
      notBefore := .int now
      notAfter := .int (now + terms.ttl)
      authority := .str address
      open_ := .bool terms.open_ }
    let signable ← Packages.encode unsigned.typed
    let signature ← Packages.sign signable authorityKey
    return { unsigned with signature := .str ("0x" ++ toHex signature) }

omit [Accounts] in
/-- What the authority hands to a member. -/
def issueClaim (members : MemberSet) (nodeId : String) (epoch : Int) : Raises MembershipClaim := do
  let id ← normalise nodeId
  let proof ← members.proofFor nodeId
  return { clusterId := members.clusterId, nodeId := id, epoch, proof }

omit [Accounts] in
def clusterIdFromName (name : String) : Raises String :=
  if strip name = "" then clusterError "a cluster needs a name"
  else .ok (digest (utf8 ("xcp-cluster:" ++ lower (strip name))))

/-- What `cluster-charter.py issue` is called with. -/
structure IssueArgs where
  name : String
  members : List String
  terms : CharterTerms
  /-- The `members.json` of an earlier issue. -/
  membersIn : Option MemberSet := none

/-- What it writes. The members stay with the authority. -/
structure Issued where
  charter : ClusterCharter
  members : MemberSet
  claims : List MembershipClaim

/-- An unchanged set of a single member keeps its pads, and with them its root. -/
def carryPads (built : MemberSet) (prior : Option MemberSet) (count : Nat) : MemberSet :=
  match prior with
  | none => built
  | some prior => if prior.pads ≠ [] ∧ count < 2 then { built with pads := prior.pads } else built

omit [Accounts] in
/-- A claim is written where it verifies under the charter. -/
def checkedClaim (charter : ClusterCharter) (members : MemberSet) (epoch : Int) (nodeId : String) : Raises MembershipClaim := do
  let claim ← issueClaim members nodeId epoch
  let held ← charter.held
  match ← verifyMember held claim (.str nodeId) with
  | [] => return claim
  | problem :: _ => systemExit s!"the proof for {nodeId} does not verify: {problem}"

/-- The clock is read when the charter is signed and again when it is checked. -/
def issue (authorityKey : String) (args : IssueArgs) (tokenBytes : Nat → List Nat) (signedAt checkedAt : Int) :
    Raises Issued := do
  let clusterId ← clusterIdFromName args.name
  let _ ← if args.membersIn.any (fun prior => lower prior.clusterId ≠ lower clusterId) then
      systemExit "members.json is for a different cluster"
    else pure ()
  let built ← (buildMemberSet clusterId (args.members.map (fun member => lower (strip member))) tokenBytes).mapError
    (fun exception => if isClusterError exception then ⟨.package "SystemExit", exception.text⟩ else exception)
  let members := carryPads built args.membersIn args.members.length
  let charter ← signCharter authorityKey members args.terms signedAt
  match ← verifyCharter charter { clusterId, authority := charter.authority.toStr } checkedAt with
  | problem :: _ => systemExit s!"the charter this script just signed does not verify: {problem}"
  | [] => do
    let claims ← members.nodeIds.mapM (checkedClaim charter members args.terms.epoch)
    return { charter, members, claims }

end Signing

/-! ### The start of a node -/

/-- The environment that a node starts in. -/
structure ClusterEnv where
  charterPath : String := ""
  claimPath : String := ""
  authority : String := ""
  minEpoch : String := "0"

/-- What a path is read as; none where no file is there. -/
abbrev Files := String → Option (Raises Json)

structure LoadedPosture where
  charter : Option ClusterCharter := none
  claim : Option MembershipClaim := none

/-- `int(value or 0)`. -/
def readMinEpoch (value : String) : Raises Int := if value = "" then .ok 0 else intOfText value

variable [Packages]

omit [Packages] in
def readDocument {α : Type} (files : Files) (variable_ path what : String) (read : Json → Raises α) : Raises α :=
  match files path with
  | none => clusterError s!"{variable_}={quoted path} is not a readable file"
  | some document => (document >>= read).mapError (fun exception =>
      if isClusterError exception then exception
      else ⟨.package "ClusterError", s!"{variable_}={quoted path} is not a valid {what}: {exception.text}"⟩)

def loadClaim (env : ClusterEnv) (files : Files) (charter : ClusterCharter) : Raises (Option MembershipClaim) :=
  if strip env.claimPath = "" then .ok none
  else do
    let claim ← readDocument files "XCP_CLUSTER_MEMBERSHIP" (strip env.claimPath) "claim" MembershipClaim.fromDict
    let held ← charter.held
    match ← verifyMember held claim (.str "") with
    | [] => return some claim
    | problem :: _ => clusterError (s!"this node's own membership does not verify: {problem}. A node that cannot " ++
        "prove its own membership cannot expect peers to accept it")

/-- A charter is loaded where it verifies, and a claim where it verifies under the charter. -/
def loadPosture (env : ClusterEnv) (files : Files) (now : Int) : Raises LoadedPosture :=
  if strip env.charterPath = "" then .ok {}
  else do
    let charter ← readDocument files "XCP_CLUSTER_CHARTER" (strip env.charterPath) "charter" ClusterCharter.fromDict
    let minEpoch ← readMinEpoch env.minEpoch
    match ← verifyCharter charter { authority := strip env.authority, minEpoch } now with
    | problem :: _ => clusterError s!"cluster charter did not verify: {problem}"
    | [] => do
      let claim ← loadClaim env files charter
      return { charter := some charter, claim }

def anotherNode (claim nodeId : String) : String :=
  s!"XCP_CLUSTER_MEMBERSHIP is a claim for node {claim}, but this node is {nodeId}. That claim belongs to a different " ++
    "node — check you have not copied another datacentre's membership file. Refusing to start."

/-- The gateway's start: it prints the start of the cluster's id, and its claim is about itself
where it has an identity. -/
def startCluster (env : ClusterEnv) (files : Files) (nodeId : Option String) (now : Int) : Raises Posture := do
  let loaded ← (loadPosture env files now).mapError (fun exception =>
    if isClusterError exception then ⟨.package "RuntimeError", exception.text ++ "\nRefusing to start."⟩ else exception)
  match loaded.charter with
  | none => return {}
  | some charter => do
    let _ ← charter.clusterId.takeFirst 14
    let held ← charter.held
    match loaded.claim, nodeId with
    | some claim, some nodeId =>
      if lower claim.nodeId = lower nodeId then return { charter := some held, claim := some claim }
      else runtimeError (anotherNode claim.nodeId nodeId)
    | claim, _ => return { charter := some held, claim }

end Xcp.Cluster
