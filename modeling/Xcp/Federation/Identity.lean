import Xcp.Library.Eth

/-! A node's stable identity, the certificates it presents under it, and the
revocations it signs. Documents are taken as they came. -/

namespace Xcp.Identity
open Checked Python Eth

def rotationGrace : Int := 48 * 3600

variable [Host]

def differs (value expected : Json) : Raises Bool := do
  let value ← value.lower
  let expected ← expected.lower
  return value ≠ expected

theorem differs_self (text : String) : differs (.str text) (.str text) = .ok false := by
  simp [differs, Json.lower, Json.asStr]

variable [Packages]

/-- The permanent identifier of the node whose long-lived key has the address. -/
def nodeIdFromAddress (address : String) : String := digest (utf8 (lower address))

/-! ### Certificate bindings -/

/-- A signed statement that an identity presents a certificate. -/
structure CertBinding where
  nodeId : Json
  certFootprint : Json
  sequence : Json
  notBefore : Json
  notAfter : Json
  domain : Json := .str ""
  signer : Json := .str ""
  signature : Json := .str ""
deriving DecidableEq

namespace CertBinding

def payload (binding : CertBinding) : Json :=
  .dict [("nodeId", binding.nodeId), ("certFootprint", binding.certFootprint), ("sequence", binding.sequence),
    ("notBefore", binding.notBefore), ("notAfter", binding.notAfter), ("domain", binding.domain)]

def typed (binding : CertBinding) : TypedData where
  domain := "XCPNodeIdentity"
  primaryType := "CertBinding"
  fields := [("nodeId", "string"), ("certFootprint", "string"), ("sequence", "uint64"), ("notBefore", "uint64"),
    ("notAfter", "uint64"), ("domain", "string")]
  message := binding.payload

def fromDict (document : Json) : Raises CertBinding :=
  match document with
  | .dict members => do
    let _ ← requireFields "CertBinding" ["node_id", "cert_footprint", "sequence", "not_before", "not_after"] members
    return {
      nodeId := field members "node_id"
      certFootprint := field members "cert_footprint"
      sequence := field members "sequence"
      notBefore := field members "not_before"
      notAfter := field members "not_after"
      domain := field members "domain" (.str "")
      signer := field members "signer" (.str "")
      signature := field members "signature" (.str "") }
  | other => other.noAttribute "items"

def active (binding : CertBinding) (now grace : Int) : Raises Bool := do
  let begun ← binding.notBefore.le (.int now)
  andThen begun (binding.notAfter.add (.int grace) >>= (Json.int now).le)

/-- What the signature of a binding is checked for; anything it raises is a
problem too. -/
def signatureProblems (binding : CertBinding) : List String :=
  if !binding.signature.truthy then ["binding is unsigned"]
  else
    let checked : Raises (List String) := do
      let signable ← Packages.encode binding.typed
      let recovered ← Packages.recover signable (.given binding.signature)
      let otherSigner ← andThen binding.signer.truthy (differs (.str recovered) binding.signer)
      return problemIf otherSigner "signature does not match the declared signer" ++
        problemIf (.str (nodeIdFromAddress recovered) ≠ binding.nodeId) "signer is not the node identity it claims to be"
    match checked with
    | .ok problems => problems
    | .error exception => [s!"binding signature failed to recover: {exception.text}"]

end CertBinding

structure Expected where
  nodeId : Json
  domain : Json
  tlsFootprint : String
  now : Int
  grace : Int := 0
  minSequence : Int := 0

/-- The problems of a binding; none means the certificate belongs to the identity. -/
def verifyBinding (binding : CertBinding) (expected : Expected) : Raises (List String) := do
  let otherNode ← andThen expected.nodeId.truthy (differs binding.nodeId expected.nodeId)
  let otherDomain ← andThen (expected.domain.truthy && binding.domain.truthy) (differs binding.domain expected.domain)
  let otherCert ← andThen (expected.tlsFootprint ≠ "") (differs binding.certFootprint (.str expected.tlsFootprint))
  let active ← binding.active expected.now expected.grace
  let older ← binding.sequence.lt (.int expected.minSequence)
  return problemIf otherNode "binding is for a different node identity" ++
    problemIf otherDomain s!"binding claims {binding.domain.toStr}, served from {expected.domain.toStr}" ++
    problemIf otherCert "bound footprint does not match the certificate presented over TLS" ++
    problemIf (!active) "binding is expired or not yet valid" ++
    problemIf older (s!"binding sequence {binding.sequence.toStr} is older than {expected.minSequence} — " ++
      "refusing a replayed binding for a rotated-away certificate") ++
    binding.signatureProblems

/-- The certificate a node presents now, and the one it just rotated away from. -/
structure BindingSet where
  current : CertBinding
  previous : Option CertBinding := none

def BindingSet.fromDict (document : Json) : Raises BindingSet := do
  let previous ← document.get "previous"
  let current ← document.item "current"
  let current ← CertBinding.fromDict current
  if previous.truthy then do
    let previous ← CertBinding.fromDict previous
    return { current, previous := some previous }
  else return { current }

inductive Which where
  | current | previous
deriving DecidableEq, Repr

/-- Which binding was accepted: the current one or, within the grace of a
rotation, the previous one. Where neither is, the problems of the current one. -/
def accept (bindings : BindingSet) (expected : Expected) : Raises (Except (List String) Which) := do
  let problems ← verifyBinding bindings.current expected
  if problems = [] then return .ok .current
  else
    match bindings.previous with
    | none => return .error problems
    | some previous => do
      let before ← verifyBinding previous { expected with grace := rotationGrace, minSequence := 0 }
      return if before = [] then .ok .previous else .error problems

/-! ### Rotation -/

/-- The operator's long-lived key, which stays offline, and its address. -/
structure NodeIdentity where
  address : String
  privateKey : Option String := none

def NodeIdentity.nodeId (identity : NodeIdentity) : String := nodeIdFromAddress identity.address

def NodeIdentity.fromKey [Accounts] (privateKey : String) : Raises NodeIdentity := do
  let address ← Accounts.address privateKey
  return { address, privateKey := some privateKey }

def identityError {α : Type} (text : String) : Raises α := raise (.package "IdentityError") text

/-- Attests that the identity presents the certificate. -/
def signBinding (identity : NodeIdentity) (certFootprint domain : String) (sequence : Json) (ttl now : Int) :
    Raises CertBinding :=
  let privateKey := identity.privateKey.getD ""
  if privateKey = "" then identityError "signing needs the node's private key"
  else do
    let unsigned : CertBinding := {
      nodeId := .str identity.nodeId
      certFootprint := .str certFootprint
      sequence
      notBefore := .int now
      notAfter := .int (now + ttl)
      domain := .str domain
      signer := .str identity.address }
    let signable ← Packages.encode unsigned.typed
    let signature ← Packages.sign signable privateKey
    return { unsigned with signature := .str ("0x" ++ toHex signature) }

/-- Publishes a new certificate of the same identity, and the one before it. -/
def rotate (identity : NodeIdentity) (newCertFootprint domain : String) (existing : Option BindingSet) (ttl now : Int) :
    Raises BindingSet := do
  let sequence ← match existing with
    | some bindings => bindings.current.sequence.add (.int 1)
    | none => pure (.int 1)
  let current ← signBinding identity newCertFootprint domain sequence ttl now
  return { current, previous := existing.map BindingSet.current }

/-! ### Revocations -/

def revocationTyped (message : Json) : TypedData where
  domain := "XCPRevocation"
  primaryType := "Revocation"
  fields := [("subject", "string"), ("issuer", "string"), ("issuedAt", "uint64"), ("reason", "string")]
  message := message

def revocationSignatureProblems (payload issuer signature : Json) : List String :=
  if !signature.truthy then ["revocation is unsigned — a claim is not evidence"]
  else
    let recovered : Raises String := do
      let signable ← Packages.encode (revocationTyped payload)
      Packages.recover signable (.given signature)
    match recovered with
    | .ok signer =>
      problemIf (.str (nodeIdFromAddress signer) ≠ issuer) "signature does not match the declared issuer"
    | .error exception => [s!"revocation signature failed to recover: {exception.text}"]

/-- The problems of a revocation; none means the issuer signed it, lately. -/
def verifyRevocation (document expectedIssuer : Json) (now : Int) : Raises (List String) := do
  let subject ← document.get "subject"
  let issuer ← document.get "issuer"
  let issuedAt ← document.get "issuedAt"
  let reason ← document.get "reason"
  if !subject.truthy || !issuer.truthy then return ["revocation is missing subject or issuer"]
  else
    let expected ← expectedIssuer.lower
    let issued ← (issuedAt.orElse (.int 0)).toInt
    let signature ← document.get "signature" (.str "")
    let payload := .dict [("subject", subject), ("issuer", issuer), ("issuedAt", issuedAt), ("reason", reason)]
    return problemIf (lower issuer.toStr ≠ expected) "revocation issuer is not the peer it claims to be" ++
      problemIf (3600 < now - issued || now - issued < -300) ("revocation is stale or dated in the future; " ++
        "replaying an old revocation must not take a live node down") ++
      revocationSignatureProblems payload issuer signature

end Xcp.Identity
