import Xcp.Federation.Identity
import Xcp.Protocol.Version

/-! The record that a node publishes about itself, and what a peer checks of it
against the certificate of the connection. -/

namespace Xcp
open Checked Python Eth Identity

/-- The fields that peering reads, as they came. -/
structure NodeRecord where
  domain : Json
  nodeId : Json
  gatewayUrl : Json
  nodeRegistry : Json := .str ""
  bondMinor : Json := .int 0
  site : Json := .str ""
  serves : Json := .list []
  clusterId : Json := .str ""
  membership : Json := .null
  transportPriceMinor : Json := .int 0
  acceptsPaidRouting : Json := .bool false
  protocolVersions : Json := .list []
  bindings : Json := .null
  certFootprint : Json := .str ""
deriving DecidableEq

namespace NodeRecord

/-- A record advertises the supported versions when it names none. -/
def fromDict (document : Json) : Raises NodeRecord :=
  match document with
  | .dict members => do
    let _ ← requireFields "NodeRecord" ["domain", "node_id", "gateway_url"] members
    let versions := field members "protocol_versions" (.list [])
    return {
      domain := field members "domain"
      nodeId := field members "node_id"
      gatewayUrl := field members "gateway_url"
      nodeRegistry := field members "node_registry" (.str "")
      bondMinor := field members "bond_minor" (.int 0)
      site := field members "site" (.str "")
      serves := field members "serves" (.list [])
      clusterId := field members "cluster_id" (.str "")
      membership := field members "membership"
      transportPriceMinor := field members "transport_price_minor" (.int 0)
      acceptsPaidRouting := field members "accepts_paid_routing" (.bool false)
      protocolVersions := versions.orElse (.list (Version.supported.map Json.str))
      bindings := field members "bindings"
      certFootprint := field members "cert_footprint" (.str "") }
  | other => other.noAttribute "items"

/-- The sequence of the current binding, zero without one. -/
def sequence (record : NodeRecord) : Raises Int := do
  let current ← (record.bindings.orElse (.dict [])).get "current"
  (current.orElse (.dict [])).getInt "sequence" 0

/-- A bonded node has something to lose. -/
def bonded (record : NodeRecord) : Raises Bool :=
  andThen record.nodeRegistry.truthy (record.bondMinor.gt (.int 0))

/-- `"/" in domain`. -/
def hasSlash (domain : Json) : Raises Bool :=
  match domain with
  | .str text => .ok (contains text '/')
  | .list items => .ok (items.any (Json.str "/").same)
  | .dict members => .ok ((Json.find? members "/").isSome)
  | other => raise .typeError s!"argument of type '{other.typeName}' is not iterable"

def validate (record : NodeRecord) : Raises (List String) := do
  let unbonded ← andThen record.acceptsPaidRouting.truthy (not <$> record.bonded)
  let negative ← record.transportPriceMinor.lt (.int 0)
  let path ← andThen record.domain.truthy (hasSlash record.domain)
  let nodeId ← record.nodeId.asStr "startswith"
  let gatewayUrl ← record.gatewayUrl.asStr "startswith"
  return problemIf (record.certFootprint.truthy && record.bindings = .null) ("cert_footprint present with no " ++
      "signed binding — a peer cannot tell whether this identity really presents it") ++
    problemIf unbonded ("a node charging for routing must post a bond — otherwise there is nothing to slash " ++
      "when it bills for traffic nobody sent") ++
    problemIf negative "negative transport price" ++
    problemIf (!record.domain.truthy || path) "domain must be a bare hostname" ++
    problemIf (!startsWith nodeId "0x" || nodeId.length < 34) "node_id must be a 0x-prefixed certificate footprint" ++
    problemIf (!startsWith gatewayUrl "https://") "gateway_url must be https"

end NodeRecord

variable [Host]

/-- Why a peer cannot be talked to at all. -/
def protocolIncompatible (record : NodeRecord) : Raises (Option String) :=
  if !record.protocolVersions.truthy then .ok none
  else do
    let versions ← record.protocolVersions.toList
    let (compatible, note) ← Version.compatibleWith versions
    return if compatible then none else some note

variable [Packages]

/-- What binds the record to the certificate: a signed binding, or, in a record
without one, an identity that is the certificate. -/
def certificateProblems (record : NodeRecord) (certificate : String) (knownSequence now : Int) :
    Raises (List String) :=
  if record.bindings.truthy then
    match BindingSet.fromDict record.bindings with
    | .error exception => .ok [s!"malformed certificate binding: {exception.text}"]
    | .ok bindings => do
      let answer ← accept bindings
        { nodeId := record.nodeId, domain := record.domain, tlsFootprint := certificate, now, minSequence := knownSequence }
      match answer with
      | .ok _ => return []
      | .error notes => return notes
  else do
    let other ← differs record.nodeId (.str certificate)
    return problemIf other
      "node_id does not match the certificate presented over TLS (legacy record with no signed binding)"

/-- The problems of a peer's record. That a record was served from the domain it
claims is taken from whoever asks. -/
def verifyNodeRecord (record : NodeRecord) (certificateDer : List Nat) (servedFromDomain : String)
    (knownSequence now : Int) : Raises (List String) := do
  let malformed ← record.validate
  let incompatible ← protocolIncompatible record
  let claimed ← record.domain.lower
  let unbound ← certificateProblems record (digest certificateDer) knownSequence now
  return malformed ++ (incompatible.map (fun reason => s!"cannot federate: {reason}")).toList ++
    problemIf (lower servedFromDomain ≠ claimed)
      s!"record claims {record.domain.toStr} but was served from {servedFromDomain}" ++
    unbound

end Xcp
