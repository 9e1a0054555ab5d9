import Xcp.Federation.Charter
import Xcp.Gateway.Peering
import Xcp.Library.Base64
import Xcp.Library.Dumps
import Xcp.Library.Loads

/-! The record that a node publishes about itself, and who is served it. A member of a
closed cluster serves strangers a reduced one. -/

namespace Xcp
open Checked Python Eth Identity

def Identity.CertBinding.toDict (binding : CertBinding) : Json :=
  .dict [("node_id", binding.nodeId), ("cert_footprint", binding.certFootprint), ("sequence", binding.sequence),
    ("not_before", binding.notBefore), ("not_after", binding.notAfter), ("domain", binding.domain),
    ("signer", binding.signer), ("signature", binding.signature), ("spec_version", .str "0.2-draft")]

def Identity.BindingSet.toDict (bindings : BindingSet) : Json :=
  .dict (("current", bindings.current.toDict) ::
    (bindings.previous.map (fun previous => ("previous", previous.toDict))).toList)

/-- All of a record, as the node that it is about fills it in. -/
structure PublishedRecord where
  domain : String
  nodeId : String
  gatewayUrl : String
  specVersion : String := "0.1-draft"
  mcpSpec : String := "2026-07-28"
  operator : String := "anonymous"
  acceptsPeering : Bool := true
  federatesCatalogs : Bool := true
  relaysRevocations : Bool := true
  chainId : Int := 0
  sessionRegistry : String := ""
  nodeRegistry : String := ""
  bondMinor : Int := 0
  site : String := ""
  serves : List String := []
  clusterId : String := ""
  membership : Json := .null
  transportPriceMinor : Int := 0
  acceptsPaidRouting : Bool := false
  seedPeersExtra : List String := []
  protocolVersions : List String := Version.supported
  features : List String :=
    ["federation", "limits", "mandate", "receipts", "sealed", "session", "stateless", "transport", "wrappers"]
  bindings : Json := .null
  certFootprint : String := ""
  seedPeers : List String := []
  publishedAt : Int := 0

namespace PublishedRecord

def texts (items : List String) : Json := .list (items.map Json.str)

def members (record : PublishedRecord) : List (String × Json) :=
  [("domain", .str record.domain), ("node_id", .str record.nodeId), ("gateway_url", .str record.gatewayUrl),
   ("spec_version", .str record.specVersion), ("mcp_spec", .str record.mcpSpec), ("operator", .str record.operator),
   ("accepts_peering", .bool record.acceptsPeering), ("federates_catalogs", .bool record.federatesCatalogs),
   ("relays_revocations", .bool record.relaysRevocations), ("chain_id", .int record.chainId),
   ("session_registry", .str record.sessionRegistry), ("node_registry", .str record.nodeRegistry),
   ("bond_minor", .int record.bondMinor), ("site", .str record.site), ("serves", texts record.serves),
   ("cluster_id", .str record.clusterId), ("membership", record.membership),
   ("transport_price_minor", .int record.transportPriceMinor),
   ("accepts_paid_routing", .bool record.acceptsPaidRouting), ("seed_peers_extra", texts record.seedPeersExtra),
   ("protocol_versions", texts record.protocolVersions), ("features", texts record.features),
   ("bindings", record.bindings), ("cert_footprint", .str record.certFootprint),
   ("seed_peers", texts record.seedPeers), ("published_at", .int record.publishedAt)]

def toDict (record : PublishedRecord) : Json := .dict record.members

/-- What anyone may read. -/
def publicFields : List String :=
  ["domain", "spec_version", "mcp_spec", "protocol_versions", "features", "accepts_peering", "cluster_id"]

def authentication : String :=
  "present XCP-Cluster-Access: a base64url ClusterAccess request signed by your node key, naming this domain as its " ++
    "audience"

/-- The record for a caller that has not proved membership. -/
def reduced (record : PublishedRecord) : Json :=
  .dict (publicFields.filterMap (fun name => (Json.find? record.members name).map (fun value => (name, value))) ++
    [("gated", .bool true), ("authentication", .str authentication)])

end PublishedRecord

end Xcp

namespace Xcp.Gateway
open Checked Python Http Eth Cluster

/-! ### Proofs of membership in a header -/

/-- The separators of a header value, which is not sorted. -/
def headerStyle : DumpStyle where
  items := ","
  members := ":"

def encodeAccess [Host] (request : Json) : String := rstrip (Base64.encode (utf8 (request.dumps headerStyle))) '='

/-- The request for access that a header carries. -/
def readAccess [Host] [JsonDecoder] (value : String) : Raises AccessRequest := do
  let pad := String.ofList (List.replicate ((4 - value.length % 4) % 4) '=')
  let raw ← Base64.decode (value ++ pad)
  let document ← JsonDecoder.loads raw
  AccessRequest.fromDict document

/-- What a node publishes; nothing where it has no identity. -/
structure Published where
  record : Option PublishedRecord := none
  domain : String := ""
  /-- Also in a closed cluster the record is for everyone. -/
  recordPublic : Bool := false

/-- Publishing the topology of a federation that only members may join is incoherent. -/
def recordIsGated (node : Node) (published : Published) : Bool := node.cluster.closed && !published.recordPublic

section Record
variable [Host] [Packages] [JsonDecoder]

/-- Whether the header proves membership to this node; what cannot be read proves nothing. -/
def provesMembership (node : Node) (published : Published) (now : Int) (header : String) : Raises Bool :=
  match node.cluster.charter with
  | none => .ok false
  | some charter =>
    if header = "" then .ok false
    else
      match readAccess header with
      | .error _ => .ok false
      | .ok request => do
        let problems ← verifyAccessRequest charter request published.domain now accessTtl
        return problems = []

/-- The node's identity. The order of the members is that of the text, which is sorted. -/
def nodeRecord (node : Node) (published : Published) (world : World) (request : HttpRequest) : Handler Response :=
  match published.record with
  | none => .error (errorResponse "federation not configured; set XCP_NODE_KEY and XCP_NODE_DOMAIN" 404)
  | some record =>
    if !recordIsGated node published then .ok { body := record.toDict.sorted }
    else do
      let _ ← fedLimit node world request "record"
      let member ← attempt (provesMembership node published (truncate world.now) (request.header "xcp-cluster-access"))
      return { body := if member then record.toDict.sorted else record.reduced }

/-- The request of a peer's gateway for the record. -/
def recordRequest (client : String) (access : Option Json) : HttpRequest where
  headers := (access.map (fun document => ("xcp-cluster-access", encodeAccess document))).toList
  client := client

/-- What a peer's gateway fetches, of a body that is so long. -/
def servedRecord (node : Node) (published : Published) (world : World) (client : String) (bytes : Json → Nat)
    (access : Option Json) : FetchedRecord :=
  let response := reply (nodeRecord node published world (recordRequest client access))
  { status := response.status, bodyBytes := bytes response.body, document := .ok response.body }

end Record

/-! ### A node's own record -/

/-- The settings that a node's identity is made from. -/
structure NodeSettings where
  nodeKey : String
  domain : String
  url : String := ""
  certFootprint : String := "0x" ++ toHex (List.replicate 32 0)
  operator : String := "anonymous"

def bindingTtl : Int := 90 * 86400

/-- The record that a gateway publishes from its start on. -/
def ownRecord [Host] [Packages] [Accounts] (settings : NodeSettings) (cluster : Posture) (site : String)
    (serves : List String) (now : Int) : Raises PublishedRecord := do
  let identity ← Identity.NodeIdentity.fromKey settings.nodeKey
  let bindings ← Identity.rotate identity settings.certFootprint settings.domain none bindingTtl now
  return {
    domain := settings.domain
    nodeId := identity.nodeId
    gatewayUrl := if settings.url = "" then "https://" ++ settings.domain else settings.url
    operator := settings.operator
    publishedAt := now
    bindings := bindings.toDict
    certFootprint := settings.certFootprint
    clusterId := cluster.clusterId
    membership := (cluster.claim.map MembershipClaim.toDict).getD .null
    site
    serves }

end Xcp.Gateway
