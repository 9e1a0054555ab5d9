import Xcp.Gateway.Records
import Xcp.Library.Decode
import Xcp.Proofs.CertRotation
import Xcp.Proofs.Charters

/-! The record that a gateway publishes about itself is read back by a peer as it was
filled in, and verifies against the certificate that it was made for. -/

namespace Xcp
open Checked Python Eth Identity

/-! ### Documents -/

/-- A sorted object has the members of the object, in their normal form. -/
theorem find?_sorted {members : List (String × Json)} (distinct : (members.map Prod.fst).Nodup) (name : String) :
    Json.find? ((byName members).map (fun member => (member.1, member.2.sorted))) name =
      Json.find? (members.map (fun member => (member.1, member.2.sorted))) name := by
  rw [find?_map_snd, find?_map_snd, find?_perm distinct (byName_perm members)]

/-- Of a sorted object with distinct names a member is the one of the object. -/
theorem get_of_sorted {members : List (String × Json)} (distinct : (members.map Prod.fst).Nodup) (name : String) (default : Json) :
    (Json.dict members).sorted.get name default = .ok (((Json.find? members name).map Json.sorted).getD default) := by
  rw [sorted_dict, Json.get, find?_map_snd, find?_perm distinct (byName_perm members)]

theorem sorted_truthy {members : List (String × Json)} (some : members ≠ []) : (Json.dict members).sorted.truthy = true := by
  rw [sorted_dict]
  simpa [Json.truthy, ← List.length_eq_zero_iff, (byName_perm members).length_eq] using some

namespace Identity

theorem CertBinding.fromDict_congr {members others : List (String × Json)}
    (same : ∀ name, Json.find? others name = Json.find? members name) :
    CertBinding.fromDict (.dict others) = CertBinding.fromDict (.dict members) := by
  simp only [CertBinding.fromDict, requireFields, field, same]

namespace CertBinding

def members (binding : CertBinding) : List (String × Json) :=
  [("node_id", binding.nodeId), ("cert_footprint", binding.certFootprint), ("sequence", binding.sequence),
    ("not_before", binding.notBefore), ("not_after", binding.notAfter), ("domain", binding.domain),
    ("signer", binding.signer), ("signature", binding.signature), ("spec_version", .str "0.2-draft")]

/-- Its values are texts and numbers. -/
def Flat (binding : CertBinding) : Prop := ∀ member ∈ binding.members, member.2.sorted = member.2

theorem read_sorted {binding : CertBinding} (flat : binding.Flat) : CertBinding.fromDict binding.toDict.sorted = .ok binding := by
  have distinct : (binding.members.map Prod.fst).Nodup := by simp [CertBinding.members]
  obtain ⟨others, sorted, perm⟩ := sorted_perm flat
  have whole : binding.toDict = .dict binding.members := rfl
  rw [whole, sorted, CertBinding.fromDict_congr (find?_perm distinct perm)]
  rfl

end CertBinding

/-- What is published is read as it is, with one binding or two. -/
theorem BindingSet.read_sorted {bindings : BindingSet} (current : bindings.current.Flat)
    (previous : ∀ before ∈ bindings.previous, before.Flat) : BindingSet.fromDict bindings.toDict.sorted = .ok bindings := by
  obtain ⟨now, before⟩ := bindings
  cases before with
  | none =>
    have distinct : ([("current", now.toDict)].map Prod.fst).Nodup := List.nodup_singleton _
    have current' : (BindingSet.mk now none).toDict.sorted.item "current" = .ok now.toDict.sorted := item_sorted distinct "current"
    have previous' : (BindingSet.mk now none).toDict.sorted.get "previous" = .ok .null := get_sorted distinct "previous"
    rw [BindingSet.fromDict, previous', ok_bind, current', ok_bind, now.read_sorted current]
    rfl
  | some before =>
    have distinct : ([("current", now.toDict), ("previous", before.toDict)].map Prod.fst).Nodup := by simp
    have current' : (BindingSet.mk now (some before)).toDict.sorted.item "current" = .ok now.toDict.sorted :=
      item_sorted distinct "current"
    have previous' : (BindingSet.mk now (some before)).toDict.sorted.get "previous" = .ok before.toDict.sorted :=
      get_sorted distinct "previous"
    have filled : before.toDict.sorted.truthy = true := sorted_truthy (List.cons_ne_nil _ _)
    rw [BindingSet.fromDict, previous', ok_bind, current', ok_bind, now.read_sorted current, filled,
      before.read_sorted (previous before rfl)]
    rfl

end Identity

/-! ### Records -/

namespace PublishedRecord

theorem texts_sorted (items : List String) : (texts items).sorted = texts items := Cluster.sorted_texts items

theorem names_distinct (record : PublishedRecord) : (record.members.map Prod.fst).Nodup := by
  have names : record.members.map Prod.fst = ["domain", "node_id", "gateway_url", "spec_version", "mcp_spec", "operator",
    "accepts_peering", "federates_catalogs", "relays_revocations", "chain_id", "session_registry", "node_registry", "bond_minor",
    "site", "serves", "cluster_id", "membership", "transport_price_minor", "accepts_paid_routing", "seed_peers_extra",
    "protocol_versions", "features", "bindings", "cert_footprint", "seed_peers", "published_at"] := rfl
  rw [names]
  decide

/-- Any record that names its versions is read back. -/
theorem read_sorted (record : PublishedRecord) (versions : record.protocolVersions ≠ []) :
    NodeRecord.fromDict record.toDict.sorted = .ok {
      domain := .str record.domain
      nodeId := .str record.nodeId
      gatewayUrl := .str record.gatewayUrl
      nodeRegistry := .str record.nodeRegistry
      bondMinor := .int record.bondMinor
      site := .str record.site
      serves := texts record.serves
      clusterId := .str record.clusterId
      membership := record.membership.sorted
      transportPriceMinor := .int record.transportPriceMinor
      acceptsPaidRouting := .bool record.acceptsPaidRouting
      protocolVersions := texts record.protocolVersions
      bindings := record.bindings.sorted
      certFootprint := .str record.certFootprint } := by
  have distinct := record.names_distinct
  have whole : record.toDict = .dict record.members := rfl
  have found (name : String) := find?_sorted distinct name
  have filled : (texts record.protocolVersions).orElse (.list (Version.supported.map Json.str)) = texts record.protocolVersions := by
    cases listed : record.protocolVersions with
    | nil => exact absurd listed versions
    | cons first rest => rfl
  have normal : record.members.map (fun member => (member.1, member.2.sorted)) =
      { record with membership := record.membership.sorted, bindings := record.bindings.sorted }.members := by
    simp only [PublishedRecord.members, List.map_cons, List.map_nil, texts_sorted]
    rfl
  rw [whole, sorted_dict]
  simp only [NodeRecord.fromDict, requireFields, field, found, normal]
  rw [← filled]
  rfl

end PublishedRecord

/-! ### A gateway's own record -/

namespace Gateway
open Stateless (RecoversSigner)

section Own
variable [Host] [Packages] [Accounts]

/-- The renewal that a gateway's record begins with. -/
def NodeSettings.renewal (settings : NodeSettings) (start : Int) : Renewal where
  footprint := settings.certFootprint
  domain := settings.domain
  ttl := bindingTtl
  now := start

/-- What a gateway publishes about itself. -/
structure Own (settings : NodeSettings) (cluster : Cluster.Posture) (start : Int) (identity : NodeIdentity) (bindings : BindingSet)
    (record : PublishedRecord) : Prop where
  known : NodeIdentity.fromKey settings.nodeKey = .ok identity
  domain : record.domain = settings.domain
  nodeId : record.nodeId = identity.nodeId
  gatewayUrl : record.gatewayUrl = if settings.url = "" then "https://" ++ settings.domain else settings.url
  published : record.bindings = bindings.toDict
  membership : record.membership = (cluster.claim.map Cluster.MembershipClaim.toDict).getD .null
  acceptsPaidRouting : record.acceptsPaidRouting = false
  transportPriceMinor : record.transportPriceMinor = 0
  protocolVersions : record.protocolVersions = Version.supported
  signs : Signs identity (settings.renewal start) 1 bindings.current
  lone : bindings.previous = none
  flat : bindings.current.Flat

theorem ownRecord_own (recovers : RecoversSigner) {settings : NodeSettings} {cluster : Cluster.Posture} {site : String}
    {serves : List String} {start : Int} {record : PublishedRecord}
    (made : ownRecord settings cluster site serves start = .ok record) :
    ∃ identity bindings, Own settings cluster start identity bindings record := by
  simp only [ownRecord, bind_eq_ok, pure_eq_ok] at made
  obtain ⟨identity, known, bindings, rotated, rfl⟩ := made
  obtain ⟨signs, lone⟩ : Signs identity (settings.renewal start) 1 bindings.current ∧ _ := rotate_first recovers known rotated
  have flat : bindings.current.Flat := by
    simp only [rotate, pure_eq_ok, bind_eq_ok] at rotated
    obtain ⟨_, rfl, current, signed, rfl⟩ := rotated
    rw [signBinding] at signed
    split at signed
    · cases signed
    · simp only [bind_eq_ok, pure_eq_ok] at signed
      obtain ⟨_, _, _, _, rfl⟩ := signed
      simp [CertBinding.Flat, CertBinding.members, Json.sorted]
  exact ⟨identity, bindings, {
    known, domain := rfl, nodeId := rfl, gatewayUrl := rfl, published := rfl, membership := rfl, acceptsPaidRouting := rfl
    transportPriceMinor := rfl, protocolVersions := rfl, signs, lone, flat }⟩

omit [Packages] [Accounts] in
/-- What a peer reads of it. -/
structure OwnRead (settings : NodeSettings) (nodeId : String) (bindings : BindingSet) (record : PublishedRecord)
    (read : NodeRecord) : Prop where
  parsed : NodeRecord.fromDict record.toDict.sorted = .ok read
  domain : read.domain = .str settings.domain
  nodeId : read.nodeId = .str nodeId
  gatewayUrl : read.gatewayUrl = .str record.gatewayUrl
  membership : read.membership = record.membership.sorted
  serves : ∃ items, read.serves = .list items
  published : read.bindings = bindings.toDict.sorted
  acceptsPaidRouting : read.acceptsPaidRouting = .bool false
  transportPriceMinor : read.transportPriceMinor = .int 0
  protocolVersions : read.protocolVersions = .list (Version.supported.map Json.str)

namespace Own
variable {settings : NodeSettings} {cluster : Cluster.Posture} {start : Int} {identity : NodeIdentity} {bindings : BindingSet}
  {record : PublishedRecord} (own : Own settings cluster start identity bindings record)
include own

theorem reads : ∃ read, OwnRead settings identity.nodeId bindings record read := by
  have versions : record.protocolVersions ≠ [] := by
    rw [own.protocolVersions]
    decide
  refine ⟨_, {
    parsed := record.read_sorted versions
    domain := by rw [own.domain]
    nodeId := by rw [own.nodeId]
    gatewayUrl := rfl
    membership := rfl
    serves := ⟨_, rfl⟩
    published := by rw [own.published]
    acceptsPaidRouting := by rw [own.acceptsPaidRouting]
    transportPriceMinor := by rw [own.transportPriceMinor]
    protocolVersions := by rw [own.protocolVersions]; rfl }⟩

theorem bindings_read : BindingSet.fromDict bindings.toDict.sorted = .ok bindings := by
  apply BindingSet.read_sorted own.flat
  rw [own.lone]
  nofun

/-- The URL that is published is one for TLS, unless another one was configured. -/
theorem gatewayUrl_https (https : settings.url = "" ∨ startsWith settings.url "https://" = true) :
    startsWith record.gatewayUrl "https://" = true := by
  rw [own.gatewayUrl]
  split
  next =>
    rw [startsWith, String.toList_append]
    exact List.isPrefixOf_iff_prefix.mpr (List.prefix_append _ _)
  next given => exact https.resolve_left given

variable {read : NodeRecord} (reading : OwnRead settings identity.nodeId bindings record read)
include reading

omit own [Accounts] in
theorem compatible : protocolIncompatible read = .ok none := by
  rw [protocolIncompatible, reading.protocolVersions]
  rfl

/-- The sequence that a peer reads of a first binding. -/
theorem sequence : read.sequence = .ok 1 := by
  have whole : bindings.toDict = .dict [("current", bindings.current.toDict)] := by
    rw [BindingSet.toDict, own.lone]
    rfl
  have current : bindings.toDict.sorted.get "current" = .ok bindings.current.toDict.sorted := by
    have distinct : ([("current", bindings.current.toDict)].map Prod.fst).Nodup := List.nodup_singleton _
    rw [whole]
    exact get_sorted distinct "current"
  have filled : bindings.toDict.sorted.truthy = true := sorted_truthy (List.cons_ne_nil _ _)
  have filled' : bindings.current.toDict.sorted.truthy = true := sorted_truthy (List.cons_ne_nil _ _)
  have sequence : bindings.current.toDict.sorted.get "sequence" (.int 0) = .ok (.int 1) := by
    have distinct : (bindings.current.members.map Prod.fst).Nodup := by simp [CertBinding.members]
    have held : Json.find? bindings.current.members "sequence" = some (.int 1) := congrArg some own.signs.sequence
    refine (get_of_sorted distinct "sequence" (.int 0)).trans ?_
    rw [held]
    rfl
  rw [NodeRecord.sequence, reading.published, Json.orElse, if_pos filled, current, ok_bind, Json.orElse, if_pos filled',
    Json.getInt, sequence, ok_bind]
  rfl

theorem valid (sized : SizedHash) (bare : settings.domain ≠ "" ∧ contains settings.domain '/' = false)
    (https : settings.url = "" ∨ startsWith settings.url "https://" = true) : read.validate = .ok [] := by
  have filled : read.bindings ≠ .null := by
    rw [reading.published, BindingSet.toDict, sorted_dict]
    simp
  have unpaid : andThen read.acceptsPaidRouting.truthy (not <$> read.bonded) = .ok false := by
    rw [reading.acceptsPaidRouting]
    rfl
  have free : read.transportPriceMinor.lt (.int 0) = .ok false := by
    rw [reading.transportPriceMinor]
    rfl
  have path : andThen read.domain.truthy (NodeRecord.hasSlash read.domain) = .ok false := by
    rw [reading.domain, andThen_eq_false]
    intro _
    rw [NodeRecord.hasSlash, bare.2]
  have word := word_digest sized (utf8 (lower identity.address))
  obtain ⟨start', length⟩ : startsWith identity.nodeId "0x" = true ∧ identity.nodeId.length = 66 :=
    Cluster.normalise_form (Cluster.normalise_word word)
  have url := own.gatewayUrl_https https
  rw [NodeRecord.validate, unpaid, ok_bind, free, ok_bind, path, ok_bind, reading.nodeId, Json.asStr, ok_bind, reading.gatewayUrl,
    Json.asStr, ok_bind]
  simp [filled, reading.domain, Json.truthy, bare.1, start', length, url, problemIf]

/-- The record verifies wherever its domain is served with its certificate, as long as its
binding lasts. -/
theorem verifies (sized : SizedHash) (bare : settings.domain ≠ "" ∧ contains settings.domain '/' = false)
    (https : settings.url = "" ∨ startsWith settings.url "https://" = true) {der : List Nat} {servedFrom : String} {known now : Int}
    (served : lower servedFrom = lower settings.domain) (presented : lower settings.certFootprint = lower (digest der))
    (active : (settings.renewal start).ActiveAt now 0) (floor : known ≤ 1) : verifyNodeRecord read der servedFrom known now = .ok [] := by
  have filled : digest der ≠ "" := by simp [digest]
  have binds := (own.signs.binds_iff (.inr rfl) (.inr (.inr rfl)) filled active floor).mpr presented
  have accepted : accept bindings (asked identity.nodeId settings.domain (digest der) known now) = .ok (.ok .current) :=
    accept_ok.mpr (.inl ⟨rfl, binds⟩)
  have bound : certificateProblems read (digest der) known now = .ok [] := by
    have truthy : read.bindings.truthy = true := by
      rw [reading.published]
      exact sorted_truthy (List.cons_ne_nil _ _)
    rw [certificateProblems, truthy, if_pos rfl, reading.published, own.bindings_read, reading.nodeId, reading.domain]
    simp only [asked] at accepted
    simp only [accepted, ok_bind]
    rfl
  have claimed : read.domain.lower = .ok (lower settings.domain) := by
    rw [reading.domain]
    rfl
  rw [verifyNodeRecord, own.valid reading sized bare https, ok_bind, compatible reading, ok_bind, claimed, ok_bind, bound, ok_bind,
    served]
  simp [problemIf]

end Own

end Own

end Gateway

end Xcp
