import Xcp.Library.Decode
import Xcp.Proofs.DelegationAdmission
import Xcp.Proofs.TierAgreement

/-! From the origin to the destination: a ticket arrives as it was minted, is
admitted where it was meant to be, and nothing of what was signed can be changed
on the way but the letter case of two domains. -/

namespace Xcp.Delegation
open Checked Python Eth Identity

/-! ### On the way -/

/-- What arrives of a ticket that is sent as JSON. -/
def received [Host] (style : DumpStyle) (ticket : Ticket) : Option (Raises Ticket) :=
  (jsonLoads (ticket.toDict.dumps style)).map Ticket.fromDict

namespace Ticket

def members (ticket : Ticket) : List (String × Json) :=
  [("origin_node", ticket.originNode), ("origin_domain", ticket.originDomain), ("cluster_id", ticket.clusterId),
    ("agent_id", ticket.agentId), ("chain_id", ticket.chainId), ("footprint", ticket.footprint),
    ("asserted_tier", ticket.assertedTier), ("audience", ticket.audience), ("peer", ticket.peer),
    ("scope", ticket.scope), ("task", ticket.task), ("hops", .list (ticket.hops.map Hop.toDict)),
    ("max_hops", ticket.maxHops), ("issued_at", ticket.issuedAt), ("expires_at", ticket.expiresAt),
    ("nonce", ticket.nonce), ("spec_version", ticket.specVersion), ("signature", ticket.signature)]

/-- Texts and whole numbers that print. -/
structure Writable (ticket : Ticket) : Prop where
  fields : ∀ member ∈ ticket.members, member.1 = "hops" ∨ member.2.isFlat = true
  path : ∀ hop ∈ ticket.hops, prints hop.at_ = true

theorem names_distinct (ticket : Ticket) : (ticket.members.map Prod.fst).Nodup := by
  have names : ticket.members.map Prod.fst = ["origin_node", "origin_domain", "cluster_id", "agent_id", "chain_id", "footprint",
    "asserted_tier", "audience", "peer", "scope", "task", "hops", "max_hops", "issued_at", "expires_at", "nonce", "spec_version",
    "signature"] := rfl
  rw [names]
  decide

end Ticket

theorem hop_plain {hop : Hop} (small : prints hop.at_ = true) : hop.toDict.plain = true := by
  simp [Hop.toDict, Json.plain, plainMembers, small]

theorem hop_names (hop : Hop) : ([("nodeId", .str hop.nodeId), ("domain", .str hop.domain), ("at", .int hop.at_)].map
    (Prod.fst : String × Json → String)).Nodup := by
  change ["nodeId", "domain", "at"].Nodup
  decide

section Read
variable [Host] {style : DumpStyle}

theorem readHop_toDict {hop : Hop} (small : prints hop.at_ = true) : Ticket.readHop (hop.toDict.arranged style) = .ok hop := by
  have found := find?_arranged style (hop_names hop)
  have number : (Json.int hop.at_).arranged style = .int hop.at_ := arranged_of_isFlat style small
  have text (given : String) : (Json.str given).arranged style = .str given := arranged_of_isFlat style rfl
  have nodeId := (found "nodeId").trans (congrArg some (text hop.nodeId))
  have domain := (found "domain").trans (congrArg some (text hop.domain))
  have time := (found "at").trans (congrArg some number)
  have kept : ((Json.int hop.at_).orElse (.int 0)).toInt = .ok hop.at_ := by
    by_cases zero : hop.at_ = 0
    · simp [Json.orElse, Json.truthy, zero, Json.toInt]
    · simp [Json.orElse, Json.truthy, zero, Json.toInt]
  rw [Hop.toDict, arranged_dict]
  simp only [Ticket.readHop, Json.item, Json.get, nodeId, domain, time, ok_bind, Option.getD_some, kept, Json.toStr]
  rfl

theorem readHops {hops : List Hop} (small : ∀ hop ∈ hops, prints hop.at_ = true) :
    (hops.map (fun hop => hop.toDict.arranged style)).mapM Ticket.readHop = .ok hops := by
  rw [mapM_eq_ok, List.forall₂_map_left_iff, List.forall₂_same]
  exact fun hop member => readHop_toDict (small hop member)

namespace Ticket

omit [Host] in
theorem Writable.plain {ticket : Ticket} (writable : ticket.Writable) : ticket.toDict.plain = true := by
  have whole : ticket.toDict = .dict ticket.members := rfl
  rw [whole, Json.plain, plainMembers_eq_all, Bool.and_eq_true, decide_eq_true_eq, List.all_eq_true]
  refine ⟨ticket.names_distinct, ?_⟩
  intro member inside
  rcases writable.fields member inside with path | flat
  · have found : Json.find? ticket.members "hops" = some member.2 := by
      rw [find?_eq_some ticket.names_distinct, ← path]
      exact inside
    have hops : member.2 = .list (ticket.hops.map Hop.toDict) := Option.some.inj (found.symm.trans rfl)
    rw [hops, Json.plain, plainItems_eq_all, List.all_map, List.all_eq_true]
    exact fun hop member => hop_plain (writable.path hop member)
  · exact Json.plain_of_isFlat flat

theorem readFields_arranged {ticket : Ticket} (writable : ticket.Writable) :
    readFields ((style.arrange ticket.members).map (fun member => (member.1, member.2.arranged style))) = .ok ticket := by
  have found := find?_arranged style ticket.names_distinct
  have given (name : String) {value : Json} (here : Json.find? ticket.members name = some value) (other : name ≠ "hops")
      (default : Json) : field ((style.arrange ticket.members).map (fun member => (member.1, member.2.arranged style))) name default =
        value := by
    have member := (find?_eq_some ticket.names_distinct name value).mp here
    rcases writable.fields _ member with path | flat
    · exact absurd path other
    · rw [field, found, here, Option.map_some, Option.getD_some, arranged_of_isFlat style flat]
  have hops : field ((style.arrange ticket.members).map (fun member => (member.1, member.2.arranged style))) "hops" =
      .list (ticket.hops.map (fun hop => hop.toDict.arranged style)) := by
    have here : Json.find? ticket.members "hops" = some (.list (ticket.hops.map Hop.toDict)) := rfl
    rw [field, found, here, Option.map_some, Option.getD_some, arranged_list, List.map_map]
    rfl
  have items : ((Json.list (ticket.hops.map (fun hop => hop.toDict.arranged style))).orElse (.list [])).toList =
      .ok (ticket.hops.map (fun hop => hop.toDict.arranged style)) := by
    cases ticket.hops <;> rfl
  have complete : requireFields "DelegationTicket" ["origin_node", "origin_domain"]
      ((style.arrange ticket.members).map (fun member => (member.1, member.2.arranged style))) = .ok () := by
    have node : Json.find? ticket.members "origin_node" = some ticket.originNode := rfl
    have domain : Json.find? ticket.members "origin_domain" = some ticket.originDomain := rfl
    simp [requireFields, found, node, domain, require]
  simp only [readFields, hops, items, readHops writable.path, complete, ok_bind,
    given "origin_node" (show _ = some ticket.originNode from rfl) (by decide), given "origin_domain" (show _ = some ticket.originDomain from rfl) (by decide),
    given "cluster_id" (show _ = some ticket.clusterId from rfl) (by decide), given "agent_id" (show _ = some ticket.agentId from rfl) (by decide),
    given "chain_id" (show _ = some ticket.chainId from rfl) (by decide), given "footprint" (show _ = some ticket.footprint from rfl) (by decide),
    given "asserted_tier" (show _ = some ticket.assertedTier from rfl) (by decide), given "audience" (show _ = some ticket.audience from rfl) (by decide),
    given "peer" (show _ = some ticket.peer from rfl) (by decide), given "scope" (show _ = some ticket.scope from rfl) (by decide),
    given "task" (show _ = some ticket.task from rfl) (by decide), given "max_hops" (show _ = some ticket.maxHops from rfl) (by decide),
    given "issued_at" (show _ = some ticket.issuedAt from rfl) (by decide), given "expires_at" (show _ = some ticket.expiresAt from rfl) (by decide),
    given "nonce" (show _ = some ticket.nonce from rfl) (by decide), given "spec_version" (show _ = some ticket.specVersion from rfl) (by decide),
    given "signature" (show _ = some ticket.signature from rfl) (by decide)]
  rfl

theorem fromDict_arranged {ticket : Ticket} (writable : ticket.Writable) :
    Ticket.fromDict (ticket.toDict.arranged style) = .ok ticket := by
  have whole : ticket.toDict = .dict ticket.members := rfl
  rw [whole, arranged_dict, fromDict, readFields_arranged writable]

end Ticket

theorem received_of_writable (standard : style.Standard) {ticket : Ticket} (writable : ticket.Writable) :
    received style ticket = some (.ok ticket) := by
  rw [received, jsonLoads_dumps standard writable.plain, Option.map_some, Ticket.fromDict_arranged writable]

end Read

/-! ### Minting -/

section Minting
variable [Host] [Packages]

/-- Numbers are encoded where they fit the width of their field. -/
def BoundedEncoding : Prop :=
  ∀ data signable, Packages.encode data = .ok signable → ∀ field ∈ data.fields, startsWith field.2 "uint" = true →
    ∀ number, data.message.item field.1 = .ok (.int number) → 0 ≤ number ∧ number < 2 ^ 256

/-- What a key signs is bytes, from which the address of the key is recovered. -/
def RecoversBytes [Accounts] : Prop :=
  ∀ key address signable signature, Accounts.address key = .ok address → Packages.sign signable key = .ok signature →
    (∀ byte ∈ signature, byte < 256) ∧ Packages.recover signable (.bytes signature) = .ok address

/-- The key is that of the node. -/
def KeyOf [Accounts] (nodeKey originNode : String) : Prop :=
  ∃ address, Accounts.address nodeKey = .ok address ∧ lower (nodeIdFromAddress address) = lower originNode

/-- Texts where texts are declared, and hops whose times print. -/
structure Errand.Typed (errand : Errand) : Prop where
  footprint : ∃ text, errand.footprint = .str text
  peer : ∃ text, errand.peer = .str text
  path : ∀ hop ∈ errand.hops, prints hop.at_ = true

/-- What `mint` makes of an errand. -/
structure Minted (nodeKey : String) (errand : Errand) (now : Int) (ticket : Ticket) : Prop where
  originNode : ticket.originNode = .str errand.originNode
  originDomain : ticket.originDomain = .str (lower (strip errand.originDomain))
  clusterId : ticket.clusterId = .str errand.clusterId
  agentId : ∃ agentId, ticket.agentId = .int agentId
  chainId : ∃ chainId, ticket.chainId = .int chainId
  footprint : ticket.footprint = errand.footprint
  tier : ∃ tier, parseTier errand.assertedTier = .ok tier ∧ ticket.assertedTier = .str (formatTier tier)
  audience : ticket.audience = .str (lower (strip errand.audience))
  peer : ticket.peer = errand.peer
  scope : ticket.scope = .str errand.scope
  task : ticket.task = .str (taskDigest errand.task)
  hops : ticket.hops = errand.hops
  maxHops : ticket.maxHops = .int errand.maxHops
  issuedAt : ticket.issuedAt = .int now
  expiresAt : ticket.expiresAt = .int (now + max 1 errand.ttl)
  nonce : ∃ nonce, ticket.nonce = .str nonce
  specVersion : ticket.specVersion = .str "0.1-draft"
  signed : ∃ message signable signature, ticket.payload = .ok message ∧
    Packages.encode (typed message errand.eip712ChainId) = .ok signable ∧ Packages.sign signable nodeKey = .ok signature ∧
    ticket.signature = .str ("0x" ++ toHex signature)

theorem mint_minted {nodeKey : String} {errand : Errand} {nonce : String} {now : Int} {ticket : Ticket}
    (minted : mint nodeKey errand nonce now = .ok ticket) : Minted nodeKey errand now ticket := by
  unfold mint at minted
  split at minted
  · cases minted
  simp only [canonicalTier, bind_eq_ok, pure_eq_ok] at minted
  obtain ⟨_, ⟨tier, parsed, rfl⟩, minted⟩ := minted
  split at minted
  · cases minted
  simp only [bind_eq_ok, pure_eq_ok] at minted
  obtain ⟨agentId, _, chainId, _, message, payload, signable, encoded, signature, signed, rfl⟩ := minted
  exact {
    originNode := rfl, originDomain := rfl, clusterId := rfl, agentId := ⟨agentId, rfl⟩, chainId := ⟨chainId, rfl⟩
    footprint := rfl, tier := ⟨tier, parsed, rfl⟩, audience := rfl, peer := rfl, scope := rfl, task := rfl, hops := rfl
    maxHops := rfl, issuedAt := rfl, expiresAt := rfl, nonce := ⟨nonce, rfl⟩, specVersion := rfl
    signed := ⟨message, signable, signature, payload, encoded, signed, rfl⟩ }

omit [Packages] in
/-- The whole numbers of a ticket are signed as they are. -/
theorem payload_item [Packages] {ticket : Ticket} {message : Json} (payload : ticket.payload = .ok message) :
    message.item "agentId" = .ok ticket.agentId ∧ message.item "chainId" = .ok ticket.chainId ∧
      message.item "maxHops" = .ok ticket.maxHops ∧ message.item "issuedAt" = .ok ticket.issuedAt ∧
      message.item "expiresAt" = .ok ticket.expiresAt := by
  simp only [Ticket.payload, bind_eq_ok, pure_eq_ok] at payload
  obtain ⟨_, _, _, _, rfl⟩ := payload
  exact ⟨rfl, rfl, rfl, rfl, rfl⟩

namespace Minted
variable {nodeKey : String} {errand : Errand} {now : Int} {ticket : Ticket} (minted : Minted nodeKey errand now ticket)
include minted

theorem writable (bounded : BoundedEncoding) (typed : errand.Typed) : ticket.Writable := by
  obtain ⟨message, signable, signature, payload, encoded, _, signed⟩ := minted.signed
  obtain ⟨agent, chain, budget, issued, expires⟩ := payload_item payload
  obtain ⟨agentId, agentId_eq⟩ := minted.agentId
  obtain ⟨chainId, chainId_eq⟩ := minted.chainId
  obtain ⟨tier, _, tier_eq⟩ := minted.tier
  obtain ⟨nonce, nonce_eq⟩ := minted.nonce
  obtain ⟨⟨footprint, footprint_eq⟩, ⟨peer, peer_eq⟩, path⟩ := typed
  rw [agentId_eq] at agent
  rw [chainId_eq] at chain
  rw [minted.maxHops] at budget
  rw [minted.issuedAt] at issued
  rw [minted.expiresAt] at expires
  have number (name type : String) (member : (name, type) ∈ (Delegation.typed message errand.eip712ChainId).fields)
      (unsigned : startsWith type "uint" = true) {value : Int} (held : message.item name = .ok (.int value)) :
      (Json.int value).isFlat = true := by
    obtain ⟨natural, small⟩ := bounded _ _ encoded (name, type) member unsigned value held
    exact prints_of_word natural small
  have agentFlat := number "agentId" "uint256" (by simp [Delegation.typed]) rfl agent
  have chainFlat := number "chainId" "uint256" (by simp [Delegation.typed]) rfl chain
  have budgetFlat := number "maxHops" "uint64" (by simp [Delegation.typed]) rfl budget
  have issuedFlat := number "issuedAt" "uint64" (by simp [Delegation.typed]) rfl issued
  have expiresFlat := number "expiresAt" "uint64" (by simp [Delegation.typed]) rfl expires
  have text (given : String) : (Json.str given).isFlat = true := rfl
  constructor
  · simp only [Ticket.members, List.forall_mem_cons, minted.originNode, minted.originDomain, minted.clusterId, agentId_eq, chainId_eq,
      minted.footprint, footprint_eq, tier_eq, minted.audience, minted.peer, peer_eq, minted.scope, minted.task, minted.maxHops,
      minted.issuedAt, minted.expiresAt, nonce_eq, minted.specVersion, signed, text, agentFlat, chainFlat, budgetFlat, issuedFlat,
      expiresFlat, or_true, true_or, true_and]
    exact List.forall_mem_nil _
  · rw [minted.hops]
    exact path

theorem compared : Compared ticket := by
  obtain ⟨tier, _, given⟩ := minted.tier
  exact {
    tier := ⟨_, given⟩, budget := ⟨_, minted.maxHops⟩, issued := ⟨_, minted.issuedAt⟩, expires := ⟨_, minted.expiresAt⟩ }

variable [Accounts] (recovers : RecoversBytes) (own : KeyOf nodeKey errand.originNode)
include recovers own

theorem signedBy : ∃ signer message signable, SignedBy ticket errand.eip712ChainId signer message signable := by
  obtain ⟨message, signable, signature, payload, encoded, made, signed⟩ := minted.signed
  obtain ⟨address, known, named⟩ := own
  obtain ⟨bytes, recovered⟩ := recovers _ _ _ _ known made
  refine ⟨address, message, signable, payload, encoded, ⟨signature, ?_, recovered⟩, ?_⟩
  · rw [signed, signatureBytes]
    exact fromHex_toHex bytes
  · rw [minted.originNode, named]
    rfl

theorem signatureProblems : signatureProblems ticket errand.eip712ChainId = .ok [] := by
  obtain ⟨address, message, signable, payload, encoded, ⟨signature, read, recovered⟩, origin⟩ := minted.signedBy recovers own
  have given : ticket.signature.truthy = true := by
    obtain ⟨_, _, bytes, _, _, _, signed⟩ := minted.signed
    rw [signed]
    exact truthy_append "0x" _ (by decide)
  have signer : recoverSigner ticket errand.eip712ChainId = .ok address := by
    rw [recoverSigner, payload, ok_bind, encoded, ok_bind, read, ok_bind, recovered]
  simp only [Delegation.signatureProblems, given, signer, origin, ok_bind, Bool.not_true, Bool.false_eq_true, if_false, ne_eq,
    not_true_eq_false, decide_false]
  rfl

end Minted

/-! ### Arriving -/

/-- A peer at the named audience, that is not on the path and whose ceiling is a
cell, while the ticket lives: on its clock, which is no more than five seconds
behind, for a life that it allows. A cluster of its own has the origin as a member. -/
structure Destination.Meant (destination : Destination) (errand : Errand) (now : Int) : Prop where
  audience : lower (strip destination.audience) = lower (strip errand.audience)
  peer : destination.originIsPeer = true
  member : destination.originInCluster ≠ some false
  cluster : destination.expectedClusterId = "" ∨ errand.clusterId = "" ∨
    lower errand.clusterId = lower destination.expectedClusterId
  away : lower destination.selfNodeId ∉ lower errand.originNode :: errand.hops.map (fun hop => lower hop.nodeId)
  ceiling : ∃ limit, parseTier destination.ceiling = .ok limit
  issued : now ≤ destination.now + 5
  unexpired : destination.now ≤ now + max 1 errand.ttl
  life : max 1 errand.ttl ≤ destination.maxTtl
  chain : destination.eip712ChainId = errand.eip712ChainId

def Tier.ofLegs (agent human : Fin 3) : Tier := { agent := (agent : Int), human := (human : Int) }

omit [Packages] in
theorem parseTier_legs {text : String} {tier : Tier} (parsed : parseTier text = .ok tier) :
    ∃ agent human, tier = Tier.ofLegs agent human := by
  unfold parseTier at parsed
  split at parsed
  · split at parsed
    · simp only [bind_eq_ok] at parsed
      obtain ⟨agent, _, human, _, parsed⟩ := parsed
      split at parsed
      next range =>
        obtain rfl := Except.ok.inj parsed
        refine ⟨⟨agent.toNat, by omega⟩, ⟨human.toNat, by omega⟩, ?_⟩
        simp only [Tier.ofLegs, Tier.mk.injEq]
        omega
      · cases parsed
    · cases parsed
  · cases parsed

omit [Packages] in
theorem parseTier_formatTier (uppers : TierAgreement.Uppers) (agent human : Fin 3) :
    parseTier (formatTier (Tier.ofLegs agent human)) = .ok (Tier.ofLegs agent human) := by
  have spelled : ∀ agent human : Fin 3, TierAgreement.Spells (Spaces.core (TierAgreement.canonical agent human)) agent human := by
    decide
  rw [Tier.ofLegs, ← (TierAgreement.formats agent human).1]
  exact TierAgreement.delegation_parseTier (spelled agent human) uppers

omit [Packages] in
/-- A cell as `mint` writes it is narrowed like the one that was asserted. -/
theorem tier_narrowed (uppers : TierAgreement.Uppers) {cell ceiling : String} {tier limit : Tier}
    (parsed : parseTier cell = .ok tier) (bound : parseTier ceiling = .ok limit) {ticket : Ticket}
    (given : ticket.assertedTier = .str (formatTier tier)) :
    ∃ effective less, narrowTier cell ceiling = .ok effective ∧ tierOrProblem ticket ceiling = .ok (effective, less, []) ∧
      wideningProblems ticket effective = .ok [] := by
  obtain ⟨agent, human, rfl⟩ := parseTier_legs parsed
  obtain ⟨agent', human', rfl⟩ := parseTier_legs bound
  have asserted := parseTier_formatTier uppers agent human
  have effective := parseTier_formatTier uppers (min agent agent') (min human human')
  have cellGiven : cellText ticket.assertedTier = .ok (formatTier (Tier.ofLegs agent human)) := by
    rw [given, cellText]
  have least : ∀ first second : Fin 3, min (first : Int) second = ((min first second : Fin 3) : Int) := by decide
  have narrow (text : String) (read : parseTier text = .ok (Tier.ofLegs agent human)) :
      narrowTier text ceiling = .ok (formatTier (Tier.ofLegs (min agent agent') (min human human'))) := by
    rw [narrowTier, read, ok_bind, bound, ok_bind]
    simp only [Tier.ofLegs, least]
    rfl
  refine ⟨formatTier (Tier.ofLegs (min agent agent') (min human human')), decide (formatTier (Tier.ofLegs (min agent agent')
    (min human human')) ≠ formatTier (Tier.ofLegs agent human)), narrow cell parsed, ?_, ?_⟩
  · rw [tierOrProblem, narrowed, cellGiven, ok_bind, narrow _ asserted, ok_bind, canonicalTier, asserted, ok_bind]
    rfl
  · have weaker : ∀ agent human agent' human' : Fin 3, (decide ((Tier.ofLegs (min agent agent') (min human human')).agent >
        (Tier.ofLegs agent human).agent) || decide ((Tier.ofLegs (min agent agent') (min human human')).human >
        (Tier.ofLegs agent human).human)) = false := by decide
    have wider : widens (formatTier (Tier.ofLegs agent human))
        (formatTier (Tier.ofLegs (min agent agent') (min human human'))) = .ok false := by
      rw [widens, asserted, ok_bind, effective, ok_bind, weaker]
      rfl
    have written : formatTier (Tier.ofLegs (min agent agent') (min human human')) ≠ "" := by simp [formatTier]
    rw [wideningProblems, if_neg written, cellGiven, ok_bind, wider, ok_bind]
    rfl

namespace Minted
variable {nodeKey : String} {errand : Errand} {now : Int} {ticket : Ticket} (minted : Minted nodeKey errand now ticket)
  {destination : Destination} (meant : destination.Meant errand now)
include minted meant

theorem timeProblems : timeProblems ticket destination = .ok [] := by
  refine timeProblems_nil.mpr ⟨?_, ?_, .int (max 1 errand.ttl), ?_, ?_⟩
  · rw [Ticket.expired, minted.expiresAt, Json.int_gt_int]
    exact congrArg Except.ok (decide_eq_false (Int.not_lt.mpr meant.unexpired))
  · rw [minted.issuedAt, Json.int_gt_int]
    exact congrArg Except.ok (decide_eq_false (Int.not_lt.mpr meant.issued))
  · rw [minted.expiresAt, minted.issuedAt, Json.int_sub_int, add_sub_cancel_left]
  · rw [Json.int_gt_int]
    exact congrArg Except.ok (decide_eq_false (Int.not_lt.mpr meant.life))

theorem originProblems : originProblems ticket destination = .ok [] := by
  have cluster : andThen (destination.expectedClusterId ≠ "" && ticket.clusterId.truthy)
      (differs ticket.clusterId (.str destination.expectedClusterId)) = .ok false := by
    rw [andThen_eq_false, minted.clusterId]
    intro named
    simp only [Json.truthy, Bool.and_eq_true, decide_eq_true_eq] at named
    rcases meant.cluster with absent | absent | same
    · exact absurd absent named.1
    · exact absurd absent named.2
    · simp [differs, Json.lower, Json.asStr, same]
  simp only [Delegation.originProblems, cluster, ok_bind, meant.peer, problemIf, Bool.not_true, decide_eq_false meant.member,
    Bool.false_eq_true, if_false]
  rfl

theorem pathProblems (budget : errand.hops.length < errand.maxHops) : pathProblems ticket destination = .ok [] := by
  refine pathProblems_nil.mpr ⟨?_, lower errand.originNode, ?_, ?_⟩
  · rw [Ticket.depth, minted.hops, minted.maxHops, Json.int_ge_int]
    exact congrArg Except.ok (decide_eq_false (Int.not_le.mpr budget))
  · rw [minted.originNode]
    rfl
  · rw [minted.hops]
    exact meant.away

theorem admitted [Accounts] (recovers : RecoversBytes) (uppers : TierAgreement.Uppers) (own : KeyOf nodeKey errand.originNode)
    (budget : errand.hops.length < errand.maxHops) :
    ∃ decision, admitTicket ticket destination errand.task = .ok decision ∧ decision.admitted = true ∧
      narrowTier errand.assertedTier destination.ceiling = .ok decision.effectiveTier := by
  obtain ⟨tier, parsed, given⟩ := minted.tier
  obtain ⟨limit, bound⟩ := meant.ceiling
  obtain ⟨effective, less, narrow, narrowed, widening⟩ := tier_narrowed uppers parsed bound given
  have audience : ticket.audience.lower = .ok (lower (strip destination.audience)) := by
    rw [minted.audience, meant.audience]
    exact congrArg Except.ok (lower_lower _)
  have signature := minted.signatureProblems recovers own
  rw [← meant.chain] at signature
  refine ⟨{ admitted := true, effectiveTier := effective, narrowed := less }, ?_, rfl, narrow⟩
  simp only [admitTicket, audience, minted.timeProblems meant, minted.originProblems meant, minted.pathProblems meant budget,
    signature, narrowed, widening, minted.task, ok_bind, ne_eq, not_true_eq_false, decide_false, Bool.and_false]
  rfl

end Minted

/-! ### On the wrong way -/

/-- No destination admits the ticket, whatever it is asked to do. -/
def Refused (ticket : Ticket) : Prop :=
  ∀ destination task decision, admitTicket ticket destination task = .ok decision → decision.admitted = false

/-- Texts and whole numbers where they are declared. -/
structure Ticket.Typed (ticket : Ticket) : Prop where
  clusterId : ∃ text, ticket.clusterId = .str text
  agentId : ∃ number, ticket.agentId = .int number
  chainId : ∃ number, ticket.chainId = .int number
  footprint : ∃ text, ticket.footprint = .str text
  peer : ∃ text, ticket.peer = .str text
  scope : ∃ text, ticket.scope = .str text
  task : ∃ text, ticket.task = .str text
  nonce : ∃ text, ticket.nonce = .str text

/-- The same in every field that is signed, but for the letter case of two domains. -/
def SameSigned (ticket other : Ticket) : Prop :=
  other.originDomain.lower = ticket.originDomain.lower ∧ other.audience.lower = ticket.audience.lower ∧
    other = { ticket with originDomain := other.originDomain, audience := other.audience, specVersion := other.specVersion }

omit [Packages] in
theorem SameAuthority.same {ticket other : Ticket} (alike : SameAuthority ticket other) (typed : ticket.Typed) (typed' : other.Typed)
    (signature : other.signature = ticket.signature) : SameSigned ticket other := by
  have text {first second : Json} (read : ReadAlike "string" first second) (one : ∃ text, first = .str text)
      (two : ∃ text, second = .str text) : first = second := by
    obtain ⟨text, rfl⟩ := one
    obtain ⟨text', rfl⟩ := two
    rw [read.1 rfl text text' rfl rfl]
  have number {first second : Json} (read : ReadAlike "uint256" first second) (one : ∃ number, first = .int number)
      (two : ∃ number, second = .int number) : first = second := by
    obtain ⟨number, rfl⟩ := one
    obtain ⟨number', rfl⟩ := two
    rw [read.2 rfl number number' rfl rfl]
  have clusterId := text alike.clusterId typed.clusterId typed'.clusterId
  have agentId := number alike.agentId typed.agentId typed'.agentId
  have chainId := number alike.chainId typed.chainId typed'.chainId
  have footprint := text alike.footprint typed.footprint typed'.footprint
  have peer := text alike.peer typed.peer typed'.peer
  have scope := text alike.scope typed.scope typed'.scope
  have task := text alike.task typed.task typed'.task
  have nonce := text alike.nonce typed.nonce typed'.nonce
  refine ⟨alike.originDomain.symm, alike.audience.symm, ?_⟩
  cases other
  simp only [Ticket.mk.injEq, true_and]
  exact ⟨alike.originNode.symm, clusterId.symm, agentId.symm, chainId.symm, footprint.symm, alike.assertedTier.symm, peer.symm,
    scope.symm, task.symm, alike.hops.symm, alike.maxHops.symm, alike.issuedAt.symm, alike.expiresAt.symm, nonce.symm, signature⟩

theorem refused_of_unsigned {ticket : Ticket} (unsigned : ticket.signature = .str "") : Refused ticket := by
  intro destination task decision done
  by_contra admitted
  have checks := admitTicket_checks done (Bool.not_eq_false _ ▸ admitted)
  have signature := checks.signature
  simp [signatureProblems, unsigned, Json.truthy] at signature

/-- The letter case of the two domains is of no account. -/
theorem admitTicket_respelled {ticket : Ticket} {originDomain audience : Json}
    (domain : originDomain.lower = ticket.originDomain.lower) (named : audience.lower = ticket.audience.lower)
    (destination : Destination) (task : Json) :
    admitTicket { ticket with originDomain, audience } destination task = admitTicket ticket destination task := by
  have payload : Ticket.payload { ticket with originDomain, audience } = ticket.payload := by
    rw [Ticket.payload, Ticket.payload, domain, named]
  have signer : recoverSigner { ticket with originDomain, audience } destination.eip712ChainId =
      recoverSigner ticket destination.eip712ChainId := by
    rw [recoverSigner, recoverSigner, payload]
  have signature : signatureProblems { ticket with originDomain, audience } destination.eip712ChainId =
      signatureProblems ticket destination.eip712ChainId := by
    rw [signatureProblems, signatureProblems, signer]
  rw [admitTicket, admitTicket, named, signature]
  rfl

namespace Minted
variable {nodeKey : String} {errand : Errand} {now : Int} {ticket : Ticket} (minted : Minted nodeKey errand now ticket)
include minted

theorem typed (typed : errand.Typed) : ticket.Typed where
  clusterId := ⟨_, minted.clusterId⟩
  agentId := minted.agentId
  chainId := minted.chainId
  footprint := minted.footprint ▸ typed.footprint
  peer := minted.peer ▸ typed.peer
  scope := ⟨_, minted.scope⟩
  task := ⟨_, minted.task⟩
  nonce := minted.nonce

/-- Whatever is admitted under the signature of a ticket has its authority. -/
theorem sameAuthority [Accounts] (ideal : IdealHash) (encoding : FaithfulEncoding) (signatures : IdealSignatures NamesSigner)
    (recovers : RecoversBytes) (own : KeyOf nodeKey errand.originNode) {other : Ticket} (signature : other.signature = ticket.signature)
    {destination : Destination} {task : Json} {decision : Admission} (done : admitTicket other destination task = .ok decision)
    (admitted : decision.admitted = true) : SameAuthority ticket other := by
  have checks := admitTicket_checks done admitted
  obtain ⟨_, _, _, signed⟩ := minted.signedBy recovers own
  obtain ⟨_, _, _, signed'⟩ := signatureProblems_nil checks.signature
  exact signed.sameAuthority ideal encoding signatures minted.compared (checks.compared encoding) signed' signature

theorem changed_refused [Accounts] (ideal : IdealHash) (encoding : FaithfulEncoding) (signatures : IdealSignatures NamesSigner)
    (recovers : RecoversBytes) (own : KeyOf nodeKey errand.originNode) (typed : errand.Typed) {other : Ticket} (typed' : other.Typed)
    (signature : other.signature = ticket.signature) (changed : ¬ SameSigned ticket other) : Refused other := by
  intro destination task decision done
  by_contra admitted
  have alike := minted.sameAuthority ideal encoding signatures recovers own signature done (Bool.not_eq_false _ ▸ admitted)
  exact changed (alike.same (minted.typed typed) typed' signature)

/-- A longer path is another one than was signed. -/
theorem extend_refused [Accounts] (ideal : IdealHash) (encoding : FaithfulEncoding) (bounded : BoundedEncoding)
    (signatures : IdealSignatures NamesSigner) (recovers : RecoversBytes) (own : KeyOf nodeKey errand.originNode)
    (typed : errand.Typed) (nodeId domain : String) (time : Int) :
    ∃ extended, extend ticket nodeId domain time = .ok extended ∧ Refused extended ∧
      Refused { extended with signature := ticket.signature } := by
  have read : Ticket.fromDict ticket.toDict = .ok ticket := by
    have plain : ticket.toDict.arranged {} = ticket.toDict := rfl
    rw [← plain]
    exact Ticket.fromDict_arranged (minted.writable bounded typed)
  refine ⟨{ ticket with hops := ticket.hops ++ [{ nodeId, domain, at_ := time }], signature := .str "" }, ?_,
    refused_of_unsigned rfl, ?_⟩
  · rw [extend, read]
    rfl
  · intro destination task decision done
    by_contra admitted
    have alike : SameAuthority ticket { ticket with hops := ticket.hops ++ [{ nodeId, domain, at_ := time }] } :=
      minted.sameAuthority ideal encoding signatures recovers own rfl done (Bool.not_eq_false _ ▸ admitted)
    have longer := congrArg List.length alike.hops
    simp at longer

end Minted

/-- A minted ticket arrives as it was and is admitted where it was meant to be. It
is refused once it is extended, or changed in a field that is signed. -/
theorem ticket_round_trip [Accounts] (ideal : IdealHash) (encoding : FaithfulEncoding) (bounded : BoundedEncoding)
    (signatures : IdealSignatures NamesSigner) (recovers : RecoversBytes) (uppers : TierAgreement.Uppers) {nodeKey : String}
    {errand : Errand} {nonce : String} {now : Int} {ticket : Ticket} (typed : errand.Typed)
    (budget : errand.hops.length < errand.maxHops) (own : KeyOf nodeKey errand.originNode)
    (done : mint nodeKey errand nonce now = .ok ticket) :
    (∀ style : DumpStyle, style.Standard → received style ticket = some (.ok ticket)) ∧
      (∀ destination : Destination, destination.Meant errand now →
        ∃ decision, admitTicket ticket destination errand.task = .ok decision ∧ decision.admitted = true ∧
          narrowTier errand.assertedTier destination.ceiling = .ok decision.effectiveTier) ∧
      (∀ nodeId domain time, ∃ extended, extend ticket nodeId domain time = .ok extended ∧ Refused extended ∧
        Refused { extended with signature := ticket.signature }) ∧
      ∀ other : Ticket, other.Typed → other.signature = ticket.signature → ¬ SameSigned ticket other → Refused other := by
  have minted := mint_minted done
  refine ⟨?_, ?_, ?_, ?_⟩
  · intro style standard
    exact received_of_writable standard (minted.writable bounded typed)
  · intro destination meant
    exact minted.admitted meant recovers uppers own budget
  · intro nodeId domain time
    exact minted.extend_refused ideal encoding bounded signatures recovers own typed nodeId domain time
  · intro other typed' signature changed
    exact minted.changed_refused ideal encoding signatures recovers own typed typed' signature changed

end Minting

/-! ### A ticket that is shipped -/

section Shipped

local instance shippedHost : Host := asciiHost []

def shippedKey : String := "0xe2c8f58f0df9cec2871ea15158e280ec612c88c13436bc131ebac9868db8cafe"

def shippedSigner : String := "0xF0904054478098Bb6F21E30735A703Acc2823b5B"

def shippedHop : Hop where
  nodeId := "0xc"
  domain := "c.example"
  at_ := 90

def shippedHashes : List (List Nat × List Nat) :=
  [(utf8 (lower shippedSigner), [253, 140, 182, 195, 158, 113, 107, 249, 209, 129, 113, 80, 89, 76, 170, 28, 148, 6, 170, 192, 186, 183, 227, 216,
     209, 114, 18, 91, 110, 22, 63, 25]),
   (utf8 "\x7b\x7d", [180, 141, 56, 249, 62, 170, 8, 64, 51, 252, 89, 112, 191, 150, 229, 89, 195, 60, 76, 220, 7, 216, 137, 171, 0,
     180, 214, 63, 149, 144, 115, 157]),
   (utf8 "[\x7b\"at\":90,\"domain\":\"c.example\",\"nodeId\":\"0xc\"\x7d]", [230, 182, 233, 1, 119, 65, 118, 59, 168, 235, 120, 206, 42, 172, 19, 116, 196, 203, 183, 113, 220, 61, 78, 162,
     104, 142, 178, 47, 243, 85, 147, 174])]

abbrev shippedHash : Packages := tablePackages shippedHashes []

def shippedErrand : Errand where
  originNode := @nodeIdFromAddress shippedHost shippedHash shippedSigner
  originDomain := " A.example"
  audience := "B.Example"
  agentId := .int 7
  chainId := .int 0
  footprint := .str "0xab"
  assertedTier := "a2xh1"
  scope := "read"
  task := .null
  hops := [shippedHop]
  ttl := 60

def shippedSignature : List Nat :=
  [182, 139, 53, 151, 49, 179, 114, 185, 93, 147, 5, 240, 90, 119, 183, 126, 170, 218, 50, 192, 141, 28, 193, 141,
   192, 129, 16, 230, 131, 51, 159, 33, 110, 230, 71, 110, 130, 241, 231, 104, 82, 117, 75, 215, 30, 206, 210, 195,
   29, 7, 34, 247, 237, 140, 247, 97, 169, 242, 145, 63, 200, 129, 247, 220, 28]

def shippedTicket : Ticket where
  originNode := .str shippedErrand.originNode
  originDomain := .str "a.example"
  agentId := .int 7
  footprint := .str "0xab"
  assertedTier := .str "A2xH1"
  audience := .str "b.example"
  scope := .str "read"
  task := .str (@taskDigest shippedHost shippedHash .null)
  hops := [shippedHop]
  issuedAt := .int 100
  expiresAt := .int 160
  nonce := .str "n"
  signature := .str ("0x" ++ toHex shippedSignature)

def shippedPayload : Json :=
  .dict [("originNode", .str shippedErrand.originNode), ("originDomain", .str "a.example"), ("clusterId", .str ""),
    ("agentId", .int 7), ("chainId", .int 0), ("footprint", .str "0xab"), ("assertedTier", .str "A2xH1"),
    ("audience", .str "b.example"), ("peer", .str ""), ("scope", .str "read"),
    ("task", .str (@taskDigest shippedHost shippedHash .null)),
    ("path", .str (@digestJson shippedHash shippedHost (.list [shippedHop.toDict]))), ("maxHops", .int 3),
    ("issuedAt", .int 100), ("expiresAt", .int 160), ("nonce", .str "n")]

def shippedSigned : SignedMessage where
  message := typed shippedPayload
  hash := [222, 34, 180, 97, 215, 75, 73, 246, 89, 110, 184, 162, 177, 109, 225, 216, 252, 25, 34, 192, 88, 204, 129, 121,
     73, 70, 25, 145, 201, 67, 243, 122]
  signature := .bytes shippedSignature
  signer := shippedSigner

/-- The packages know the one signature of the origin. -/
local instance shippedPackages : Packages :=
  { tablePackages shippedHashes [shippedSigned] with
    sign := fun signable key =>
      if signable = shippedSigned.hash ∧ key = shippedKey then .ok shippedSignature
      else raise (.package "ValidationError") "" }

local instance shippedAccounts : Accounts where
  address := fun key => if key = shippedKey then .ok shippedSigner else raise (.package "ValidationError") ""

theorem shipped_ideal : IdealHash := by
  have table := tablePackages_ideal [shippedSigned] (show realHashes shippedHashes = true by decide)
  exact @IdealHash.mk shippedPackages (@IdealHash.bytes (tablePackages shippedHashes [shippedSigned]) table)
    (@IdealHash.splits (tablePackages shippedHashes [shippedSigned]) table)

theorem shipped_faithful : FaithfulEncoding := by
  have table : @FaithfulEncoding (tablePackages shippedHashes [shippedSigned]) :=
    tablePackages_separate shippedHashes (by decide) (List.nodup_singleton _)
  exact @FaithfulEncoding.mk shippedPackages (@FaithfulEncoding.alike (tablePackages shippedHashes [shippedSigned]) table)
    (@FaithfulEncoding.whole (tablePackages shippedHashes [shippedSigned]) table)

/-- The packages encode nothing else. -/
theorem shipped_only {data : TypedData} {signable : List Nat} (encoded : Packages.encode data = .ok signable) :
    data = typed shippedPayload ∧ signable = shippedSigned.hash := by
  have known : (tablePackages shippedHashes [shippedSigned]).encode data = .ok signable := encoded
  obtain ⟨_, member, rfl, rfl⟩ := mem_of_encode known
  obtain rfl := List.mem_singleton.mp member
  exact ⟨rfl, rfl⟩

theorem shipped_signatures : IdealSignatures NamesSigner := by
  intro data data' signable signable' signature signer signer' encoded encoded' _ _ _ _
  rw [(shipped_only encoded).2, (shipped_only encoded').2]

/-- Whole numbers of a word, and whatever is no whole number. -/
def fitsWord : Raises Json → Bool
  | .ok (.int number) => decide (0 ≤ number) && decide (number < 2 ^ 256)
  | _ => true

theorem shipped_bounded : BoundedEncoding := by
  have checked : (typed shippedPayload).fields.all (fun field => !startsWith field.2 "uint" ||
      fitsWord (shippedPayload.item field.1)) = true := by decide
  intro data signable encoded field member unsigned number held
  obtain ⟨rfl, _⟩ := shipped_only encoded
  have held : shippedPayload.item field.1 = .ok (.int number) := held
  have fits := List.all_eq_true.mp checked field member
  rw [unsigned, held] at fits
  simpa [fitsWord] using fits

theorem shipped_recovers : RecoversBytes := by
  intro key address signable signature known made
  simp only [Accounts.address, Packages.sign] at known made
  split at known
  · split at made
    next inputs =>
      obtain rfl := Except.ok.inj known
      obtain rfl := Except.ok.inj made
      refine ⟨by decide, ?_⟩
      have found : [shippedSigned].find? (fun other => other.hash = shippedSigned.hash &&
          other.signature = shippedSigned.signature) = some shippedSigned := List.find?_cons_of_pos (by simp)
      rw [inputs.1]
      exact recover_tablePackages shippedHashes found
    · cases made
  · cases known

theorem shipped_uppers : TierAgreement.Uppers := fun _ _ => rfl

theorem shipped_own : KeyOf shippedKey shippedErrand.originNode := ⟨shippedSigner, if_pos rfl, rfl⟩

theorem shipped_typed : shippedErrand.Typed where
  footprint := ⟨_, rfl⟩
  peer := ⟨_, rfl⟩
  path := List.forall_mem_singleton.mpr (by decide)

theorem shipped_encoded : Packages.encode (typed shippedPayload) = .ok shippedSigned.hash := by
  have found : [shippedSigned].find? (fun other => other.message = shippedSigned.message) = some shippedSigned :=
    List.find?_cons_of_pos (by simp only [decide_true])
  have same (data : TypedData) : Packages.encode data = (tablePackages shippedHashes [shippedSigned]).encode data := rfl
  have message : typed shippedPayload = shippedSigned.message := rfl
  rw [same, message]
  exact encode_tablePackages shippedHashes found

theorem shipped_made : Packages.sign shippedSigned.hash shippedKey = .ok shippedSignature := if_pos ⟨rfl, rfl⟩

/-- Digests do not depend on what was signed. -/
theorem shipped_digest (value : Json) : @digestJson shippedPackages shippedHost value = @digestJson shippedHash shippedHost value :=
  rfl

theorem shipped_payload : Ticket.payload { shippedTicket with signature := .str "" } = .ok shippedPayload := by
  have domain : Json.lower (.str "a.example") = .ok "a.example" := by decide
  have audience : Json.lower (.str "b.example") = .ok "b.example" := by decide
  refine (bind_eq_ok ..).mpr ⟨"a.example", domain, (bind_eq_ok ..).mpr ⟨"b.example", audience, ?_⟩⟩
  rw [shipped_digest]
  rfl

theorem shipped_mint : mint shippedKey shippedErrand "n" 100 = .ok shippedTicket := by
  have named : ¬ strip shippedErrand.audience = "" := by decide
  have tier : canonicalTier shippedErrand.assertedTier = .ok "A2xH1" := by decide
  have budget : ¬ shippedErrand.maxHops < 1 := by decide
  have agent : shippedErrand.agentId.toInt = .ok 7 := rfl
  have chain : shippedErrand.chainId.toInt = .ok 0 := rfl
  have domain : lower (strip shippedErrand.originDomain) = "a.example" := by decide
  have audience : lower (strip shippedErrand.audience) = "b.example" := by decide
  have task : taskDigest shippedErrand.task = @taskDigest shippedHost shippedHash .null := shipped_digest (.dict [])
  have chainId : shippedErrand.eip712ChainId = 8453 := rfl
  rw [mint, if_neg named, tier, ok_bind, if_neg budget, agent, ok_bind, chain, ok_bind, domain, audience, task, chainId]
  change (Ticket.payload { shippedTicket with signature := .str "" } >>= _) = _
  rw [shipped_payload, ok_bind, shipped_encoded, ok_bind, shipped_made, ok_bind]
  rfl

def shippedDestination : Destination where
  audience := "B.example "
  selfNodeId := "self"
  ceiling := "A1xH2"
  originIsPeer := true
  now := 130

theorem shipped_away : lower shippedDestination.selfNodeId ∉
    lower shippedErrand.originNode :: shippedErrand.hops.map (fun hop => lower hop.nodeId) := by
  have self : (lower shippedDestination.selfNodeId).toList.head? = some 's' := by decide
  have origin : (lower shippedErrand.originNode).toList.head? = some '0' := by
    change (lowerAscii ("0x" ++ _)).toList.head? = some '0'
    simp [lowerAscii, lowerLetter]
  have hop : (lower shippedHop.nodeId).toList.head? = some '0' := by decide
  intro member
  rcases List.mem_cons.mp member with same | same
  · rw [same, origin] at self
    cases self
  · rw [List.mem_singleton.mp same, hop] at self
    cases self

theorem shipped_meant : shippedDestination.Meant shippedErrand 100 where
  audience := by decide
  peer := rfl
  member := by decide
  cluster := .inl rfl
  away := shipped_away
  ceiling := ⟨⟨1, 2⟩, by decide⟩
  issued := by decide
  unexpired := by decide
  life := by decide
  chain := rfl

/-- It arrives, is admitted for less than it asserts, and is refused for another agent. -/
theorem ticket_round_trip_shipped :
    received {} shippedTicket = some (.ok shippedTicket) ∧
      (∃ decision, admitTicket shippedTicket shippedDestination .null = .ok decision ∧ decision.admitted = true ∧
        narrowTier "a2xh1" "A1xH2" = .ok decision.effectiveTier) ∧
      (∃ extended, extend shippedTicket "0xb" "b.example" 131 = .ok extended ∧ Refused extended) ∧
      Refused { shippedTicket with agentId := .int 8 } := by
  obtain ⟨arrives, admitted, extended, changed⟩ := ticket_round_trip shipped_ideal shipped_faithful shipped_bounded
    shipped_signatures shipped_recovers shipped_uppers shipped_typed (by decide) shipped_own shipped_mint
  refine ⟨arrives {} standard_default, admitted shippedDestination shipped_meant, ?_, ?_⟩
  · obtain ⟨extended, longer, refused, _⟩ := extended "0xb" "b.example" 131
    exact ⟨extended, longer, refused⟩
  · refine changed _ ?_ rfl ?_
    · exact {
        clusterId := ⟨_, rfl⟩, agentId := ⟨_, rfl⟩, chainId := ⟨_, rfl⟩, footprint := ⟨_, rfl⟩, peer := ⟨_, rfl⟩
        scope := ⟨_, rfl⟩, task := ⟨_, rfl⟩, nonce := ⟨_, rfl⟩ }
    · intro ⟨_, _, same⟩
      have agents : Json.int 8 = .int 7 := congrArg Ticket.agentId same
      cases agents

theorem shipped_late : ∀ decision, admitTicket shippedTicket { shippedDestination with now := 94 } .null = .ok decision →
    decision.admitted = false := by
  intro decision done
  by_contra admitted
  have checks := admitTicket_checks done (Bool.not_eq_false _ ▸ admitted)
  obtain ⟨_, past, _⟩ := timeProblems_nil.mp checks.time
  have future : shippedTicket.issuedAt.gt (.int (94 + 5)) = .ok true := Json.int_gt_int 100 (94 + 5)
  rw [future] at past
  cases past

/-- The audience in other letters is admitted under the same signature, and a peer
whose clock is six seconds behind refuses a ticket that has not expired. -/
theorem shipped_respelled :
    (Json.str "B.EXAMPLE" ≠ shippedTicket.audience ∧
      ∃ decision, admitTicket { shippedTicket with audience := .str "B.EXAMPLE" } shippedDestination .null = .ok decision ∧
        decision.admitted = true) ∧
      shippedTicket.expired 94 = .ok false ∧
      ∀ decision, admitTicket shippedTicket { shippedDestination with now := 94 } .null = .ok decision →
        decision.admitted = false := by
  have minted := mint_minted shipped_mint
  obtain ⟨decision, done, admitted, _⟩ := minted.admitted shipped_meant shipped_recovers shipped_uppers shipped_own (by decide)
  have domain : shippedTicket.originDomain.lower = shippedTicket.originDomain.lower := rfl
  have audience : Json.lower (.str "B.EXAMPLE") = shippedTicket.audience.lower := by
    have upper : Json.lower (.str "B.EXAMPLE") = .ok "b.example" := by decide
    have small : Json.lower (.str "b.example") = .ok "b.example" := by decide
    exact upper.trans small.symm
  have same := admitTicket_respelled domain audience shippedDestination .null
  refine ⟨⟨by decide, decision, same.trans done, admitted⟩, Json.int_gt_int 94 160, shipped_late⟩

end Shipped

end Xcp.Delegation
