import Xcp.Library.Ideal
import Xcp.Federation.Delegation

/-! What an admitted ticket says, and who said it: the node that it comes from
signed all of its authority, and nothing of it is wider than asserted. -/

namespace Xcp.Delegation
open Checked Python Eth Identity

/-- No leg is above that of another tier. -/
def Tier.Within (tier other : Tier) : Prop := tier.agent ≤ other.agent ∧ tier.human ≤ other.human

section Admission
variable [Host] [Packages]

/-! ### What no problem means -/

omit [Packages] in
theorem timeProblems_nil {ticket : Ticket} {destination : Destination} :
    timeProblems ticket destination = .ok [] ↔
      ticket.expired destination.now = .ok false ∧ ticket.issuedAt.gt (.int (destination.now + 5)) = .ok false ∧
      ∃ life, ticket.expiresAt.sub ticket.issuedAt = .ok life ∧ life.gt (.int destination.maxTtl) = .ok false := by
  simp only [timeProblems, bind_eq_ok, pure_eq_ok, List.append_eq_nil_iff, problemIf_eq_nil]
  constructor
  · rintro ⟨expired, live, future, past, life, lasts, long, short, ⟨rfl, rfl⟩, rfl⟩
    exact ⟨live, past, life, lasts, short⟩
  · rintro ⟨live, past, life, lasts, short⟩
    exact ⟨false, live, false, past, life, lasts, false, short, ⟨rfl, rfl⟩, rfl⟩

omit [Packages] in
theorem pathProblems_nil {ticket : Ticket} {destination : Destination} :
    pathProblems ticket destination = .ok [] ↔
      (Json.int ticket.depth).ge ticket.maxHops = .ok false ∧
      ∃ origin, ticket.originNode.lower = .ok origin ∧
        lower destination.selfNodeId ∉ origin :: ticket.hops.map (fun hop => lower hop.nodeId) := by
  simp only [pathProblems, bind_eq_ok, pure_eq_ok, List.append_eq_nil_iff, problemIf_eq_nil, Bool.eq_false_iff,
    List.contains_iff_mem, ne_eq]
  constructor
  · intro clear
    obtain ⟨exhausted, budget, origin, named, left, away⟩ := clear
    exact ⟨by simpa [left] using budget, origin, named, away⟩
  · intro bounds
    obtain ⟨budget, origin, named, away⟩ := bounds
    exact ⟨false, budget, origin, named, by decide, away⟩

/-- A message that names its signer as the node that it comes from. -/
def NamesSigner (data : TypedData) (signer : String) : Prop :=
  ∃ origin, data.message.item "originNode" = .ok origin ∧ origin.lower = .ok (lower (nodeIdFromAddress signer))

/-- The key of the origin node signed what the ticket says. -/
structure SignedBy (ticket : Ticket) (chainId : Int) (signer : String) (message : Json) (signable : List Nat) : Prop where
  payload : ticket.payload = .ok message
  encoded : Packages.encode (typed message chainId) = .ok signable
  recovered : ∃ signature, signatureBytes ticket.signature = .ok signature ∧
    Packages.recover signable (.bytes signature) = .ok signer
  origin : ticket.originNode.lower = .ok (lower (nodeIdFromAddress signer))

theorem signatureProblems_nil {ticket : Ticket} {chainId : Int} (signed : signatureProblems ticket chainId = .ok []) :
    ∃ signer message signable, SignedBy ticket chainId signer message signable := by
  unfold signatureProblems at signed
  split at signed
  · cases signed
  split at signed
  · cases signed
  next signer recovered =>
    simp only [bind_eq_ok, pure_eq_ok, problemIf_eq_nil, decide_eq_false_iff_not, not_not] at signed
    obtain ⟨origin, named, rfl⟩ := signed
    simp only [recoverSigner, bind_eq_ok] at recovered
    obtain ⟨message, payload, signable, encoded, signature, read, recovered⟩ := recovered
    exact ⟨signer, message, signable, payload, encoded, ⟨signature, read, recovered⟩, named⟩

omit [Packages] in
theorem narrowed_within {ticket : Ticket} {ceiling effective : String} {less : Bool}
    (done : narrowed ticket ceiling = .ok (effective, less)) :
    ∃ text asserted limit tier, ticket.assertedTier = .str text ∧ parseTier text = .ok asserted ∧ parseTier ceiling = .ok limit ∧
      effective = formatTier tier ∧ tier.Within asserted ∧ tier.Within limit := by
  simp only [narrowed, narrowTier, canonicalTier, bind_eq_ok, pure_eq_ok, Prod.mk.injEq] at done
  obtain ⟨text, given, _, ⟨asserted, parsed, limit, bound, rfl⟩, _, _, rfl, _⟩ := done
  have named : ticket.assertedTier = .str text := by
    unfold cellText at given
    split at given
    next cell held => rw [held, Except.ok.inj given]
    next => split at given <;> cases given
  exact ⟨text, asserted, limit, _, named, parsed, bound, rfl, ⟨min_le_left .., min_le_left ..⟩,
    ⟨min_le_right .., min_le_right ..⟩⟩

omit [Packages] in
theorem tierOrProblem_nil {ticket : Ticket} {ceiling effective : String} {less : Bool}
    (done : tierOrProblem ticket ceiling = .ok (effective, less, [])) : narrowed ticket ceiling = .ok (effective, less) := by
  unfold tierOrProblem at done
  split at done
  next found => simp_all
  next => split at done <;> simp at done

structure Checks (ticket : Ticket) (destination : Destination) (decision : Admission) : Prop where
  audience : ticket.audience.lower = .ok (lower (strip destination.audience))
  time : timeProblems ticket destination = .ok []
  path : pathProblems ticket destination = .ok []
  signature : signatureProblems ticket destination.eip712ChainId = .ok []
  tier : ∃ less, narrowed ticket destination.ceiling = .ok (decision.effectiveTier, less)

theorem admitTicket_checks {ticket : Ticket} {destination : Destination} {task : Json} {decision : Admission}
    (done : admitTicket ticket destination task = .ok decision) (admitted : decision.admitted = true) :
    Checks ticket destination decision := by
  simp only [admitTicket, bind_eq_ok, pure_eq_ok, Prod.exists] at done
  obtain ⟨audience, spelled, time, timed, _, _, path, walked, signature, signed, effective, less, tier, narrow, _, _, rfl⟩ := done
  simp only [decide_eq_true_eq, List.append_eq_nil_iff, problemIf_eq_nil, decide_eq_false_iff_not, not_not] at admitted
  obtain ⟨⟨⟨⟨⟨⟨⟨rfl, rfl⟩, _⟩, _⟩, rfl⟩, rfl⟩, rfl⟩, _⟩ := admitted
  exact ⟨spelled, timed, walked, signed, less, tierOrProblem_nil narrow⟩

/-! ### What a ticket says -/

/-- A ticket that may be used here and now. -/
structure Sound (ticket : Ticket) (destination : Destination) (decision : Admission) : Prop where
  signed : ∃ signer message signable, SignedBy ticket destination.eip712ChainId signer message signable
  audience : ticket.audience.lower = .ok (lower (strip destination.audience))
  lifetime : ∃ issued expires, ticket.issuedAt = .int issued ∧ ticket.expiresAt = .int expires ∧
    issued ≤ destination.now + 5 ∧ destination.now ≤ expires ∧ expires - issued ≤ destination.maxTtl
  budget : ∃ hops, ticket.maxHops = .int hops ∧ ticket.depth < hops
  path : ∃ origin, ticket.originNode.lower = .ok origin ∧
    lower destination.selfNodeId ∉ origin :: ticket.hops.map (fun hop => lower hop.nodeId)
  tier : ∃ text asserted limit tier, ticket.assertedTier = .str text ∧ parseTier text = .ok asserted ∧
    parseTier destination.ceiling = .ok limit ∧ decision.effectiveTier = formatTier tier ∧ tier.Within asserted ∧
    tier.Within limit

/-- Two tickets that say the same, up to the letter case of their domains and
up to values that are not of the type of their field. -/
structure SameAuthority (ticket other : Ticket) : Prop where
  originNode : ticket.originNode = other.originNode
  originDomain : ticket.originDomain.lower = other.originDomain.lower
  clusterId : ReadAlike "string" ticket.clusterId other.clusterId
  agentId : ReadAlike "uint256" ticket.agentId other.agentId
  chainId : ReadAlike "uint256" ticket.chainId other.chainId
  footprint : ReadAlike "string" ticket.footprint other.footprint
  assertedTier : ticket.assertedTier = other.assertedTier
  audience : ticket.audience.lower = other.audience.lower
  peer : ReadAlike "string" ticket.peer other.peer
  scope : ReadAlike "string" ticket.scope other.scope
  task : ReadAlike "string" ticket.task other.task
  hops : ticket.hops = other.hops
  maxHops : ticket.maxHops = other.maxHops
  issuedAt : ticket.issuedAt = other.issuedAt
  expiresAt : ticket.expiresAt = other.expiresAt
  nonce : ReadAlike "string" ticket.nonce other.nonce

omit [Host] in
theorem whole_of_compared (encoding : FaithfulEncoding) {data : TypedData} {signable : List Nat}
    (encoded : Packages.encode data = .ok signable) {name type : String} (member : (name, type) ∈ data.fields)
    (unsigned : startsWith type "uint" = true) {value : Json} (held : data.message.item name = .ok value) {number : Double}
    (compared : value.number? = some number) : ∃ whole, value = .int whole := by
  obtain ⟨found, same, whole | ⟨text, rfl⟩⟩ := encoding.whole data signable encoded (name, type) member unsigned
  · obtain rfl := Except.ok.inj (held.symm.trans same)
    exact whole
  · obtain rfl := Except.ok.inj (held.symm.trans same)
    cases compared

theorem whole_bounds (encoding : FaithfulEncoding) {ticket : Ticket} {destination : Destination} {decision : Admission}
    (checks : Checks ticket destination decision) {signer : String} {message : Json} {signable : List Nat}
    (signed : SignedBy ticket destination.eip712ChainId signer message signable) :
    ∃ hops issued expires, ticket.maxHops = .int hops ∧ ticket.issuedAt = .int issued ∧ ticket.expiresAt = .int expires := by
  have payload := signed.payload
  simp only [Ticket.payload, bind_eq_ok, pure_eq_ok] at payload
  obtain ⟨domain, _, audience, _, rfl⟩ := payload
  obtain ⟨live, past, _⟩ := timeProblems_nil.mp checks.time
  obtain ⟨budget, _⟩ := pathProblems_nil.mp checks.path
  obtain ⟨_, _, _, counted, _⟩ := Json.compare_eq_ok.mp budget
  obtain ⟨_, _, timed, _, _⟩ := Json.compare_eq_ok.mp past
  obtain ⟨_, _, _, expired, _⟩ := Json.compare_eq_ok.mp live
  have whole (name : String) {value : Json} (member : (name, "uint64") ∈ (typed .null).fields)
      (held : (typed _).message.item name = .ok value) {number : Double} (compared : value.number? = some number) :
      ∃ whole, value = .int whole := whole_of_compared encoding signed.encoded member rfl held compared
  obtain ⟨hops, budgeted⟩ := whole "maxHops" (by simp [typed]) rfl counted
  obtain ⟨issued, begins⟩ := whole "issuedAt" (by simp [typed]) rfl timed
  obtain ⟨expires, ends⟩ := whole "expiresAt" (by simp [typed]) rfl expired
  exact ⟨hops, issued, expires, budgeted, begins, ends⟩

theorem Checks.sound (encoding : FaithfulEncoding) {ticket : Ticket} {destination : Destination} {decision : Admission}
    (checks : Checks ticket destination decision) : Sound ticket destination decision := by
  obtain ⟨signer, message, signable, signed⟩ := signatureProblems_nil checks.signature
  obtain ⟨hops, issued, expires, budgeted, begins, ends⟩ := whole_bounds encoding checks signed
  obtain ⟨live, past, life, lasts, short⟩ := timeProblems_nil.mp checks.time
  obtain ⟨budget, away⟩ := pathProblems_nil.mp checks.path
  obtain ⟨_, narrow⟩ := checks.tier
  rw [begins, Json.int_gt_int, Except.ok.injEq, decide_eq_false_iff_not, not_lt] at past
  rw [Ticket.expired, ends, Json.int_gt_int, Except.ok.injEq, decide_eq_false_iff_not, not_lt] at live
  rw [begins, ends, Json.int_sub_int, Except.ok.injEq] at lasts
  rw [← lasts, Json.int_gt_int, Except.ok.injEq, decide_eq_false_iff_not, not_lt] at short
  rw [budgeted, Json.int_ge_int, Except.ok.injEq, decide_eq_false_iff_not, not_le] at budget
  exact {
    signed := ⟨signer, message, signable, signed⟩
    audience := checks.audience
    lifetime := ⟨issued, expires, begins, ends, past, live, short⟩
    budget := ⟨hops, budgeted, budget⟩
    path := away
    tier := narrowed_within narrow }

/-! ### The path -/

omit [Packages] in
theorem canonical_hops (hops : List Hop) : (Json.list (hops.map Hop.toDict)).canonical =
    @Json.canonical (decimalHost []) (.list (hops.map Hop.toDict)) := by
  have hop (hop : Hop) : hop.toDict.canonical = @Json.canonical (decimalHost []) hop.toDict := rfl
  simp only [Json.canonical, canonicalItems_eq_map, List.map_map]
  exact congrArg (fun text => "[" ++ joinWith "," (hops.map text) ++ "]") (funext hop)

omit [Host] [Packages] in
theorem sorted_hop_inj {hop other : Hop} (same : hop.toDict.sorted = other.toDict.sorted) : hop = other := by
  have order (hop : Hop) : hop.toDict.sorted =
      .dict [("at", .int hop.at_), ("domain", .str hop.domain), ("nodeId", .str hop.nodeId)] := by
    have first : ¬ "domain" ≤ "at" := by decide
    have second : ¬ "nodeId" ≤ "at" := by decide
    have third : ¬ "nodeId" ≤ "domain" := by decide
    simp [Hop.toDict, sorted_dict, byName, first, second, third, Json.sorted]
  rw [order, order] at same
  cases hop
  cases other
  simp_all

theorem hops_inj (ideal : IdealHash) {hops others : List Hop}
    (same : digestJson (.list (hops.map Hop.toDict)) = digestJson (.list (others.map Hop.toDict))) : hops = others := by
  have written := canonical_of_digestJson ideal same
  -- no hop holds a float, so that any interpreter writes a path as one with legible floats does
  rw [canonical_hops, canonical_hops] at written
  have values := @canonical_inj (decimalHost []) (decimalHost_legible []) _ _ written
  simp only [Json.sorted, sortedItems_eq_map, List.map_map, Json.list.injEq] at values
  exact List.map_injective_iff.mpr (fun _ _ => sorted_hop_inj) values

/-! ### One signature -/

omit [Packages] in
theorem text_of_lower {value : Json} {text : String} (spelled : value.lower = .ok text) : ∃ given, value = .str given := by
  cases value with
  | str given => exact ⟨given, rfl⟩
  | _ => cases spelled

/-- The fields that are compared hold what their types say. -/
structure Compared (ticket : Ticket) : Prop where
  tier : ∃ text, ticket.assertedTier = .str text
  budget : ∃ hops, ticket.maxHops = .int hops
  issued : ∃ issued, ticket.issuedAt = .int issued
  expires : ∃ expires, ticket.expiresAt = .int expires

theorem Checks.compared (encoding : FaithfulEncoding) {ticket : Ticket} {destination : Destination} {decision : Admission}
    (checks : Checks ticket destination decision) : Compared ticket := by
  obtain ⟨_, _, _, signed⟩ := signatureProblems_nil checks.signature
  obtain ⟨hops, issued, expires, budgeted, begins, ends⟩ := whole_bounds encoding checks signed
  obtain ⟨text, _, _, _, given, _⟩ := checks.sound encoding |>.tier
  exact { tier := ⟨text, given⟩, budget := ⟨hops, budgeted⟩, issued := ⟨issued, begins⟩, expires := ⟨expires, ends⟩ }

/-- One signature is of one authority. -/
theorem SignedBy.sameAuthority (ideal : IdealHash) (encoding : FaithfulEncoding) (signatures : IdealSignatures NamesSigner)
    {ticket other : Ticket} (compared : Compared ticket) (compared' : Compared other) {chainId chainId' : Int}
    {signer signer' : String} {message message' : Json} {signable signable' : List Nat}
    (signed : SignedBy ticket chainId signer message signable) (signed' : SignedBy other chainId' signer' message' signable')
    (same : other.signature = ticket.signature) : SameAuthority ticket other := by
  obtain ⟨⟨_, given⟩, ⟨_, budgeted⟩, ⟨_, begins⟩, _, ends⟩ := compared
  obtain ⟨⟨_, given'⟩, ⟨_, budgeted'⟩, ⟨_, begins'⟩, _, ends'⟩ := compared'
  obtain ⟨_, origin⟩ := text_of_lower signed.origin
  obtain ⟨_, origin'⟩ := text_of_lower signed'.origin
  obtain ⟨payload, encoded, ⟨signature, read, recovered⟩, named⟩ := signed
  obtain ⟨payload', encoded', ⟨signature', read', recovered'⟩, named'⟩ := signed'
  simp only [Ticket.payload, bind_eq_ok, pure_eq_ok] at payload payload'
  obtain ⟨domain, domained, audience, addressed, rfl⟩ := payload
  obtain ⟨domain', domained', audience', addressed', rfl⟩ := payload'
  rw [same, read, Except.ok.injEq] at read'
  subst read'
  -- both messages name the node whose key signed them, so that one signature is of one of them
  obtain rfl := signatures _ _ _ _ _ _ _ encoded encoded' recovered recovered' ⟨_, rfl, named⟩ ⟨_, rfl, named'⟩
  have alike := encoding.alike _ _ _ encoded encoded' rfl
  have held (name type : String) (member : (name, type) ∈ (typed .null).fields) {value value' : Json}
      (first : (typed _).message.item name = .ok value) (second : (typed _).message.item name = .ok value') :
      ReadAlike type value value' := alike (name, type) member value value' first second
  have origins := (held "originNode" "string" (by simp [typed]) rfl rfl).1 rfl _ _ origin origin'
  have domains := (held "originDomain" "string" (by simp [typed]) rfl rfl).1 rfl _ _ rfl rfl
  have tiers := (held "assertedTier" "string" (by simp [typed]) rfl rfl).1 rfl _ _ given given'
  have audiences := (held "audience" "string" (by simp [typed]) rfl rfl).1 rfl _ _ rfl rfl
  have paths := (held "path" "string" (by simp [typed]) rfl rfl).1 rfl _ _ rfl rfl
  have budgets := (held "maxHops" "uint64" (by simp [typed]) rfl rfl).2 rfl _ _ budgeted budgeted'
  have beginnings := (held "issuedAt" "uint64" (by simp [typed]) rfl rfl).2 rfl _ _ begins begins'
  have endings := (held "expiresAt" "uint64" (by simp [typed]) rfl rfl).2 rfl _ _ ends ends'
  exact {
    originNode := by rw [origin, origin', origins]
    originDomain := by rw [domained, domained', domains]
    clusterId := held "clusterId" "string" (by simp [typed]) rfl rfl
    agentId := held "agentId" "uint256" (by simp [typed]) rfl rfl
    chainId := held "chainId" "uint256" (by simp [typed]) rfl rfl
    footprint := held "footprint" "string" (by simp [typed]) rfl rfl
    assertedTier := by rw [given, given', tiers]
    audience := by rw [addressed, addressed', audiences]
    peer := held "peer" "string" (by simp [typed]) rfl rfl
    scope := held "scope" "string" (by simp [typed]) rfl rfl
    task := held "task" "string" (by simp [typed]) rfl rfl
    hops := hops_inj ideal paths
    maxHops := by rw [budgeted, budgeted', budgets]
    issuedAt := by rw [begins, begins', beginnings]
    expiresAt := by rw [ends, ends', endings]
    nonce := held "nonce" "string" (by simp [typed]) rfl rfl }

theorem Checks.sameAuthority (ideal : IdealHash) (encoding : FaithfulEncoding) (signatures : IdealSignatures NamesSigner)
    {ticket other : Ticket} {destination destination' : Destination} {decision decision' : Admission}
    (checks : Checks ticket destination decision) (checks' : Checks other destination' decision')
    (same : other.signature = ticket.signature) : SameAuthority ticket other := by
  obtain ⟨_, _, _, signed⟩ := signatureProblems_nil checks.signature
  obtain ⟨_, _, _, signed'⟩ := signatureProblems_nil checks'.signature
  exact signed.sameAuthority ideal encoding signatures (checks.compared encoding) (checks'.compared encoding) signed' same

/-- An admitted ticket is sound, and the only one with its signature. -/
theorem admission_sound (ideal : IdealHash) (encoding : FaithfulEncoding) (signatures : IdealSignatures NamesSigner)
    {ticket : Ticket} {destination : Destination} {task : Json} {decision : Admission}
    (done : admitTicket ticket destination task = .ok decision) (admitted : decision.admitted = true) :
    Sound ticket destination decision ∧
      ∀ other destination' task' decision', admitTicket other destination' task' = .ok decision' →
        decision'.admitted = true → other.signature = ticket.signature → SameAuthority ticket other := by
  have checks := admitTicket_checks done admitted
  refine ⟨checks.sound encoding, ?_⟩
  intro other destination' task' decision' done' admitted' same
  exact checks.sameAuthority ideal encoding signatures (admitTicket_checks done' admitted') same

end Admission

/-! ### A ticket of two readings, ahead of its time -/

section Early

local instance earlyHost : Host := asciiHost []

def earlySigner : String := "0x1D96F2f6BeF1202E4Ce1Ff6Dad0c2CB002861d3e"

def earlyHashes : List (List Nat × List Nat) :=
  [(utf8 (lower earlySigner), [127, 188, 175, 163, 147, 227, 43, 56, 133, 57, 77, 124, 121, 75, 54, 45, 133, 234, 56, 106, 40, 177,
     144, 21, 196, 63, 145, 78, 61, 220, 74, 163]),
   (utf8 "[]", [81, 134, 116, 171, 43, 34, 126, 95, 17, 233, 8, 79, 97, 93, 87, 102, 60, 222, 71, 188, 225, 186, 22, 139, 76, 25,
     199, 238, 34, 167, 61, 112])]

/-- What is signed holds digests, which do not depend on it. -/
abbrev earlyHash : Packages := tablePackages earlyHashes []

def earlyOrigin : String := @nodeIdFromAddress earlyHost earlyHash earlySigner

def earlySignature : List Nat :=
  [3, 120, 178, 174, 150, 246, 226, 174, 219, 240, 183, 119, 191, 147, 230, 233, 211, 250, 32, 85, 79, 186, 97, 182, 30, 210, 152,
   103, 172, 113, 142, 141, 34, 185, 210, 70, 10, 102, 229, 212, 17, 240, 58, 103, 24, 232, 111, 85, 64, 155, 224, 51, 228, 73,
   136, 236, 12, 163, 139, 221, 100, 9, 90, 248, 28]

def earlyTicket (agentId : Json) : Ticket where
  originNode := .str earlyOrigin
  originDomain := .str "a.example"
  agentId := agentId
  assertedTier := .str "A2xH1"
  audience := .str "b.example"
  scope := .str "read"
  issuedAt := .int 103
  expiresAt := .int 160
  nonce := .str "n"
  signature := .str ("0x" ++ toHex earlySignature)

def earlyPayload (agentId : Json) : Json :=
  .dict [("originNode", .str earlyOrigin), ("originDomain", .str "a.example"), ("clusterId", .str ""), ("agentId", agentId),
    ("chainId", .int 0), ("footprint", .str ""), ("assertedTier", .str "A2xH1"), ("audience", .str "b.example"),
    ("peer", .str ""), ("scope", .str "read"), ("task", .str ""), ("path", .str (@digestJson earlyHash earlyHost (.list []))),
    ("maxHops", .int 3), ("issuedAt", .int 103), ("expiresAt", .int 160), ("nonce", .str "n")]

/-- The packages read the text "7" as the number, and sign the same for both. -/
def earlySigned (agentId : Json) : SignedMessage where
  message := typed (earlyPayload agentId)
  hash := [26, 135, 97, 209, 104, 121, 58, 32, 148, 165, 67, 160, 161, 72, 192, 250, 30, 94, 144, 59, 245, 64, 66, 110, 73, 38, 84,
    199, 3, 120, 238, 45]
  signature := .bytes earlySignature
  signer := earlySigner

def earlyTable : List SignedMessage := [earlySigned (.int 7), earlySigned (.str "7")]

local instance earlyPackages : Packages := tablePackages earlyHashes earlyTable

theorem early_ideal : IdealHash := tablePackages_ideal earlyTable (by decide)

theorem early_item (agentId other : Json) {name : String} (known : name ≠ "agentId") :
    (earlyPayload agentId).item name = (earlyPayload other).item name := by
  have skip : decide ("agentId" = name) = false := by simpa using Ne.symm known
  simp only [earlyPayload, Json.item, Json.find?, List.find?_cons, skip]

theorem early_member {known : SignedMessage} (member : known ∈ earlyTable) :
    ∃ agentId, known = earlySigned agentId ∧ (agentId = .int 7 ∨ agentId = .str "7") := by
  simp only [earlyTable, List.mem_cons, List.not_mem_nil, or_false] at member
  rcases member with rfl | rfl
  · exact ⟨_, rfl, .inl rfl⟩
  · exact ⟨_, rfl, .inr rfl⟩

theorem early_faithful : FaithfulEncoding := by
  apply tablePackages_faithful earlyHashes (by decide)
  intro known member known' member' _ field inside value value' found found'
  obtain ⟨agentId, rfl, given⟩ := early_member member
  obtain ⟨other, rfl, given'⟩ := early_member member'
  by_cases agent : field.1 = "agentId"
  · rw [agent] at found found'
    obtain rfl : agentId = value := Except.ok.inj found
    obtain rfl : other = value' := Except.ok.inj found'
    have type : field.2 ≠ "string" := by
      intro text
      obtain rfl : field = ("agentId", "string") := Prod.ext agent text
      simp [earlySigned, typed] at inside
    refine ⟨fun text => absurd text type, ?_⟩
    rintro _ number number' rfl rfl
    simp only [Json.int.injEq, reduceCtorEq, or_false] at given given'
    exact given.trans given'.symm
  · have same : value = value' := Except.ok.inj (found.symm.trans ((early_item agentId other agent).trans found'))
    exact same ▸ ReadAlike.refl field.2 value

theorem early_signatures : IdealSignatures NamesSigner := by
  intro data data' signable signable' signature signer signer' encoded encoded' _ _ _ _
  obtain ⟨known, member, _, hash⟩ := mem_of_encode encoded
  obtain ⟨known', member', _, hash'⟩ := mem_of_encode encoded'
  obtain ⟨_, rfl, _⟩ := early_member member
  obtain ⟨_, rfl, _⟩ := early_member member'
  exact hash.symm.trans hash'

theorem early_payload (agentId : Json) : (earlyTicket agentId).payload = .ok (earlyPayload agentId) := by
  have domain : Json.lower (.str "a.example") = .ok "a.example" := by decide
  have audience : Json.lower (.str "b.example") = .ok "b.example" := by decide
  simp only [Ticket.payload, earlyTicket, domain, audience, ok_bind]
  rfl

theorem early_encoded {agentId : Json} (known : agentId = .int 7 ∨ agentId = .str "7") :
    Packages.encode (typed (earlyPayload agentId)) = .ok (earlySigned agentId).hash := by
  refine encode_tablePackages earlyHashes (show earlyTable.find? _ = some (earlySigned agentId) from ?_)
  rcases known with rfl | rfl
  · exact List.find?_cons_of_pos (decide_eq_true rfl)
  · have other : (earlySigned (.int 7)).message ≠ (earlySigned (.str "7")).message := by
      intro same
      have agents : (Except.ok (.int 7) : Raises Json) = .ok (.str "7") :=
        congrArg (fun data : TypedData => data.message.item "agentId") same
      cases agents
    rw [earlyTable, List.find?_cons_of_neg (by simpa using other)]
    exact List.find?_cons_of_pos (decide_eq_true rfl)

theorem early_recovered {agentId : Json} (known : agentId = .int 7 ∨ agentId = .str "7") :
    recoverSigner (earlyTicket agentId) = .ok earlySigner := by
  have bytes : ∀ byte ∈ earlySignature, byte < 256 := by decide
  have read : signatureBytes (.str ("0x" ++ toHex earlySignature)) = .ok earlySignature := by
    rw [signatureBytes]
    exact fromHex_toHex bytes
  have first : earlyTable.find? (fun other => other.hash = (earlySigned (.int 7)).hash &&
      other.signature = (earlySigned (.int 7)).signature) = some (earlySigned (.int 7)) :=
    List.find?_cons_of_pos (by simp)
  have signer := recover_tablePackages earlyHashes first
  have carried : (earlyTicket agentId).signature = .str ("0x" ++ toHex earlySignature) := rfl
  rw [recoverSigner, early_payload, ok_bind, early_encoded known, ok_bind, carried, read, ok_bind]
  exact signer

def earlyDestination : Destination where
  audience := "b.example"
  selfNodeId := "self"
  ceiling := "A1xH2"
  originIsPeer := true
  now := 100

theorem early_admitted {agentId : Json} (known : agentId = .int 7 ∨ agentId = .str "7") :
    admitTicket (earlyTicket agentId) earlyDestination .null =
      .ok { admitted := true, effectiveTier := "A1xH1", narrowed := true } := by
  have audience : Json.lower (.str "b.example") = .ok "b.example" := by decide
  have here : lower (strip "b.example") = "b.example" := by decide
  have time : timeProblems (earlyTicket agentId) earlyDestination = .ok [] := by
    refine timeProblems_nil.mpr ⟨?_, ?_, .int 57, rfl, ?_⟩
    · exact Json.int_gt_int 100 160
    · exact Json.int_gt_int 103 105
    · exact Json.int_gt_int 57 120
  have path : pathProblems (earlyTicket agentId) earlyDestination = .ok [] := by
    refine pathProblems_nil.mpr ⟨Json.int_ge_int 0 3, lower earlyOrigin, rfl, ?_⟩
    intro member
    have same : lower "self" = lower earlyOrigin := List.mem_singleton.mp member
    have letters := congrArg (fun text : String => text.toList.head?) same
    have self : (lower "self").toList.head? = some 's' := by decide
    have origin : (lower earlyOrigin).toList.head? = some '0' := by
      change (lowerAscii ("0x" ++ _)).toList.head? = some '0'
      simp [lowerAscii, lowerLetter]
    simp [self, origin] at letters
  have signature : signatureProblems (earlyTicket agentId) = .ok [] := by
    have given : (earlyTicket agentId).signature.truthy = true := truthy_append "0x" _ (by decide)
    have origin : (earlyTicket agentId).originNode.lower = .ok (lower (nodeIdFromAddress earlySigner)) := rfl
    simp only [signatureProblems, given, early_recovered known, origin, ok_bind, Bool.not_true, Bool.false_eq_true, if_false,
      ne_eq, not_true_eq_false, decide_false]
    rfl
  have asserted : cellText (earlyTicket agentId).assertedTier = .ok "A2xH1" := rfl
  have narrow : narrowed (earlyTicket agentId) "A1xH2" = .ok ("A1xH1", true) := by
    have weaker : narrowTier "A2xH1" "A1xH2" = .ok "A1xH1" := by decide
    have canonical : canonicalTier "A2xH1" = .ok "A2xH1" := by decide
    rw [narrowed, asserted, ok_bind, weaker, ok_bind, canonical, ok_bind]
    rfl
  have tier : tierOrProblem (earlyTicket agentId) "A1xH2" = .ok ("A1xH1", true, []) := by
    rw [tierOrProblem, narrow]
  have widening : wideningProblems (earlyTicket agentId) "A1xH1" = .ok [] := by
    have wider : widens "A2xH1" "A1xH1" = .ok false := by decide
    rw [wideningProblems, if_neg (by decide), asserted, ok_bind, wider, ok_bind]
    rfl
  have origin : originProblems (earlyTicket agentId) earlyDestination = .ok [] := rfl
  have addressed : (earlyTicket agentId).audience = .str "b.example" := rfl
  have expected : earlyDestination.audience = "b.example" := rfl
  have ceiling : earlyDestination.ceiling = "A1xH2" := rfl
  have chain : earlyDestination.eip712ChainId = 8453 := rfl
  simp only [admitTicket, addressed, expected, ceiling, chain, audience, time, origin, path, signature, tier, widening, ok_bind, here]
  rfl

theorem early_sound :
    Sound (earlyTicket (.int 7)) earlyDestination { admitted := true, effectiveTier := "A1xH1", narrowed := true } :=
  (admission_sound early_ideal early_faithful early_signatures (early_admitted (.inl rfl)) rfl).1

/-- An admitted ticket is issued in the future, and another one that is admitted
has its signature and another agent. -/
theorem early_unlike :
    ∃ decision, admitTicket (earlyTicket (.int 7)) earlyDestination .null = .ok decision ∧
      admitTicket (earlyTicket (.str "7")) earlyDestination .null = .ok decision ∧ decision.admitted = true ∧
      (earlyTicket (.int 7)).issuedAt.gt (.int earlyDestination.now) = .ok true ∧
      (earlyTicket (.int 7)).signature = (earlyTicket (.str "7")).signature ∧
      (earlyTicket (.int 7)).agentId ≠ (earlyTicket (.str "7")).agentId := by
  refine ⟨_, early_admitted (.inl rfl), early_admitted (.inr rfl), rfl, ?_, rfl, ?_⟩
  · exact Json.int_gt_int 103 100
  · rintro ⟨⟩

end Early

end Xcp.Delegation
