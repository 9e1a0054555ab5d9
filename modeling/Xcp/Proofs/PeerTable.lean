import Xcp.Federation.Node

/-! The shape of the table of peers. Weight and hops of an entry say the same,
so that a shorter path is always a heavier one. -/

namespace Xcp.Federation
open Checked Python Transition

/-- How `reachable` orders two peers. -/
abbrev Before (first second : Peer) : Prop :=
  first.weight > second.weight ∨ first.weight = second.weight ∧ first.domain ≤ second.domain

theorem before_total : Std.Total Before := by
  refine ⟨fun first second => ?_⟩
  obtain lighter | same | heavier := lt_trichotomy first.weight second.weight
  · exact .inr (.inl lighter)
  · obtain before | after := String.le_total first.domain second.domain
    · exact .inl (.inr ⟨same, before⟩)
    · exact .inr (.inr ⟨same.symm, after⟩)
  · exact .inl (.inl heavier)

theorem before_trans : IsTrans Peer Before := by
  refine ⟨fun first second third one other => ?_⟩
  obtain heavier | ⟨same, before⟩ := one
  · obtain more | ⟨equal, _⟩ := other
    · exact .inl (more.trans heavier)
    · exact .inl (equal ▸ heavier)
  · obtain more | ⟨equal, later⟩ := other
    · exact .inl (same ▸ more)
    · exact .inr ⟨same.trans equal, String.le_trans before later⟩

section Shape
variable [Host]

/-- Nobody is further away than allowed, trust decays with every hop, and only a
direct peer is found under the node's own domain. -/
structure Shaped (fed : Federation) : Prop where
  near : ∀ domain peer, fed.peers.get? domain = some peer → 1 ≤ peer.hops ∧ peer.hops ≤ fed.maxHops
  decayed : ∀ domain peer, fed.peers.get? domain = some peer → peer.weight = fed.decayPerHop ^ (peer.hops - 1)
  others : ∀ domain peer, fed.peers.get? domain = some peer → peer.hops ≠ 1 → domain ≠ lower fed.selfDomain

/-- A federation whose trust decays, and that knows direct peers at least. -/
structure Decays (fed : Federation) : Prop where
  positive : 0 < fed.decayPerHop
  below : fed.decayPerHop < 1
  room : 1 ≤ fed.maxHops

omit [Host] in
theorem Decays.of_alike {fed other : Federation} (decays : Decays fed) (alike : Alike other fed) : Decays other :=
  ⟨alike.decayPerHop ▸ decays.positive, alike.decayPerHop ▸ decays.below, alike.maxHops ▸ decays.room⟩

section Entries
variable {fed : Federation} {event : Event} {domain : String} {peer : Peer}

/-- An entry is as far away as it was before, or direct, or a hop behind the peer
that introduced it. -/
theorem Entry.placed (entry : Entry fed domain peer event) :
    (∃ before, fed.peers.get? domain = some before ∧ peer.hops = before.hops ∧ peer.weight = before.weight) ∨
      (peer.hops = 1 ∧ peer.weight = 1) ∨
      ∃ att now issuer, domain = lower att.subjectDomain ∧ fed.Vouches att now issuer ∧
        peer.hops = issuer.hops + 1 ∧ peer.weight = issuer.weight * fed.decayPerHop := by
  cases entry with
  | kept held => exact .inl ⟨peer, held, rfl, rfl⟩
  | verified keyed fresh made => exact .inr (.inl ⟨by rw [made]; rfl, by rw [made]; rfl⟩)
  | rotated keyed held later made => exact .inl ⟨_, held, by rw [made], by rw [made]⟩
  | @introduced att now issuer keyed vouches made =>
    exact .inr (.inr ⟨att, now, issuer, keyed, vouches, by rw [made]; rfl, by rw [made]; rfl⟩)
  | revoked held made =>
    refine .inl ⟨_, held, ?_⟩
    rw [made]
    unfold markRevoked
    split <;> exact ⟨rfl, rfl⟩

theorem Shaped.entry_near (shaped : Shaped fed) (decays : Decays fed) (entry : Entry fed domain peer event) :
    1 ≤ peer.hops ∧ peer.hops ≤ fed.maxHops := by
  obtain ⟨before, held, hops, _⟩ | ⟨direct, _⟩ | ⟨att, now, issuer, _, vouches, hops, _⟩ := entry.placed
  · rw [hops]
    exact shaped.near domain before held
  · rw [direct]
    exact ⟨le_rfl, decays.room⟩
  · rw [hops]
    exact ⟨Nat.le_add_left 1 _, vouches.near⟩

theorem Shaped.entry_decayed (shaped : Shaped fed) (entry : Entry fed domain peer event) :
    peer.weight = fed.decayPerHop ^ (peer.hops - 1) := by
  obtain ⟨before, held, hops, weight⟩ | ⟨direct, weight⟩ | ⟨att, now, issuer, _, vouches, hops, weight⟩ := entry.placed
  · rw [hops, weight]
    exact shaped.decayed domain before held
  · rw [direct, weight]
    exact (pow_zero _).symm
  · have known := shaped.decayed _ issuer vouches.issued
    have near := (shaped.near _ issuer vouches.issued).1
    calc peer.weight
      _ = fed.decayPerHop ^ (issuer.hops - 1) * fed.decayPerHop := by rw [weight, known]
      _ = fed.decayPerHop ^ (issuer.hops - 1 + 1) := (pow_succ ..).symm
      _ = fed.decayPerHop ^ (peer.hops - 1) := by rw [hops, Nat.sub_add_cancel near, Nat.add_sub_cancel]

theorem Shaped.entry_others (shaped : Shaped fed) (entry : Entry fed domain peer event) (far : peer.hops ≠ 1) :
    domain ≠ lower fed.selfDomain := by
  obtain ⟨before, held, hops, _⟩ | ⟨direct, _⟩ | ⟨att, now, issuer, keyed, vouches, _⟩ := entry.placed
  · rw [hops] at far
    exact shaped.others domain before held far
  · exact absurd direct far
  · rw [keyed]
    exact vouches.other

theorem Shaped.step (shaped : Shaped fed) (decays : Decays fed) : Shaped (step fed event) := by
  have alike := step_alike fed event
  refine ⟨?_, ?_, ?_⟩
  · intro domain peer found
    rw [alike.maxHops]
    exact shaped.entry_near decays (step_entry found)
  · intro domain peer found
    rw [alike.decayPerHop]
    exact shaped.entry_decayed (step_entry found)
  · intro domain peer found far
    rw [alike.selfDomain]
    exact shaped.entry_others (step_entry found) far

end Entries

section Queries
variable {fed : Federation}

theorem Shaped.weight_lt_one (shaped : Shaped fed) (decays : Decays fed) {domain : String} {peer : Peer}
    (held : fed.peers.get? domain = some peer) (far : peer.hops ≠ 1) : peer.weight < 1 := by
  have hops := (shaped.near domain peer held).1
  rw [shaped.decayed domain peer held]
  exact pow_lt_one₀ decays.positive.le decays.below (by omega)

theorem Shaped.weight_le_one (shaped : Shaped fed) (decays : Decays fed) {domain : String} {peer : Peer}
    (held : fed.peers.get? domain = some peer) : peer.weight ≤ 1 := by
  rw [shaped.decayed domain peer held]
  exact pow_le_one₀ decays.positive.le decays.below.le

theorem Shaped.weight_direct (shaped : Shaped fed) {domain : String} {peer : Peer}
    (held : fed.peers.get? domain = some peer) (direct : peer.hops = 1) : peer.weight = 1 := by
  rw [shaped.decayed domain peer held, direct]
  exact pow_zero _

/-- Nobody vouches for a direct peer with any effect. -/
theorem Shaped.vouches_far (shaped : Shaped fed) (decays : Decays fed) {att : Attestation} {now : Int} {issuer peer : Peer}
    (vouches : fed.Vouches att now issuer) (held : fed.peer? att.subjectDomain = some peer) : peer.hops ≠ 1 := by
  intro direct
  have heavier := vouches.shorter peer held (by omega)
  rw [shaped.weight_direct held direct] at heavier
  have issuer_le := shaped.weight_le_one decays vouches.issued
  have light : issuer.weight * fed.decayPerHop ≤ 1 := by
    calc issuer.weight * fed.decayPerHop
      _ ≤ 1 * fed.decayPerHop := mul_le_mul_of_nonneg_right issuer_le decays.positive.le
      _ = fed.decayPerHop := one_mul _
      _ ≤ 1 := decays.below.le
  exact absurd heavier (not_lt.mpr light)

theorem Shaped.direct_kept (shaped : Shaped fed) (decays : Decays fed) (att : Attestation) (now : Int) {domain : String}
    {peer : Peer} (held : fed.peers.get? domain = some peer) (direct : peer.hops = 1) :
    (fed.ingestAttestation att now).1.peers.get? domain = some peer := by
  obtain ⟨issuer, vouches⟩ | same := fed.ingestAttestation_cases att now
  · have other : domain ≠ lower att.subjectDomain := by
      intro subject
      rw [subject] at held
      exact shaped.vouches_far decays vouches held direct
    rw [vouches.ingest]
    simp [setPeer, introduced, other, held]
  · rwa [same]

omit [Host] in
theorem mem_reachable {least : PeerTrust} {peer : Peer} (member : peer ∈ fed.reachable least) :
    ∃ domain, fed.peers.get? domain = some peer := by
  have live := (List.mem_insertionSort _).mp member
  exact Dict.mem_values.mp (List.mem_filter.mp live).1

theorem Shaped.reachable_direct (shaped : Shaped fed) (decays : Decays fed) (least : PeerTrust) :
    (fed.reachable least).Pairwise fun first second => second.hops = 1 → first.hops = 1 := by
  have ordered : (fed.reachable least).Pairwise Before := by
    have total := before_total
    have trans := before_trans
    exact List.pairwise_insertionSort Before _
  apply ordered.imp_of_mem
  intro first second one other before direct
  obtain ⟨domain, held⟩ := mem_reachable one
  obtain ⟨_, found⟩ := mem_reachable other
  have full := shaped.weight_direct found direct
  have above : 1 ≤ first.weight := by
    obtain heavier | ⟨same, _⟩ := before
    · exact (full ▸ heavier).le
    · rw [same, full]
  by_contra far
  exact absurd (shaped.weight_lt_one decays held far) (not_lt.mpr above)

end Queries

/-! ### Runs -/

omit [Host] in
theorem Alike.trans {first second third : Federation} (one : Alike first second) (other : Alike second third) :
    Alike first third :=
  ⟨one.selfDomain.trans other.selfDomain, one.selfNodeId.trans other.selfNodeId,
    one.decayPerHop.trans other.decayPerHop, one.maxHops.trans other.maxHops, one.minWeight.trans other.minWeight⟩

theorem run_alike (start : Federation) (events : List Event) : Alike (run step start events) start := by
  have keeps : ∀ fed event, Alike fed start → Alike (step fed event) start :=
    fun fed event alike => (step_alike fed event).trans alike
  exact run_invariant keeps ⟨rfl, rfl, rfl, rfl, rfl⟩ events

/-- What a table grown from nothing looks like. Direct peers are the ones a single
hop away, which an attestation never makes. -/
structure TableShape (start fed : Federation) : Prop where
  hops : ∀ domain peer, fed.peers.get? domain = some peer → 1 ≤ peer.hops ∧ peer.hops ≤ start.maxHops
  weight : ∀ domain peer, fed.peers.get? domain = some peer → peer.weight = start.decayPerHop ^ (peer.hops - 1)
  introduced : ∀ att now issuer, fed.Vouches att now issuer → (fed.introduced att issuer now).hops ≠ 1
  direct : ∀ att now domain peer, fed.peers.get? domain = some peer → peer.hops = 1 →
    (fed.ingestAttestation att now).1.peers.get? domain = some peer
  itself : ∀ domain peer, fed.peers.get? domain = some peer → peer.hops ≠ 1 → domain ≠ lower start.selfDomain
  reachable : ∀ least, (fed.reachable least).Pairwise fun first second => second.hops = 1 → first.hops = 1

theorem run_table_shape {start : Federation} (empty : start.peers = {}) (positive : 0 < start.decayPerHop)
    (below : start.decayPerHop < 1) (room : 1 ≤ start.maxHops) (events : List Event) :
    TableShape start (run step start events) := by
  have nothing : ∀ domain peer, start.peers.get? domain = some peer → False := by
    intro domain peer held
    rw [empty] at held
    cases held
  have initial : Shaped start :=
    ⟨fun _ _ held => (nothing _ _ held).elim, fun _ _ held => (nothing _ _ held).elim,
      fun _ _ held => (nothing _ _ held).elim⟩
  have decays : Decays start := ⟨positive, below, room⟩
  have kept : Shaped (run step start events) ∧ Decays (run step start events) := by
    have keeps : ∀ fed event, Shaped fed ∧ Decays fed → Shaped (step fed event) ∧ Decays (step fed event) := by
      intro fed event ⟨shaped, decays⟩
      exact ⟨shaped.step decays, decays.of_alike (step_alike fed event)⟩
    exact run_invariant keeps ⟨initial, decays⟩ events
  obtain ⟨shaped, decays⟩ := kept
  have alike := run_alike start events
  refine ⟨?_, ?_, ?_, ?_, ?_, ?_⟩
  · intro domain peer held
    rw [← alike.maxHops]
    exact shaped.near domain peer held
  · intro domain peer held
    rw [← alike.decayPerHop]
    exact shaped.decayed domain peer held
  · intro att now issuer vouches
    have near := (shaped.near _ issuer vouches.issued).1
    simp only [Federation.introduced]
    omega
  · intro att now domain peer held direct
    exact shaped.direct_kept decays att now held direct
  · intro domain peer held far
    rw [← alike.selfDomain]
    exact shaped.others domain peer held far
  · intro least
    exact shaped.reachable_direct decays least

end Shape

section Introduced
local instance tableHost : Host := asciiHost []

def fresh : Federation := { selfDomain := "a.example", selfNodeId := "0x0a" }

def neighbour : Event := .addVerifiedPeer { domain := "b.example", nodeId := .str "0x0b" } 1000

def vouched : Event :=
  .ingestAttestation
    { subjectDomain := "c.example", subjectNodeId := "0x0c", issuerDomain := "b.example", issuerNodeId := "0x0b",
      trust := .verified, issuedAt := 1000, expiresAt := 2000 } 1000

theorem run_table_shape_vouched : TableShape fresh (run step fresh [neighbour, vouched]) :=
  run_table_shape rfl (by decide +kernel) (by decide +kernel) (by decide) _

end Introduced

end Xcp.Federation

/-! The least binding sequence that a node still takes from a domain. It only
rises, but an entry that comes by an attestation starts at zero again. -/

namespace Xcp.Federation
open Checked Python Transition

section Runs
variable [Host]

def Names (fed : Federation) (domain : String) (nodeId : Json) : Prop :=
  ∃ peer, fed.peer? domain = some peer ∧ peer.nodeId = nodeId

/-- Between any two states of a run the sequence known of a domain does not fall,
if the domain names the same node all along. -/
def FloorKept (start : Federation) (events : List Event) : Prop :=
  ∀ past middle rest : List Event, events = past ++ middle ++ rest → ∀ (domain : String) (nodeId : Json),
    Always step (Names · domain nodeId) (run step start past) middle →
      (run step start past).knownSequence domain ≤ (run step start (past ++ middle)).knownSequence domain

/-- An attestation over a shorter path that names the node already known there,
and known with a sequence. -/
def Resets (fed : Federation) : Event → Prop
  | .ingestAttestation att now => (∃ issuer, fed.Vouches att now issuer) ∧
    ∃ existing, fed.peer? att.subjectDomain = some existing ∧ existing.nodeId = .str att.subjectNodeId ∧
      0 < existing.sequence
  | _ => False

section Steps
variable {fed : Federation} {event : Event} {domain : String} {nodeId : Json}

theorem knownSequence_eq {peer : Peer} (held : fed.peer? domain = some peer) :
    fed.knownSequence domain = peer.sequence := by
  simp [knownSequence, held]

theorem floor_step (kept : ¬ Resets fed event) (before : Names fed domain nodeId)
    (after : Names (step fed event) domain nodeId) :
    fed.knownSequence domain ≤ (step fed event).knownSequence domain := by
  obtain ⟨known, held, named⟩ := before
  obtain ⟨peer, found, same⟩ := after
  have floor : fed.knownSequence domain = known.sequence := knownSequence_eq held
  rw [knownSequence_eq found]
  cases step_entry found with
  | kept unchanged =>
    have here : known = peer := Option.some.inj (held.symm.trans unchanged)
    rw [floor, here]
  | verified keyed fresh made =>
    rw [made, Federation.knownSequence, peer?, keyed]
    exact le_max_right _ _
  | rotated keyed before later made =>
    have here : known = _ := Option.some.inj (held.symm.trans before)
    rw [floor, here, made]
    exact later.le
  | @introduced att now issuer keyed vouches made =>
    rw [floor, made]
    rw [peer?, keyed] at held
    by_contra falls
    refine kept ⟨⟨issuer, vouches⟩, known, held, ?_, not_le.mp falls⟩
    rw [named, ← same, made]
    rfl
  | revoked before made =>
    have here : known = _ := Option.some.inj (held.symm.trans before)
    rw [floor, here, made]
    unfold markRevoked
    split <;> exact le_rfl

theorem resets_falls (resets : Resets fed event) : ∃ domain nodeId, Names fed domain nodeId ∧
    Names (step fed event) domain nodeId ∧ (step fed event).knownSequence domain < fed.knownSequence domain := by
  cases event with
  | ingestAttestation att now =>
    obtain ⟨⟨issuer, vouches⟩, existing, held, named, positive⟩ := resets
    have found : (step fed (.ingestAttestation att now)).peer? att.subjectDomain =
        some (fed.introduced att issuer now) := by
      simp [Federation.step, vouches.ingest, setPeer, peer?, introduced]
    refine ⟨att.subjectDomain, .str att.subjectNodeId, ⟨existing, held, named⟩, ⟨_, found, rfl⟩, ?_⟩
    rw [knownSequence_eq held, knownSequence_eq found]
    exact positive
  | addVerifiedPeer => exact resets.elim
  | noteRotation => exact resets.elim
  | revoke => exact resets.elim
  | ingestRevocation => exact resets.elim

end Steps

theorem FloorKept.tail {start : Federation} {event : Event} {events : List Event}
    (floor : FloorKept start (event :: events)) : FloorKept (step start event) events := by
  intro past middle rest split domain nodeId named
  exact floor (event :: past) middle rest (by rw [split]; rfl) domain nodeId named

/-- A run in which no event resets an entry leaves the floor of a domain in place
as long as it names one node. -/
theorem floor_run {start : Federation} {events : List Event}
    (meets : Meets step (fun fed event => ¬ Resets fed event) start events) {domain : String} {nodeId : Json}
    (named : Always step (Names · domain nodeId) start events) :
    start.knownSequence domain ≤ (run step start events).knownSequence domain := by
  induction events generalizing start with
  | nil => exact le_rfl
  | cons event rest ih =>
    have later := ih meets.2 named.2
    exact (floor_step meets.1 named.1 named.2.start).trans later

/-- The floors of a run are kept exactly when no attestation in it resets one. -/
theorem floorKept_iff (start : Federation) (events : List Event) :
    FloorKept start events ↔ Meets step (fun fed event => ¬ Resets fed event) start events := by
  constructor
  · intro floor
    induction events generalizing start with
    | nil => trivial
    | cons event rest ih =>
      refine ⟨?_, ih _ floor.tail⟩
      intro resets
      obtain ⟨domain, nodeId, before, after, falls⟩ := resets_falls resets
      have kept := floor [] [event] rest rfl domain nodeId ⟨before, after⟩
      exact absurd kept (not_le.mpr falls)
  · intro meets past middle rest split domain nodeId named
    rw [split] at meets
    rw [run_append]
    exact floor_run (Meets.append.mp (Meets.append.mp meets).1).2 named

end Runs

/-! ### A shorter path to a rotated node -/

section Forgotten
local instance floorHost : Host := asciiHost []

def vouch (issuer issuerId subject subjectId : String) : Event :=
  .ingestAttestation
    { subjectDomain := subject, subjectNodeId := subjectId, issuerDomain := issuer, issuerNodeId := issuerId,
      trust := .verified, issuedAt := 1000, expiresAt := 2000 } 1000

/-- A node three hops away, whose rotation to a fifth certificate was noted. -/
def rotatedAfar : List Event :=
  [.addVerifiedPeer { domain := "b.example", nodeId := .str "0x0b" } 1000, vouch "b.example" "0x0b" "c.example" "0x0c",
    vouch "c.example" "0x0c" "d.example" "0x0d", .noteRotation "d.example" "0x0d" 5 1000]

def afar : Federation := { selfDomain := "a.example", selfNodeId := "0x0a" }

/-- The neighbour's word for it brings back the certificates before the fifth. -/
theorem rotation_forgotten :
    ¬ FloorKept afar (rotatedAfar ++ [vouch "b.example" "0x0b" "d.example" "0x0d"]) := by
  intro floor
  have names : ∀ fed : Federation, (fed.peer? "d.example").map Peer.nodeId = some (.str "0x0d") →
      Names fed "d.example" (.str "0x0d") := fun _ same => Option.map_eq_some_iff.mp same
  have before : Names (run step afar rotatedAfar) "d.example" (.str "0x0d") := names _ (by decide +kernel)
  have after : Names (step (run step afar rotatedAfar) (vouch "b.example" "0x0b" "d.example" "0x0d")) "d.example"
      (.str "0x0d") := names _ (by decide +kernel)
  have kept := floor rotatedAfar [_] [] (List.append_nil _).symm "d.example" (.str "0x0d") ⟨before, after⟩
  exact absurd kept (by decide +kernel)

end Forgotten

end Xcp.Federation
