import Mathlib.Data.Rat.Floor
import Xcp.Library.Dict
import Xcp.Library.PythonText
import Xcp.Library.Transition

/-! One node's view of the federation: its peers by domain, what they vouch for,
and the node ids it holds to be revoked. -/

namespace Xcp
open Checked Python

/-- How a node came to trust a peer. Ascending. -/
inductive PeerTrust where
  | unknown | verified | peered | attested
deriving DecidableEq, Repr

namespace PeerTrust

def rank : PeerTrust → Nat
  | unknown => 0
  | verified => 1
  | peered => 2
  | attested => 3

def label : PeerTrust → String
  | unknown => "unknown"
  | verified => "verified"
  | peered => "peered"
  | attested => "attested"

def meets (trust least : PeerTrust) : Bool := least.rank ≤ trust.rank

def min (first second : PeerTrust) : PeerTrust := if second.rank < first.rank then second else first

end PeerTrust

/-- What a peer record said is kept as it came. -/
structure Peer where
  domain : String
  nodeId : Json
  gatewayUrl : Json := .str ""
  trust : PeerTrust := .unknown
  hops : Nat := 1
  weight : Rat := 1
  introducedBy : String := ""
  lastSeen : Int := 0
  revoked : Bool := false
  sequence : Int := 0
  site : Json := .str ""
  serves : List Json := []
deriving DecidableEq

structure Attestation where
  subjectDomain : String
  subjectNodeId : String
  issuerDomain : String
  issuerNodeId : String
  trust : PeerTrust
  issuedAt : Int
  expiresAt : Int
  signature : String := ""

def Attestation.expired (att : Attestation) (now : Int) : Bool := now > att.expiresAt

structure Federation where
  selfDomain : String
  selfNodeId : String
  decayPerHop : Rat := 1 / 2
  maxHops : Nat := 3
  minWeight : Rat := 1 / 10
  peers : Dict String Peer := {}
  revocations : List Json := []

variable [Host]

/-! ### Direct peering -/

structure Introduction where
  domain : String
  nodeId : Json
  gatewayUrl : Json := .str ""
  mutual_ : Bool := false
  sequence : Int := 0
  site : Json := .str ""
  serves : List Json := []

namespace Federation

def peer? (fed : Federation) (domain : String) : Option Peer := fed.peers.get? (lower domain)

def setPeer (fed : Federation) (peer : Peer) : Federation := { fed with peers := fed.peers.set peer.domain peer }

def knownSequence (fed : Federation) (domain : String) : Int := ((fed.peer? domain).map Peer.sequence).getD 0

def replayed (fed : Federation) (new : Introduction) : Bool :=
  (fed.peer? new.domain).isSome && new.sequence ≠ 0 && new.sequence < fed.knownSequence new.domain

def verifiedPeer (fed : Federation) (new : Introduction) (now : Int) : Peer where
  domain := lower new.domain
  nodeId := new.nodeId
  gatewayUrl := new.gatewayUrl
  trust := if new.mutual_ then .peered else .verified
  hops := 1
  weight := 1
  lastSeen := now
  sequence := max new.sequence (fed.knownSequence new.domain)
  site := new.site
  serves := new.serves

def addVerifiedPeer (fed : Federation) (new : Introduction) (now : Int) : Raises (Federation × Peer) := do
  require (fed.replayed new = false) (⟨.package "FederationError", s!"binding sequence {new.sequence} is older than the " ++
    s!"{fed.knownSequence new.domain} already seen — refusing a replayed certificate binding"⟩ : Exception)
  return (fed.setPeer (fed.verifiedPeer new now), fed.verifiedPeer new now)

/-- Peers that advertise reaching the server, live and verified. -/
def serving (fed : Federation) (server : Json) : List Peer :=
  fed.peers.values.filter (fun peer => !peer.revoked && peer.trust.meets .verified && peer.serves.contains server)

def noteRotation (fed : Federation) (domain nodeId : String) (sequence now : Int) : Raises (Federation × Bool) :=
  match fed.peer? domain with
  | none => .ok (fed, false)
  | some peer => do
    let known ← peer.nodeId.lower
    if known ≠ lower nodeId then return (fed, false)
    else if sequence ≤ peer.sequence then return (fed, false)
    else
      let rotated := { peer with sequence, lastSeen := now }
      return ({ fed with peers := fed.peers.set (lower domain) rotated }, true)

/-! ### Transitive trust -/

/-- Accept a vouching from a peer. A direct relationship always beats an
introduced one, and the answer is then the peer as it was. -/
def ingestAttestation (fed : Federation) (att : Attestation) (now : Int) : Federation × Option Peer :=
  if att.expired now then (fed, none)
  else match fed.peer? att.issuerDomain with
  | none => (fed, none)
  | some issuer =>
    let subject := lower att.subjectDomain
    let hops := issuer.hops + 1
    let weight := issuer.weight * fed.decayPerHop
    if issuer.revoked then (fed, none)
    else if fed.revocations.contains (.str att.subjectNodeId) then (fed, none)
    else if subject = lower fed.selfDomain then (fed, none)
    else if hops > fed.maxHops then (fed, none)
    else if weight < fed.minWeight then (fed, none)
    else
      let introduced : Peer :=
        { domain := subject, nodeId := .str att.subjectNodeId, trust := PeerTrust.min .attested att.trust, hops, weight,
          introducedBy := att.issuerDomain, lastSeen := now }
      match fed.peers.get? subject with
      | some existing =>
        if existing.hops ≤ hops ∧ existing.weight ≥ weight then (fed, some existing)
        else (fed.setPeer introduced, some introduced)
      | none => (fed.setPeer introduced, some introduced)

def introduced (fed : Federation) (att : Attestation) (issuer : Peer) (now : Int) : Peer where
  domain := lower att.subjectDomain
  nodeId := .str att.subjectNodeId
  trust := PeerTrust.min .attested att.trust
  hops := issuer.hops + 1
  weight := issuer.weight * fed.decayPerHop
  introducedBy := att.issuerDomain
  lastSeen := now

/-- An attestation whose subject is taken over into the table. -/
structure Vouches (fed : Federation) (att : Attestation) (now : Int) (issuer : Peer) : Prop where
  current : att.expired now = false
  issued : fed.peer? att.issuerDomain = some issuer
  live : issuer.revoked = false
  unrevoked : .str att.subjectNodeId ∉ fed.revocations
  other : lower att.subjectDomain ≠ lower fed.selfDomain
  near : issuer.hops + 1 ≤ fed.maxHops
  heavy : fed.minWeight ≤ issuer.weight * fed.decayPerHop
  shorter : ∀ existing, fed.peer? att.subjectDomain = some existing → existing.hops ≤ issuer.hops + 1 →
    existing.weight < issuer.weight * fed.decayPerHop

theorem Vouches.ingest {fed : Federation} {att : Attestation} {now : Int} {issuer : Peer}
    (vouches : fed.Vouches att now issuer) :
    fed.ingestAttestation att now =
      (fed.setPeer (fed.introduced att issuer now), some (fed.introduced att issuer now)) := by
  obtain ⟨current, issued, live, unrevoked, other, near, heavy, shorter⟩ := vouches
  simp only [ingestAttestation, current, issued, live, unrevoked, other, not_lt.mpr near, not_lt.mpr heavy,
    List.contains_eq_mem, decide_false, Bool.false_eq_true, if_false]
  cases known : fed.peers.get? (lower att.subjectDomain) with
  | none => rfl
  | some existing =>
    have replaced : ¬ (existing.hops ≤ issuer.hops + 1 ∧ existing.weight ≥ issuer.weight * fed.decayPerHop) := by
      intro better
      obtain ⟨longer, lighter⟩ := better
      exact absurd lighter (not_le.mpr (shorter existing known longer))
    simp only [replaced, if_false]
    rfl

/-- Without a vouching that counts the table stays as it is. -/
theorem ingestAttestation_cases (fed : Federation) (att : Attestation) (now : Int) :
    (∃ issuer, fed.Vouches att now issuer) ∨ (fed.ingestAttestation att now).1 = fed := by
  unfold ingestAttestation
  split
  · exact .inr rfl
  next current =>
    split
    · exact .inr rfl
    next issuer issued =>
      dsimp only
      split
      · exact .inr rfl
      next live =>
        split
        · exact .inr rfl
        next unrevoked =>
          split
          · exact .inr rfl
          next other =>
            split
            · exact .inr rfl
            next near =>
              split
              · exact .inr rfl
              next heavy =>
                have vouches : (∀ existing, fed.peer? att.subjectDomain = some existing →
                    existing.hops ≤ issuer.hops + 1 → existing.weight < issuer.weight * fed.decayPerHop) →
                    fed.Vouches att now issuer := fun shorter =>
                  ⟨by simpa using current, issued, by simpa using live, by simpa using unrevoked, other, not_lt.mp near,
                    not_lt.mp heavy, shorter⟩
                split
                next existing known =>
                  split
                  · exact .inr rfl
                  next better =>
                    refine .inl ⟨issuer, vouches ?_⟩
                    intro found same longer
                    have here : found = existing := Option.some.inj (same.symm.trans known)
                    rw [here] at longer ⊢
                    exact not_le.mp fun lighter => better ⟨longer, lighter⟩
                next unknown =>
                  refine .inl ⟨issuer, vouches ?_⟩
                  intro found same
                  cases same.symm.trans unknown

def trustOf (fed : Federation) (domain : String) : PeerTrust × Rat :=
  match fed.peer? domain with
  | none => (.unknown, 0)
  | some peer => if peer.revoked || fed.revocations.contains peer.nodeId then (.unknown, 0) else (peer.trust, peer.weight)

/-! ### Revocation gossip -/

def markRevoked (nodeId : String) (peer : Peer) : Peer :=
  if peer.nodeId = .str nodeId then { peer with revoked := true } else peer

/-- Mark a node revoked, and name the peers to gossip it to. -/
def revoke (fed : Federation) (nodeId : String) : Federation × List Json :=
  let fed := { fed with
    revocations := fed.revocations.insert (.str nodeId)
    peers := fed.peers.mapValues (markRevoked nodeId) }
  let live := fed.peers.values.filter (fun peer => !peer.revoked && peer.trust.meets .verified)
  (fed, live.map (fun peer => peer.gatewayUrl.orElse (.str peer.domain)))

/-- A revocation is accepted only from a peer that is trusted itself. -/
def ingestRevocation (fed : Federation) (nodeId fromDomain : String) : Federation × Bool :=
  match fed.peer? fromDomain with
  | none => (fed, false)
  | some source =>
    if source.revoked || !source.trust.meets .verified then (fed, false) else ((fed.revoke nodeId).1, true)

theorem ingestRevocation_cases (fed : Federation) (nodeId fromDomain : String) :
    fed.ingestRevocation nodeId fromDomain = ((fed.revoke nodeId).1, true) ∨
      fed.ingestRevocation nodeId fromDomain = (fed, false) := by
  unfold ingestRevocation
  split
  · exact .inr rfl
  · split
    · exact .inr rfl
    · exact .inl rfl

/-! ### Views -/

def reachable (fed : Federation) (least : PeerTrust) : List Peer :=
  let live := fed.peers.values.filter
    (fun peer => !peer.revoked && peer.trust.meets least && fed.minWeight ≤ peer.weight)
  live.insertionSort
    (fun first second => first.weight > second.weight ∨ first.weight = second.weight ∧ first.domain ≤ second.domain)

/-! ### Runs -/

inductive Event where
  | addVerifiedPeer (new : Introduction) (now : Int)
  | noteRotation (domain nodeId : String) (sequence now : Int)
  | ingestAttestation (att : Attestation) (now : Int)
  | revoke (nodeId : String)
  | ingestRevocation (nodeId fromDomain : String)

def step (fed : Federation) : Event → Federation
  | .addVerifiedPeer new now => settle fed (Prod.fst <$> fed.addVerifiedPeer new now)
  | .noteRotation domain nodeId sequence now => settle fed (Prod.fst <$> fed.noteRotation domain nodeId sequence now)
  | .ingestAttestation att now => (fed.ingestAttestation att now).1
  | .revoke nodeId => (fed.revoke nodeId).1
  | .ingestRevocation nodeId fromDomain => (fed.ingestRevocation nodeId fromDomain).1

/-- Where an entry of the table after an event comes from. -/
inductive Entry (fed : Federation) (domain : String) (peer : Peer) : Event → Prop where
  | kept {event : Event} (held : fed.peers.get? domain = some peer) : Entry fed domain peer event
  | verified {new : Introduction} {now : Int} (keyed : domain = lower new.domain) (fresh : fed.replayed new = false)
      (made : peer = fed.verifiedPeer new now) : Entry fed domain peer (.addVerifiedPeer new now)
  | rotated {other nodeId : String} {sequence now : Int} {before : Peer} (keyed : domain = lower other)
      (held : fed.peers.get? domain = some before) (later : before.sequence < sequence)
      (made : peer = { before with sequence, lastSeen := now }) :
      Entry fed domain peer (.noteRotation other nodeId sequence now)
  | introduced {att : Attestation} {now : Int} {issuer : Peer} (keyed : domain = lower att.subjectDomain)
      (vouches : fed.Vouches att now issuer) (made : peer = fed.introduced att issuer now) :
      Entry fed domain peer (.ingestAttestation att now)
  | revoked {event : Event} {nodeId : String} {before : Peer} (held : fed.peers.get? domain = some before)
      (made : peer = markRevoked nodeId before) : Entry fed domain peer event

theorem addVerifiedPeer_ok {fed after : Federation} {new : Introduction} {now : Int} {peer : Peer}
    (done : fed.addVerifiedPeer new now = .ok (after, peer)) :
    fed.replayed new = false ∧ after = fed.setPeer (fed.verifiedPeer new now) ∧ peer = fed.verifiedPeer new now := by
  simp only [addVerifiedPeer, bind_eq_ok, require_eq_ok, pure_eq_ok, Prod.mk.injEq] at done
  obtain ⟨_, fresh, rfl, rfl⟩ := done
  exact ⟨fresh, rfl, rfl⟩

theorem noteRotation_ok {fed after : Federation} {domain nodeId : String} {sequence now : Int} {noted : Bool}
    (done : fed.noteRotation domain nodeId sequence now = .ok (after, noted)) :
    after = fed ∨ ∃ peer, fed.peer? domain = some peer ∧ peer.sequence < sequence ∧
      after = { fed with peers := fed.peers.set (lower domain) { peer with sequence, lastSeen := now } } := by
  unfold noteRotation at done
  split at done
  · cases done
    exact .inl rfl
  next peer held =>
    simp only [bind_eq_ok] at done
    obtain ⟨known, _, done⟩ := done
    split at done
    · cases done
      exact .inl rfl
    · split at done
      · cases done
        exact .inl rfl
      next later =>
        cases done
        exact .inr ⟨peer, held, not_le.mp later, rfl⟩

theorem entry_revoke {fed : Federation} {event : Event} {nodeId domain : String} {peer : Peer}
    (found : (fed.revoke nodeId).1.peers.get? domain = some peer) : Entry fed domain peer event := by
  simp only [revoke, Dict.get?_mapValues, Option.map_eq_some_iff] at found
  obtain ⟨before, held, rfl⟩ := found
  exact .revoked held rfl

theorem step_entry {fed : Federation} {event : Event} {domain : String} {peer : Peer}
    (found : (step fed event).peers.get? domain = some peer) : Entry fed domain peer event := by
  cases event with
  | addVerifiedPeer new now =>
    dsimp only [step] at found
    obtain ⟨after, answer, done, same⟩ | same := settle_fst_cases fed (fed.addVerifiedPeer new now)
    · obtain ⟨fresh, rfl, _⟩ := addVerifiedPeer_ok done
      rw [same] at found
      obtain ⟨keyed, made⟩ | held := Dict.get?_set_eq_some found
      · exact .verified keyed fresh made
      · exact .kept held
    · rw [same] at found
      exact .kept found
  | noteRotation other nodeId sequence now =>
    dsimp only [step] at found
    obtain ⟨after, answer, done, same⟩ | same := settle_fst_cases fed (fed.noteRotation other nodeId sequence now)
    · rw [same] at found
      obtain rfl | ⟨before, known, later, rfl⟩ := noteRotation_ok done
      · exact .kept found
      · obtain ⟨keyed, made⟩ | held := Dict.get?_set_eq_some found
        · exact .rotated keyed (keyed ▸ known) later made
        · exact .kept held
    · rw [same] at found
      exact .kept found
  | ingestAttestation att now =>
    dsimp only [step] at found
    obtain ⟨issuer, vouches⟩ | same := fed.ingestAttestation_cases att now
    · rw [vouches.ingest] at found
      obtain ⟨keyed, made⟩ | held := Dict.get?_set_eq_some found
      · exact .introduced keyed vouches made
      · exact .kept held
    · rw [same] at found
      exact .kept found
  | revoke nodeId => exact entry_revoke found
  | ingestRevocation nodeId fromDomain =>
    dsimp only [step] at found
    obtain accepted | refused := fed.ingestRevocation_cases nodeId fromDomain
    · rw [accepted] at found
      exact entry_revoke found
    · rw [refused] at found
      exact .kept found

/-- What a federation is set up with stays as it is. -/
structure Alike (fed other : Federation) : Prop where
  selfDomain : fed.selfDomain = other.selfDomain
  selfNodeId : fed.selfNodeId = other.selfNodeId
  decayPerHop : fed.decayPerHop = other.decayPerHop
  maxHops : fed.maxHops = other.maxHops
  minWeight : fed.minWeight = other.minWeight

/-- Beside its table a federation only changes by revocations, which add up. -/
theorem step_frame (fed : Federation) (event : Event) :
    Alike (step fed event) fed ∧ fed.revocations ⊆ (step fed event).revocations := by
  have written (peers : Dict String Peer) :
      Alike { fed with peers } fed ∧ fed.revocations ⊆ { fed with peers }.revocations :=
    ⟨⟨rfl, rfl, rfl, rfl, rfl⟩, List.Subset.refl _⟩
  have same : Alike fed fed ∧ fed.revocations ⊆ fed.revocations := written fed.peers
  have marked (nodeId : String) : Alike (fed.revoke nodeId).1 fed ∧ fed.revocations ⊆ (fed.revoke nodeId).1.revocations :=
    ⟨⟨rfl, rfl, rfl, rfl, rfl⟩, fun _ member => List.mem_insert_of_mem member⟩
  cases event with
  | addVerifiedPeer new now =>
    dsimp only [step]
    obtain ⟨after, answer, done, settled⟩ | settled := settle_fst_cases fed (fed.addVerifiedPeer new now)
    · obtain ⟨_, rfl, _⟩ := addVerifiedPeer_ok done
      rw [settled]
      exact written _
    · rwa [settled]
  | noteRotation other nodeId sequence now =>
    dsimp only [step]
    obtain ⟨after, answer, done, settled⟩ | settled := settle_fst_cases fed (fed.noteRotation other nodeId sequence now)
    · rw [settled]
      obtain rfl | ⟨_, _, _, rfl⟩ := noteRotation_ok done
      · exact same
      · exact written _
    · rwa [settled]
  | ingestAttestation att now =>
    dsimp only [step]
    obtain ⟨issuer, vouches⟩ | kept := fed.ingestAttestation_cases att now
    · rw [vouches.ingest]
      exact written _
    · rwa [kept]
  | revoke nodeId => exact marked nodeId
  | ingestRevocation nodeId fromDomain =>
    dsimp only [step]
    obtain accepted | refused := fed.ingestRevocation_cases nodeId fromDomain
    · rw [accepted]
      exact marked nodeId
    · rwa [refused]

theorem step_alike (fed : Federation) (event : Event) : Alike (step fed event) fed := (step_frame fed event).1

end Federation

end Xcp
