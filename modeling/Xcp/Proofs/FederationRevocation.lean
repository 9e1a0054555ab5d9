import Xcp.Federation.Node

/-! Revoked nodes in the federation. A revocation is kept twice, as a node id
and as a flag on each peer, and peering anew knows neither of them. -/

namespace Xcp.Federation
open Checked Python Transition

structure Cut (nodeId : String) (fed : Federation) : Prop where
  recorded : .str nodeId ∈ fed.revocations
  flagged : ∀ domain peer, fed.peers.get? domain = some peer → peer.nodeId = .str nodeId → peer.revoked = true

section Tables
variable {nodeId : String} {fed : Federation}

theorem Cut.not_live (cut : Cut nodeId fed) {peer : Peer} (member : peer ∈ fed.peers.values)
    (live : peer.revoked = false) : peer.nodeId ≠ .str nodeId := by
  intro same
  obtain ⟨domain, held⟩ := Dict.mem_values.mp member
  have flagged := cut.flagged domain peer held same
  rw [live] at flagged
  cases flagged

theorem markRevoked_nodeId (nodeId : String) (peer : Peer) : (markRevoked nodeId peer).nodeId = peer.nodeId := by
  unfold markRevoked
  split <;> rfl

theorem markRevoked_revoked {peer : Peer} (either : peer.nodeId = .str nodeId ∨ peer.revoked = true) :
    (markRevoked nodeId peer).revoked = true := by
  unfold markRevoked
  split
  next => rfl
  next kept => exact either.resolve_left kept

theorem revoke_entry {other domain : String} {peer : Peer}
    (found : (fed.revoke other).1.peers.get? domain = some peer) :
    ∃ before, fed.peers.get? domain = some before ∧ peer.nodeId = before.nodeId ∧
      (before.nodeId = .str other ∨ before.revoked = true → peer.revoked = true) := by
  simp only [Federation.revoke, Dict.get?_mapValues, Option.map_eq_some_iff] at found
  obtain ⟨before, known, rfl⟩ := found
  exact ⟨before, known, markRevoked_nodeId other before, markRevoked_revoked⟩

theorem revoke_cuts (fed : Federation) (nodeId : String) : Cut nodeId (fed.revoke nodeId).1 := by
  refine ⟨by simp [Federation.revoke], ?_⟩
  intro domain peer held same
  obtain ⟨before, _, named, flags⟩ := revoke_entry held
  rw [named] at same
  exact flags (.inl same)

end Tables

section Runs
variable [Host]

/-- No query or operation trusts a peer with the node id. -/
structure Distrusts (nodeId : String) (fed : Federation) : Prop where
  trust : ∀ domain peer, fed.peer? domain = some peer → peer.nodeId = .str nodeId →
    (fed.trustOf domain).1 = .unknown
  reachable : ∀ least, ∀ peer ∈ fed.reachable least, peer.nodeId ≠ .str nodeId
  serving : ∀ server, ∀ peer ∈ fed.serving server, peer.nodeId ≠ .str nodeId
  issued : ∀ att now issuer, fed.peer? att.issuerDomain = some issuer → issuer.nodeId = .str nodeId →
    fed.ingestAttestation att now = (fed, none)
  about : ∀ att now, att.subjectNodeId = nodeId → fed.ingestAttestation att now = (fed, none)
  gossiped : ∀ subject fromDomain source, fed.peer? fromDomain = some source → source.nodeId = .str nodeId →
    fed.ingestRevocation subject fromDomain = (fed, false)

section Queries
variable {nodeId : String} {fed : Federation}

theorem Cut.distrusts (cut : Cut nodeId fed) : Distrusts nodeId fed := by
  refine ⟨?_, ?_, ?_, ?_, ?_, ?_⟩
  · intro domain peer held same
    have flagged := cut.flagged _ peer held same
    simp [trustOf, held, flagged]
  · intro least peer member
    have kept := ((List.perm_insertionSort _ _).mem_iff).mp member
    simp only [List.mem_filter, Bool.and_eq_true, Bool.not_eq_true'] at kept
    exact cut.not_live kept.1 kept.2.1.1
  · intro server peer member
    simp only [Federation.serving, List.mem_filter, Bool.and_eq_true, Bool.not_eq_true'] at member
    exact cut.not_live member.1 member.2.1.1
  · intro att now issuer held same
    have flagged := cut.flagged _ issuer held same
    unfold ingestAttestation
    split
    · rfl
    · simp [held, flagged]
  · intro att now same
    have recorded : .str att.subjectNodeId ∈ fed.revocations := by
      rw [same]
      exact cut.recorded
    unfold ingestAttestation
    split
    · rfl
    · cases fed.peer? att.issuerDomain with
      | none => rfl
      | some issuer => simp [recorded]
  · intro subject fromDomain source held same
    have flagged := cut.flagged _ source held same
    simp [ingestRevocation, held, flagged]

end Queries

/-! ### What each operation does to a revoked node -/

/-- Peering anew under the node id, not refused as a replay. -/
def Repeers (nodeId : String) (fed : Federation) : Event → Prop
  | .addVerifiedPeer new _ => new.nodeId = .str nodeId ∧ fed.replayed new = false
  | _ => False

section Operations
variable {nodeId : String} {fed after : Federation}

theorem Cut.entry {event : Event} {domain : String} {peer : Peer} (cut : Cut nodeId fed)
    (closed : ¬ Repeers nodeId fed event) (entry : Entry fed domain peer event) (named : peer.nodeId = .str nodeId) :
    peer.revoked = true := by
  cases entry with
  | kept held => exact cut.flagged domain peer held named
  | verified keyed fresh made =>
    rw [made] at named
    exact absurd ⟨named, fresh⟩ closed
  | @rotated _ _ _ _ before keyed held later made =>
    rw [made] at named ⊢
    exact cut.flagged domain before held named
  | introduced keyed vouches made =>
    -- whoever is introduced is another node
    rw [made] at named
    have recorded := cut.recorded
    rw [← named] at recorded
    exact absurd recorded vouches.unrevoked
  | revoked held made =>
    rw [made, markRevoked_nodeId] at named
    rw [made]
    exact markRevoked_revoked (.inr (cut.flagged domain _ held named))

theorem Cut.step {event : Event} (cut : Cut nodeId fed) (closed : ¬ Repeers nodeId fed event) :
    Cut nodeId (step fed event) :=
  ⟨(step_frame fed event).2 cut.recorded, fun _ _ found => cut.entry closed (step_entry found)⟩

theorem repeers_trusted {event : Event} (repeers : Repeers nodeId fed event) : ¬ Distrusts nodeId (step fed event) := by
  intro distrusts
  cases event with
  | addVerifiedPeer new now =>
    obtain ⟨named, fresh⟩ := repeers
    have done : Federation.step fed (.addVerifiedPeer new now) = fed.setPeer (fed.verifiedPeer new now) := by
      simp [Federation.step, Federation.addVerifiedPeer, require_true _ fresh, ok_bind, pure, Except.pure,
        Functor.map, Except.map]
    rw [done] at distrusts
    have held : (fed.setPeer (fed.verifiedPeer new now)).peer? new.domain = some (fed.verifiedPeer new now) := by
      simp [peer?, setPeer, verifiedPeer]
    have refused := distrusts.gossiped "" new.domain _ held named
    have trusted : (fed.verifiedPeer new now).trust.meets .verified = true := by
      unfold verifiedPeer
      cases new.mutual_ <;> rfl
    have live : (fed.verifiedPeer new now).revoked = false := rfl
    simp [Federation.ingestRevocation, held, trusted, live] at refused
  | noteRotation => exact repeers
  | ingestAttestation => exact repeers
  | revoke => exact repeers
  | ingestRevocation => exact repeers

end Operations

/-! ### Runs -/

inductive Revokes (fed : Federation) (nodeId : String) : Federation → Prop where
  | locally : Revokes fed nodeId (fed.revoke nodeId).1
  | gossiped {after : Federation} {fromDomain : String}
      (accepted : fed.ingestRevocation nodeId fromDomain = (after, true)) : Revokes fed nodeId after

theorem Revokes.cuts {fed after : Federation} {nodeId : String} (revokes : Revokes fed nodeId after) :
    Cut nodeId after := by
  cases revokes with
  | locally => exact revoke_cuts fed nodeId
  | @gossiped _ fromDomain accepted =>
    rcases fed.ingestRevocation_cases nodeId fromDomain with revoked | refused
    · rw [revoked] at accepted
      cases accepted
      exact revoke_cuts fed nodeId
    · rw [refused] at accepted
      cases accepted

/-- An attestation that names the node as its issuer comes under a domain whose
peer, if there is one, has that node id. -/
def IssuerKnown (nodeId : String) (fed : Federation) : Event → Prop
  | .ingestAttestation att _ => att.issuerNodeId = nodeId →
    ∀ issuer, fed.peer? att.issuerDomain = some issuer → issuer.nodeId = .str nodeId
  | _ => True

def RefusesIssuer (nodeId : String) (fed : Federation) : Event → Prop
  | .ingestAttestation att now => att.issuerNodeId = nodeId → fed.ingestAttestation att now = (fed, none)
  | _ => True

theorem Cut.refusesIssuer {fed : Federation} {nodeId : String} {event : Event} (cut : Cut nodeId fed)
    (known : IssuerKnown nodeId fed event) : RefusesIssuer nodeId fed event := by
  cases event with
  | ingestAttestation att now =>
    intro named
    cases held : fed.peer? att.issuerDomain with
    | none =>
      unfold Federation.ingestAttestation
      simp [held]
    | some issuer => exact cut.distrusts.issued att now issuer held (known named issuer held)
  | addVerifiedPeer => trivial
  | noteRotation => trivial
  | revoke => trivial
  | ingestRevocation => trivial

/-- After a revocation no state of a run trusts the node exactly when nothing in
the run peers anew under its id. Attestations that only name it as their issuer
are then refused too, where they come under its own domain. -/
theorem revoked_distrusted_iff {fed after : Federation} {nodeId : String} (revokes : Revokes fed nodeId after)
    (events : List Event) :
    (Always step (Distrusts nodeId) after events ↔
      Meets step (fun fed event => ¬ Repeers nodeId fed event) after events) ∧
    (Meets step (fun fed event => ¬ Repeers nodeId fed event ∧ IssuerKnown nodeId fed event) after events →
      Meets step (RefusesIssuer nodeId) after events) := by
  have keeps : ∀ fed event, Cut nodeId fed → ¬ Repeers nodeId fed event → Cut nodeId (step fed event) :=
    fun _ _ => Cut.step
  refine ⟨?_, ?_⟩
  · have breaks : ∀ fed event, Cut nodeId fed → ¬ ¬ Repeers nodeId fed event → ¬ Distrusts nodeId (step fed event) :=
      fun _ _ _ repeers => repeers_trusted (not_not.mp repeers)
    exact always_iff_meets keeps (fun _ => Cut.distrusts) breaks revokes.cuts
  · intro meets
    refine meets.of_held ?_ revokes.cuts
    intro fed event cut allowed
    exact ⟨keeps fed event cut allowed.1, cut.refusesIssuer allowed.2⟩

end Runs

/-! ### A node peering again -/

section Reintroduced

local instance : Host := asciiHost []

def bank : Introduction := { domain := "Bank.example", nodeId := .str "0x0b" }

def peeredOnce : Federation := step { selfDomain := "a.example", selfNodeId := "0x0a" } (.addVerifiedPeer bank 1000)

theorem revoked_distrusted_rotation :
    Always step (Distrusts "0x0b") (peeredOnce.revoke "0x0b").1 [.noteRotation "bank.example" "0x0b" 5 2000] :=
  (revoked_distrusted_iff .locally _).1.mpr ⟨id, trivial⟩

/-- The revoked node peers again and is believed again. -/
theorem revoked_trusted_again :
    ¬ Always step (Distrusts "0x0b") (peeredOnce.revoke "0x0b").1 [.addVerifiedPeer bank 2000] := by
  intro ⟨_, distrusts⟩
  have known : ((step (peeredOnce.revoke "0x0b").1 (.addVerifiedPeer bank 2000)).peer? "bank.example").map
      Peer.nodeId = some (.str "0x0b") := by decide
  obtain ⟨peer, held, named⟩ := Option.map_eq_some_iff.mp known
  have refused := distrusts.gossiped "0x0c" "bank.example" peer held named
  have accepted := congrArg Prod.snd refused
  revert accepted
  decide

end Reintroduced

end Xcp.Federation
