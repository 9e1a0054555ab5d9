import Xcp.Proofs.PeerTable

/-! Trust that comes by a vouching. Its weight decays from the introducer's, but
the standing that it states is taken over as it is. -/

namespace Xcp.Federation
open Checked Python Transition

section Trust
variable [Host]

/-- A peer that an attestation enters stands no higher than its introducer, and
weighs less. -/
def Bounded (fed : Federation) : Event → Prop
  | .ingestAttestation att now => ∀ peer,
    (fed.ingestAttestation att now).1.peer? att.subjectDomain = some peer → fed.peer? att.subjectDomain ≠ some peer →
      ∃ issuer, fed.peer? att.issuerDomain = some issuer ∧ peer.trust.rank ≤ issuer.trust.rank ∧
        peer.weight < issuer.weight
  | _ => True

/-- An attestation that counts states no more trust than its introducer has. -/
def StatesLess (fed : Federation) : Event → Prop
  | .ingestAttestation att now => ∀ issuer, fed.Vouches att now issuer → att.trust.rank ≤ issuer.trust.rank
  | _ => True

/-- The weight of an introducer that counts falls with one more hop. -/
def WeighsLess (fed : Federation) : Event → Prop
  | .ingestAttestation att now => ∀ issuer, fed.Vouches att now issuer →
    0 < issuer.weight ∧ fed.decayPerHop < 1 ∨ issuer.weight < 0 ∧ 1 < fed.decayPerHop
  | _ => True

/-- A peer that an attestation enters was vouched for by the node that is known
at the issuer's domain. -/
def IssuerBound (fed : Federation) : Event → Prop
  | .ingestAttestation att now => ∀ peer,
    (fed.ingestAttestation att now).1.peer? att.subjectDomain = some peer → fed.peer? att.subjectDomain ≠ some peer →
      ∃ issuer, fed.peer? att.issuerDomain = some issuer ∧ issuer.nodeId = .str att.issuerNodeId
  | _ => True

/-- An attestation that counts names its issuer by the id of its peering. -/
def NamesIssuer (fed : Federation) : Event → Prop
  | .ingestAttestation att now => ∀ issuer, fed.Vouches att now issuer → issuer.nodeId = .str att.issuerNodeId
  | _ => True

section Steps
variable {fed : Federation} {att : Attestation} {now : Int} {issuer : Peer}

theorem Vouches.entered (vouches : fed.Vouches att now issuer) :
    (fed.ingestAttestation att now).1.peer? att.subjectDomain = some (fed.introduced att issuer now) := by
  simp [vouches.ingest, setPeer, peer?, introduced]

/-- Whoever is entered was not there in that way before. -/
theorem Vouches.entered_anew (vouches : fed.Vouches att now issuer) :
    fed.peer? att.subjectDomain ≠ some (fed.introduced att issuer now) := by
  intro held
  exact absurd (vouches.shorter _ held le_rfl) (lt_irrefl _)

omit [Host] in
theorem stated_trust (trust : PeerTrust) : PeerTrust.min .attested trust = trust := by
  cases trust <;> rfl

omit [Host] in
theorem decays_iff {weight decay : Rat} :
    weight * decay < weight ↔ 0 < weight ∧ decay < 1 ∨ weight < 0 ∧ 1 < decay := by
  obtain negative | zero | positive := lt_trichotomy weight 0
  · have falls : weight * decay < weight * 1 ↔ 1 < decay := mul_lt_mul_left_of_neg negative
    rw [mul_one] at falls
    simp [falls, negative, negative.not_gt]
  · simp [zero]
  · rw [mul_lt_iff_lt_one_right positive]
    simp [positive, positive.not_gt]

theorem bounded_step_iff (fed : Federation) (event : Event) :
    Bounded fed event ↔ StatesLess fed event ∧ WeighsLess fed event := by
  cases event with
  | ingestAttestation att now =>
    constructor
    · intro bounded
      have limits : ∀ issuer, fed.Vouches att now issuer →
          att.trust.rank ≤ issuer.trust.rank ∧ issuer.weight * fed.decayPerHop < issuer.weight := by
        intro issuer vouches
        obtain ⟨other, issued, trust, weight⟩ := bounded _ vouches.entered vouches.entered_anew
        have same : other = issuer := Option.some.inj (issued.symm.trans vouches.issued)
        simp only [same, introduced, stated_trust] at trust weight
        exact ⟨trust, weight⟩
      exact ⟨fun issuer vouches => (limits issuer vouches).1, fun issuer vouches => decays_iff.mp (limits issuer vouches).2⟩
    · intro bounds peer found anew
      obtain ⟨states, weighs⟩ := bounds
      obtain ⟨issuer, vouches⟩ | same := fed.ingestAttestation_cases att now
      · have here : fed.introduced att issuer now = peer := Option.some.inj (vouches.entered.symm.trans found)
        refine ⟨issuer, vouches.issued, ?_, ?_⟩
        · simp only [← here, introduced, stated_trust]
          exact states issuer vouches
        · simp only [← here, introduced]
          exact decays_iff.mpr (weighs issuer vouches)
      · rw [same] at found
        exact absurd found anew
  | addVerifiedPeer => simp [Bounded, StatesLess, WeighsLess]
  | noteRotation => simp [Bounded, StatesLess, WeighsLess]
  | revoke => simp [Bounded, StatesLess, WeighsLess]
  | ingestRevocation => simp [Bounded, StatesLess, WeighsLess]

theorem issuer_step_iff (fed : Federation) (event : Event) : IssuerBound fed event ↔ NamesIssuer fed event := by
  cases event with
  | ingestAttestation att now =>
    constructor
    · intro bound issuer vouches
      obtain ⟨other, issued, named⟩ := bound _ vouches.entered vouches.entered_anew
      have same : other = issuer := Option.some.inj (issued.symm.trans vouches.issued)
      exact same ▸ named
    · intro names peer found anew
      obtain ⟨issuer, vouches⟩ | same := fed.ingestAttestation_cases att now
      · exact ⟨issuer, vouches.issued, names issuer vouches⟩
      · rw [same] at found
        exact absurd found anew
  | addVerifiedPeer => simp [IssuerBound, NamesIssuer]
  | noteRotation => simp [IssuerBound, NamesIssuer]
  | revoke => simp [IssuerBound, NamesIssuer]
  | ingestRevocation => simp [IssuerBound, NamesIssuer]

end Steps

/-- What every introduction needs for its weight to count less. -/
structure Weighty (fed : Federation) : Prop where
  positive : 0 < fed.decayPerHop
  below : fed.decayPerHop < 1
  weights : ∀ domain peer, fed.peers.get? domain = some peer → 0 < peer.weight

theorem Weighty.step {fed : Federation} (weighty : Weighty fed) (event : Event) : Weighty (step fed event) := by
  have alike := step_alike fed event
  refine ⟨alike.decayPerHop ▸ weighty.positive, alike.decayPerHop ▸ weighty.below, ?_⟩
  intro domain peer found
  obtain ⟨before, held, _, weight⟩ | ⟨_, weight⟩ | ⟨att, now, issuer, _, vouches, _, weight⟩ := (step_entry found).placed
  · rw [weight]
    exact weighty.weights domain before held
  · rw [weight]
    exact one_pos
  · rw [weight]
    exact mul_pos (weighty.weights _ issuer vouches.issued) weighty.positive

theorem Weighty.weighsLess {fed : Federation} (weighty : Weighty fed) (event : Event) : WeighsLess fed event := by
  cases event with
  | ingestAttestation att now =>
    intro issuer vouches
    exact .inl ⟨weighty.weights _ issuer vouches.issued, weighty.below⟩
  | addVerifiedPeer => trivial
  | noteRotation => trivial
  | revoke => trivial
  | ingestRevocation => trivial

/-- Introduced peers of a run stay below their introducers exactly when no
attestation in it that counts states more than its introducer's own trust. Their
weights never fail, in a federation that begins with nobody and decays. -/
theorem run_bounded_iff (start : Federation) (events : List Event) :
    (Meets step Bounded start events ↔
      Meets step (fun fed event => StatesLess fed event ∧ WeighsLess fed event) start events) ∧
    (start.peers = {} → 0 < start.decayPerHop → start.decayPerHop < 1 →
      (Meets step Bounded start events ↔ Meets step StatesLess start events)) := by
  have steps : Meets step Bounded start events ↔
      Meets step (fun fed event => StatesLess fed event ∧ WeighsLess fed event) start events :=
    ⟨Meets.mono fun fed event => (bounded_step_iff fed event).mp, Meets.mono fun fed event => (bounded_step_iff fed event).mpr⟩
  refine ⟨steps, fun empty positive below => steps.trans ?_⟩
  have weighty : Weighty start := by
    refine ⟨positive, below, ?_⟩
    intro domain peer held
    rw [empty] at held
    cases held
  constructor
  · exact Meets.mono fun _ _ both => both.1
  · intro states
    have keeps : ∀ fed event, Weighty fed → StatesLess fed event →
        Weighty (step fed event) ∧ StatesLess fed event ∧ WeighsLess fed event := by
      intro fed event weighty states
      exact ⟨weighty.step event, states, weighty.weighsLess event⟩
    exact states.of_held keeps weighty

/-- Whom an attestation names as its issuer is not looked at: what is entered is
bound to its issuer exactly where the attestations that count name the peer of
that domain by themselves. -/
theorem issuer_bound_iff :
    (∀ (fed : Federation) (event : Event), IssuerBound fed event ↔ NamesIssuer fed event) ∧
    (∀ (start : Federation) (events : List Event),
      Meets step IssuerBound start events ↔ Meets step NamesIssuer start events) := by
  refine ⟨issuer_step_iff, ?_⟩
  intro start events
  constructor
  · exact Meets.mono fun fed event => (issuer_step_iff fed event).mp
  · exact Meets.mono fun fed event => (issuer_step_iff fed event).mpr

end Trust

section Overstated
local instance trustHost : Host := asciiHost []

theorem run_bounded_iff_vouched :
    Meets step Bounded fresh [neighbour, vouched] ↔ Meets step StatesLess fresh [neighbour, vouched] :=
  (run_bounded_iff fresh [neighbour, vouched]).2 rfl (by decide +kernel) (by decide +kernel)

def overstated : Event :=
  .ingestAttestation
    { subjectDomain := "c.example", subjectNodeId := "0x0c", issuerDomain := "b.example", issuerNodeId := "0x0b",
      trust := .attested, issuedAt := 1000, expiresAt := 2000 } 1000

/-- A peer that was only verified lifts another one above itself. -/
theorem overstated_above_introducer : ¬ Meets step Bounded fresh [neighbour, overstated] := by
  intro ⟨_, bounded, _⟩
  have entered : ((step (step fresh neighbour) overstated).peer? "c.example").map (fun peer => peer.trust) =
      some .attested := by decide +kernel
  have unknown : (step fresh neighbour).peer? "c.example" = none := by decide +kernel
  have verified : ((step fresh neighbour).peer? "b.example").map (fun peer => peer.trust) = some .verified := by
    decide +kernel
  obtain ⟨peer, found, trust⟩ := Option.map_eq_some_iff.mp entered
  obtain ⟨issuer, issued, above, _⟩ := bounded peer found (by rw [unknown]; exact nofun)
  rw [issued, Option.map_some, Option.some.injEq] at verified
  rw [trust, verified] at above
  exact absurd above (by decide)

/-- The neighbour's domain, peered with anew under another identity. -/
def succeeded : Event := .addVerifiedPeer { domain := "b.example", nodeId := .str "0x0d" } 1000

/-- What the former identity vouched for is taken from its successor. -/
theorem former_issuer_counts : ¬ Meets step IssuerBound fresh [neighbour, succeeded, vouched] := by
  rintro ⟨_, _, bound, _⟩
  have entered : ((step (step (step fresh neighbour) succeeded) vouched).peer? "c.example").isSome = true := by
    decide +kernel
  have unknown : (step (step fresh neighbour) succeeded).peer? "c.example" = none := by decide
  have peered : ((step (step fresh neighbour) succeeded).peer? "b.example").map (fun peer => peer.nodeId) =
      some (.str "0x0d") := by decide
  obtain ⟨peer, found⟩ := Option.isSome_iff_exists.mp entered
  obtain ⟨issuer, issued, named⟩ := bound peer found (by rw [unknown]; exact nofun)
  rw [issued, Option.map_some, Option.some.injEq, named] at peered
  exact absurd peered (by decide)

end Overstated

end Xcp.Federation
