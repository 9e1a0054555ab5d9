import Xcp.Proofs.SealedCredentials

/-! Any number of delegations. The chain stays within the budget of its origin
and goes to nobody twice, and its last recipient alone opens the credential. -/

namespace Xcp.Vault
open Cipher Checked Eth Python

section Laws
variable [Host] [Aead] [Agreement]

/-- A chain that its origin permitted, and in which nobody appears twice. -/
structure Within (maxHops : Int) (chained : ChainedCredential) : Prop where
  budget : chained.maxHops = maxHops
  depth : chained.depth ≤ maxHops
  distinct : chained.visited.Nodup

omit [Host] [Aead] [Agreement] in
theorem ChainedCredential.visited_subset (chained : ChainedCredential) : ∀ name ∈ chained.visited, name ∈ chained.seen := by
  intro name member
  simp only [visited, List.mem_cons, List.mem_map] at member
  simp only [seen, List.mem_cons, List.mem_flatMap]
  rcases member with rfl | ⟨hop, inside, rfl⟩
  · exact .inl rfl
  · exact .inr ⟨hop, inside, by simp⟩

omit [Aead] [Agreement] in
theorem Within.acceptable {maxHops : Int} {chained : ChainedCredential} (within : Within maxHops chained) :
    acceptable chained none none = [] := by
  have short : ¬ chained.maxHops < chained.depth := by
    rw [within.budget]
    exact not_lt.mpr within.depth
  have whole := List.dedup_eq_self.mpr within.distinct
  simp [Vault.acceptable, short, whole]

theorem sealChained_within {credential origin : String} {recipient : RecipientKey} {maxHops : Int} {draw : Draw}
    {chained : ChainedCredential} (done : sealChained credential recipient origin maxHops draw = .ok chained) :
    Within maxHops chained := by
  obtain ⟨positive, _, hops, budget, _⟩ := sealChained_ok done
  constructor
  · exact budget
  · simpa [ChainedCredential.depth, hops] using positive
  · simp [ChainedCredential.visited, hops]

variable [JsonDecoder]

/-- One delegation takes one hop of the budget, and goes to somebody new. -/
theorem Within.delegates {maxHops : Int} {chained next : ChainedCredential} {handover : Handover}
    (within : Within maxHops chained) (delegates : Delegates chained handover next) : Within maxHops next := by
  constructor
  · exact delegates.maxHops.trans within.budget
  · have room := delegates.budget
    rw [within.budget] at room
    simp only [ChainedCredential.depth, delegates.hops, List.length_append, List.length_singleton] at room ⊢
    omega
  · have grown : next.visited = chained.visited ++ [handover.toNode] := by
      simp [ChainedCredential.visited, delegates.origin, delegates.hops, Handover.hop]
    have fresh : handover.toNode ∉ chained.visited := fun member => delegates.fresh (chained.visited_subset _ member)
    rw [grown]
    apply within.distinct.append (List.nodup_singleton _)
    simpa using fresh

theorem Within.relay {maxHops : Int} (recipient : RecipientKey) {chained last : ChainedCredential} {handovers : List Handover}
    (within : Within maxHops chained) (done : relay chained handovers = .ok last) : Within maxHops last := by
  apply relay_induction (fun _ chained => Within maxHops chained) recipient ?_ within done
  intro _ chained handover next within delegates
  exact within.delegates delegates

/-- However a credential is passed on, it is within its budget, and the last of its recipients alone opens it. -/
theorem relayed_within_budget (ideal : IdealAead) (agreement : IdealAgreement) (reads : ReadsDumped blobStyle)
    {credential origin : String} {recipient : RecipientKey} {maxHops : Int} {draw : Draw} {handovers : List Handover}
    {first last : ChainedCredential} (sealed : sealChained credential recipient origin maxHops draw = .ok first)
    (relayed : relay first handovers = .ok last) (privates : RecipientKey → String)
    (pairs : ∀ owner ∈ recipient :: handovers.map Handover.nextRecipient, KeyPair (privates owner) owner)
    (distinct : ((recipient :: handovers.map Handover.nextRecipient).map RecipientKey.raw).Nodup) :
    last.depth ≤ maxHops ∧ last.visited.Nodup ∧ acceptable last none none = [] ∧
      openChained last (privates (lastRecipient recipient handovers)) (lastRecipient recipient handovers) = .ok credential ∧
      ∀ owner ∈ recipient :: handovers.map Handover.nextRecipient, owner ≠ lastRecipient recipient handovers →
        ∀ asked text, openChained last (privates owner) asked ≠ .ok text := by
  have within := (sealChained_within sealed).relay recipient relayed
  have carries := (sealChained_ok sealed).2.2.2.2.relay ideal reads relayed
  have pair := pairs _ (lastRecipient_mem recipient handovers)
  refine ⟨within.depth, within.distinct, within.acceptable, carries.opens ideal agreement reads pair rfl rfl, ?_⟩
  intro owner member other asked text opened
  have same := carries.stranger ideal agreement reads pair (pairs owner member) opened
  exact other (List.inj_on_of_nodup_map distinct member (lastRecipient_mem recipient handovers) same)

/-! ### Who passed it on -/

/-- Each hop goes to somebody whom no hop before it names, and not to the origin. -/
def GoesOnward (chained : ChainedCredential) : Prop :=
  ∀ before hop after, chained.hops = before ++ hop :: after →
    hop.toNode ≠ chained.origin ∧ ∀ earlier ∈ before, hop.toNode ≠ earlier.fromNode ∧ hop.toNode ≠ earlier.toNode

theorem GoesOnward.delegates {chained next : ChainedCredential} {handover : Handover} (onward : GoesOnward chained)
    (delegates : Delegates chained handover next) : GoesOnward next := by
  intro before hop after path
  rw [delegates.hops] at path
  rw [delegates.origin]
  cases after using List.reverseRecOn with
  | nil =>
    obtain ⟨rfl, last⟩ := List.append_inj' path rfl
    obtain rfl : handover.hop = hop := List.singleton_inj.mp last
    have fresh := delegates.fresh
    simp only [ChainedCredential.seen, List.mem_cons, List.mem_flatMap, not_or, not_exists, not_and, List.not_mem_nil,
      not_false_eq_true, and_true] at fresh
    exact ⟨fresh.1, fun earlier inside => fresh.2 earlier inside⟩
  | append_singleton middle last =>
    rw [← List.cons_append, ← List.append_assoc] at path
    exact onward before hop middle (List.append_inj' path rfl).1

end Laws

section Sample
local instance delegatedHost : Host := asciiHost []
local instance delegatedAead : Aead := sampleAead
local instance delegatedAgreement : Agreement := sampleAgreement
local instance delegatedDecoder : JsonDecoder := textDecoder

/-- The private keys of the two recipients. -/
def samplePrivate (owner : RecipientKey) : String :=
  if owner = gatewayKey then "AQEBAQEBAQEBAQEBAQEBAQEBAQEBAQEBAQEBAQEBAQE" else "AgICAgICAgICAgICAgICAgICAgICAgICAgICAgICAgI"

theorem sample_pairs : ∀ owner ∈ [gatewayKey, billingKey], KeyPair (samplePrivate owner) owner := by
  intro owner member
  rcases List.mem_pair.mp member with rfl | rfl
  · exact gateway_keyPair
  · exact billing_keyPair

theorem sample_within_budget : ∃ first last, sealChained "sk_live_51" gatewayKey "planner" 1 plannerDraw = .ok first ∧
    relay first [sampleHandover] = .ok last ∧ last.depth ≤ (1 : Int) ∧ acceptable last none none = [] ∧
    openChained last "AgICAgICAgICAgICAgICAgICAgICAgICAgICAgICAgI" billingKey = .ok "sk_live_51" ∧
    ∀ asked text, openChained last "AQEBAQEBAQEBAQEBAQEBAQEBAQEBAQEBAQEBAQEBAQE" asked ≠ .ok text := by
  obtain ⟨first, last, sealed, relayed, _⟩ := sample_relayed
  have differ : gatewayKey ≠ billingKey := by decide
  have distinct : ([gatewayKey, billingKey].map RecipientKey.raw).Nodup := by decide +kernel
  obtain ⟨depth, _, clean, opens, closed⟩ := relayed_within_budget sampleAead_ideal sampleAgreement_ideal sample_reads sealed
    relayed samplePrivate sample_pairs distinct
  exact ⟨first, last, sealed, relayed, depth, clean, opens, closed gatewayKey (List.mem_cons_self ..) differ⟩

end Sample

end Xcp.Vault
