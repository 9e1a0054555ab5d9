import Xcp.Proofs.CertDowngrade

/-! The sequence that a peer is recorded with. A record is accepted through one of
two bindings, and its sequence is always read from the current one. -/

namespace Xcp
open Checked Python Eth Identity

section Sequence
variable [Host] [Packages]

/-- The node itself signed the binding. -/
def SignedFor (binding : CertBinding) (nodeId : Json) : Prop :=
  binding.signatureProblems = [] ∧ differs binding.nodeId nodeId = .ok false

/-- A sequence that a binding of the record says which the node signed. A record
without bindings says none. -/
def Authentic (record : NodeRecord) (sequence : Int) : Prop :=
  (record.bindings.truthy = false ∧ sequence = 0) ∨
    ∃ bindings binding, BindingSet.fromDict record.bindings = .ok bindings ∧
      (binding = bindings.current ∨ bindings.previous = some binding) ∧ SignedFor binding record.nodeId ∧
      binding.sequence.toInt = .ok sequence

def SequenceAuthentic (record : NodeRecord) : Prop :=
  ∀ sequence, record.sequence = .ok sequence → Authentic record sequence

/-! ### What the record says -/

section Reading
variable {record : NodeRecord} {bindings : BindingSet}

omit [Host] [Packages] in
theorem sequence_unbound (unbound : record.bindings.truthy = false) : record.sequence = .ok 0 := by
  have empty : record.bindings.orElse (.dict []) = .dict [] := by simp [Json.orElse, unbound]
  rw [NodeRecord.sequence, empty]
  rfl

omit [Host] [Packages] in
theorem certBinding_sequence {document : Json} {binding : CertBinding}
    (read : CertBinding.fromDict document = .ok binding) :
    document.truthy = true ∧ document.getInt "sequence" 0 = binding.sequence.toInt := by
  cases document with
  | dict members =>
    simp only [CertBinding.fromDict, bind_eq_ok, requireFields, require_eq_ok, pure_eq_ok] at read
    obtain ⟨_, present, rfl⟩ := read
    have given := List.filter_eq_nil_iff.mp present "sequence" (by simp)
    cases found : Json.find? members "sequence" with
    | none =>
      rw [found] at given
      exact absurd rfl given
    | some value =>
      refine ⟨?_, by simp only [Json.getInt, Json.get, field, found, ok_bind, Option.getD_some]⟩
      cases members with
      | nil => cases found
      | cons member rest => rfl
  | _ => cases read

omit [Host] [Packages] in
/-- Both read the same binding. -/
theorem sequence_bound (bound : record.bindings.truthy = true) (read : BindingSet.fromDict record.bindings = .ok bindings) :
    record.sequence = bindings.current.sequence.toInt := by
  simp only [BindingSet.fromDict, bind_eq_ok] at read
  obtain ⟨previous, _, current, item, binding, parsed, made⟩ := read
  have same : bindings.current = binding := by
    split at made
    · obtain ⟨before, _, made⟩ := (bind_eq_ok ..).mp made
      cases made
      rfl
    · cases made
      rfl
  obtain ⟨truthy, number⟩ := certBinding_sequence parsed
  rw [same, ← number]
  simp only [NodeRecord.sequence, Json.orElse, bound, if_true, Json.get_of_item item, ok_bind, truthy]

end Reading

/-! ### What an accepted record is accepted through -/

theorem accept_refusal {bindings : BindingSet} {expected : Expected} {notes : List String}
    (refused : accept bindings expected = .ok (.error notes)) : notes ≠ [] := by
  unfold accept at refused
  obtain ⟨problems, _, answer⟩ := (bind_eq_ok ..).mp refused
  split at answer
  · cases answer
  next wanting =>
    split at answer
    · cases answer
      exact wanting
    · obtain ⟨others, _, answer⟩ := (bind_eq_ok ..).mp answer
      split at answer
      · cases answer
      · cases answer
        exact wanting

section Accepted
variable {record : NodeRecord} {certificateDer : List Nat} {servedFrom : String} {knownSequence now : Int}

def expectedOf (record : NodeRecord) (certificateDer : List Nat) (knownSequence now : Int) : Expected where
  nodeId := record.nodeId
  domain := record.domain
  tlsFootprint := digest certificateDer
  now := now
  minSequence := knownSequence

variable (accepted : verifyNodeRecord record certificateDer servedFrom knownSequence now = .ok [])
include accepted

theorem accepted_parts : record.validate = .ok [] ∧
    certificateProblems record (digest certificateDer) knownSequence now = .ok [] := by
  simp only [verifyNodeRecord, bind_eq_ok, pure_eq_ok, List.append_eq_nil_iff] at accepted
  obtain ⟨malformed, valid, incompatible, _, claimed, _, unbound, bound, ⟨⟨rfl, _⟩, _⟩, rfl⟩ := accepted
  exact ⟨valid, bound⟩

theorem accepted_nodeId : record.nodeId.truthy = true := by
  obtain ⟨valid, _⟩ := accepted_parts accepted
  simp only [NodeRecord.validate, bind_eq_ok, pure_eq_ok, List.append_eq_nil_iff, problemIf_eq_nil] at valid
  obtain ⟨_, _, _, _, _, _, text, named, _, _, ⟨_, long⟩, _⟩ := valid
  cases given : record.nodeId with
  | str whole =>
    rw [given] at named
    cases named
    by_contra blank
    obtain rfl : text = "" := by simpa [Json.truthy] using blank
    exact absurd long (by decide)
  | _ =>
    rw [given] at named
    cases named

theorem accepted_binding (bound : record.bindings.truthy = true) :
    ∃ bindings which, BindingSet.fromDict record.bindings = .ok bindings ∧
      accept bindings (expectedOf record certificateDer knownSequence now) = .ok (.ok which) := by
  obtain ⟨_, none⟩ := accepted_parts accepted
  unfold certificateProblems at none
  rw [if_pos bound] at none
  split at none
  · cases none
  next bindings read =>
    obtain ⟨answer, done, none⟩ := (bind_eq_ok ..).mp none
    split at none
    next which => exact ⟨bindings, which, read, done⟩
    next notes =>
      cases none
      exact absurd rfl (accept_refusal done)

/-- Whichever binding the record is accepted through, its node signed it. -/
theorem accepted_signed (bound : record.bindings.truthy = true) {bindings : BindingSet}
    (read : BindingSet.fromDict record.bindings = .ok bindings) :
    SignedFor bindings.current record.nodeId ∨
      ∃ before, bindings.previous = some before ∧ SignedFor before record.nodeId := by
  have named := accepted_nodeId accepted
  obtain ⟨others, which, same, done⟩ := accepted_binding accepted bound
  obtain rfl := Except.ok.inj (read.symm.trans same)
  obtain ⟨_, binds⟩ | ⟨_, before, overlaps⟩ := accept_ok.mp done
  · exact .inl ⟨binds.signed, (andThen_eq_false ..).mp binds.node named⟩
  · exact .inr ⟨before, overlaps.previous, overlaps.binds.signed, (andThen_eq_false ..).mp overlaps.binds.node named⟩

/-- The sequence of an accepted record is authenticated exactly when its current
binding is, or the previous one says the same sequence. -/
theorem sequence_authentic_iff :
    SequenceAuthentic record ↔
      ∀ bindings sequence, record.bindings.truthy = true → BindingSet.fromDict record.bindings = .ok bindings →
        bindings.current.sequence.toInt = .ok sequence →
          SignedFor bindings.current record.nodeId ∨
            ∃ before, bindings.previous = some before ∧ before.sequence.toInt = .ok sequence := by
  constructor
  · intro authentic bindings sequence bound read number
    have said := authentic sequence ((sequence_bound bound read).trans number)
    obtain ⟨unbound, _⟩ | ⟨others, binding, same, listed, signed, told⟩ := said
    · exact absurd bound (by simp [unbound])
    · obtain rfl := Except.ok.inj (read.symm.trans same)
      obtain rfl | previous := listed
      · exact .inl signed
      · exact .inr ⟨binding, previous, told⟩
  · intro agrees sequence said
    by_cases bound : record.bindings.truthy = true
    · obtain ⟨bindings, _, read, _⟩ := accepted_binding accepted bound
      have number := (sequence_bound bound read).symm.trans said
      refine .inr ?_
      obtain current | ⟨before, previous, signed⟩ := accepted_signed accepted bound read
      · exact ⟨bindings, bindings.current, read, .inl rfl, current, number⟩
      · obtain current | ⟨other, published, told⟩ := agrees bindings sequence bound read number
        · exact ⟨bindings, bindings.current, read, .inl rfl, current, number⟩
        · obtain rfl := Option.some.inj (previous.symm.trans published)
          exact ⟨bindings, before, read, .inr previous, signed, told⟩
    · have unbound : record.bindings.truthy = false := by simpa using bound
      have zero := said.symm.trans (sequence_unbound unbound)
      exact .inl ⟨unbound, Except.ok.inj zero⟩

end Accepted

omit [Packages] in
/-- A peer is recorded with the sequence of its record, or the one known already. -/
theorem introduce_floor {network : Gateway.Network} {federation after : Federation} {domain : String}
    {record : NodeRecord} {peer : Peer} (done : Gateway.introduce network federation domain record = .ok (after, peer)) :
    record.sequence = .ok peer.sequence ∨ peer.sequence = federation.knownSequence domain := by
  simp only [Gateway.introduce, bind_eq_ok] at done
  obtain ⟨sequence, said, serves, _, added⟩ := done
  obtain ⟨_, _, rfl⟩ := Federation.addVerifiedPeer_ok added
  obtain first | second := max_choice sequence (federation.knownSequence domain)
  · exact .inl (said.trans (congrArg Except.ok first.symm))
  · exact .inr second

/-- Nothing but an authenticated sequence raises what is known of a peer, if the
sequence of its record is one. -/
theorem SequenceAuthentic.introduced {network : Gateway.Network} {federation after : Federation} {domain : String}
    {record : NodeRecord} {peer : Peer} (authentic : SequenceAuthentic record)
    (done : Gateway.introduce network federation domain record = .ok (after, peer)) :
    Authentic record peer.sequence ∨ peer.sequence = federation.knownSequence domain :=
  (introduce_floor done).imp_left (authentic peer.sequence)

end Sequence

/-! ### A sequence that nobody signed -/

section Forged
open Gateway (malloryId malloryDer)

local instance forgedHost : Host := asciiHost []

local instance forgedPackages : Packages := tablePackages Gateway.hashes bindingTable

def bindingJson (binding : CertBinding) : Json :=
  .dict [("node_id", binding.nodeId), ("cert_footprint", binding.certFootprint), ("sequence", binding.sequence),
    ("not_before", binding.notBefore), ("not_after", binding.notAfter), ("domain", binding.domain),
    ("signature", binding.signature)]

def publishedBy (bindings : List (String × Json)) : NodeRecord where
  domain := .str "mallory.example"
  nodeId := .str malloryId
  gatewayUrl := .str "https://mallory.example"
  bindings := .dict bindings

def honestRecord : NodeRecord := publishedBy [("current", bindingJson firstBinding)]

/-- A current binding that is not signed, and says that it is the billionth. -/
def forgedBinding : CertBinding := { firstBinding with sequence := .int 1000000000, signature := .str "" }

def forgedRecord : NodeRecord :=
  publishedBy [("current", bindingJson forgedBinding), ("previous", bindingJson firstBinding)]

theorem forged_unsigned : forgedBinding.signatureProblems ≠ [] := by
  decide +kernel

/-- A record of the node is accepted with any bindings that are. -/
theorem publishedBy_accepted {bindings : List (String × Json)} {published : BindingSet} {which : Which}
    (read : BindingSet.fromDict (.dict bindings) = .ok published)
    (taken : accept published (expectMallory 0) = .ok (.ok which)) :
    verifyNodeRecord (publishedBy bindings) malloryDer "mallory.example" 0 1000 = .ok [] := by
  have valid : (publishedBy bindings).validate = .ok [] := by
    have same : (publishedBy bindings).validate = (publishedBy []).validate := rfl
    rw [same]
    exact toOption_eq_some.mp (by decide +kernel)
  have compatible : protocolIncompatible (publishedBy bindings) = .ok none := by
    have same : protocolIncompatible (publishedBy bindings) = protocolIncompatible (publishedBy []) := rfl
    rw [same]
    exact toOption_eq_some.mp (by decide +kernel)
  have footprint : digest malloryDer = (expectMallory 0).tlsFootprint := by decide +kernel
  have given : (publishedBy bindings).bindings.truthy = true := by
    cases bindings with
    | nil => cases read
    | cons member members => rfl
  have bound : certificateProblems (publishedBy bindings) (digest malloryDer) 0 1000 = .ok [] := by
    simp only [certificateProblems, given, if_true]
    rw [show (publishedBy bindings).bindings = .dict bindings from rfl, read, footprint]
    exact (bind_eq_ok ..).mpr ⟨_, taken, rfl⟩
  have claimed : (publishedBy bindings).domain.lower = .ok (lower "mallory.example") := rfl
  simp [verifyNodeRecord, valid, compatible, claimed, bound, problemIf]

theorem honest_accepted : verifyNodeRecord honestRecord malloryDer "mallory.example" 0 1000 = .ok [] := by
  have taken : accept { current := firstBinding } (expectMallory 0) = .ok (.ok .current) :=
    accept_ok.mpr (.inl ⟨rfl, firstBinding_binds rfl le_rfl (by decide)⟩)
  exact publishedBy_accepted rfl taken

theorem forged_accepted : verifyNodeRecord forgedRecord malloryDer "mallory.example" 0 1000 = .ok [] := by
  have wanting : ∃ problems, verifyBinding forgedBinding (expectMallory 0) = .ok problems ∧ problems ≠ [] :=
    wanting_of_unsigned (by decide +kernel) forged_unsigned
  have taken : accept { current := forgedBinding, previous := some firstBinding } (expectMallory 0) = .ok (.ok .previous) :=
    accept_ok.mpr (.inr ⟨rfl, firstBinding, wanting, rfl, firstBinding_binds rfl (by decide) (by decide)⟩)
  exact publishedBy_accepted rfl taken

theorem sequence_authentic_honest : SequenceAuthentic honestRecord := by
  apply (sequence_authentic_iff honest_accepted).mpr
  intro bindings sequence bound read number
  obtain current | ⟨before, previous, _⟩ := accepted_signed honest_accepted bound read
  · exact .inl current
  · cases read
    cases previous

theorem forged_unauthentic :
    verifyNodeRecord forgedRecord malloryDer "mallory.example" 0 1000 = .ok [] ∧ ¬ SequenceAuthentic forgedRecord := by
  refine ⟨forged_accepted, ?_⟩
  intro authentic
  have read : BindingSet.fromDict forgedRecord.bindings = .ok { current := forgedBinding, previous := some firstBinding } := by
    rfl
  obtain ⟨unbound, _⟩ | ⟨bindings, binding, same, listed, ⟨signed, _⟩, told⟩ := authentic 1000000000 rfl
  · cases unbound
  · obtain rfl := Except.ok.inj (read.symm.trans same)
    obtain rfl | previous := listed
    · exact forged_unsigned signed
    · cases previous
      cases told

end Forged

end Xcp
