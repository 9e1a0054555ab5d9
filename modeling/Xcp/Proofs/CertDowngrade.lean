import Xcp.Library.Ideal
import Xcp.Proofs.DelegationRevocation

/-! Which certificates a node is taken by. The current binding is held to the
sequence that is known of the node; the previous one only to itself. -/

namespace Xcp.Identity
open Checked Python Eth

section Downgrade
variable [Host] [Packages]

/-- A binding of the expected node, domain and certificate, active, not below the
sequence that is asked for, and signed by the node. -/
structure Binds (binding : CertBinding) (expected : Expected) : Prop where
  node : andThen expected.nodeId.truthy (differs binding.nodeId expected.nodeId) = .ok false
  domain : andThen (expected.domain.truthy && binding.domain.truthy) (differs binding.domain expected.domain) = .ok false
  certificate : andThen (expected.tlsFootprint ≠ "") (differs binding.certFootprint (.str expected.tlsFootprint)) =
    .ok false
  active : binding.active expected.now expected.grace = .ok true
  sequence : binding.sequence.lt (.int expected.minSequence) = .ok false
  signed : binding.signatureProblems = []

theorem verifyBinding_nil {binding : CertBinding} {expected : Expected} :
    verifyBinding binding expected = .ok [] ↔ Binds binding expected := by
  simp only [verifyBinding, bind_eq_ok, pure_eq_ok, List.append_eq_nil_iff, problemIf_eq_nil, Bool.not_eq_false',
    and_assoc]
  constructor
  · intro verified
    obtain ⟨otherNode, node, otherDomain, domain, otherCert, certificate, active, live, older, sequence, same⟩ := verified
    obtain ⟨rfl, rfl, rfl, rfl, rfl, signed⟩ := same
    exact ⟨node, domain, certificate, live, sequence, signed⟩
  · intro bound
    obtain ⟨node, domain, certificate, active, sequence, signed⟩ := bound
    exact ⟨false, node, false, domain, false, certificate, true, active, false, sequence, rfl, rfl, rfl, rfl, rfl, signed⟩

theorem wanting_of_unsigned {binding : CertBinding} {expected : Expected}
    (checked : (verifyBinding binding expected).toOption.isSome = true) (unsigned : binding.signatureProblems ≠ []) :
    ∃ problems, verifyBinding binding expected = .ok problems ∧ problems ≠ [] := by
  obtain ⟨problems, checked⟩ := ok_of_isSome checked
  refine ⟨problems, checked, ?_⟩
  rintro rfl
  exact unsigned (verifyBinding_nil.mp checked).signed

/-- What `accept` asks of the previous binding. -/
def Expected.rotating (expected : Expected) : Expected := { expected with grace := rotationGrace, minSequence := 0 }

/-- The previous binding counts when the current one was found wanting. -/
structure Overlaps (bindings : BindingSet) (expected : Expected) (before : CertBinding) : Prop where
  wanting : ∃ problems, verifyBinding bindings.current expected = .ok problems ∧ problems ≠ []
  previous : bindings.previous = some before
  binds : Binds before expected.rotating

theorem accept_ok {bindings : BindingSet} {expected : Expected} {which : Which} :
    accept bindings expected = .ok (.ok which) ↔
      which = .current ∧ Binds bindings.current expected ∨ which = .previous ∧ ∃ before, Overlaps bindings expected before := by
  unfold accept
  rw [bind_eq_ok]
  constructor
  · intro ⟨problems, checked, answer⟩
    split at answer
    next none =>
      cases answer
      exact .inl ⟨rfl, verifyBinding_nil.mp (none ▸ checked)⟩
    next wanting =>
      split at answer
      · cases answer
      next before published =>
        obtain ⟨others, rechecked, answer⟩ := (bind_eq_ok ..).mp answer
        split at answer
        next none =>
          cases answer
          exact .inr ⟨rfl, before, ⟨problems, checked, wanting⟩, published, verifyBinding_nil.mp (none ▸ rechecked)⟩
        next => cases answer
  · rintro (⟨rfl, binds⟩ | ⟨rfl, before, ⟨problems, checked, wanting⟩, published, binds⟩)
    · exact ⟨[], verifyBinding_nil.mpr binds, rfl⟩
    · refine ⟨problems, checked, ?_⟩
      rw [if_neg wanting, published]
      exact (bind_eq_ok ..).mpr ⟨[], verifyBinding_nil.mpr binds, rfl⟩

/-! ### What a signature binds -/

/-- The key that the signature was made with is the node's. -/
theorem signatureProblems_signer {binding : CertBinding} (signed : binding.signatureProblems = []) :
    ∃ signable recovered, Packages.encode binding.typed = .ok signable ∧
      Packages.recover signable (.given binding.signature) = .ok recovered ∧
      binding.nodeId = .str (nodeIdFromAddress recovered) := by
  unfold CertBinding.signatureProblems at signed
  split at signed
  · cases signed
  next given =>
    dsimp only at signed
    split at signed
    next problems checked =>
      simp only [bind_eq_ok, pure_eq_ok] at checked
      obtain ⟨signable, encoded, recovered, read, otherSigner, _, same⟩ := checked
      rw [← same, List.append_eq_nil_iff, problemIf_eq_nil, problemIf_eq_nil] at signed
      exact ⟨signable, recovered, encoded, read, (by simpa using signed.2 : _ = _).symm⟩
    next => cases signed

omit [Host] [Packages] in
theorem whole_of_lt {value : Json} {least : Int} (compared : value.lt (.int least) = .ok false)
    (read : (∃ number, value = .int number) ∨ ∃ text, value = .str text) :
    ∃ number, value = .int number ∧ least ≤ number := by
  obtain ⟨number, rfl⟩ | ⟨text, rfl⟩ := read
  · refine ⟨number, rfl, ?_⟩
    rw [Json.int_lt_int, Except.ok.injEq, decide_eq_false_iff_not] at compared
    exact not_lt.mp compared
  · cases compared

/-- A signed sequence is a number. -/
theorem Binds.sequence_int (faithful : FaithfulEncoding) {binding : CertBinding} {expected : Expected}
    (binds : Binds binding expected) : ∃ sequence, binding.sequence = .int sequence ∧ expected.minSequence ≤ sequence := by
  obtain ⟨signable, _, encoded, _⟩ := signatureProblems_signer binds.signed
  obtain ⟨value, found, read⟩ := faithful.whole binding.typed signable encoded ("sequence", "uint64")
    (by simp [CertBinding.typed]) (by decide)
  have same : binding.sequence = value := by
    simpa [CertBinding.typed, CertBinding.payload, Json.item, Json.find?] using found
  exact whole_of_lt binds.sequence (same ▸ read)

/-! ### Downgrades -/

/-- The node rotated from one certificate to the other, lately: the binding of the
new one is signed by the same node for the domain, is the next one, is not below
the sequence known of the node, and began no longer ago than the grace. -/
structure Rotated (before current : CertBinding) (expected : Expected) : Prop where
  signed : current.signatureProblems = []
  identity : current.nodeId = before.nodeId
  domain : andThen (expected.domain.truthy && current.domain.truthy) (differs current.domain expected.domain) = .ok false
  follows : ∃ sequence, before.sequence = .int sequence ∧ current.sequence = .int (sequence + 1) ∧
    expected.minSequence ≤ sequence + 1
  lately : ∃ begun, current.notBefore = .int begun ∧ expected.now ≤ begun + rotationGrace

variable (bindings : BindingSet) (expected : Expected)

/-- Only the current certificate is taken, or the one before it while the node
rotates. -/
def Protected : Prop :=
  ∀ which, accept bindings expected = .ok (.ok which) →
    (Binds bindings.current expected ∧
        ∃ sequence, bindings.current.sequence = .int sequence ∧ expected.minSequence ≤ sequence) ∨
      ∃ before, bindings.previous = some before ∧ Binds before expected.rotating ∧ Rotated before bindings.current expected

/-- Certificates are protected from a downgrade exactly in sets whose previous
binding, where the current one is found wanting, fails by itself or is the one
that the current binding follows on. -/
theorem accept_protected_iff (faithful : FaithfulEncoding) :
    Protected bindings expected ↔
      ∀ before, Overlaps bindings expected before → Rotated before bindings.current expected := by
  constructor
  · intro protected_ before overlaps
    obtain ⟨problems, checked, wanting⟩ := overlaps.wanting
    obtain ⟨binds, _⟩ | ⟨other, published, _, rotated⟩ :=
      protected_ .previous (accept_ok.mpr (.inr ⟨rfl, before, overlaps⟩))
    · rw [verifyBinding_nil.mpr binds] at checked
      cases checked
      exact absurd rfl wanting
    · have same : before = other := Option.some.inj (overlaps.previous.symm.trans published)
      exact same ▸ rotated
  · intro every which accepted
    obtain ⟨_, binds⟩ | ⟨_, before, overlaps⟩ := accept_ok.mp accepted
    · exact .inl ⟨binds, binds.sequence_int faithful⟩
    · exact .inr ⟨before, overlaps.previous, overlaps.binds, every before overlaps⟩

end Downgrade

/-! ### A certificate that was rotated away from -/

section Replayed
open Gateway (malloryBinding malloryId bindingSignature)

local instance downgradeHost : Host := asciiHost []

def bindingTable : List SignedMessage :=
  Gateway.signed.map fun known =>
    { message := known.message, hash := known.hash, signature := known.signature, signer := known.signer }

local instance downgradePackages : Packages := tablePackages Gateway.hashes bindingTable

theorem bindingTable_faithful : FaithfulEncoding :=
  tablePackages_separate Gateway.hashes (by decide +kernel) (by decide +kernel)

/-- The first certificate of the node. -/
def firstBinding : CertBinding := { malloryBinding with signature := .str bindingSignature }

def expectMallory (known : Int) : Expected where
  nodeId := .str malloryId
  domain := .str "mallory.example"
  tlsFootprint := "0x933c5c9552d245560a6466313ed7972a2f42fbdd43234fa04116d4c5d843aee4"
  now := 1000
  minSequence := known

theorem firstBinding_signed : firstBinding.signatureProblems = [] := by
  decide +kernel

/-- The first certificate counts, in its time, for whoever knows of no later one. -/
theorem firstBinding_binds {expected : Expected} (same : { expected with grace := 0, minSequence := 0 } = expectMallory 0)
    (lasting : 0 ≤ expected.grace) (least : expected.minSequence ≤ 1) : Binds firstBinding expected := by
  obtain ⟨nodeId, domain, tlsFootprint, now, grace, minSequence⟩ := expected
  cases same
  refine ⟨?_, ?_, ?_, ?_, ?_, firstBinding_signed⟩
  · exact (andThen_eq_false ..).mpr (fun _ => differs_self malloryId)
  · exact (andThen_eq_false ..).mpr (fun _ => differs_self "mallory.example")
  · exact (andThen_eq_false ..).mpr (fun _ => differs_self (expectMallory 0).tlsFootprint)
  · have begun : (Json.int 0).le (.int 1000) = .ok true := Json.int_le_int 0 1000
    have lasts : (Json.int 1000).le (.int (5000 + grace)) = .ok true := by
      rw [Json.int_le_int, decide_eq_true (by dsimp only at lasting; omega)]
    change ((Json.int 0).le (.int 1000) >>= fun begun => andThen begun ((Json.int 1000).le (.int (5000 + grace)))) = .ok true
    rw [begun, lasts]
    rfl
  · change (Json.int 1).lt (.int minSequence) = .ok false
    rw [Json.int_lt_int, decide_eq_false (by dsimp only at least; omega)]

theorem accept_protected_first : Protected { current := firstBinding } (expectMallory 1) := by
  apply (accept_protected_iff _ _ bindingTable_faithful).mpr
  intro before overlaps
  cases overlaps.previous

/-- A current binding that nobody signed, beside the first one. -/
def replayed : BindingSet where
  current := { malloryBinding with sequence := .int 9 }
  previous := some firstBinding

theorem replayed_unsigned : replayed.current.signatureProblems ≠ [] := by
  decide +kernel

theorem replayed_accepted : accept replayed (expectMallory 5) = .ok (.ok .previous) := by
  have wanting : ∃ problems, verifyBinding replayed.current (expectMallory 5) = .ok problems ∧ problems ≠ [] :=
    wanting_of_unsigned (by decide +kernel) replayed_unsigned
  apply accept_ok.mpr
  exact .inr ⟨rfl, firstBinding, wanting, rfl, firstBinding_binds rfl (by decide) (by decide)⟩

/-- The first certificate is taken although the fifth one is known. -/
theorem replayed_unprotected : ¬ Protected replayed (expectMallory 5) := by
  intro protected_
  obtain ⟨binds, _⟩ | ⟨before, _, _, rotated⟩ := protected_ .previous replayed_accepted
  · exact replayed_unsigned binds.signed
  · exact replayed_unsigned rotated.signed

end Replayed

end Xcp.Identity
