import Xcp.Library.Keyed
import Xcp.Proofs.CallBinding
import Xcp.Proofs.CertDowngrade

/-! Chains of rotations under one key: which certificates a peer takes of the last
set that was published. -/

namespace Xcp.Identity
open Checked Python Eth
open Stateless (RecoversSigner)

/-- What a rotation is made with. -/
structure Renewal where
  footprint : String
  domain : String
  ttl : Int
  now : Int

/-- Between its start and its end, or the grace after it. -/
def Renewal.ActiveAt (renewal : Renewal) (now grace : Int) : Prop :=
  renewal.now ≤ now ∧ now ≤ renewal.now + renewal.ttl + grace

section Rotation
variable [Host]

/-- The renewal was for the domain that a peer asks for, where both are given. -/
def Renewal.ServedAs (renewal : Renewal) (domain : String) : Prop :=
  domain = "" ∨ renewal.domain = "" ∨ lower renewal.domain = lower domain

variable [Packages]

/-- Rotations one after the other, the newest first, and the set that the last one
published. -/
inductive Rotations (identity : NodeIdentity) : List Renewal → BindingSet → Prop where
  | first {renewal : Renewal} {bindings : BindingSet}
      (rotated : rotate identity renewal.footprint renewal.domain none renewal.ttl renewal.now = .ok bindings) :
      Rotations identity [renewal] bindings
  | next {history : List Renewal} {existing bindings : BindingSet} {renewal : Renewal}
      (rotations : Rotations identity history existing)
      (rotated : rotate identity renewal.footprint renewal.domain (some existing) renewal.ttl renewal.now = .ok bindings) :
      Rotations identity (renewal :: history) bindings

/-- A binding that an identity signed in a rotation, with its place in the chain. -/
structure Signs (identity : NodeIdentity) (renewal : Renewal) (sequence : Int) (binding : CertBinding) : Prop where
  nodeId : binding.nodeId = .str identity.nodeId
  certFootprint : binding.certFootprint = .str renewal.footprint
  sequence : binding.sequence = .int sequence
  notBefore : binding.notBefore = .int renewal.now
  notAfter : binding.notAfter = .int (renewal.now + renewal.ttl)
  domain : binding.domain = .str renewal.domain
  signed : binding.signatureProblems = []

/-- The set that a chain of rotations ends in: its newest binding, and the one just
before it. -/
structure Published (identity : NodeIdentity) (renewal : Renewal) (history : List Renewal) (bindings : BindingSet) : Prop where
  current : Signs identity renewal (history.length + 1) bindings.current
  lone : history = [] → bindings.previous = none
  previous : ∀ before older, history = before :: older →
    ∃ binding, bindings.previous = some binding ∧ Signs identity before (older.length + 1) binding

/-- A binding that an identity with the address recovered from its signature made of
itself. -/
theorem signatureProblems_nil_of_recovered {binding : CertBinding} {signable : List Nat} {address text : String}
    (given : binding.signature = .str ("0x" ++ text)) (encoded : Packages.encode binding.typed = .ok signable)
    (recovered : Packages.recover signable (.given binding.signature) = .ok address) (signer : binding.signer = .str address)
    (node : binding.nodeId = .str (nodeIdFromAddress address)) : binding.signatureProblems = [] := by
  have truthy : binding.signature.truthy = true := given ▸ truthy_append "0x" text (by decide)
  have own : andThen binding.signer.truthy (differs (.str address) binding.signer) = .ok false := by
    rw [andThen_eq_false, signer]
    exact fun _ => differs_self address
  simp only [CertBinding.signatureProblems, truthy, Bool.not_true, Bool.false_eq_true, if_false, encoded, recovered, own, ok_bind]
  simp [node, problemIf]
  rfl

section Signing
variable [Accounts] (recovers : RecoversSigner) {privateKey : String} {identity : NodeIdentity}
  (known : NodeIdentity.fromKey privateKey = .ok identity)
include recovers known

/-- What the key of an identity signs checks as the identity's. -/
theorem signBinding_signs {renewal : Renewal} {sequence : Int} {binding : CertBinding}
    (made : signBinding identity renewal.footprint renewal.domain (.int sequence) renewal.ttl renewal.now = .ok binding) :
    Signs identity renewal sequence binding := by
  simp only [NodeIdentity.fromKey, bind_eq_ok, pure_eq_ok] at known
  obtain ⟨address, owned, rfl⟩ := known
  rw [signBinding] at made
  split at made
  · cases made
  next =>
    simp only [bind_eq_ok, pure_eq_ok] at made
    obtain ⟨signable, encoded, signature, signed, rfl⟩ := made
    have recovered := recovers _ _ _ _ owned signed
    exact {
      nodeId := rfl
      certFootprint := rfl
      sequence := rfl
      notBefore := rfl
      notAfter := rfl
      domain := rfl
      signed := signatureProblems_nil_of_recovered rfl encoded recovered rfl rfl }

/-- A rotation puts the binding that it signs before the current one. -/
theorem rotate_first {renewal : Renewal} {bindings : BindingSet}
    (rotated : rotate identity renewal.footprint renewal.domain none renewal.ttl renewal.now = .ok bindings) :
    Signs identity renewal 1 bindings.current ∧ bindings.previous = none := by
  simp only [rotate, pure_eq_ok, bind_eq_ok] at rotated
  obtain ⟨sequence, rfl, current, made, rfl⟩ := rotated
  exact ⟨signBinding_signs recovers known made, rfl⟩

theorem rotate_next {renewal : Renewal} {existing bindings : BindingSet} {sequence : Int}
    (before : existing.current.sequence = .int sequence)
    (rotated : rotate identity renewal.footprint renewal.domain (some existing) renewal.ttl renewal.now = .ok bindings) :
    Signs identity renewal (sequence + 1) bindings.current ∧ bindings.previous = some existing.current := by
  have following : (Json.int sequence).add (.int 1) = .ok (.int (sequence + 1)) := rfl
  simp only [rotate, pure_eq_ok, bind_eq_ok, before, following, Except.ok.injEq] at rotated
  obtain ⟨_, rfl, current, made, rfl⟩ := rotated
  exact ⟨signBinding_signs recovers known made, rfl⟩

theorem Rotations.published {history : List Renewal} {bindings : BindingSet} (rotations : Rotations identity history bindings) :
    ∃ renewal older, history = renewal :: older ∧ Published identity renewal older bindings := by
  induction rotations with
  | @first renewal bindings rotated =>
    obtain ⟨current, none⟩ := rotate_first recovers known rotated
    refine ⟨renewal, [], rfl, { current, lone := fun _ => none, previous := nofun }⟩
  | @next history existing bindings renewal rotations rotated ih =>
    obtain ⟨before, older, rfl, published⟩ := ih
    obtain ⟨current, previous⟩ := rotate_next recovers known published.current.sequence rotated
    refine ⟨renewal, before :: older, rfl, { current, lone := nofun, previous := ?_ }⟩
    intro other others same
    obtain ⟨rfl, rfl⟩ := List.cons.inj same
    exact ⟨existing.current, previous, published.current⟩

end Signing

/-! ### What a peer takes -/

/-- What a peer that knows a sequence of the node expects of a set. -/
def asked (nodeId domain tlsFootprint : String) (knownSequence now : Int) (grace : Int := 0) : Expected where
  nodeId := .str nodeId
  domain := .str domain
  tlsFootprint
  now
  grace
  minSequence := knownSequence

omit [Packages] in
theorem differs_str (first second : String) :
    differs (.str first) (.str second) = .ok (decide (lower first ≠ lower second)) := rfl

omit [Packages] in
theorem differs_eq_false (first second : String) :
    differs (.str first) (.str second) = .ok false ↔ lower first = lower second := by
  simp [differs_str]

omit [Host] [Packages] in
theorem andThen_ok (condition holds : Bool) :
    andThen condition (.ok holds : Raises Bool) = .ok (condition && holds) := by
  cases condition <;> rfl

omit [Host] [Packages] in
theorem str_truthy (text : String) : (Json.str text).truthy = true ↔ text ≠ "" := by
  simp [Json.truthy]

section Taken
variable {identity : NodeIdentity} {renewal : Renewal} {sequence : Int} {binding : CertBinding}
  (signs : Signs identity renewal sequence binding)
include signs

theorem Signs.active_of {now grace : Int} (active : renewal.ActiveAt now grace) : binding.active now grace = .ok true := by
  have begun : (Json.int renewal.now).le (.int now) = .ok true := by
    rw [Json.int_le_int, decide_eq_true active.1]
  have ends : (Json.int (renewal.now + renewal.ttl)).add (.int grace) = .ok (.int (renewal.now + renewal.ttl + grace)) := rfl
  have lasts : (Json.int now).le (.int (renewal.now + renewal.ttl + grace)) = .ok true := by
    rw [Json.int_le_int, decide_eq_true active.2]
  rw [CertBinding.active, signs.notBefore, signs.notAfter, begun, ends, ok_bind, ok_bind, lasts]
  rfl

/-- A binding of the chain counts, in its time, for the certificate that it is of. -/
theorem Signs.binds_iff {nodeId domain tlsFootprint : String} (node : nodeId = "" ∨ lower nodeId = lower identity.nodeId)
    (served : renewal.ServedAs domain) (presented : tlsFootprint ≠ "") {now grace least : Int}
    (active : renewal.ActiveAt now grace) (floor : least ≤ sequence) :
    Binds binding (asked nodeId domain tlsFootprint least now grace) ↔
      lower renewal.footprint = lower tlsFootprint := by
  constructor
  · intro binds
    have certificate := binds.certificate
    rw [andThen_eq_false, signs.certFootprint, differs_eq_false] at certificate
    exact certificate (decide_eq_true presented)
  · intro same
    refine {
      node := (andThen_eq_false ..).mpr fun given => ?_
      domain := (andThen_eq_false ..).mpr fun given => ?_
      certificate := (andThen_eq_false ..).mpr fun _ => ?_
      active := signs.active_of active
      sequence := ?_
      signed := signs.signed }
    · rw [signs.nodeId, asked, differs_eq_false]
      exact (node.resolve_left ((str_truthy nodeId).mp given)).symm
    · rw [signs.domain, asked, Bool.and_eq_true, str_truthy, str_truthy] at given
      rw [signs.domain, asked, differs_eq_false]
      exact (served.resolve_left given.1).resolve_left given.2
    · rw [signs.certFootprint, differs_eq_false]
      exact same
    · rw [signs.sequence, asked, Json.int_lt_int, decide_eq_false (not_lt.mpr floor)]

/-- A binding of the chain is checked without raising. -/
theorem Signs.checked (nodeId domain tlsFootprint : String) (least now grace : Int) :
    ∃ problems, verifyBinding binding (asked nodeId domain tlsFootprint least now grace) = .ok problems := by
  have begun := Json.int_le_int renewal.now now
  have ends : (Json.int (renewal.now + renewal.ttl)).add (.int grace) = .ok (.int (renewal.now + renewal.ttl + grace)) := rfl
  have lasts := Json.int_le_int now (renewal.now + renewal.ttl + grace)
  simp only [verifyBinding, asked, signs.nodeId, signs.domain, signs.certFootprint, signs.sequence, differs_str, andThen_ok,
    CertBinding.active, signs.notBefore, signs.notAfter, begun, ends, lasts, Json.int_lt_int, ok_bind]
  exact ⟨_, rfl⟩

end Taken

/-- A peer takes the newest certificate as the current one, the one before it as the
previous one, and no other, be it an older one of the chain or an unknown one. -/
structure Takes (renewal : Renewal) (history : List Renewal) (bindings : BindingSet) (expected : Expected) : Prop where
  current : accept bindings expected = .ok (.ok .current) ↔ lower renewal.footprint = lower expected.tlsFootprint
  previous : accept bindings expected = .ok (.ok .previous) ↔
    ∃ before ∈ history.head?, lower before.footprint = lower expected.tlsFootprint
  older : ∀ other ∈ history.tail, lower other.footprint = lower expected.tlsFootprint →
    ∃ problems, accept bindings expected = .ok (.error problems)
  unknown : (∀ other ∈ renewal :: history, lower other.footprint ≠ lower expected.tlsFootprint) →
    ∃ problems, accept bindings expected = .ok (.error problems)

section Sets
variable {identity : NodeIdentity} {renewal : Renewal} {history : List Renewal} {bindings : BindingSet}
  (published : Published identity renewal history bindings)
include published

theorem Published.previous_cases : history = [] ∧ bindings.previous = none ∨
    ∃ before older binding, history = before :: older ∧ bindings.previous = some binding ∧
      Signs identity before (older.length + 1) binding := by
  cases history with
  | nil => exact .inl ⟨rfl, published.lone rfl⟩
  | cons before older =>
    obtain ⟨binding, found, signs⟩ := published.previous before older rfl
    exact .inr ⟨before, older, binding, rfl, found, signs⟩

/-- A set of the chain is judged without raising. -/
theorem Published.judged (nodeId domain tlsFootprint : String) (knownSequence now : Int) :
    ∃ answer, accept bindings (asked nodeId domain tlsFootprint knownSequence now) = .ok answer := by
  obtain ⟨problems, checked⟩ := published.current.checked nodeId domain tlsFootprint knownSequence now 0
  unfold accept
  rw [checked, ok_bind]
  split
  · exact ⟨_, rfl⟩
  · obtain ⟨_, none⟩ | ⟨before, older, binding, _, found, signs⟩ := published.previous_cases
    · rw [none]
      exact ⟨_, rfl⟩
    · obtain ⟨others, rechecked⟩ := signs.checked nodeId domain tlsFootprint 0 now rotationGrace
      rw [found]
      exact ⟨_, (bind_eq_ok ..).mpr ⟨others, rechecked, rfl⟩⟩

variable {nodeId domain tlsFootprint : String} {knownSequence now : Int}
  (node : nodeId = "" ∨ lower nodeId = lower identity.nodeId)
  (served : renewal.ServedAs domain) (presented : tlsFootprint ≠ "") (live : renewal.ActiveAt now 0)
  (floor : knownSequence ≤ history.length + 1)
include node served presented live floor

theorem Published.current_iff : accept bindings (asked nodeId domain tlsFootprint knownSequence now) = .ok (.ok .current) ↔
    lower renewal.footprint = lower tlsFootprint := by
  rw [accept_ok]
  have binds := published.current.binds_iff node served presented live floor
  constructor
  · rintro (⟨_, counts⟩ | ⟨other, _⟩)
    · exact binds.mp counts
    · cases other
  · intro same
    exact .inl ⟨rfl, binds.mpr same⟩

variable (earlier : ∀ before ∈ history.head?, before.ServedAs domain)
  (overlap : ∀ before ∈ history.head?, before.ActiveAt now rotationGrace)
include earlier overlap

theorem Published.previous_iff
    (distinct : ∀ before ∈ history.head?, lower renewal.footprint ≠ lower before.footprint) :
    accept bindings (asked nodeId domain tlsFootprint knownSequence now) = .ok (.ok .previous) ↔
      ∃ before ∈ history.head?, lower before.footprint = lower tlsFootprint := by
  rw [accept_ok]
  have current := published.current.binds_iff node served presented live floor
  obtain ⟨problems, checked⟩ := published.current.checked nodeId domain tlsFootprint knownSequence now 0
  constructor
  · rintro (⟨other, _⟩ | ⟨_, binding, overlaps⟩)
    · cases other
    · obtain ⟨_, none⟩ | ⟨before, older, published', rfl, found, signs⟩ := published.previous_cases
      · have some := none.symm.trans overlaps.previous
        cases some
      · obtain rfl : published' = binding := Option.some.inj (found.symm.trans overlaps.previous)
        have counts := signs.binds_iff node (earlier before rfl) presented (overlap before rfl) (by omega : (0 : Int) ≤ _)
        exact ⟨before, rfl, counts.mp overlaps.binds⟩
  · intro ⟨before, member, same⟩
    obtain ⟨rfl, _⟩ | ⟨first, older, binding, rfl, found, signs⟩ := published.previous_cases
    · cases member
    · obtain rfl : first = before := Option.some.inj member
      have counts := signs.binds_iff node (earlier first rfl) presented (overlap first rfl) (by omega : (0 : Int) ≤ _)
      refine .inr ⟨rfl, binding, ?_, found, counts.mpr same⟩
      refine ⟨problems, checked, ?_⟩
      rintro rfl
      exact distinct first rfl ((current.mp (verifyBinding_nil.mp checked)).trans same.symm)

theorem Published.refused (newest : lower renewal.footprint ≠ lower tlsFootprint)
    (before : ∀ other ∈ history.head?, lower other.footprint ≠ lower tlsFootprint)
    (distinct : ∀ before ∈ history.head?, lower renewal.footprint ≠ lower before.footprint) :
    ∃ problems, accept bindings (asked nodeId domain tlsFootprint knownSequence now) = .ok (.error problems) := by
  obtain ⟨answer, judged⟩ := published.judged nodeId domain tlsFootprint knownSequence now
  cases answer with
  | error problems => exact ⟨problems, judged⟩
  | ok which =>
    cases which with
    | current => exact absurd ((published.current_iff node served presented live floor).mp judged) newest
    | previous =>
      obtain ⟨other, member, same⟩ := (published.previous_iff node served presented live floor earlier overlap distinct).mp judged
      exact absurd same (before other member)

theorem Published.takes (distinct : ((renewal :: history).map (fun other => lower other.footprint)).Nodup) :
    Takes renewal history bindings (asked nodeId domain tlsFootprint knownSequence now) := by
  obtain ⟨newest, others⟩ := List.nodup_cons.mp distinct
  have apart : ∀ other ∈ history, lower renewal.footprint ≠ lower other.footprint :=
    fun other member same => newest (List.mem_map.mpr ⟨other, member, same.symm⟩)
  have first : ∀ before ∈ history.head?, lower renewal.footprint ≠ lower before.footprint :=
    fun before member => apart before (List.mem_of_mem_head? member)
  refine {
    current := published.current_iff node served presented live floor
    previous := published.previous_iff node served presented live floor earlier overlap first
    older := ?_
    unknown := ?_ }
  · intro other member same
    refine published.refused node served presented live floor earlier overlap ?_ ?_ first
    · intro alike
      exact apart other (List.mem_of_mem_tail member) (alike.trans same.symm)
    · intro before found alike
      obtain ⟨older, whole⟩ := List.head?_eq_some_iff.mp found
      rw [whole, List.map_cons, List.nodup_cons] at others
      rw [whole] at member
      exact others.1 (List.mem_map.mpr ⟨other, member, same.trans alike.symm⟩)
  · intro none
    refine published.refused node served presented live floor earlier overlap ?_ ?_ first
    · exact none renewal (List.mem_cons_self ..)
    · intro before found
      exact none before (List.mem_cons_of_mem _ (List.mem_of_mem_head? found))

end Sets

/-- A rotation is no re-peering: a peer that expects the identity takes the newest
certificate as the current one and the one before it as the previous one, whatever
sequence up to the newest it knows of, and no other; the identity stays the same. -/
theorem rotation_accepted [Accounts] (recovers : RecoversSigner) {privateKey : String} {identity : NodeIdentity}
    (known : NodeIdentity.fromKey privateKey = .ok identity) {renewal : Renewal} {history : List Renewal} {bindings : BindingSet}
    (rotations : Rotations identity (renewal :: history) bindings)
    (distinct : ((renewal :: history).map (fun other => lower other.footprint)).Nodup) {now : Int}
    (live : renewal.ActiveAt now 0) (overlap : ∀ before ∈ history.head?, before.ActiveAt now rotationGrace) :
    (∀ nodeId domain tlsFootprint knownSequence, (nodeId = "" ∨ lower nodeId = lower identity.nodeId) →
      (renewal.ServedAs domain ∧ ∀ before ∈ history.head?, before.ServedAs domain) → tlsFootprint ≠ "" →
      knownSequence ≤ (history.length : Int) + 1 →
        Takes renewal history bindings (asked nodeId domain tlsFootprint knownSequence now)) ∧
      bindings.current.nodeId = .str identity.nodeId ∧
      ∀ before, bindings.previous = some before → before.nodeId = .str identity.nodeId := by
  obtain ⟨_, _, same, published⟩ := rotations.published recovers known
  obtain ⟨rfl, rfl⟩ := List.cons.inj same
  refine ⟨?_, published.current.nodeId, ?_⟩
  · intro nodeId domain tlsFootprint knownSequence node ⟨served, earlier⟩ presented floor
    exact published.takes node served presented live floor earlier overlap distinct
  · intro before found
    obtain ⟨_, none⟩ | ⟨_, _, binding, _, found', signs⟩ := published.previous_cases
    · rw [none] at found
      cases found
    · obtain rfl := Option.some.inj (found'.symm.trans found)
      exact signs.nodeId

end Rotation

/-! ### Two rotations -/

section Rotated

local instance rotationHost : Host := asciiHost []

def aliceKey : String := "0x9c0257114eb9399a2985f8e75dad7600c5d89fe3824ffa99ec1c3eb8bf3b0501"

def aliceIdentity : NodeIdentity where
  address := "0x328809Bc894f92807417D2dAD6b7C998c1aFdac6"
  privateKey := some aliceKey

def aliceId : String := "0x07a8705b711f51ab3de7360827d9a9111c1e6d39a44e308182da78f00977a6f9"

/-- The binding that the identity signs in a renewal. -/
def aliceUnsigned (renewal : Renewal) (sequence : Int) : CertBinding where
  nodeId := .str aliceId
  certFootprint := .str renewal.footprint
  sequence := .int sequence
  notBefore := .int renewal.now
  notAfter := .int (renewal.now + renewal.ttl)
  domain := .str renewal.domain
  signer := .str aliceIdentity.address

def aliceRenewal (footprint : String) (now : Int) : Renewal where
  footprint
  domain := "alice.example"
  ttl := 4000
  now

/-- The first certificate, a second one, and the first one's footprint in small letters. -/
def firstCert : Renewal := aliceRenewal "0xA1" 1000

def secondCert : Renewal := aliceRenewal "0xB2" 2000

def respelledCert : Renewal := aliceRenewal "0xa1" 2000

def aliceMessage (renewal : Renewal) (sequence : Int) (hash signature : List Nat) : KeyedMessage where
  message := (aliceUnsigned renewal sequence).typed
  hash
  key := aliceKey
  signature
  signer := aliceIdentity.address

def firstSigned : KeyedMessage := aliceMessage firstCert 1
  [105, 23, 73, 112, 6, 253, 30, 171, 183, 88, 47, 98, 7, 250, 214, 34, 179, 144, 128, 159, 10, 143, 58, 233, 204, 254, 172, 21, 22,
    253, 77, 196]
  [78, 230, 254, 214, 114, 208, 135, 248, 182, 54, 85, 167, 111, 82, 16, 203, 190, 5, 196, 230, 144, 86, 53, 125, 228, 170, 152, 202,
    9, 220, 35, 114, 85, 221, 240, 118, 20, 45, 172, 183, 217, 241, 194, 98, 180, 178, 237, 11, 96, 81, 41, 118, 184, 172, 176, 75,
    213, 13, 92, 25, 255, 153, 140, 199, 27]

def secondSigned : KeyedMessage := aliceMessage secondCert 2
  [240, 4, 101, 193, 29, 29, 201, 94, 3, 247, 200, 179, 92, 35, 71, 178, 230, 52, 184, 9, 115, 26, 200, 40, 178, 93, 39, 190, 233,
    153, 163, 26]
  [29, 234, 70, 174, 140, 155, 21, 216, 56, 96, 214, 177, 165, 93, 94, 189, 246, 8, 228, 173, 51, 48, 98, 228, 186, 141, 51, 188,
    207, 218, 133, 93, 67, 96, 99, 134, 54, 188, 215, 122, 6, 137, 178, 29, 217, 38, 9, 160, 112, 160, 111, 34, 119, 147, 151, 209,
    185, 134, 199, 131, 34, 188, 105, 155, 28]

def respelledSigned : KeyedMessage := aliceMessage respelledCert 2
  [65, 206, 33, 25, 56, 41, 132, 64, 47, 145, 33, 153, 28, 167, 235, 77, 160, 0, 2, 179, 24, 93, 55, 224, 111, 223, 114, 123, 175,
    54, 148, 5]
  [103, 227, 185, 16, 33, 160, 8, 212, 75, 129, 227, 94, 160, 41, 213, 6, 214, 229, 60, 252, 38, 166, 48, 25, 134, 84, 50, 180, 166,
    84, 28, 7, 72, 53, 21, 242, 150, 165, 12, 240, 129, 130, 230, 55, 150, 10, 116, 79, 117, 201, 114, 201, 177, 1, 68, 78, 37, 85,
    202, 78, 46, 176, 72, 24, 27]

def rotationMessages : List KeyedMessage := [firstSigned, secondSigned, respelledSigned]

/-- The hash of the address in small letters. -/
def addressHash : List (List Nat × List Nat) :=
  [(utf8 "0x328809bc894f92807417d2dad6b7c998c1afdac6",
    [7, 168, 112, 91, 113, 31, 81, 171, 61, 231, 54, 8, 39, 217, 169, 17, 28, 30, 109, 57, 164, 78, 48, 129, 130, 218, 120, 240, 9, 119,
      166, 249])]

local instance rotationPackages : Packages := keyedPackages addressHash rotationMessages

local instance rotationAccounts : Accounts := keyedAccounts rotationMessages

theorem rotation_hashes : (rotationMessages.map KeyedMessage.hash).Nodup := by
  decide

theorem rotation_messages : (rotationMessages.map KeyedMessage.message).Nodup := by
  decide

theorem rotation_owners : OneOwner rotationMessages := by
  unfold OneOwner
  decide

theorem rotation_recovers : RecoversSigner :=
  keyedPackages_recover addressHash rotation_owners rotation_hashes

theorem alice_nodeId : aliceIdentity.nodeId = aliceId := by
  decide +kernel

theorem alice_known : NodeIdentity.fromKey aliceKey = .ok aliceIdentity := by
  have address := address_keyedAccounts rotation_owners (.head _ : firstSigned ∈ rotationMessages)
  change (keyedAccounts rotationMessages).address firstSigned.key >>= _ = _
  rw [address]
  rfl

theorem signBinding_keyed {renewal : Renewal} {sequence : Int} {hash signature : List Nat}
    (member : aliceMessage renewal sequence hash signature ∈ rotationMessages) :
    signBinding aliceIdentity renewal.footprint renewal.domain (.int sequence) renewal.ttl renewal.now =
      .ok { aliceUnsigned renewal sequence with signature := .str ("0x" ++ toHex signature) } := by
  have found : rotationMessages.find? (fun other => other.message = (aliceMessage renewal sequence hash signature).message) =
      some (aliceMessage renewal sequence hash signature) := by
    apply find?_of_only member
    intro other inside
    rw [decide_eq_true_eq]
    constructor
    · intro same
      exact List.inj_on_of_nodup_map rotation_messages inside member same
    · rintro rfl
      rfl
  have encoded := encode_keyedPackages addressHash found
  have signed := sign_keyedPackages addressHash rotation_hashes member
  have present : aliceIdentity.privateKey.getD "" ≠ "" := by decide
  rw [signBinding, alice_nodeId]
  simp only [if_neg present]
  change (Packages.encode (aliceMessage renewal sequence hash signature).message >>= _) = _
  rw [encoded, ok_bind]
  change (Packages.sign (aliceMessage renewal sequence hash signature).hash (aliceMessage renewal sequence hash signature).key >>= _) = _
  rw [signed]
  rfl

/-- A set as it is published, with the signature of what the identity signed. -/
def aliceBinding (renewal : Renewal) (sequence : Int) (signed : KeyedMessage) : CertBinding :=
  { aliceUnsigned renewal sequence with signature := .str ("0x" ++ toHex signed.signature) }

theorem first_rotated {renewal : Renewal} {hash signature : List Nat}
    (member : aliceMessage renewal 1 hash signature ∈ rotationMessages) :
    rotate aliceIdentity renewal.footprint renewal.domain none renewal.ttl renewal.now =
      .ok { current := aliceBinding renewal 1 (aliceMessage renewal 1 hash signature) } := by
  have made := signBinding_keyed member
  simp only [rotate, pure_bind, made]
  rfl

theorem next_rotated {renewal : Renewal} {hash signature : List Nat}
    (member : aliceMessage renewal 2 hash signature ∈ rotationMessages) :
    rotate aliceIdentity renewal.footprint renewal.domain (some { current := aliceBinding firstCert 1 firstSigned }) renewal.ttl
      renewal.now = .ok {
        current := aliceBinding renewal 2 (aliceMessage renewal 2 hash signature)
        previous := some (aliceBinding firstCert 1 firstSigned) } := by
  have made := signBinding_keyed member
  have following : (aliceBinding firstCert 1 firstSigned).sequence.add (.int 1) = .ok (.int 2) := rfl
  simp only [rotate, following, ok_bind, made]
  rfl

/-- The set after the first certificate and another one. -/
def aliceSet (renewal : Renewal) (signed : KeyedMessage) : BindingSet where
  current := aliceBinding renewal 2 signed
  previous := some (aliceBinding firstCert 1 firstSigned)

theorem second_rotations : Rotations aliceIdentity [secondCert, firstCert] (aliceSet secondCert secondSigned) := by
  refine .next (.first (first_rotated ?_)) (next_rotated ?_)
  · exact (.head _ : firstSigned ∈ rotationMessages)
  · exact (.tail _ (.head _) : secondSigned ∈ rotationMessages)

theorem respelled_rotations : Rotations aliceIdentity [respelledCert, firstCert] (aliceSet respelledCert respelledSigned) := by
  refine .next (.first (first_rotated ?_)) (next_rotated ?_)
  · exact (.head _ : firstSigned ∈ rotationMessages)
  · exact (.tail _ (.tail _ (.head _)) : respelledSigned ∈ rotationMessages)

theorem rotation_accepted_second :
    accept (aliceSet secondCert secondSigned) (asked aliceId "alice.example" "0xA1" 2 3000) = .ok (.ok .previous) := by
  have live : secondCert.ActiveAt 3000 0 := ⟨by decide, by decide⟩
  have overlap : ∀ before ∈ [firstCert].head?, before.ActiveAt 3000 rotationGrace := by
    rintro before ⟨⟩
    exact ⟨by decide, by decide⟩
  obtain ⟨takes, _⟩ := rotation_accepted rotation_recovers alice_known second_rotations (by decide) live overlap
  have served : ∀ before ∈ [firstCert].head?, before.ServedAs "alice.example" := by
    rintro before ⟨⟩
    exact .inr (.inr rfl)
  have taken := takes aliceId "alice.example" "0xA1" 2 (.inr (congrArg lower alice_nodeId.symm)) ⟨.inr (.inr rfl), served⟩
    (by decide) (by decide)
  exact taken.previous.mpr ⟨firstCert, rfl, rfl⟩

/-- A footprint in letters of another case is the same to a peer, which takes the first
certificate for the newest one. -/
theorem respelled_accepted : firstCert.footprint ≠ respelledCert.footprint ∧ ∃ bindings,
    Rotations aliceIdentity [respelledCert, firstCert] bindings ∧
      accept bindings (asked aliceId "alice.example" firstCert.footprint 2 3000) = .ok (.ok .current) := by
  refine ⟨by decide, _, respelled_rotations, ?_⟩
  obtain ⟨_, _, same, published⟩ := respelled_rotations.published rotation_recovers alice_known
  obtain ⟨rfl, rfl⟩ := List.cons.inj same
  have served : respelledCert.ServedAs "alice.example" := .inr (.inr rfl)
  have live : respelledCert.ActiveAt 3000 0 := ⟨by decide, by decide⟩
  have node : aliceId = "" ∨ lower aliceId = lower aliceIdentity.nodeId := .inr (congrArg lower alice_nodeId.symm)
  have alike : lower respelledCert.footprint = lower firstCert.footprint := by decide
  have presented : firstCert.footprint ≠ "" := by decide
  have floor : (2 : Int) ≤ ([firstCert].length : Int) + 1 := by decide
  exact (published.current_iff node served presented live floor).mpr alike

end Rotated

end Xcp.Identity
