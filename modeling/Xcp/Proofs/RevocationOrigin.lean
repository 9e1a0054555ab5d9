import Xcp.Library.Ideal
import Xcp.Proofs.DelegationRevocation

/-! Who is behind a revocation that the gossip endpoint takes. It is the peer's
node key, under the revocation domain. What was signed names the revoked node
only if the request does so in a text: the package that encodes a signed field
takes a number for the bytes of a text, and the endpoint prints it in decimals. -/

namespace Xcp.Gateway
open Checked Python Eth Http Federation

section Encoding
variable [Host] [Packages]

/-- What is signed says of which type the data is, and is not the same for a text
and for a value of another kind that prints as it. -/
structure SeparatedEncoding : Prop where
  types : ∀ data data' signable, Packages.encode data = .ok signable → Packages.encode data' = .ok signable →
    data.domain = data'.domain ∧ data.primaryType = data'.primaryType ∧ data.fields = data'.fields
  texts : ∀ data data' signable, Packages.encode data = .ok signable → Packages.encode data' = .ok signable →
    ∀ name value, (name, "string") ∈ data.fields → data.message.item name = .ok value →
    data'.message.item name = .ok (.str value.toStr) → ∃ text, value = .str text

/-- What a node signs to revoke the subject. -/
def revocationOf (subject : String) (issuer issuedAt reason : Json) : TypedData :=
  Identity.revocationTyped (.dict [("subject", .str subject), ("issuer", issuer), ("issuedAt", issuedAt), ("reason", reason)])

/-- The issue time is at most an hour ago, and at most five minutes ahead. -/
def Timely (now : Int) (issuedAt : Json) : Prop :=
  ∃ issued, (issuedAt.orElse (.int 0)).toInt = .ok issued ∧ now - 3600 ≤ issued ∧ issued ≤ now + 300

/-- The address is that of the key of a peer that the node holds. -/
def NodeKey (federation : Federation) (address : String) : Prop :=
  ∃ domain peer, federation.peers.get? domain = some peer ∧
    peer.nodeId.lower = .ok (lower (Identity.nodeIdFromAddress address))

/-- The key of the peer, which the node takes for verified, made the signature
for a fresh revocation of the node, and for nothing but a revocation. -/
structure Originates (federation : Federation) (now : Int) (nodeId : String) (signature : Json) (peer : Peer)
    (signer : String) : Prop where
  known : ∃ domain, federation.peers.get? domain = some peer
  live : peer.revoked = false
  verified : peer.trust.meets .verified = true
  key : peer.nodeId.lower = .ok (lower (Identity.nodeIdFromAddress signer))
  signed : ∃ issuer issuedAt reason signable, Packages.encode (revocationOf nodeId issuer issuedAt reason) = .ok signable ∧
    Packages.recover signable (.given signature) = .ok signer ∧ Timely now issuedAt
  only : ∀ other signable address, Packages.encode other = .ok signable →
    Packages.recover signable (.given signature) = .ok address → lower address = lower signer →
    other.domain = "XCPRevocation" ∧ other.primaryType = "Revocation"

def Authentic (federation : Federation) (now : Int) (nodeId : String) (signature : Json) : Prop :=
  ∃ peer signer, Originates federation now nodeId signature peer signer

end Encoding

section Origin
variable [Host] [Packages] {node : Node} {network : Network} {tables after : Tables} {request : HttpRequest}
  {response : Http.Response}

/-- The values that a revocation carries. -/
structure Revocation where
  subject : Json
  issuer : Json
  issuedAt : Json
  reason : Json
  signature : Json

/-- How the endpoint reads a document. -/
structure Revocation.ReadFrom (revocation : Revocation) (document : Json) : Prop where
  subject : document.get "subject" = .ok revocation.subject
  issuer : document.get "issuer" = .ok revocation.issuer
  issuedAt : document.get "issuedAt" = .ok revocation.issuedAt
  reason : document.get "reason" = .ok revocation.reason
  signature : document.get "signature" (.str "") = .ok revocation.signature

def Revocation.typed (revocation : Revocation) : TypedData :=
  Identity.revocationTyped (.dict [("subject", revocation.subject), ("issuer", revocation.issuer),
    ("issuedAt", revocation.issuedAt), ("reason", revocation.reason)])

/-- What a document without problems says. -/
structure Revocation.Verified (revocation : Revocation) (peerId : Json) (now : Int) (signer : String) : Prop where
  subject : revocation.subject.truthy = true
  key : peerId.lower = .ok (lower (Identity.nodeIdFromAddress signer))
  fresh : Timely now revocation.issuedAt
  signed : ∃ signable, Packages.encode revocation.typed = .ok signable ∧
    Packages.recover signable (.given revocation.signature) = .ok signer

theorem revocationSignatureProblems_nil {payload issuer signature : Json}
    (clean : Identity.revocationSignatureProblems payload issuer signature = []) :
    ∃ signable signer, Packages.encode (Identity.revocationTyped payload) = .ok signable ∧
      Packages.recover signable (.given signature) = .ok signer ∧ issuer = .str (Identity.nodeIdFromAddress signer) := by
  unfold Identity.revocationSignatureProblems at clean
  split at clean
  · cases clean
  · simp only at clean
    split at clean
    next signer recovered =>
      obtain ⟨signable, encoded, recovered⟩ := (bind_eq_ok ..).mp recovered
      simp only [problemIf_eq_nil, decide_eq_false_iff_not, not_not] at clean
      exact ⟨signable, signer, encoded, recovered, clean.symm⟩
    next => cases clean

theorem verifyRevocation_nil {document peerId : Json} {now : Int}
    (clean : Identity.verifyRevocation document peerId now = .ok []) :
    ∃ (revocation : Revocation) (signer : String),
      revocation.ReadFrom document ∧ revocation.Verified peerId now signer := by
  simp only [Identity.verifyRevocation, bind_eq_ok] at clean
  obtain ⟨subject, readSubject, issuer, readIssuer, issuedAt, readIssuedAt, reason, readReason, clean⟩ := clean
  split at clean
  · cases clean
  next given =>
    simp only [bind_eq_ok, pure_eq_ok, List.append_eq_nil_iff, problemIf_eq_nil] at clean
    obtain ⟨expected, spelled, issued, read, signature, readSignature, ⟨named, fresh⟩, signed⟩ := clean
    obtain ⟨signable, signer, encoded, recovered, rfl⟩ := revocationSignatureProblems_nil signed
    refine ⟨⟨subject, _, issuedAt, reason, signature⟩, signer,
      ⟨readSubject, readIssuer, readIssuedAt, readReason, readSignature⟩, ?_, ?_, ?_, signable, encoded, recovered⟩
    · simp only [Bool.or_eq_true, Bool.not_eq_true', not_or, Bool.not_eq_false] at given
      exact given.1
    · simp only [decide_eq_false_iff_not, not_not] at named
      rw [spelled, ← named]
      rfl
    · simp only [Bool.or_eq_false_iff, decide_eq_false_iff_not, not_lt] at fresh
      exact ⟨issued, read, by omega, by omega⟩

/-- A request that the endpoint takes. -/
structure Takes (federation : Federation) (request : HttpRequest) (now : Int) (nodeId : String) (document : Json)
    (peer : Peer) : Prop where
  read : ∃ sender, (request.bodyOrEmpty >>= readRevocation) = .ok (sender, document, nodeId) ∧
    federation.peers.get? sender = some peer
  clean : Identity.verifyRevocation document peer.nodeId now = .ok []
  live : peer.revoked = false
  verified : peer.trust.meets .verified = true

theorem federationRevoke_takes (done : federationRevoke node network tables request = .ok (after, response)) :
    ∃ federation nodeId document peer, tables.federation = some federation ∧
      Takes federation request (now network) nodeId document peer ∧
      after = { tables with federation := some (federation.revoke nodeId).1 } := by
  unfold federationRevoke at done
  cases configured : tables.federation with
  | none => simp [configured] at done
  | some federation =>
    simp only [configured, bind_eq_ok, attempt_eq_ok, Prod.exists] at done
    obtain ⟨_, _, body, given, sender, document, nodeId, read, _, _, done⟩ := done
    cases known : federation.peers.get? sender with
    | none => simp [known] at done
    | some peer =>
      simp only [known, bind_eq_ok, attempt_eq_ok] at done
      obtain ⟨problems, clean, done⟩ := done
      cases problems with
      | cons problem rest => cases done
      | nil =>
        simp only [bind_eq_ok, require_eq_ok, pure_eq_ok, Prod.mk.injEq] at done
        obtain ⟨_, accepted, rfl, -⟩ := done
        have lowered : lower sender = sender := by
          simp only [readRevocation, bind_eq_ok, pure_eq_ok, Prod.mk.injEq] at read
          obtain ⟨_, _, _, _, _, _, _, _, rfl, _⟩ := read
          exact lower_lower _
        have held : federation.peer? sender = some peer := by
          rw [Federation.peer?, lowered, known]
        simp only [Federation.ingestRevocation, held] at accepted ⊢
        split at accepted
        next => cases accepted
        next trusted =>
          simp only [Bool.or_eq_true, Bool.not_eq_true', not_or, Bool.not_eq_true, Bool.not_eq_false] at trusted
          refine ⟨federation, nodeId, document, peer, rfl, ⟨⟨sender, ?_, known⟩, clean, trusted.1, trusted.2⟩, ?_⟩
          · rw [given, ok_bind, read]
          · rw [if_neg (by simp [trusted.1, trusted.2])]

omit [Packages] in
/-- A document that verifies has its own subject printed. -/
theorem readRevocation_subject {body document subject : Json} {sender nodeId : String}
    (read : readRevocation body = .ok (sender, document, nodeId)) (given : document.get "subject" = .ok subject)
    (truthy : subject.truthy = true) : nodeId = subject.toStr := by
  simp only [readRevocation, bind_eq_ok, pure_eq_ok, Prod.mk.injEq] at read
  obtain ⟨_, _, _, _, subject', again, named, _, -, rfl, rfl⟩ := read
  obtain rfl := Except.ok.inj (given.symm.trans again)
  rw [Json.orElse, if_pos truthy]

theorem NodeKey.of_lower {federation : Federation} {address other : String} (key : NodeKey federation address)
    (same : lower other = lower address) : NodeKey federation other := by
  obtain ⟨domain, peer, known, spelled⟩ := key
  refine ⟨domain, peer, known, ?_⟩
  rw [spelled, Identity.nodeIdFromAddress, Identity.nodeIdFromAddress, same]

/-- What is read of a request that the endpoint takes. -/
theorem Takes.verified_revocation {federation : Federation} {now : Int} {nodeId : String} {document : Json} {peer : Peer}
    (takes : Takes federation request now nodeId document peer) :
    ∃ (revocation : Revocation) (signer : String), revocation.ReadFrom document ∧
      revocation.Verified peer.nodeId now signer ∧ nodeId = revocation.subject.toStr := by
  obtain ⟨revocation, signer, read, verified⟩ := verifyRevocation_nil takes.clean
  obtain ⟨sender, given, _⟩ := takes.read
  obtain ⟨body, _, parsed⟩ := (bind_eq_ok ..).mp given
  exact ⟨revocation, signer, read, verified, readRevocation_subject parsed read.subject verified.subject⟩

section Ideal
variable {federation : Federation} {time : Int} {nodeId : String} {revocation : Revocation}
  (separated : SeparatedEncoding) (signatures : IdealSignatures fun _ => NodeKey federation)
include separated signatures

theorem Revocation.Verified.authentic {peer : Peer} {domain signer : String}
    (known : federation.peers.get? domain = some peer) (live : peer.revoked = false)
    (trusted : peer.trust.meets .verified = true) (verified : revocation.Verified peer.nodeId time signer)
    (text : revocation.subject = .str nodeId) : Authentic federation time nodeId revocation.signature := by
  obtain ⟨signable, encoded, recovered⟩ := verified.signed
  have key : NodeKey federation signer := ⟨domain, peer, known, verified.key⟩
  refine ⟨peer, signer, ⟨domain, known⟩, live, trusted, verified.key, ?_, ?_⟩
  · refine ⟨revocation.issuer, revocation.issuedAt, revocation.reason, signable, ?_, recovered, verified.fresh⟩
    rw [← encoded, Revocation.typed, text]
    rfl
  · intro other signable' address encoded' recovered' same
    obtain rfl := signatures other revocation.typed signable' signable _ address signer encoded' encoded recovered'
      recovered (key.of_lower same) key
    obtain ⟨domain, primary, _⟩ := separated.types _ _ _ encoded' encoded
    exact ⟨domain, primary⟩

/-- The key signed the very text that is revoked, so the request carries a text. -/
theorem Revocation.Verified.text_of_authentic {peer : Peer} {domain signer : String}
    (known : federation.peers.get? domain = some peer) (verified : revocation.Verified peer.nodeId time signer)
    (named : nodeId = revocation.subject.toStr) (authentic : Authentic federation time nodeId revocation.signature) :
    ∃ text, revocation.subject = .str text := by
  obtain ⟨signable, encoded, recovered⟩ := verified.signed
  obtain ⟨other, signer', origin⟩ := authentic
  obtain ⟨issuer, issuedAt, reason, signable', encoded', recovered', _⟩ := origin.signed
  obtain ⟨domain', known'⟩ := origin.known
  obtain rfl := signatures revocation.typed (revocationOf nodeId issuer issuedAt reason) signable signable' _ signer signer'
    encoded encoded' recovered recovered' ⟨domain, peer, known, verified.key⟩ ⟨domain', other, known', origin.key⟩
  apply separated.texts revocation.typed (revocationOf nodeId issuer issuedAt reason) signable encoded encoded' "subject"
  · simp [Revocation.typed, Identity.revocationTyped]
  · rfl
  · rw [named]
    rfl

/-- A request that is taken revokes what its document names, and a verified
peer's key has signed exactly that, lately and as a revocation, if and only if
the document names it in a text. -/
theorem revocation_authentic_iff (configured : tables.federation = some federation)
    (done : federationRevoke node network tables request = .ok (after, response)) :
    ∃ sender document nodeId subject signature,
      (request.bodyOrEmpty >>= readRevocation) = .ok (sender, document, nodeId) ∧
      document.get "subject" = .ok subject ∧ document.get "signature" (.str "") = .ok signature ∧
      after = { tables with federation := some (federation.revoke nodeId).1 } ∧
      (Authentic federation (now network) nodeId signature ↔ ∃ text, subject = .str text) := by
  obtain ⟨federation', nodeId, document, peer, configured', takes, rfl⟩ := federationRevoke_takes done
  obtain rfl : federation = federation' := Option.some.inj (configured.symm.trans configured')
  obtain ⟨sender, given, known⟩ := takes.read
  obtain ⟨revocation, signer, read, verified, named⟩ := takes.verified_revocation
  refine ⟨sender, document, nodeId, revocation.subject, revocation.signature, given, read.subject, read.signature, rfl, ?_⟩
  refine ⟨verified.text_of_authentic separated signatures known named, ?_⟩
  intro ⟨text, written⟩
  apply verified.authentic separated signatures known takes.live takes.verified
  rw [named, written]
  rfl

end Ideal

end Origin

/-! ### A revocation, and its replay with a number for its subject -/

section Replay

attribute [local instance] comebackHost

def bankRevocation : SignedMessage where
  message := Identity.revocationTyped (.dict revocation)
  hash := [161, 84, 223, 33, 5, 110, 191, 203, 239, 236, 12, 191, 163, 211, 176, 173, 26, 238, 183, 230, 11, 52, 55, 205,
    135, 209, 58, 60, 53, 242, 131, 223]
  signature := .given (.str revocationSignature)
  signer := "0x0376AAc07Ad725E01357B1725B5ceC61aE10473c"

/-- The number whose bytes are the letters of mallory's id. -/
def malloryNumber : Int := ((utf8 malloryId).foldl (fun number byte => 256 * number + byte) 0 : Nat)

def replayed : List (String × Json) := ("subject", .int malloryNumber) :: revocation.tail

/-- What is hashed for the number is what is hashed for the text. -/
def bankReplay : SignedMessage := { bankRevocation with message := Identity.revocationTyped (.dict replayed) }

local instance replayPackages : Packages := tablePackages hashes [bankRevocation, bankReplay]

def replayMallory : HttpRequest where
  bodyBytes := 500
  body := .ok (.dict [("from", .str "bank.example"),
    ("revocation", .dict (replayed ++ [("signature", .str revocationSignature)]))])

theorem replay_separated : SeparatedEncoding := by
  have typed : ∀ known ∈ [bankRevocation, bankReplay], known.message.domain = "XCPRevocation" ∧
      known.message.primaryType = "Revocation" ∧ known.message.fields = [("subject", "string"), ("issuer", "string"),
        ("issuedAt", "uint64"), ("reason", "string")] := by
    intro known member
    simp only [List.mem_cons, List.not_mem_nil, or_false] at member
    rcases member with rfl | rfl <;> exact ⟨rfl, rfl, rfl⟩
  refine ⟨?_, ?_⟩
  · intro data data' signable encoded encoded'
    obtain ⟨known, member, rfl, _⟩ := mem_of_encode encoded
    obtain ⟨other, member', rfl, _⟩ := mem_of_encode encoded'
    obtain ⟨domain, primary, fields⟩ := typed known member
    obtain ⟨domain', primary', fields'⟩ := typed other member'
    exact ⟨domain.trans domain'.symm, primary.trans primary'.symm, fields.trans fields'.symm⟩
  · intro data data' signable encoded encoded' name value field held held'
    obtain ⟨known, member, rfl, _⟩ := mem_of_encode encoded
    obtain ⟨other, member', rfl, _⟩ := mem_of_encode encoded'
    rw [(typed known member).2.2] at field
    have texts : ∀ known ∈ [bankRevocation, bankReplay], known.message.message.item "issuer" = .ok (.str bankId) ∧
        known.message.message.item "reason" = .ok (.str "compromised") := by
      intro known member
      simp only [List.mem_cons, List.not_mem_nil, or_false] at member
      rcases member with rfl | rfl <;> exact ⟨rfl, rfl⟩
    simp only [List.mem_cons, Prod.mk.injEq, and_true, List.not_mem_nil, or_false, String.reduceEq, and_false,
      false_or] at field
    rcases field with rfl | rfl | rfl
    · simp only [List.mem_cons, List.not_mem_nil, or_false] at member member'
      rcases member with rfl | rfl
      · obtain rfl := Except.ok.inj (held.symm.trans (show _ = Except.ok (Json.str malloryId) from rfl))
        exact ⟨malloryId, rfl⟩
      · obtain rfl := Except.ok.inj (held.symm.trans (show _ = Except.ok (Json.int malloryNumber) from rfl))
        rcases member' with rfl | rfl
        · have printed : Json.str malloryId = .str (toString malloryNumber) := Except.ok.inj held'
          exact absurd printed (by decide +kernel)
        · cases held'
    · exact ⟨bankId, Except.ok.inj (held.symm.trans (texts known member).1)⟩
    · exact ⟨"compromised", Except.ok.inj (held.symm.trans (texts known member).2)⟩

theorem replay_signatures (names : TypedData → String → Prop) : IdealSignatures names := by
  intro data data' signable signable' signature signer signer' encoded encoded' _ _ _ _
  obtain ⟨known, member, _, rfl⟩ := mem_of_encode encoded
  obtain ⟨other, member', _, rfl⟩ := mem_of_encode encoded'
  simp only [List.mem_cons, List.not_mem_nil, or_false] at member member'
  rcases member with rfl | rfl <;> rcases member' with rfl | rfl <;> rfl

theorem revocation_read : (revokeMallory.bodyOrEmpty >>= readRevocation) =
    .ok ("bank.example", .dict (revocation ++ [("signature", .str revocationSignature)]), malloryId) := by
  decide +kernel

theorem replay_read : (replayMallory.bodyOrEmpty >>= readRevocation) =
    .ok ("bank.example", .dict (replayed ++ [("signature", .str revocationSignature)]), toString malloryNumber) := by
  decide +kernel

theorem revocation_taken :
    (federationRevoke acceptingNode internet acquainted revokeMallory).toOption.isSome = true := by
  decide +kernel

theorem replay_taken :
    (federationRevoke acceptingNode internet acquainted replayMallory).toOption.isSome = true := by
  decide +kernel

theorem revocation_authentic_bank :
    ∃ after response federation,
      federationRevoke acceptingNode internet acquainted revokeMallory = .ok (after, response) ∧
      acquainted.federation = some federation ∧ Authentic federation 1000 malloryId (.str revocationSignature) := by
  obtain ⟨⟨after, response⟩, done⟩ := ok_of_isSome revocation_taken
  obtain ⟨federation, configured⟩ : ∃ federation, acquainted.federation = some federation := ⟨_, rfl⟩
  obtain ⟨sender, document, nodeId, subject, signature, read, named, signed, -, authentic⟩ :=
    revocation_authentic_iff replay_separated (replay_signatures _) configured done
  obtain ⟨rfl, rfl, rfl⟩ := by simpa only [Except.ok.injEq, Prod.mk.injEq] using read.symm.trans revocation_read
  obtain rfl := Except.ok.inj (named.symm.trans (show _ = Except.ok (Json.str malloryId) from rfl))
  obtain rfl := Except.ok.inj (signed.symm.trans (show _ = Except.ok (Json.str revocationSignature) from rfl))
  exact ⟨after, response, federation, done, configured, authentic.mpr ⟨_, rfl⟩⟩

/-- The number is revoked, which nobody signed. -/
theorem replay_unauthentic :
    SeparatedEncoding ∧ (∀ names, IdealSignatures names) ∧
    ∃ after response federation,
      federationRevoke acceptingNode internet acquainted replayMallory = .ok (after, response) ∧
      acquainted.federation = some federation ∧
      after = { acquainted with federation := some (federation.revoke (toString malloryNumber)).1 } ∧
      ¬ Authentic federation 1000 (toString malloryNumber) (.str revocationSignature) := by
  refine ⟨replay_separated, replay_signatures, ?_⟩
  obtain ⟨⟨after, response⟩, done⟩ := ok_of_isSome replay_taken
  obtain ⟨federation, nodeId, document, peer, configured, takes, same⟩ := federationRevoke_takes done
  obtain ⟨sender, read, known⟩ := takes.read
  obtain ⟨revocation, signer, reads, verified, named⟩ := takes.verified_revocation
  obtain ⟨rfl, rfl, rfl⟩ := by simpa only [Except.ok.injEq, Prod.mk.injEq] using read.symm.trans replay_read
  refine ⟨after, response, federation, done, configured, same, ?_⟩
  have signature : revocation.signature = .str revocationSignature := Except.ok.inj (reads.signature.symm.trans rfl)
  have subject : revocation.subject = .int malloryNumber := Except.ok.inj (reads.subject.symm.trans rfl)
  intro authentic
  rw [← signature] at authentic
  obtain ⟨text, written⟩ :=
    verified.text_of_authentic replay_separated (replay_signatures _) known named authentic
  rw [subject] at written
  cases written

end Replay

end Xcp.Gateway
