import Xcp.Proofs.OnlyLeaves

/-! When the checks of a claim report its problems, and when they raise instead. The
elements of a proof are measured before they are read, and texts of the right length
need not be hex. -/

namespace Xcp.Cluster
open Checked Python Eth Identity

section Reading
variable [Host]

/-- `0x` and as many letters as 32 bytes have. -/
def formed (text : String) : Bool := startsWith text "0x" && text.length = 66

/-- The letters behind `0x` are read as bytes. -/
def Reads (text : String) : Prop := ∃ bytes, idBytes text = .ok bytes

/-- What is raised where they are not. -/
abbrev notHex : Exception := ⟨.valueError, "non-hexadecimal number found in fromhex() arg"⟩

/-- Before a proof is hashed with the id, or a part of it that precedes the first
element of another form, all of that is read. -/
def Checkable (claim : MembershipClaim) : Prop :=
  formed claim.nodeId = true → ∀ element ∈ claim.proof.takeWhile formed, Reads (lower claim.nodeId) ∧ Reads (lower element)

theorem normalise_eq (text : String) : normalise text =
    if formed text = true then .ok (lower text)
    else clusterError s!"a member id must be 0x and 32 bytes, got {quoted text}" := by
  unfold normalise formed
  by_cases start : startsWith text "0x" = true
  · by_cases length : text.length = 66
    · simp [start, length]
    · simp [start, length]
  · simp [start]

/-- Whatever goes wrong is a problem that can be told. -/
def Reports {α : Type} (result : Raises α) : Prop :=
  ∀ exception, result = .error exception → isClusterError exception = true

omit [Host] in
theorem reports_ok {α : Type} (value : α) : Reports (.ok value : Raises α) := by
  intro exception raised
  cases raised

omit [Host] in
theorem reports_error {α : Type} (exception : Exception) :
    Reports (.error exception : Raises α) ↔ isClusterError exception = true := by
  simp [Reports]

omit [Host] in
theorem reports_clusterError {α : Type} (text : String) : Reports (clusterError text : Raises α) :=
  (reports_error _).mpr rfl

variable [Packages]

omit [Host] in
theorem reads_digest (sized : SizedHash) (data : List Nat) : Reads (digest data) :=
  ⟨_, (word_digest sized data).reads⟩

/-- What comes of a pair: it is hashed where both of it are read. -/
inductive Paired (first second : String) : Raises String → Prop
  | made (data : List Nat) (left : Reads first) (right : Reads second) : Paired first second (.ok (digest data))
  | refused (unread : ¬ (Reads first ∧ Reads second)) :
      Paired first second (.error notHex)

omit [Host] in
theorem Paired.swap {first second : String} {result : Raises String} (paired : Paired first second result) :
    Paired second first result := by
  cases paired with
  | made data left right => exact .made data right left
  | refused unread => exact .refused fun both => unread both.symm

omit [Host] [Packages] in
theorem idBytes_cases (text : String) : (∃ bytes, idBytes text = .ok bytes) ∨
    idBytes text = .error notHex := by
  unfold idBytes fromHex
  cases fromHexLetters (dropStart text 2).toList with
  | some bytes => exact .inl ⟨bytes, rfl⟩
  | none => exact .inr rfl

omit [Host] in
theorem paired_inOrder (low high : String) : Paired low high (do
    let low ← idBytes low
    let high ← idBytes high
    return digest (low ++ high)) := by
  have unread {text : String} (failed : idBytes text = .error notHex) :
      ¬ Reads text := by
    rintro ⟨bytes, read⟩
    rw [failed] at read
    cases read
  rcases idBytes_cases low with ⟨bytes, left⟩ | failed
  · rcases idBytes_cases high with ⟨bytes', right⟩ | failed
    · rw [left, ok_bind, right, ok_bind]
      exact .made _ ⟨bytes, left⟩ ⟨bytes', right⟩
    · rw [left, ok_bind, failed]
      exact .refused fun both => unread failed both.2
  · rw [failed]
    exact .refused fun both => unread failed both.1

omit [Host] in
theorem pair_outcome (first second : String) : Paired first second (pair first second) := by
  unfold pair
  by_cases order : second < first
  · simp only [order, if_true]
    exact (paired_inOrder second first).swap
  · simp only [order, if_false]
    exact paired_inOrder first second

theorem climb_reports_iff (sized : SizedHash) {node : String} {proof : List String} : Reports (climb node proof) ↔
    ∀ element ∈ proof.takeWhile formed, Reads node ∧ Reads (lower element) := by
  induction proof generalizing node with
  | nil => exact iff_of_true (reports_ok node) (by simp)
  | cons sibling rest ih =>
    rw [climb, normalise_eq, List.takeWhile_cons]
    by_cases form : formed sibling = true
    · rw [if_pos form, if_pos form, ok_bind]
      have outcome := pair_outcome node (lower sibling)
      generalize pair node (lower sibling) = result at outcome
      cases outcome with
      | made data here there =>
        rw [ok_bind, ih, List.forall_mem_cons]
        have digested := reads_digest sized data
        constructor
        · intro later
          exact ⟨⟨here, there⟩, fun element member => ⟨here, (later element member).2⟩⟩
        · intro reports element member
          obtain ⟨_, later⟩ := reports
          exact ⟨digested, (later element member).2⟩
      | refused unread =>
        rw [List.forall_mem_cons]
        refine iff_of_false ?_ (fun read => unread read.1)
        intro reports
        exact absurd ((reports_error _).mp reports) (by simp [isClusterError])
    · rw [if_neg form, if_neg form]
      exact iff_of_true (reports_clusterError _) (by simp)

theorem verifyMembershipProof_reports_iff (sized : SizedHash) (claim : MembershipClaim) (root : String) :
    Reports (verifyMembershipProof claim.nodeId claim.proof root) ↔ Checkable claim := by
  rw [verifyMembershipProof, normalise_eq, Checkable]
  by_cases form : formed claim.nodeId = true
  · rw [if_pos form, ok_bind, forall_prop_of_true form]
    rw [← climb_reports_iff sized]
    cases climb (lower claim.nodeId) claim.proof with
    | ok found => exact iff_of_true (reports_ok _) (reports_ok found)
    | error exception => exact (reports_error exception).trans (reports_error exception).symm
  · rw [if_neg form]
    exact iff_of_true (reports_clusterError _) (fun shaped => absurd shaped form)

theorem proofProblems_ok_iff {charter : Charter} {claim : MembershipClaim} :
    (∃ problems, proofProblems charter claim = .ok problems) ↔
      Reports (verifyMembershipProof claim.nodeId claim.proof charter.membershipRoot) := by
  rw [proofProblems]
  cases verifyMembershipProof claim.nodeId claim.proof charter.membershipRoot with
  | ok verifies => exact iff_of_true ⟨_, rfl⟩ (reports_ok verifies)
  | error exception =>
    rw [reports_error]
    by_cases told : isClusterError exception = true
    · simp [told]
    · simp [told]

theorem verifyMember_returns_iff (sized : SizedHash) (charter : Charter) (claim : MembershipClaim) (expected : String) :
    (∃ problems, verifyMember charter claim (.str expected) = .ok problems) ↔ Checkable claim := by
  have other : ∃ differ, andThen (Json.str expected).truthy (differs (.str claim.nodeId) (.str expected)) = .ok differ := by
    unfold andThen
    split
    · exact ⟨_, rfl⟩
    · exact ⟨false, rfl⟩
  obtain ⟨differ, compared⟩ := other
  rw [← verifyMembershipProof_reports_iff sized claim charter.membershipRoot, ← proofProblems_ok_iff, verifyMember, compared,
    ok_bind]
  cases proofProblems charter claim with
  | ok problems => exact iff_of_true ⟨_, rfl⟩ ⟨problems, rfl⟩
  | error exception =>
    apply iff_of_false
    · rintro ⟨_, returned⟩
      cases returned
    · rintro ⟨_, returned⟩
      cases returned

theorem verifyAccessRequest_returns_iff (sized : SizedHash) (charter : Charter) (request : AccessRequest) (audience : String)
    (now maxTtl : Int) :
    (∃ problems, verifyAccessRequest charter request audience now maxTtl = .ok problems) ↔ Checkable request.claim := by
  rw [← verifyMember_returns_iff sized charter request.claim "", verifyAccessRequest]
  cases verifyMember charter request.claim (.str "") with
  | ok problems => exact iff_of_true ⟨_, rfl⟩ ⟨problems, rfl⟩
  | error exception =>
    apply iff_of_false
    · rintro ⟨_, returned⟩
      cases returned
    · rintro ⟨_, returned⟩
      cases returned

/-! ### What is received -/

omit [Packages] in
theorem claim_accepted (claim : MembershipClaim) : MembershipClaim.fromDict claim.toDict = .ok claim := by
  have texts : (claim.proof.map Json.str).map Json.toStr = claim.proof := by
    rw [List.map_map]
    exact List.map_id claim.proof
  have listed : ((Json.list (claim.proof.map Json.str)).orElse (.list [])).toList = .ok (claim.proof.map Json.str) := by
    cases claim.proof <;> rfl
  have read : readClaim claim.toDict = .ok claim := by
    have proof : claim.toDict.get "proof" = .ok (.list (claim.proof.map Json.str)) := rfl
    have clusterId : claim.toDict.item "clusterId" = .ok (.str claim.clusterId) := rfl
    have nodeId : claim.toDict.item "nodeId" = .ok (.str claim.nodeId) := rfl
    have epoch : claim.toDict.item "epoch" = .ok (.int claim.epoch) := rfl
    rw [readClaim, proof, ok_bind, listed, ok_bind, clusterId, ok_bind, nodeId, ok_bind, epoch, ok_bind, Json.toInt, ok_bind,
      texts]
    rfl
  have isDict : claim.toDict.isDict = true := rfl
  rw [MembershipClaim.fromDict, isDict, read]
  rfl

omit [Packages] in
theorem request_accepted (request : AccessRequest) : AccessRequest.fromDict request.toDict = .ok request := by
  have signature : ((Json.str request.signature).orElse (.str "")).toStr = request.signature := by
    unfold Json.orElse
    split
    · rfl
    next empty =>
      have none : request.signature = "" := by simpa [Json.truthy] using empty
      rw [none]
      rfl
  have read : readRequest request.toDict = .ok request := by
    have claim : request.toDict.item "claim" = .ok request.claim.toDict := rfl
    have audience : request.toDict.item "audience" = .ok (.str request.audience) := rfl
    have issuedAt : request.toDict.item "issuedAt" = .ok (.int request.issuedAt) := rfl
    have expiresAt : request.toDict.item "expiresAt" = .ok (.int request.expiresAt) := rfl
    have signed : request.toDict.get "signature" = .ok (.str request.signature) := rfl
    rw [readRequest, claim, ok_bind, claim_accepted, ok_bind, audience, ok_bind, issuedAt, ok_bind, Json.toInt, ok_bind,
      expiresAt, ok_bind, Json.toInt, ok_bind, signed, ok_bind, signature]
    rfl
  have isDict : request.toDict.isDict = true := rfl
  rw [AccessRequest.fromDict, isDict, read]
  rfl

/-- Every claim and every request is one that is accepted from the wire, and the checks
return what is wrong with it exactly where its proof can be read as far as its form
lets it be. -/
theorem checks_return_iff (sized : SizedHash) (charter : Charter) :
    (∀ claim : MembershipClaim, MembershipClaim.fromDict claim.toDict = .ok claim ∧ ∀ expected : String,
      ((∃ problems, verifyMember charter claim (.str expected) = .ok problems) ↔ Checkable claim)) ∧
    ∀ request : AccessRequest, AccessRequest.fromDict request.toDict = .ok request ∧ ∀ (audience : String) (now maxTtl : Int),
      ((∃ problems, verifyAccessRequest charter request audience now maxTtl = .ok problems) ↔ Checkable request.claim) := by
  constructor
  · intro claim
    exact ⟨claim_accepted claim, fun expected => verifyMember_returns_iff sized charter claim expected⟩
  · intro request
    exact ⟨request_accepted request,
      fun audience now maxTtl => verifyAccessRequest_returns_iff sized charter request audience now maxTtl⟩

end Reading

/-! ### A stranger's proof -/

section Acme

attribute [local instance] accessHost accessPackages

/-- As long as an id, and not hex. -/
def unreadable : String := "0x" ++ String.ofList (List.replicate 64 'z')

def strangerClaim : MembershipClaim := { aliceClaim with proof := [unreadable] }

def strangerRequest : AccessRequest := { claim := strangerClaim, audience := "node", issuedAt := 0, expiresAt := accessTtl }

theorem alice_checkable : Checkable aliceClaim := by
  intro _ element member
  have within := (List.takeWhile_prefix formed).subset member
  obtain rfl : element = padId := by simpa [aliceClaim] using within
  rw [show lower aliceClaim.nodeId = aliceId from alice_lower, pad_lower]
  exact ⟨⟨_, alice_word.reads⟩, ⟨_, pad_word.reads⟩⟩

/-- The check of a claim with its right proof returns. -/
theorem alice_returns : ∃ problems, verifyMember acmeCharter aliceClaim (.str "") = .ok problems :=
  ((checks_return_iff access_sized acmeCharter).1 aliceClaim).2 "" |>.mpr alice_checkable

theorem unreadable_lower : lower unreadable = unreadable := by decide +kernel

theorem unreadable_not_read : ¬ Reads unreadable := by
  rintro ⟨bytes, read⟩
  have unread : fromHexLetters (dropStart unreadable 2).toList = none := by decide +kernel
  rw [idBytes, fromHex, unread] at read
  cases read

/-- The claim and a request with it are accepted, and their checks raise. -/
theorem stranger_raises :
    MembershipClaim.fromDict strangerClaim.toDict = .ok strangerClaim ∧
      verifyMember acmeCharter strangerClaim (.str "") = .error notHex ∧
      AccessRequest.fromDict strangerRequest.toDict = .ok strangerRequest ∧
      verifyAccessRequest acmeCharter strangerRequest "node" 0 accessTtl = .error notHex := by
  have measured : normalise unreadable = .ok unreadable := by
    have form : formed unreadable = true := by decide +kernel
    rw [normalise_eq, if_pos form, unreadable_lower]
  have paired : pair aliceId unreadable = .error notHex := by
    have outcome := pair_outcome aliceId unreadable
    generalize pair aliceId unreadable = result at outcome
    cases outcome with
    | made data left right => exact absurd right unreadable_not_read
    | refused unread => rfl
  have raises : verifyMember acmeCharter strangerClaim (.str "") = .error notHex := by
    have climbed : verifyMembershipProof strangerClaim.nodeId strangerClaim.proof acmeCharter.membershipRoot =
        .error notHex := by
      have id : strangerClaim.nodeId = aliceId := rfl
      have proof : strangerClaim.proof = [unreadable] := rfl
      rw [verifyMembershipProof, id, proof, normalise_word alice_word, alice_lower, ok_bind, climb, measured, ok_bind, paired]
      rfl
    rw [verifyMember, proofProblems, climbed]
    rfl
  refine ⟨claim_accepted strangerClaim, raises, request_accepted strangerRequest, ?_⟩
  have claim : strangerRequest.claim = strangerClaim := rfl
  rw [verifyAccessRequest, claim, raises]
  rfl

end Acme

end Xcp.Cluster
