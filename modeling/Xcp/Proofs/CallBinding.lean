import Xcp.Proofs.Credentials

/-! A credential that was minted for a call is good for this call, and for no
other one. -/

namespace Xcp.Stateless
open Checked Python Eth

section Binding
variable [Packages] [Host]

/-- A digest commits to the three parts of a call. -/
theorem callDocument_inj (ideal : IdealHash) {mcpMethod mcpName otherMethod otherName : String} {body otherBody : List Nat}
    (same : digestJson (callDocument mcpMethod mcpName body) = digestJson (callDocument otherMethod otherName otherBody)) :
    mcpMethod = otherMethod ∧ mcpName = otherName ∧ body = otherBody := by
  have letters (mcpMethod mcpName : String) (body : List Nat) : (callDocument mcpMethod mcpName body).letters =
      '\x7b' :: (quotedLetters "b" ++ ':' :: (quotedLetters (digest body) ++ ',' :: (quotedLetters "m" ++ ':' ::
        (quotedLetters mcpMethod ++ ',' :: (quotedLetters "n" ++ ':' :: (quotedLetters mcpName ++ ['\x7d'])))))) := by
    have sorted : byName [("m", .str mcpMethod), ("n", .str mcpName), ("b", .str (digest body))] =
        [("b", .str (digest body)), ("m", .str mcpMethod), ("n", .str mcpName)] := by
      simp [byName, List.insertionSort, List.orderedInsert]
    rw [callDocument, letters_dict, sorted]
    simp [PrefixCode.separated, memberLetters, letters_str]
  have written := congrArg String.toList (canonical_of_digestJson ideal same)
  rw [← Json.letters, ← Json.letters, letters, letters] at written
  have first := List.append_cancel_left (List.cons.inj written).2
  obtain ⟨digests, second⟩ := quotedLetters_inj (List.cons.inj first).2
  have third := List.append_cancel_left (List.cons.inj second).2
  obtain ⟨methods, fourth⟩ := quotedLetters_inj (List.cons.inj third).2
  have last := List.append_cancel_left (List.cons.inj fourth).2
  obtain ⟨names, _⟩ := quotedLetters_inj (List.cons.inj last).2
  exact ⟨methods, names, digest_inj ideal digests⟩

/-! ### Minted credentials -/

/-- What a key signs is recovered to the address of the key. -/
def RecoversSigner [Accounts] : Prop :=
  ∀ key address signable signature, Accounts.address key = .ok address → Packages.sign signable key = .ok signature →
    Packages.recover signable (.given (.str ("0x" ++ toHex signature))) = .ok address

/-- What `mint` makes of a call. -/
structure Minted [Accounts] (privateKey : String) (asserted : Assertion) (mcpMethod mcpName : String) (body : List Nat)
    (now : Int) (cred : RequestCredential) : Prop where
  canonical : Canonical mcpMethod ∧ Canonical mcpName
  bind : cred.bind = .str (digestJson (callDocument mcpMethod mcpName body))
  scope : cred.scope = .str (scopeFor mcpMethod mcpName)
  exp : cred.exp = .int (now + max 1 asserted.ttlSeconds)
  version : cred.version = .int credentialVersion
  footprint : cred.footprint = .str asserted.footprint
  plain : cred.Plain
  signed : ∃ address signable signature, Accounts.address privateKey = .ok address ∧ cred.signable = .ok signable ∧
    Packages.sign signable privateKey = .ok signature ∧ cred.signer = .str address ∧
    cred.sig = .str ("0x" ++ toHex signature)

theorem signable_plain {asserted : Assertion} {scope bound : String} {exp : Int} {drawn : String} {signable : List Nat}
    (written : (asserted.unsigned scope bound exp drawn).signable = .ok signable) (signer sig : String) :
    ({ asserted.unsigned scope bound exp drawn with signer := .str signer, sig := .str sig } : RequestCredential).Plain := by
  have printable : (Json.dict (asserted.unsigned scope bound exp drawn).payload).printable = true := by
    by_contra unprintable
    rw [RequestCredential.signable, Json.canonicalBytes, if_neg unprintable] at written
    cases written
  simp only [Json.printable, RequestCredential.payload, Assertion.unsigned, printableMembers, Bool.true_and, Bool.and_true,
    Bool.and_eq_true] at printable
  obtain ⟨agentId, chainId, exp, cap, version⟩ := printable
  simp only [RequestCredential.Plain, RequestCredential.asDict, RequestCredential.payload, Assertion.unsigned, List.cons_append,
    List.nil_append, List.forall_mem_cons, Json.isFlat, agentId, chainId, exp, cap, version, true_and]
  exact List.forall_mem_nil _

theorem mint_minted [Accounts] {privateKey : String} {asserted : Assertion} {mcpMethod mcpName : String} {body : List Nat}
    {now : Int} {drawn : String} {cred : RequestCredential}
    (minted : mint privateKey asserted mcpMethod mcpName body now drawn = .ok cred) :
    Minted privateKey asserted mcpMethod mcpName body now cred := by
  simp only [mint, bind_eq_ok, pure_eq_ok, bindDigest_ok] at minted
  obtain ⟨_, ⟨canonical, rfl⟩, address, known, signable, written, signature, signed, rfl⟩ := minted
  exact {
    canonical, bind := rfl, scope := rfl, exp := rfl, version := rfl, footprint := rfl
    plain := signable_plain written _ _
    signed := ⟨address, signable, signature, known, written, signed, rfl, rfl⟩ }

/-- A problem was found, or a header was refused as non-canonical. -/
def Refused (result : Raises (List String)) : Prop :=
  (∃ problems, result = .ok problems ∧ problems ≠ []) ∨ ∃ text, result = .error ⟨.package "NonCanonicalHeader", text⟩

/-- Nobody in particular is expected, or the owner of the key. -/
def Expects [Accounts] (expectedSigner privateKey : String) : Prop :=
  expectedSigner = "" ∨ ∃ address, Accounts.address privateKey = .ok address ∧ lower expectedSigner = lower address

namespace Minted

variable [Accounts] {privateKey : String} {asserted : Assertion} {mcpMethod mcpName : String} {body : List Nat} {now : Int}
  {cred : RequestCredential} (minted : Minted privateKey asserted mcpMethod mcpName body now cred)
include minted

theorem signatureProblems (recovers : RecoversSigner) {expectedSigner : String} (expected : Expects expectedSigner privateKey) :
    cred.signatureProblems expectedSigner = [] := by
  obtain ⟨address, signable, signature, known, written, signed, signer, sig⟩ := minted.signed
  have recovered := recovers _ _ _ _ known signed
  have given : cred.sig.truthy = true := sig ▸ truthy_append "0x" _ (by decide)
  have declared : andThen cred.signer.truthy (do
      let signer ← cred.signer.lower
      return (lower address ≠ signer : Bool)) = (.ok false : Raises Bool) := by
    simp [signer, Json.lower, Json.asStr]
  have wanted : (expectedSigner ≠ "" && lower address ≠ lower expectedSigner) = false := by
    rcases expected with rfl | ⟨other, known', same⟩
    · rfl
    · rw [known, Except.ok.injEq] at known'
      simp [same, known']
  have none : cred.signerProblems expectedSigner = .ok [] := by
    rw [RequestCredential.signerProblems, written, ok_bind, sig, recovered, ok_bind, declared, ok_bind, wanted]
    rfl
  rw [RequestCredential.signatureProblems, if_pos given, none]

/-- How verification of a minted credential goes, for any call. -/
theorem verify_eq (otherMethod otherName : String) (otherBody : List Nat) (later maxTtl : Int) (expectedSigner : String) :
    verify cred otherMethod otherName otherBody later expectedSigner maxTtl = (do
      let expectedBind ← bindDigest otherMethod otherName otherBody
      return problemIf (now + max 1 asserted.ttlSeconds < later) "credential expired" ++
        problemIf (maxTtl < now + max 1 asserted.ttlSeconds - later) s!"credential ttl exceeds the {maxTtl}s ceiling" ++
        problemIf (!cred.scope.same (.str (scopeFor otherMethod otherName)))
          s!"scope mismatch: credential is for {cred.scope.toStr}, request is {scopeFor otherMethod otherName}" ++
        problemIf (!cred.bind.same (.str expectedBind))
          "call binding mismatch — credential is not for this call (replay or altered arguments)" ++
        problemIf (!startsWith asserted.footprint "0x" || asserted.footprint.length < 34)
          "missing or malformed certificate footprint" ++
        cred.signatureProblems expectedSigner) := by
  have expired : cred.expired later = .ok (decide (now + max 1 asserted.ttlSeconds < later)) := by
    rw [RequestCredential.expired, minted.exp, Json.int_gt_int]
  have remaining : cred.remaining later = .ok (.int (now + max 1 asserted.ttlSeconds - later)) := by
    rw [RequestCredential.remaining, minted.exp]
    exact Json.int_sub_int _ _
  have version : (!cred.version.same (.int credentialVersion)) = false := by rw [minted.version]; rfl
  simp only [verify, expired, remaining, Json.int_gt_int, ok_bind, minted.footprint, Json.asStr, version, problemIf,
    Bool.false_eq_true, if_false, List.nil_append]

theorem accepted (recovers : RecoversSigner) {later maxTtl : Int} {expectedSigner : String}
    (unexpired : later ≤ now + max 1 asserted.ttlSeconds) (short : now + max 1 asserted.ttlSeconds - later ≤ maxTtl)
    (footprint : startsWith asserted.footprint "0x" = true ∧ 34 ≤ asserted.footprint.length)
    (expected : Expects expectedSigner privateKey) :
    verify cred mcpMethod mcpName body later expectedSigner maxTtl = .ok [] := by
  have bound : bindDigest mcpMethod mcpName body = .ok (digestJson (callDocument mcpMethod mcpName body)) :=
    bindDigest_ok.mpr ⟨minted.canonical, rfl⟩
  rw [minted.verify_eq, bound, ok_bind, minted.signatureProblems recovers expected, minted.scope, minted.bind, pure_eq_ok]
  simp [problemIf, footprint.1, Int.not_lt.mpr unexpired, Int.not_lt.mpr short, Nat.not_lt.mpr footprint.2]

theorem refused (ideal : IdealHash) {otherMethod otherName : String} {otherBody : List Nat}
    (other : (otherMethod, otherName, otherBody) ≠ (mcpMethod, mcpName, body)) (later maxTtl : Int) (expectedSigner : String) :
    Refused (verify cred otherMethod otherName otherBody later expectedSigner maxTtl) := by
  rw [minted.verify_eq]
  rcases bindDigest_cases otherMethod otherName otherBody with ⟨_, bound⟩ | ⟨_, text, foreign⟩
  · rw [bound, ok_bind]
    refine .inl ⟨_, rfl, ?_⟩
    intro none
    simp only [List.append_eq_nil_iff, problemIf_eq_nil, Bool.not_eq_false', minted.bind, Json.str_same, Json.str.injEq] at none
    obtain ⟨methods, names, bodies⟩ := callDocument_inj ideal none.1.1.2
    exact other (by rw [methods, names, bodies])
  · rw [foreign]
    exact .inr ⟨text, rfl⟩

end Minted

/-- A minted credential is read back as it was, verifies for its call while it
lives, and is refused for every other call. -/
theorem call_binding [JsonDecoder] [Accounts] (readsBack : ReadsBack) (recovers : RecoversSigner) (ideal : IdealHash)
    {privateKey : String} {asserted : Assertion} {mcpMethod mcpName : String} {body : List Nat} {now : Int} {drawn : String}
    {cred : RequestCredential} (minted : mint privateKey asserted mcpMethod mcpName body now drawn = .ok cred) :
    (∃ header, cred.toHeader = .ok header ∧ ∀ fresh, RequestCredential.fromHeader fresh header = .ok cred) ∧
    (∀ later maxTtl expectedSigner, later ≤ now + max 1 asserted.ttlSeconds → now + max 1 asserted.ttlSeconds - later ≤ maxTtl →
      startsWith asserted.footprint "0x" = true ∧ 34 ≤ asserted.footprint.length → Expects expectedSigner privateKey →
        verify cred mcpMethod mcpName body later expectedSigner maxTtl = .ok []) ∧
    ∀ otherMethod otherName otherBody, (otherMethod, otherName, otherBody) ≠ (mcpMethod, mcpName, body) →
      ∀ later maxTtl expectedSigner, Refused (verify cred otherMethod otherName otherBody later expectedSigner maxTtl) := by
  have made := mint_minted minted
  refine ⟨?_, ?_, ?_⟩
  · obtain ⟨header, written, _, read⟩ := RequestCredential.fromHeader_toHeader readsBack made.plain
    exact ⟨header, written, read⟩
  · intro later maxTtl expectedSigner unexpired short footprint expected
    exact made.accepted recovers unexpired short footprint expected
  · intro otherMethod otherName otherBody other later maxTtl expectedSigner
    exact made.refused ideal other later maxTtl expectedSigner

end Binding

/-! ### A minted credential -/

section Carol

local instance carolHost : Host := decimalHost []

theorem dictBytes_ne {members others : List (String × Json)} (differ : members.length ≠ others.length) :
    utf8 (Json.dict members).canonical ≠ utf8 (Json.dict others).canonical := by
  intro same
  have texts := String.toList_inj.mp (utf8_isCode.flatMap_inj same)
  have sorted := canonical_inj (decimalHost_legible []) texts
  rw [sorted_dict, sorted_dict, Json.dict.injEq] at sorted
  have counts := congrArg List.length sorted
  rw [List.length_map, List.length_map, (byName_perm members).length_eq, (byName_perm others).length_eq] at counts
  exact differ counts

theorem dictBytes_ne_message (members : List (String × Json)) (text : String) :
    utf8 (Json.dict members).canonical ≠ utf8 ("\x19Ethereum Signed Message:\n" ++ text) := by
  intro same
  have letters := utf8_isCode.flatMap_inj same
  rw [← Json.letters, letters_dict, String.toList_append] at letters
  exact absurd (List.cons.inj letters).1 (by decide)

def carolKey : String := "0x2c52130a69b3254240c961f6acfb09713f4f9cc14aa498cbf844b94a27da64ff"

def carolAddress : String := "0xA4d4c1f8a763Ef6a0140D04291eCEef913Ffc272"

def carolSignature : List Nat :=
  [127, 101, 249, 66, 123, 203, 96, 54, 214, 122, 36, 113, 218, 52, 226, 29, 221, 126, 67, 150, 51, 28, 102, 12, 48, 151, 238, 154,
    151, 118, 255, 242, 0, 22, 107, 169, 213, 43, 115, 119, 252, 148, 185, 149, 185, 87, 98, 170, 212, 157, 198, 48, 146, 53, 101,
    44, 92, 197, 48, 84, 51, 187, 11, 70, 28]

def carolBodyHash : List Nat :=
  [180, 141, 56, 249, 62, 170, 8, 64, 51, 252, 89, 112, 191, 150, 229, 89, 195, 60, 76, 220, 7, 216, 137, 171, 0, 180, 214, 63, 149,
    144, 115, 157]

def carolCallHash : List Nat :=
  [131, 42, 254, 118, 208, 143, 81, 233, 100, 16, 245, 101, 116, 102, 84, 109, 109, 218, 148, 53, 173, 138, 202, 71, 188, 0, 129, 146,
    28, 73, 167, 223]

def carolPayloadHash : List Nat :=
  [250, 248, 239, 19, 128, 71, 158, 227, 141, 12, 69, 46, 53, 188, 112, 211, 120, 227, 226, 1, 0, 162, 28, 224, 1, 229, 223, 137, 141,
    51, 236, 19]

def carolSignable : List Nat :=
  [214, 29, 150, 191, 105, 50, 119, 79, 231, 207, 57, 13, 240, 199, 114, 126, 237, 219, 10, 150, 194, 145, 32, 237, 232, 108, 24, 194,
    159, 16, 56, 90]

/-- An agent of a tier that the lattice does not have. -/
def carol : Assertion where
  agentId := 22705
  chainId := 8453
  footprint := "0xc44a1a74e0d37a2fa07c5a32f5efa71e303f484c9d2a18592dc97eccbfbdac6c"
  tier := "A9xH9"

def carolCall : List (String × Json) :=
  [("m", .str "tools/call"), ("n", .str "delete_all"), ("b", .str ("0x" ++ toHex carolBodyHash))]

def carolUnsigned : RequestCredential :=
  carol.unsigned "mcp:tools/delete_all" ("0x" ++ toHex carolCallHash) 1060 "00112233445566ff"

def carolMessage : String :=
  toString (utf8 ("0x" ++ toHex carolPayloadHash)).length ++ ("0x" ++ toHex carolPayloadHash)

def carolBody : List Nat := utf8 (Json.dict []).canonical

def carolCallBytes : List Nat := utf8 (Json.dict carolCall).canonical

def carolPayloadBytes : List Nat := utf8 (Json.dict carolUnsigned.payload).canonical

def carolMessageBytes : List Nat := utf8 ("\x19Ethereum Signed Message:\n" ++ carolMessage)

def carolHashes : List (List Nat × List Nat) :=
  [(carolBody, carolBodyHash), (carolCallBytes, carolCallHash), (carolPayloadBytes, carolPayloadHash),
    (carolMessageBytes, carolSignable)]

/-- The packages know the one signature of Carol's. -/
local instance carolPackages : Packages :=
  { tablePackages carolHashes [] with
    recover := fun signable signature =>
      if signable = carolSignable ∧ signature = .given (.str ("0x" ++ toHex carolSignature)) then .ok carolAddress
      else raise (.package "BadSignature") ""
    sign := fun signable key =>
      if signable = carolSignable ∧ key = carolKey then .ok carolSignature else raise (.package "ValidationError") "" }

local instance carolAccounts : Accounts where
  address := fun key => if key = carolKey then .ok carolAddress else raise (.package "ValidationError") ""

local instance carolDecoder : JsonDecoder := flatDecoder

theorem carol_ideal : IdealHash := by
  have table := tablePackages_ideal [] (show realHashes carolHashes = true by decide)
  exact @IdealHash.mk carolPackages (@IdealHash.bytes (tablePackages carolHashes []) table)
    (@IdealHash.splits (tablePackages carolHashes []) table)

theorem carol_recovers : RecoversSigner := by
  intro key address signable signature known signed
  simp only [Accounts.address, Packages.sign] at known signed
  split at known
  · split at signed
    next inputs =>
      obtain rfl := Except.ok.inj known
      obtain rfl := Except.ok.inj signed
      exact if_pos ⟨inputs.1, rfl⟩
    · cases signed
  · cases known

/-- The hash of an input before which the table has other ones. -/
theorem carol_hash (before : List (List Nat × List Nat)) {after : List (List Nat × List Nat)} {data hash : List Nat}
    (split : carolHashes = before ++ (data, hash) :: after) (fresh : ∀ entry ∈ before, data ≠ entry.1) :
    Packages.keccak data = hash := by
  have found : carolHashes.lookup data = some hash := by
    refine List.lookup_eq_some_iff.mpr ⟨before, after, split, ?_⟩
    intro entry member
    exact bne_iff_ne.mpr (fresh entry member)
  change (carolHashes.lookup data).getD _ = hash
  rw [found, Option.getD_some]

theorem carol_body : Packages.keccak carolBody = carolBodyHash := carol_hash [] rfl nofun

theorem carol_call : Packages.keccak carolCallBytes = carolCallHash := by
  have body : carolCallBytes ≠ carolBody := dictBytes_ne (by decide)
  apply carol_hash [(carolBody, carolBodyHash)] rfl
  exact List.forall_mem_singleton.mpr body

theorem carol_payload : Packages.keccak carolPayloadBytes = carolPayloadHash := by
  have body : carolPayloadBytes ≠ carolBody := dictBytes_ne (by decide)
  have call : carolPayloadBytes ≠ carolCallBytes := dictBytes_ne (by decide)
  apply carol_hash [(carolBody, carolBodyHash), (carolCallBytes, carolCallHash)] rfl
  simp only [List.forall_mem_cons]
  exact ⟨body, call, nofun⟩

theorem carol_message : Packages.keccak carolMessageBytes = carolSignable := by
  have body : carolMessageBytes ≠ carolBody := (dictBytes_ne_message _ _).symm
  have call : carolMessageBytes ≠ carolCallBytes := (dictBytes_ne_message _ _).symm
  have payload : carolMessageBytes ≠ carolPayloadBytes := (dictBytes_ne_message _ _).symm
  apply carol_hash [(carolBody, carolBodyHash), (carolCallBytes, carolCallHash), (carolPayloadBytes, carolPayloadHash)] rfl
  simp only [List.forall_mem_cons]
  exact ⟨body, call, payload, nofun⟩

theorem carol_bind : bindDigest "tools/call" "delete_all" carolBody = .ok ("0x" ++ toHex carolCallHash) := by
  have document : callDocument "tools/call" "delete_all" carolBody = .dict carolCall := by
    rw [callDocument, digest, carol_body]
    rfl
  rw [bindDigest_ok]
  refine ⟨by decide, ?_⟩
  rw [document, digestJson, digest]
  exact congrArg (fun hash => "0x" ++ toHex hash) carol_call

theorem carol_signable : carolUnsigned.signable = .ok carolSignable := by
  have printable : (Json.dict carolUnsigned.payload).printable = true := by decide
  have hashed : digest (utf8 (Json.dict carolUnsigned.payload).canonical) = "0x" ++ toHex carolPayloadHash :=
    congrArg (fun hash => "0x" ++ toHex hash) carol_payload
  rw [RequestCredential.signable, Json.canonicalBytes, if_pos printable, ok_bind, hashed, encodeDefunct, String.append_assoc]
  exact congrArg Except.ok carol_message

def carolCredential : RequestCredential :=
  { carolUnsigned with signer := .str carolAddress, sig := .str ("0x" ++ toHex carolSignature) }

theorem carol_minted :
    mint carolKey carol "tools/call" "delete_all" carolBody 1000 "00112233445566ff" = .ok carolCredential := by
  have scope : scopeFor "tools/call" "delete_all" = "mcp:tools/delete_all" := by decide
  have address : Accounts.address carolKey = .ok carolAddress := rfl
  have signed : Packages.sign carolSignable carolKey = .ok carolSignature := if_pos ⟨rfl, rfl⟩
  have exp : (1000 : Int) + max 1 carol.ttlSeconds = 1060 := by decide
  rw [mint, carol_bind, ok_bind, address, scope, exp, ok_bind]
  change (carolUnsigned.signable >>= _) = _
  rw [carol_signable, ok_bind, signed]
  rfl

theorem call_binding_carol :
    (∃ header, carolCredential.toHeader = .ok header ∧ ∀ fresh, RequestCredential.fromHeader fresh header = .ok carolCredential) ∧
    verify carolCredential "tools/call" "delete_all" carolBody 1030 = .ok [] ∧
    Refused (verify carolCredential "tools/call" "search" carolBody 1030) := by
  obtain ⟨carried, accepted, refused⟩ := call_binding flatDecoder_readsBack carol_recovers carol_ideal carol_minted
  refine ⟨carried, ?_, ?_⟩
  · exact accepted 1030 300 "" (by decide) (by decide) (by decide) (.inl rfl)
  · exact refused "tools/call" "search" _ (by simp) 1030 300 ""

end Carol

end Xcp.Stateless
