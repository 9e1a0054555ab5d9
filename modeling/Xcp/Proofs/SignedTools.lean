import Xcp.Library.Ideal
import Xcp.Security.SupplyChain

/-! What a verified server, its tools and a signed manifest have to do with each
other. The tools are the pinned ones and the manifest is signed, but it may be
the manifest of another server and of other tools. -/

namespace Xcp.Security
open Checked Eth Python SupplyChainVerifier

section Laws
variable [Host] [Packages]

/-- A publisher signed a manifest: its server, its version and the digest of its tools. -/
def SignedBy (manifest : ToolManifest) (chainId : Int) (publisher : String) : Prop :=
  ∃ signer, recovered manifest chainId = .ok signer ∧ lower signer = lower publisher

/-- What the verifier asks of a server, its tools and a manifest. -/
structure Accepts (verifier : SupplyChainVerifier) (server : String) (liveTools : List Tool) (manifest : ToolManifest)
    (chainId : Int) : Prop where
  pinned : ∃ live, manifestDigest liveTools = .ok live ∧ verifier.pins.get? server = some (lower live)
  filled : manifest.signature ≠ "" ∧ manifest.publisher ≠ ""
  signed : SignedBy manifest chainId manifest.publisher
  trusted : verifier.trustedPublishers = [] ∨ lower manifest.publisher ∈ verifier.trustedPublishers.map lower

section Verifier
variable {verifier : SupplyChainVerifier} {server : String} {liveTools : List Tool} {manifest : ToolManifest} {chainId : Int}

theorem verifyServer_ok : (∃ live, verifier.verifyServer server liveTools = .ok live) ↔
    ∃ live, manifestDigest liveTools = .ok live ∧ verifier.pins.get? server = some (lower live) := by
  simp only [verifyServer, bind_eq_ok, map_eq_ok]
  constructor
  · rintro ⟨live, _, ⟨digest, computed, rfl⟩, answered⟩
    refine ⟨digest, computed, ?_⟩
    cases found : verifier.pins.get? server with
    | none => simp [found, supplyChainError, raise] at answered
    | some pinned =>
      by_cases same : lower digest = pinned
      · rw [same]
      · simp [found, same, supplyChainError, raise] at answered
  · rintro ⟨digest, computed, found⟩
    refine ⟨lower digest, lower digest, ⟨digest, computed, rfl⟩, ?_⟩
    simp [found]

theorem verifySignature_true : verifier.verifySignature manifest chainId = .ok true ↔
    (manifest.signature ≠ "" ∧ manifest.publisher ≠ "") ∧ SignedBy manifest chainId manifest.publisher ∧
      (verifier.trustedPublishers = [] ∨ lower manifest.publisher ∈ verifier.trustedPublishers.map lower) := by
  unfold verifySignature
  by_cases empty : manifest.signature = "" ∨ manifest.publisher = ""
  · have blank : ¬ (manifest.signature ≠ "" ∧ manifest.publisher ≠ "") := by tauto
    simp [empty, blank]
  · simp only [empty, if_false, bind_eq_ok, SignedBy]
    constructor
    · rintro ⟨signer, found, answered⟩
      by_cases same : lower signer = lower manifest.publisher
      · simp only [same, ne_eq, not_true_eq_false, if_false, pure_eq_ok, Bool.or_eq_true, List.isEmpty_iff,
          List.contains_iff_mem] at answered
        exact ⟨not_or.mp empty, ⟨signer, found, same⟩, answered⟩
      · simp [same] at answered
    · rintro ⟨_, ⟨signer, found, same⟩, trusted⟩
      refine ⟨signer, found, ?_⟩
      simp only [same, ne_eq, not_true_eq_false, if_false, pure_eq_ok, Bool.or_eq_true, List.isEmpty_iff, List.contains_iff_mem]
      exact trusted

theorem verifyFull_ok : verifier.verifyFull server liveTools manifest chainId = .ok () ↔
    Accepts verifier server liveTools manifest chainId := by
  have signature : verifier.verifyFull server liveTools manifest chainId = .ok () ↔
      (∃ live, verifier.verifyServer server liveTools = .ok live) ∧ verifier.verifySignature manifest chainId = .ok true := by
    simp only [verifyFull, bind_eq_ok]
    constructor
    · rintro ⟨live, checked, trusted, signed, answered⟩
      cases trusted with
      | true => exact ⟨⟨live, checked⟩, signed⟩
      | false => simp [supplyChainError, raise] at answered
    · rintro ⟨⟨live, checked⟩, signed⟩
      exact ⟨live, checked, true, signed, rfl⟩
  rw [signature, verifyServer_ok, verifySignature_true]
  constructor
  · rintro ⟨pinned, filled, signed, trusted⟩
    exact ⟨pinned, filled, signed, trusted⟩
  · intro accepts
    exact ⟨accepts.pinned, accepts.filled, accepts.signed, accepts.trusted⟩

omit [Packages] in
theorem mem_of_lower_mem {publishers : List String} {name : String} (member : lower name ∈ publishers.map lower) :
    ∃ publisher ∈ publishers, lower name = lower publisher := by
  obtain ⟨publisher, inside, same⟩ := List.mem_map.mp member
  exact ⟨publisher, inside, same.symm⟩

/-- One digest, one canonical form. -/
theorem canonical_of_manifestDigest (ideal : IdealHash) {tools others : List Tool} {digest : String}
    (one : manifestDigest tools = .ok digest) (other : manifestDigest others = .ok digest) :
    canonicalManifest tools = canonicalManifest others := by
  obtain ⟨data, written, hashed⟩ := (map_eq_ok ..).mp one
  obtain ⟨data', written', hashed'⟩ := (map_eq_ok ..).mp other
  rw [written, written', digest_inj ideal (hashed.trans hashed'.symm)]

/-- Where nothing is raised the manifest was signed by a trusted publisher. It is about the server and its tools exactly
where it names that server and declares the same tools: of all that is accepted, that is not asked. -/
theorem verifyFull_ties_iff (ideal : IdealHash) (some : verifier.trustedPublishers ≠ []) :
    (verifier.verifyFull server liveTools manifest chainId = .ok () →
      manifest.server = server ∧ manifestDigest manifest.tools = manifestDigest liveTools ∧
        ∃ publisher ∈ verifier.trustedPublishers, SignedBy manifest chainId publisher) ↔
    (Accepts verifier server liveTools manifest chainId →
      manifest.server = server ∧ canonicalManifest manifest.tools = canonicalManifest liveTools) := by
  rw [verifyFull_ok]
  constructor
  · intro ties accepts
    obtain ⟨named, digests, _⟩ := ties accepts
    obtain ⟨live, computed, _⟩ := accepts.pinned
    exact ⟨named, canonical_of_manifestDigest ideal (digests.trans computed) computed⟩
  · intro ties accepts
    obtain ⟨named, canonical⟩ := ties accepts
    have trusted := accepts.trusted.resolve_left some
    obtain ⟨publisher, member, same⟩ := mem_of_lower_mem trusted
    obtain ⟨signer, found, signs⟩ := accepts.signed
    refine ⟨named, ?_, publisher, member, signer, found, signs.trans same⟩
    rw [manifestDigest, manifestDigest, canonical]

/-- A server that was pinned by a manifest has the tools of that manifest. -/
theorem pinned_manifest_is_live (ascii : LowersAscii) (sized : SizedHash) (ideal : IdealHash) {before : SupplyChainVerifier}
    (pinned : before.pinManifest manifest = .ok verifier) (accepts : Accepts verifier manifest.server liveTools manifest chainId) :
    canonicalManifest manifest.tools = canonicalManifest liveTools := by
  simp only [pinManifest, bind_eq_ok, pure_eq_ok] at pinned
  obtain ⟨approved, computed, rfl⟩ := pinned
  obtain ⟨live, computed', found⟩ := accepts.pinned
  have lowered {tools : List Tool} {digest : String} (computed : manifestDigest tools = .ok digest) : lower digest = digest := by
    obtain ⟨data, _, rfl⟩ := (map_eq_ok ..).mp computed
    exact lower_word ascii (word_digest sized data)
  simp only [pin, Dict.get?_set, if_pos, Option.some.injEq, lowered computed, lowered computed'] at found
  exact canonical_of_manifestDigest ideal computed (found ▸ computed')

end Verifier

end Laws

/-! ### A manifest of another server -/

def fetchTools : List Tool := [[("name", .str "fetch"), ("description", .str "Fetch a URL")]]

def weatherTools : List Tool := [[("name", .str "forecast"), ("description", .str "Tomorrow's weather")]]

def toolHashes : List (List Nat × List Nat) :=
  [(utf8 "[\x7b\"description\":\"Fetch a URL\",\"inputSchema\":\x7b\x7d,\"name\":\"fetch\"\x7d]",
      [67, 148, 86, 148, 62, 167, 10, 226, 134, 144, 193, 0, 94, 120, 218, 82, 216, 0, 81, 227, 237, 91, 11, 13, 146, 76, 151,
        117, 198, 77, 215, 189]),
    (utf8 "[\x7b\"description\":\"Tomorrow's weather\",\"inputSchema\":\x7b\x7d,\"name\":\"forecast\"\x7d]",
      [103, 185, 163, 236, 79, 225, 142, 234, 213, 221, 93, 46, 187, 215, 169, 231, 157, 58, 10, 221, 47, 216, 211, 70, 196, 38,
        85, 249, 19, 220, 75, 83])]

def weatherManifest : ToolManifest where
  server := "weather"
  tools := weatherTools
  publisher := "0x70997970C51812dc3A010C7d01b50e0d17dc79C8"
  signature := "0x17dc55483a3e85fc4516171738a76778ed75d90bf0d04e92119b133acbd1aa570bb9c8580432344f621ef0f76b18c71e161658403f241b6b7b976ec2671095f71c"

def fetchManifest : ToolManifest where
  server := "research"
  tools := fetchTools
  publisher := "0x70997970C51812dc3A010C7d01b50e0d17dc79C8"
  signature := "0xd24f1ca9c6ffa9a480113589b5a12c200d22e7c639ab1da3c42330fda9d4fc3e48aeee603cf12498b73ae3dc21cf3892491c4916d6cc9cd57b22c5d0b91c6d4a1b"

def signedManifests : List SignedMessage :=
  [{ message := manifestTypedData "weather" "1" "0x67b9a3ec4fe18eead5dd5d2ebbd7a9e79d3a0add2fd8d346c42655f913dc4b53" 8453
     hash := [5, 64, 31, 136, 244, 2, 133, 116, 74, 139, 230, 38, 87, 163, 150, 9, 17, 157, 224, 165, 169, 190, 198, 11, 218, 255, 6,
        8, 118, 2, 49, 22]
     signature := .given (.str weatherManifest.signature)
     signer := weatherManifest.publisher },
    { message := manifestTypedData "research" "1" "0x439456943ea70ae28690c1005e78da52d80051e3ed5b0b0d924c9775c64dd7bd" 8453
      hash := [146, 131, 86, 199, 60, 33, 93, 13, 67, 42, 10, 201, 143, 184, 6, 253, 68, 94, 52, 48, 117, 56, 195, 126, 107, 217,
        63, 225, 103, 62, 206, 205]
      signature := .given (.str fetchManifest.signature)
      signer := fetchManifest.publisher }]

section Sample
local instance toolsHost : Host := asciiHost []
local instance toolsPackages : Packages := tablePackages toolHashes signedManifests

/-- Research is pinned to its tools. -/
def researchVerifier : SupplyChainVerifier where
  trustedPublishers := ["0x70997970C51812dc3A010C7d01b50e0d17dc79C8"]
  pins := Dict.set {} "research" "0x439456943ea70ae28690c1005e78da52d80051e3ed5b0b0d924c9775c64dd7bd"

theorem weather_vouches_for_research : researchVerifier.verifyFull "research" fetchTools weatherManifest 8453 = .ok () ∧
    weatherManifest.server ≠ "research" ∧ manifestDigest weatherManifest.tools ≠ manifestDigest fetchTools := by
  refine ⟨by decide +kernel, by decide, by decide +kernel⟩

theorem research_is_tied : fetchManifest.server = "research" ∧ manifestDigest fetchManifest.tools = manifestDigest fetchTools ∧
    ∃ publisher ∈ researchVerifier.trustedPublishers, SignedBy fetchManifest 8453 publisher := by
  have ideal : IdealHash := tablePackages_ideal signedManifests (by decide +kernel)
  have returned : researchVerifier.verifyFull "research" fetchTools fetchManifest 8453 = .ok () := by decide +kernel
  have some : researchVerifier.trustedPublishers ≠ [] := by decide
  exact (verifyFull_ties_iff ideal some).mpr (fun _ => ⟨rfl, rfl⟩) returned

end Sample

end Xcp.Security
