import Xcp.Library.Keyed
import Xcp.TrustFirewall.Delegation

/-! Who issued the links of a chain. A signature is checked against the signer
that the link declares; nothing ties this signer to the delegator. -/

namespace Xcp.DelegationChain
open Checked Python Eth

section Authors
variable [Host] [Packages]

/-- The key of the address signed the link. -/
def Link.SignedWith (link : Link) (chainId : Int) (address : String) : Prop :=
  ∃ signer, link.SignedBy chainId signer ∧ lower signer = lower address

theorem Link.SignedBy.unique {link : Link} {chainId : Int} {first second : String} (signed : link.SignedBy chainId first)
    (again : link.SignedBy chainId second) : first = second := by
  obtain ⟨signable, encoded, recovered⟩ := signed
  obtain ⟨signable', encoded', recovered'⟩ := again
  obtain rfl := Except.ok.inj (encoded.symm.trans encoded')
  exact Except.ok.inj (recovered.symm.trans recovered')

-- the keys that identities sign with, by their addresses
variable (keys : String → String)

/-- Every link was signed with the key of the identity that it names as its
delegator, which is, below the root, whom the link before it delegated to. -/
structure Authored (chainId : Int) (chain : List Link) : Prop where
  delegators : ∀ link ∈ chain, link.SignedWith chainId (keys link.delegator)
  delegates : chain.IsChain (fun previous link => link.SignedWith chainId (keys previous.delegate))

/-- The link declares the key of its delegator as the one that signed it, or
declares no key and was signed with that one. -/
def Link.Declares (chainId : Int) (link : Link) : Prop :=
  if link.signer = "" then link.SignedWith chainId (keys link.delegator) else lower link.signer = lower (keys link.delegator)

/-- A link that stands was signed with the key that it declares. -/
theorem Link.Stands.signedWith_iff {link : Link} {now chainId : Int} (stands : link.Stands now chainId) :
    link.SignedWith chainId (keys link.delegator) ↔ link.Declares keys chainId := by
  obtain ⟨signer, signed, declared⟩ := stands.signed
  unfold Link.Declares
  split
  · rfl
  next given =>
    constructor
    · intro ⟨other, again, same⟩
      rw [signed.unique again] at declared
      exact (declared given).symm.trans same
    · intro same
      exact ⟨signer, signed, (declared given).trans same⟩

/-- Only the holders of the keys can issue the links of an accepted chain exactly
where every link declares the key of its delegator. -/
theorem authored_iff {chain : List Link} {requiredScope : String} {now chainId : Int}
    (accepted : verifyChain chain requiredScope now chainId = []) :
    Authored keys chainId chain ↔ ∀ link ∈ chain, link.Declares keys chainId := by
  obtain ⟨root, rest, rfl, verified⟩ := verifyChain_eq_nil.mp accepted
  have signed_iff (link : Link) (member : link ∈ root :: rest) := (verified.stands link member).signedWith_iff keys
  constructor
  · intro authored link member
    exact (signed_iff link member).mp (authored.delegators link member)
  · intro declares
    have signed (link : Link) (member : link ∈ root :: rest) : link.SignedWith chainId (keys link.delegator) :=
      (signed_iff link member).mpr (declares link member)
    refine ⟨signed, ?_⟩
    apply verified.follows.imp_of_mem_imp
    intro previous link _ member follows
    exact follows.delegator ▸ signed link member

end Authors

/-! ### Packages that know some links -/

section Known
variable [Host]

/-- A link that its signer signed. -/
def Link.signedMessage (link : Link) (hash : List Nat) : SignedMessage where
  message := link.typed 8453
  hash := hash
  signature := .given (.str link.signature)
  signer := link.signer

def linkTable (known : List (Link × List Nat)) : List SignedMessage :=
  known.map (fun entry => entry.1.signedMessage entry.2)

theorem Link.typed_delegate {first second : Link} {chainId : Int} (same : first.typed chainId = second.typed chainId) :
    first.delegate = second.delegate := by
  simp only [Link.typed, TypedData.mk.injEq, Json.dict.injEq, List.cons.injEq, Prod.mk.injEq, Json.str.injEq] at same
  exact same.2.2.2.2.2.1.2

/-- Packages that know links to several delegates have each signed by its signer. -/
theorem signedBy_linkTable {known : List (Link × List Nat)} {entry : Link × List Nat} (member : entry ∈ known)
    (delegates : (known.map (fun entry => entry.1.delegate)).Nodup) (hashes : (known.map Prod.snd).Nodup) :
    @Link.SignedBy _ (tablePackages [] (linkTable known)) entry.1 8453 entry.1.signer := by
  have listed : entry.1.signedMessage entry.2 ∈ linkTable known := List.mem_map_of_mem member
  have encoded : (linkTable known).find? (fun other => other.message = entry.1.typed 8453) =
      some (entry.1.signedMessage entry.2) := by
    apply find?_of_only listed
    intro other inside
    obtain ⟨origin, known', rfl⟩ := List.mem_map.mp inside
    rw [decide_eq_true_eq]
    constructor
    · intro same
      rw [List.inj_on_of_nodup_map delegates known' member (Link.typed_delegate same)]
    · intro same
      exact congrArg SignedMessage.message same
  have recovered : (linkTable known).find? (fun other => other.hash = entry.2 && other.signature = .given (.str entry.1.signature)) =
      some (entry.1.signedMessage entry.2) := by
    apply find?_of_only listed
    intro other inside
    obtain ⟨origin, known', rfl⟩ := List.mem_map.mp inside
    rw [Bool.and_eq_true, decide_eq_true_eq, decide_eq_true_eq]
    constructor
    · intro ⟨same, _⟩
      rw [List.inj_on_of_nodup_map hashes known' member same]
    · intro same
      exact ⟨congrArg SignedMessage.hash same, congrArg SignedMessage.signature same⟩
  have written := @encode_tablePackages [] _ (entry.1.signedMessage entry.2) encoded
  have read := @recover_tablePackages [] _ (entry.1.signedMessage entry.2) recovered
  exact ⟨entry.2, written, read⟩

theorem stands_linkTable {known : List (Link × List Nat)} {entry : Link × List Nat} (member : entry ∈ known)
    (delegates : (known.map (fun entry => entry.1.delegate)).Nodup) (hashes : (known.map Prod.snd).Nodup) {now : Int}
    (lasting : now < entry.1.notAfter) (given : entry.1.signature ≠ "") :
    @Link.Stands _ (tablePackages [] (linkTable known)) now 8453 entry.1 :=
  let _ := tablePackages [] (linkTable known)
  ⟨lasting, given, entry.1.signer, signedBy_linkTable member delegates hashes, fun _ => rfl⟩

end Known

/-! ### Two grants in one name -/

section Forged

local instance forgedHost : Host := asciiHost []

def aliceAddress : String := "0x328809Bc894f92807417D2dAD6b7C998c1aFdac6"

def malloryAddress : String := "0x2385bb51aA69bAF8Ba5f609c98660963cC29f424"

/-- A root grant of Alice's. -/
def aliceGrant : Link where
  delegator := "alice"
  delegate := "bob"
  scopes := ["mcp:tools/search"]
  notAfter := 5000
  depth := 0
  signer := aliceAddress
  signature := "0xcd52ba912796c4c5931ed810788d73835c141a228c94d33128a010f680dd26db" ++
    "6d8c1d10750b42ca47e8e765df24acdedc56751ed3ed370a7fbac09b09a6d8f01c"

/-- A root grant that Mallory made in Alice's name. -/
def forgedGrant : Link :=
  { aliceGrant with
    delegate := "mallory"
    signer := malloryAddress
    signature := "0xd24bd7ee1ca06e4ecf2e7055e63afef7ced8f6e271d4846ef7fc5b77a047099b" ++
      "6645709c0f44423fed2c183295f6276da40f65a93ceb604c20a793cdee5a203b1c" }

def knownGrants : List (Link × List Nat) :=
  [(aliceGrant,
    [30, 167, 81, 170, 72, 120, 43, 66, 133, 22, 25, 171, 193, 149, 126, 33, 131, 88, 3, 253, 38, 219, 105, 84, 113, 208, 131, 190,
      70, 4, 16, 149]),
   (forgedGrant,
    [247, 123, 3, 92, 200, 166, 196, 33, 66, 13, 49, 140, 45, 131, 12, 192, 203, 55, 178, 16, 96, 128, 24, 164, 97, 240, 114, 205,
      214, 237, 114, 15])]

local instance grantPackages : Packages := tablePackages [] (linkTable knownGrants)

theorem knownGrants_signed {entry : Link × List Nat} (member : entry ∈ knownGrants) :
    entry.1.SignedBy 8453 entry.1.signer :=
  signedBy_linkTable member (by decide) (by decide)

theorem knownGrants_verified {entry : Link × List Nat} (member : entry ∈ knownGrants) :
    verifyChain [entry.1] "" 1000 8453 = [] := by
  have root : entry.1.depth = 0 ∧ entry.1.parent = "" ∧ 1 ≤ entry.1.maxDepth ∧ 1000 < entry.1.notAfter ∧
      entry.1.signature ≠ "" := by
    revert entry
    decide
  obtain ⟨depth, parent, length, lasting, given⟩ := root
  refine verifyChain_cons.mpr { depth, parent, stands := ?_, follows := .singleton _, length, held := .inl rfl }
  intro link inside
  obtain rfl := List.mem_singleton.mp inside
  exact stands_linkTable member (by decide) (by decide) lasting given

/-- Everyone signs with the key of their own. -/
def ownKeys (identity : String) : String := if identity = "mallory" then malloryAddress else aliceAddress

theorem authored_iff_alice : Authored ownKeys 8453 [aliceGrant] := by
  have member : (aliceGrant, _) ∈ knownGrants := .head _
  apply (authored_iff ownKeys (knownGrants_verified member)).mpr
  intro link inside
  obtain rfl := List.mem_singleton.mp inside
  rw [Link.Declares, if_neg (by decide)]
  rfl

/-- Mallory's grant of Alice's authority is accepted, and Alice did not sign it. -/
theorem forged_accepted : verifyChain [forgedGrant] "" 1000 8453 = [] ∧ ¬ Authored ownKeys 8453 [forgedGrant] := by
  have member : (forgedGrant, _) ∈ knownGrants := .tail _ (.head _)
  have accepted := knownGrants_verified member
  have forged := knownGrants_signed member
  refine ⟨accepted, ?_⟩
  intro authored
  obtain ⟨signer, signed, same⟩ := authored.delegators forgedGrant (List.mem_singleton_self _)
  rw [signed.unique forged] at same
  exact absurd same (by decide)

end Forged

end Xcp.DelegationChain

/-! Whether verification refuses what cannot be issued. Scopes, expiry and depth
are held to the link before; the reversibility cap is not looked at. -/

namespace Xcp.DelegationChain
open Checked Python Eth

section Narrowing
variable [Host]

/-- The request that asks for a link at an instant. -/
def Link.request (link : Link) (now : Int) : Request where
  delegate := link.delegate
  scopes := link.scopes
  ttl := some (link.notAfter - now)
  reversibilityCap := some link.reversibilityCap

/-- A link is no less restricted than the one before it, which may issue it. -/
structure Link.Narrows (now : Int) (previous link : Link) : Prop where
  scopes : link.scopes ⊆ previous.scopes
  lifetime : link.notAfter ≤ previous.notAfter
  cap : CapAtMost link.reversibilityCap previous.reversibilityCap
  issuable : (link.request now).link previous now =
    .ok { link with scopes := sortedSet link.scopes, signer := "", signature := "" }

/-- A link that passes something on, under a cap that is no higher. -/
structure Link.Restricts (previous link : Link) : Prop where
  some : link.scopes ≠ []
  cap : CapAtMost link.reversibilityCap previous.reversibilityCap

theorem Link.request_allowed {previous link : Link} {now : Int} (follows : previous.Follows link)
    (restricts : previous.Restricts link) (room : previous.depth + 1 < previous.maxDepth) (lasting : now < link.notAfter) :
    (link.request now).Allowed previous now ∧
      (link.request now).made previous now = { link with scopes := sortedSet link.scopes, signer := "", signature := "" } := by
  have cap : (link.request now).cap previous = link.reversibilityCap := by
    simp [Request.cap, Link.request, Option.filter_some, restricts.cap.ne_empty]
  have notAfter : (link.request now).notAfter previous now = link.notAfter := by
    have some : link.notAfter - now ≠ 0 := by omega
    simp [Request.notAfter, Link.request, Option.filter_some, some, follows.lifetime]
  constructor
  · exact {
      some := restricts.some
      held := follows.scopes
      room
      lasting := notAfter ▸ lasting
      cap := cap ▸ restricts.cap }
  · rw [Request.made, cap, notAfter, ← follows.delegator, ← follows.depth, ← follows.maxDepth, ← follows.parent]
    rfl

theorem Link.Narrows.restricts {previous link : Link} {now : Int} (narrows : previous.Narrows now link) :
    previous.Restricts link :=
  ⟨(Request.link_eq_ok.mp narrows.issuable).1.some, narrows.cap⟩

variable [Packages]

/-- Verification refuses what cannot be issued exactly in chains whose links all
pass something on and raise no cap. -/
theorem narrows_iff {chain : List Link} {requiredScope : String} {now chainId : Int}
    (accepted : verifyChain chain requiredScope now chainId = []) :
    chain.IsChain (Link.Narrows now) ↔ chain.IsChain Link.Restricts := by
  obtain ⟨root, rest, rfl, verified⟩ := verifyChain_eq_nil.mp accepted
  constructor
  · exact List.IsChain.imp (fun _ _ narrows => narrows.restricts)
  · intro restricted
    have pairs := List.isChain_iff_forall_rel_of_append_cons_cons.mp restricted
    apply List.isChain_iff_forall_rel_of_append_cons_cons.mpr
    intro previous link before after split
    have restricts := pairs split
    have follows := List.isChain_iff_forall_rel_of_append_cons_cons.mp verified.follows split
    have stands := verified.stands link (by simp [split])
    obtain ⟨allowed, made⟩ := Link.request_allowed follows restricts (verified.room split) stands.lasting
    exact {
      scopes := follows.scopes
      lifetime := follows.lifetime
      cap := restricts.cap
      issuable := Request.link_eq_ok.mpr ⟨allowed, made⟩ }

end Narrowing

/-! ### A raised cap -/

section Raised

local instance raisedHost : Host := asciiHost []

def bobAddress : String := "0x1D96F2f6BeF1202E4Ce1Ff6Dad0c2CB002861d3e"

/-- What Bob passes on of the grant that Alice made him. -/
def bobLink (delegate cap signature : String) : Link where
  delegator := "bob"
  delegate := delegate
  scopes := ["mcp:tools/search"]
  notAfter := 4000
  depth := 1
  parent := aliceGrant.digest
  reversibilityCap := cap
  signer := bobAddress
  signature := signature

def keptLink : Link :=
  bobLink "carol" "reversible" ("0x77a1ca66d3a31640d741285e80e40ea4850ae26f17a61f2c107733701741523755d4eae8e6c7b599d1a52b30b" ++
    "51f0a259331a0d18f1fc2983c02998c96222d3a1c")

def raisedLink : Link :=
  bobLink "dave" "irreversible" ("0xa6e1ab915b91f833dca56f5958864428a686bc0bd1a4a3333acd39fdf75be4ef6b2338336c03ff4007cee130" ++
    "417f22186f9aa0b85e591aeb5b68f2e51a0956691b")

def knownLinks : List (Link × List Nat) :=
  [(aliceGrant,
    [30, 167, 81, 170, 72, 120, 43, 66, 133, 22, 25, 171, 193, 149, 126, 33, 131, 88, 3, 253, 38, 219, 105, 84, 113, 208, 131, 190,
      70, 4, 16, 149]),
   (keptLink,
    [244, 166, 66, 168, 185, 201, 238, 18, 68, 198, 191, 25, 170, 159, 9, 138, 68, 88, 187, 212, 69, 223, 190, 199, 245, 37, 156,
      141, 221, 168, 224, 233]),
   (raisedLink,
    [32, 6, 75, 81, 106, 29, 141, 238, 158, 242, 69, 63, 222, 222, 38, 113, 122, 98, 162, 64, 229, 244, 24, 236, 1, 62, 90, 20, 67,
      254, 21, 217])]

local instance linkPackages : Packages := tablePackages [] (linkTable knownLinks)

theorem bobLink_follows (delegate cap signature : String) : aliceGrant.Follows (bobLink delegate cap signature) where
  parent := rfl
  delegator := rfl
  scopes := List.Subset.refl _
  lifetime := by simp [bobLink, aliceGrant]
  depth := rfl
  maxDepth := rfl

/-- Whatever Bob passes on under his grant is accepted, with any cap. -/
theorem bobLink_verified {delegate cap signature : String} {hash : List Nat}
    (member : (bobLink delegate cap signature, hash) ∈ knownLinks) (given : signature ≠ "") :
    verifyChain [aliceGrant, bobLink delegate cap signature] "" 1000 8453 = [] := by
  have alice : aliceGrant.Stands 1000 8453 :=
    stands_linkTable (.head _ : (aliceGrant, _) ∈ knownLinks) (by decide) (by decide) (by decide) (by decide)
  have bob : (bobLink delegate cap signature).Stands 1000 8453 :=
    stands_linkTable member (by decide) (by decide) (by simp [bobLink]) given
  exact verifyChain_cons.mpr {
    depth := rfl
    parent := rfl
    stands := List.forall_mem_cons.mpr ⟨alice, List.forall_mem_singleton.mpr bob⟩
    follows := List.isChain_pair.mpr (bobLink_follows delegate cap signature)
    length := by simp [aliceGrant, maxDepth]
    held := .inl rfl }

theorem narrows_iff_kept : [aliceGrant, keptLink].IsChain (Link.Narrows 1000) := by
  have member : (keptLink, _) ∈ knownLinks := .tail _ (.head _)
  apply (narrows_iff (bobLink_verified member (by decide))).mpr
  apply List.isChain_pair.mpr
  exact ⟨by decide, 0, 0, rfl, rfl, le_rfl⟩

/-- Bob raises the cap that Alice gave him, and his link is accepted. -/
theorem raised_accepted :
    verifyChain [aliceGrant, raisedLink] "" 1000 8453 = [] ∧ ¬ [aliceGrant, raisedLink].IsChain (Link.Narrows 1000) := by
  have member : (raisedLink, _) ∈ knownLinks := .tail _ (.tail _ (.head _))
  refine ⟨bobLink_verified member (by decide), ?_⟩
  intro narrows
  obtain ⟨asked, held, high, low, capped⟩ := (List.isChain_pair.mp narrows).cap
  obtain rfl : 3 = asked := Except.ok.inj high
  obtain rfl : 0 = held := Except.ok.inj low
  omega

end Raised

end Xcp.DelegationChain

/-! How long an accepted chain may be: as long as its root permits. Only `grant`
holds the root to the limit of the module. -/

namespace Xcp.DelegationChain
open Checked Python Eth

section Depth
variable [Host] [Packages]

/-- The links of a chain lie at the depths 0, 1, 2 and so on under the limit that
its root declares, which leaves room for all of them. -/
structure Bounded (root : Link) (chain : List Link) : Prop where
  depths : ∀ (place : Nat) (link : Link), chain[place]? = some link → link.depth = place ∧ link.maxDepth = root.maxDepth
  length : (chain.length : Int) ≤ root.maxDepth

theorem grant_maxDepth [Accounts] {privateKey : String} {terms : Terms} {now chainId : Int} {root : Link}
    (granted : grant privateKey terms now chainId = .ok root) : root.maxDepth ≤ maxDepth := by
  simp only [grant, signLink, bind_eq_ok, pure_eq_ok] at granted
  obtain ⟨_, _, _, _, _, _, rfl⟩ := granted
  exact max_le (by decide) (min_le_right ..)

/-- An accepted chain is bounded by its root, and where `grant` issued this one by
the limit of the module. -/
theorem chain_depth [Accounts] {chain : List Link} {requiredScope : String} {now chainId : Int}
    (accepted : verifyChain chain requiredScope now chainId = []) :
    ∃ root rest, chain = root :: rest ∧ Bounded root chain ∧
      ∀ privateKey terms issued domain, grant privateKey terms issued domain = .ok root → (chain.length : Int) ≤ maxDepth := by
  obtain ⟨root, rest, rfl, verified⟩ := verifyChain_eq_nil.mp accepted
  refine ⟨root, rest, rfl, ⟨?_, verified.length⟩, ?_⟩
  · intro place link found
    have placed := depth_of_follows verified.follows place link found
    rwa [verified.depth, zero_add] at placed
  · intro privateKey terms issued domain granted
    exact verified.length.trans (grant_maxDepth granted)

end Depth

/-! ### A chain of six links -/

section Hops

local instance hopHost : Host := asciiHost []

def hopNames : List String := ["alice", "bob", "carol", "dave", "erin", "frank", "grace"]

def hopSigners : List String :=
  ["0x328809Bc894f92807417D2dAD6b7C998c1aFdac6",
   "0x1D96F2f6BeF1202E4Ce1Ff6Dad0c2CB002861d3e",
   "0xA4d4c1f8a763Ef6a0140D04291eCEef913Ffc272",
   "0x7E09429585169ABA1759346eb6b94C91f3C7203b",
   "0x36eF4F31F72D1dE7b495F4944Ae6F84C3754941e",
   "0x937ef51F9702747129f7164bb1027B5aB2a93f4E"]

def hopSignatures : List String :=
  ["0xa3825748d20e8911a66679a335c3dfd46dd9019165f73b092b42fad0ea58e11158" ++
     "4bdd65b5a2f21bc29b4f38c501ab8b1fb53c25ff752f03901936e81e7a88be1c",
   "0x40d4ee944ed9adda9292dcfb50e449c4e1968e3371f72fcc99adc61574a264054a" ++
     "5736ecbec4ad864946ee1db710d367d2f26230933b1d6e2b274d12392abc821b",
   "0x3b904af45ece420403bfc93a8ed8a0380609b751c1bd23fe0941fc7a24c576e101" ++
     "2410b8d14394495cd863fa1fc812dc4a37ccc78a3c59b13b58ba530e199d221c",
   "0xea845b0318a8eb210ecb5afa85a52bce901164250033a9c22b5d266262f3da711e" ++
     "0fde304b7e3dd6d9880d79e23615cd9042c1879d9fd7407c0ddd67b8ea57d91b",
   "0x8165c06f0868f6e0e580161b04589513c2f4c979fc57e7f3f74fb61e88e59cf00f" ++
     "08a1b32ba5b2eb4a9ee9f0568689c30b6cf4a03425432dcd05cc226bda12061b",
   "0xc32ed6486b23bd6c2e726e7d81aac6aaa60c25750eca522564d6e74cfc190ebb4f" ++
     "cf1fd6f58740dd7f8e74963fb1f067f602add1974fc5ba5da565d0c7f1b1a61b"]

def hopHashes : List (List Nat) :=
  [[172, 44, 1, 139, 169, 51, 89, 121, 141, 72, 80, 244, 136, 64, 136, 73, 78, 172, 10, 208, 71, 243, 221, 236, 199,
    63, 59, 114, 210, 218, 0, 37],
   [213, 204, 73, 49, 21, 231, 229, 94, 47, 238, 156, 255, 137, 222, 62, 31, 64, 125, 73, 226, 243, 138, 164, 68,
    125, 219, 215, 238, 165, 138, 56, 109],
   [127, 250, 75, 115, 136, 35, 86, 107, 114, 74, 189, 6, 162, 137, 220, 213, 241, 90, 31, 236, 66, 116, 35, 176,
    127, 120, 186, 44, 225, 45, 239, 82],
   [42, 37, 213, 190, 147, 166, 83, 138, 235, 37, 154, 68, 40, 190, 149, 244, 193, 141, 224, 144, 231, 130, 48, 67,
    139, 77, 203, 71, 58, 141, 132, 177],
   [125, 86, 183, 48, 108, 229, 239, 242, 53, 66, 1, 33, 79, 235, 5, 7, 178, 245, 20, 58, 18, 196, 101, 52, 211, 185,
    194, 179, 108, 249, 228, 229],
   [130, 241, 141, 3, 179, 190, 255, 55, 122, 158, 241, 147, 120, 244, 55, 50, 81, 168, 251, 19, 58, 73, 227, 98,
    118, 213, 238, 234, 3, 228, 88, 83]]

def hopLink (place : Nat) (parent : String) : Link where
  delegator := hopNames.getD place ""
  delegate := hopNames.getD (place + 1) ""
  scopes := ["mcp:tools/search"]
  notAfter := 5000
  depth := place
  maxDepth := 6
  parent := parent
  signer := hopSigners.getD place ""
  signature := hopSignatures.getD place ""

/-- Each of them passes on what the one before was given, under a root that
permits six links. -/
def hop : Nat → Link
  | 0 => hopLink 0 ""
  | place + 1 => hopLink (place + 1) (hop place).digest

theorem hop_eq (place : Nat) : ∃ parent, hop place = hopLink place parent := by
  cases place with
  | zero => exact ⟨"", rfl⟩
  | succ place => exact ⟨(hop place).digest, rfl⟩

theorem hop_follows (place : Nat) : (hop place).Follows (hop (place + 1)) := by
  obtain ⟨parent, same⟩ := hop_eq place
  refine ⟨rfl, ?_, ?_, ?_, ?_, ?_⟩ <;> simp [hop, hopLink, same]

def hops : List Link := [hop 0, hop 1, hop 2, hop 3, hop 4, hop 5]

def knownHops : List (Link × List Nat) := hops.zip hopHashes

local instance hopPackages : Packages := tablePackages [] (linkTable knownHops)

local instance hopAccounts : Accounts where
  address := fun _ => raise (.package "ValidationError") ""

theorem hops_stand : ∀ link ∈ hops, link.Stands 1000 8453 := by
  have fields : ∀ entry ∈ knownHops, 1000 < entry.1.notAfter ∧ entry.1.signature ≠ "" := by decide
  intro link member
  have links : knownHops.map Prod.fst = hops := List.map_fst_zip (by decide)
  rw [← links] at member
  obtain ⟨entry, known, rfl⟩ := List.mem_map.mp member
  obtain ⟨lasting, given⟩ := fields entry known
  exact stands_linkTable known (by decide) (by decide) lasting given

theorem hops_verified : verifyChain hops "" 1000 8453 = [] := by
  refine verifyChain_cons.mpr { depth := rfl, parent := rfl, stands := hops_stand, follows := ?_, length := ?_, held := .inl rfl }
  · simp only [List.isChain_cons_cons, hop_follows, List.isChain_singleton, and_self]
  · decide

theorem chain_depth_hops :
    ∃ root rest, hops = root :: rest ∧ Bounded root hops ∧
      ∀ privateKey terms issued domain, grant privateKey terms issued domain = .ok root → (hops.length : Int) ≤ maxDepth :=
  chain_depth hops_verified

/-- A chain of six links is accepted under a root that permits them. -/
theorem hops_accepted : verifyChain hops "" 1000 8453 = [] ∧ ¬ (hops.length : Int) ≤ maxDepth :=
  ⟨hops_verified, by decide⟩

end Hops

end Xcp.DelegationChain
