import Xcp.Library.Keyed
import Xcp.Proofs.CallBinding
import Xcp.TrustFirewall.Delegation

/-! Chains that were issued, from a root grant on: they verify until their last
link expires. -/

namespace Xcp.DelegationChain
open Checked Python Eth
open Stateless (RecoversSigner)

/-! ### What the last link holds -/

section Last
variable [Host]

/-- Authority only shrinks down a chain, so that the last link holds the least. -/
theorem last_least {previous : Link} {rest : List Link} (follows : (previous :: rest).IsChain Link.Follows) :
    ∀ link ∈ previous :: rest, ((previous :: rest).getLast (by simp)).scopes ⊆ link.scopes ∧
      ((previous :: rest).getLast (by simp)).notAfter ≤ link.notAfter := by
  induction rest generalizing previous with
  | nil =>
    intro link member
    obtain rfl := List.mem_singleton.mp member
    exact ⟨List.Subset.refl _, le_rfl⟩
  | cons next rest ih =>
    obtain ⟨first, later⟩ := List.isChain_cons_cons.mp follows
    rw [List.getLast_cons (by simp)]
    intro link member
    obtain rfl | inside := List.mem_cons.mp member
    · obtain ⟨scopes, lifetime⟩ := ih later next (List.mem_cons_self ..)
      exact ⟨List.Subset.trans scopes first.scopes, lifetime.trans first.lifetime⟩
    · exact ih later link inside

omit [Host] in
theorem mem_effectiveScopes {root : Link} {rest : List Link} {scope : String} :
    scope ∈ effectiveScopes (root :: rest) ↔ ∀ link ∈ root :: rest, scope ∈ link.scopes := by
  have folded (held : Finset String) : scope ∈ rest.foldl (fun held link => held ∩ link.scopes.toFinset) held ↔
      scope ∈ held ∧ ∀ link ∈ rest, scope ∈ link.scopes := by
    induction rest generalizing held with
    | nil => simp
    | cons link rest ih => simp [ih, and_assoc]
  rw [effectiveScopes, folded, List.mem_toFinset, List.forall_mem_cons]

theorem effectiveScopes_eq_last {root : Link} {rest : List Link} (follows : (root :: rest).IsChain Link.Follows) :
    effectiveScopes (root :: rest) = ((root :: rest).getLast (by simp)).scopes.toFinset := by
  ext scope
  rw [mem_effectiveScopes, List.mem_toFinset]
  constructor
  · intro held
    exact held _ (List.getLast_mem _)
  · intro held link member
    exact (last_least follows link member).1 held

end Last

/-! ### Issuing -/

section Issuing
variable [Host] [Packages] [Accounts]

/-- Chains of a root grant and of links that were passed on below it, one after the
other, whatever their keys and instants. -/
inductive Issued (chainId : Int) : List Link → Prop where
  | granted {privateKey : String} {terms : Terms} {now : Int} {root : Link}
      (granted : grant privateKey terms now chainId = .ok root) : Issued chainId [root]
  | extended {chain : List Link} {privateKey : String} {parent : Link} {request : Request} {now : Int} {link : Link}
      (issued : Issued chainId (chain ++ [parent])) (passed : extend privateKey parent request now chainId = .ok link) :
      Issued chainId (chain ++ [parent] ++ [link])

/-- A link that was signed by the signer that it declares. -/
def Link.Sealed (chainId : Int) (link : Link) : Prop := link.signature ≠ "" ∧ link.SignedBy chainId link.signer

/-- A chain that verifies while all of its links last. -/
structure Sound (chainId : Int) (root : Link) (rest : List Link) : Prop where
  depth : root.depth = 0
  parent : root.parent = ""
  sealed : ∀ link ∈ root :: rest, link.Sealed chainId
  follows : (root :: rest).IsChain Link.Follows
  length : ((root :: rest).length : Int) ≤ root.maxDepth

omit [Accounts] in
theorem Sound.verified {chainId : Int} {root : Link} {rest : List Link} (sound : Sound chainId root rest) {now : Int}
    {requiredScope : String} (lasting : now < ((root :: rest).getLast (by simp)).notAfter)
    (held : requiredScope = "" ∨ requiredScope ∈ ((root :: rest).getLast (by simp)).scopes) :
    verifyChain (root :: rest) requiredScope now chainId = [] := by
  refine verifyChain_cons.mpr {
    depth := sound.depth, parent := sound.parent, stands := ?_, follows := sound.follows, length := sound.length, held }
  intro link member
  obtain ⟨given, signed⟩ := sound.sealed link member
  have later := (last_least sound.follows link member).2
  exact ⟨lasting.trans_le later, given, link.signer, signed, fun _ => rfl⟩

theorem signLink_sealed (recovers : RecoversSigner) {privateKey : String} {unsigned link : Link} {chainId : Int}
    (signed : signLink privateKey unsigned chainId = .ok link) :
    link.Sealed chainId ∧ ∃ signer signature, link = { unsigned with signer, signature } := by
  simp only [signLink, bind_eq_ok, pure_eq_ok] at signed
  obtain ⟨address, known, signable, encoded, signature, made, rfl⟩ := signed
  refine ⟨⟨?_, signable, encoded, recovers _ _ _ _ known made⟩, address, _, rfl⟩
  simp

/-- A root grant permits at least itself. -/
theorem grant_sound (recovers : RecoversSigner) {privateKey : String} {terms : Terms} {now chainId : Int} {root : Link}
    (granted : grant privateKey terms now chainId = .ok root) : Sound chainId root [] := by
  obtain ⟨sealed, signer, signature, rfl⟩ := signLink_sealed recovers granted
  exact {
    depth := rfl
    parent := rfl
    sealed := List.forall_mem_singleton.mpr sealed
    follows := .singleton _
    length := le_max_left .. }

/-- What is passed on follows the link that it was passed on from, which has room
for it. -/
theorem extend_follows (recovers : RecoversSigner) {privateKey : String} {parent link : Link} {request : Request}
    {now chainId : Int} (passed : extend privateKey parent request now chainId = .ok link) :
    link.Sealed chainId ∧ parent.Follows link ∧ parent.depth + 1 < parent.maxDepth := by
  simp only [extend, bind_eq_ok] at passed
  obtain ⟨unsigned, made, signed⟩ := passed
  obtain ⟨allowed, rfl⟩ := Request.link_eq_ok.mp made
  obtain ⟨sealed, signer, signature, rfl⟩ := signLink_sealed recovers signed
  refine ⟨sealed, ?_, allowed.room⟩
  exact {
    parent := rfl
    delegator := rfl
    scopes := fun scope member => allowed.held (mem_sortedSet.mp member)
    lifetime := min_le_left ..
    depth := rfl
    maxDepth := rfl }

omit [Accounts] in
theorem Sound.extended {chainId : Int} {root parent link : Link} {rest chain : List Link} (sound : Sound chainId root rest)
    (whole : root :: rest = chain ++ [parent]) (sealed : link.Sealed chainId) (follows : parent.Follows link)
    (room : parent.depth + 1 < parent.maxDepth) : Sound chainId root (rest ++ [link]) := by
  have found : (root :: rest)[chain.length]? = some parent := by simp [whole]
  obtain ⟨depth, limit⟩ := depth_of_follows sound.follows chain.length parent found
  have total : (root :: rest).length = chain.length + 1 := by simp [whole]
  refine { depth := sound.depth, parent := sound.parent, sealed := ?_, follows := ?_, length := ?_ }
  · intro other member
    rw [← List.cons_append, List.mem_append, List.mem_singleton] at member
    obtain inside | rfl := member
    · exact sound.sealed other inside
    · exact sealed
  · rw [← List.cons_append, List.isChain_append]
    refine ⟨sound.follows, .singleton link, ?_⟩
    simp [whole, follows]
  · rw [← List.cons_append, List.length_append, total, List.length_singleton]
    rw [depth, limit, sound.depth] at room
    omega

theorem Issued.sound (recovers : RecoversSigner) {chainId : Int} {chain : List Link} (issued : Issued chainId chain) :
    ∃ root rest, chain = root :: rest ∧ Sound chainId root rest := by
  induction issued with
  | granted granted => exact ⟨_, [], rfl, grant_sound recovers granted⟩
  | extended issued passed ih =>
    obtain ⟨root, rest, whole, sound⟩ := ih
    obtain ⟨sealed, follows, room⟩ := extend_follows recovers passed
    refine ⟨root, rest ++ [_], ?_, sound.extended whole.symm sealed follows room⟩
    rw [whole, List.cons_append]

/-- An issued chain verifies until its last link expires, which holds what is
effective, no more than the root grants; it is as long as its root permits. -/
theorem issued_verifies (recovers : RecoversSigner) {chainId : Int} {chain : List Link} (issued : Issued chainId chain) :
    ∃ root last, chain.head? = some root ∧ chain.getLast? = some last ∧
      (∀ now requiredScope, now < last.notAfter → requiredScope = "" ∨ requiredScope ∈ last.scopes →
        verifyChain chain requiredScope now chainId = []) ∧
      effectiveScopes chain = last.scopes.toFinset ∧ last.scopes.toFinset ⊆ root.scopes.toFinset ∧
      (chain.length : Int) ≤ root.maxDepth := by
  obtain ⟨root, rest, rfl, sound⟩ := issued.sound recovers
  refine ⟨root, _, rfl, List.getLast?_eq_getLast_of_ne_nil (by simp), ?_, ?_, ?_, sound.length⟩
  · intro now requiredScope lasting held
    exact sound.verified lasting held
  · exact effectiveScopes_eq_last sound.follows
  · intro scope held
    rw [List.mem_toFinset] at held ⊢
    exact (last_least sound.follows root (List.mem_cons_self ..)).1 held

end Issuing

/-! ### A chain of two links -/

section Passed

local instance passedHost : Host := asciiHost []

def aliceKey : String := "0x9c0257114eb9399a2985f8e75dad7600c5d89fe3824ffa99ec1c3eb8bf3b0501"

def bobKey : String := "0x38e47a7b719dce63662aeaf43440326f551b8a7ee198cee35cb5d517f2d296a2"

def aliceTerms : Terms where
  delegator := "alice"
  delegate := "bob"
  scopes := ["mcp:tools/search"]
  ttl := 4000

def aliceIssued : KeyedMessage where
  message := (aliceTerms.link 1000).typed 8453
  hash := [30, 167, 81, 170, 72, 120, 43, 66, 133, 22, 25, 171, 193, 149, 126, 33, 131, 88, 3, 253, 38, 219, 105, 84, 113, 208, 131,
    190, 70, 4, 16, 149]
  key := aliceKey
  signature := [205, 82, 186, 145, 39, 150, 196, 197, 147, 30, 216, 16, 120, 141, 115, 131, 92, 20, 26, 34, 140, 148, 211, 49, 40,
    160, 16, 246, 128, 221, 38, 219, 109, 140, 29, 16, 117, 11, 66, 202, 71, 232, 231, 101, 223, 36, 172, 222, 220, 86, 117, 30, 211,
    237, 55, 10, 127, 186, 192, 155, 9, 166, 216, 240, 28]
  signer := "0x328809Bc894f92807417D2dAD6b7C998c1aFdac6"

def rootLink : Link :=
  { aliceTerms.link 1000 with signer := aliceIssued.signer, signature := "0x" ++ toHex aliceIssued.signature }

def bobRequest : Request where
  delegate := "carol"
  scopes := ["mcp:tools/search"]
  ttl := some 3000

def bobIssued : KeyedMessage where
  message := (bobRequest.made rootLink 1000).typed 8453
  hash := [244, 166, 66, 168, 185, 201, 238, 18, 68, 198, 191, 25, 170, 159, 9, 138, 68, 88, 187, 212, 69, 223, 190, 199, 245, 37,
    156, 141, 221, 168, 224, 233]
  key := bobKey
  signature := [119, 161, 202, 102, 211, 163, 22, 64, 215, 65, 40, 94, 128, 228, 14, 164, 133, 10, 226, 111, 23, 166, 31, 44, 16,
    119, 51, 112, 23, 65, 82, 55, 85, 212, 234, 232, 230, 199, 181, 153, 209, 165, 43, 48, 181, 31, 10, 37, 147, 49, 160, 209, 143, 31,
    194, 152, 60, 2, 153, 140, 150, 34, 45, 58, 28]
  signer := "0x1D96F2f6BeF1202E4Ce1Ff6Dad0c2CB002861d3e"

def passedLink : Link :=
  { bobRequest.made rootLink 1000 with signer := bobIssued.signer, signature := "0x" ++ toHex bobIssued.signature }

def passedMessages : List KeyedMessage := [aliceIssued, bobIssued]

local instance passedPackages : Packages := keyedPackages [] passedMessages

local instance passedAccounts : Accounts := keyedAccounts passedMessages

theorem passed_distinct : (passedMessages.map KeyedMessage.hash).Nodup := by
  decide

theorem passed_owners : OneOwner passedMessages := by
  unfold OneOwner
  decide

theorem passed_recovers : RecoversSigner :=
  keyedPackages_recover [] passed_owners passed_distinct

theorem signLink_keyed (known : KeyedMessage) (member : known ∈ passedMessages) {unsigned : Link}
    (message : unsigned.typed 8453 = known.message)
    (found : passedMessages.find? (fun other => other.message = known.message) = some known) :
    signLink known.key unsigned 8453 =
      .ok { unsigned with signer := known.signer, signature := "0x" ++ toHex known.signature } := by
  have address := address_keyedAccounts passed_owners member
  have encoded := encode_keyedPackages [] found
  have signed := sign_keyedPackages [] passed_distinct member
  rw [signLink, address, ok_bind, message, encoded, ok_bind, signed]
  rfl

theorem rootLink_granted : grant aliceKey aliceTerms 1000 8453 = .ok rootLink :=
  signLink_keyed aliceIssued (.head _) rfl (by simp [passedMessages])

theorem passedLink_passed : extend bobKey rootLink bobRequest 1000 8453 = .ok passedLink := by
  have made : bobRequest.link rootLink 1000 = .ok (bobRequest.made rootLink 1000) := by
    refine Request.link_eq_ok.mpr ⟨⟨by decide, by decide, by decide, by decide, 0, 0, rfl, rfl, le_rfl⟩, rfl⟩
  have other : aliceIssued.message ≠ bobIssued.message := by
    simp [aliceIssued, bobIssued, Link.typed, Terms.link, Request.made, aliceTerms, bobRequest]
  rw [extend, made, ok_bind]
  exact signLink_keyed bobIssued (.tail _ (.head _)) rfl (by simp [passedMessages, other])

theorem issued_verifies_passed :
    verifyChain [rootLink, passedLink] "mcp:tools/search" 2000 8453 = [] ∧
      effectiveScopes [rootLink, passedLink] = {"mcp:tools/search"} := by
  have issued : Issued 8453 ([] ++ [rootLink] ++ [passedLink]) := .extended (.granted rootLink_granted) passedLink_passed
  obtain ⟨root, last, first, final, verifies, effective, _⟩ := issued_verifies passed_recovers issued
  obtain rfl : passedLink = last := Option.some.inj final
  exact ⟨verifies 2000 _ (by decide) (.inr (by decide)), effective⟩

end Passed

end Xcp.DelegationChain
