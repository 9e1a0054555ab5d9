import Mathlib.Data.List.Lex
import Xcp.Library.Merkle
import Xcp.Verifier.Mandate

/-! What an answer of the mandate gate proves. The leaf is looked up in the tree
of the session's mandates, and the scopes and the expiry are read beside it:
nothing ties them to the fields that the leaf is the hash of. -/

namespace Xcp.Verifier
open Checked Python Eth Client

section Soundness
variable [Host] [Packages]

/-! ### The tree -/

/-- A request whose path leads from the bytes of its leaf to the root. -/
structure Inclusion (root proof : Json) (leaf : List Nat) : Prop where
  bytes : ∃ text, proof.item "leaf" = .ok text ∧ hexBytes text = .ok leaf
  climbs : ∃ path items siblings top, proof.item "proof" = .ok path ∧ path.toList = .ok items ∧
    items.mapM hexBytes = .ok siblings ∧ hexBytes root = .ok top ∧
    Merkle.climb (fun first second => Packages.keccak (first ++ second)) leaf siblings = top

omit [Host] in
theorem joinNodes_eq (node sibling : List Nat) :
    joinNodes node sibling = Merkle.join (fun first second => Packages.keccak (first ++ second)) node sibling := by
  unfold joinNodes Merkle.join
  rcases lt_trichotomy node sibling with below | rfl | above
  · rw [if_pos below.le, if_pos below]
  · rw [if_pos le_rfl, if_neg (lt_irrefl _)]
  · rw [if_neg above.not_ge, if_neg above.not_gt]

omit [Host] in
theorem climbsTo_siblings (node : List Nat) (items : List Json) :
    items.foldlM (fun node sibling => joinNodes node <$> hexBytes sibling) node =
      (do
        let siblings ← items.mapM hexBytes
        return Merkle.climb (fun first second => Packages.keccak (first ++ second)) node siblings : Raises (List Nat)) := by
  induction items generalizing node with
  | nil => rfl
  | cons item rest ih =>
    rw [List.foldlM_cons, List.mapM_cons]
    cases hexBytes item with
    | error exception => rfl
    | ok sibling =>
      have next : joinNodes node <$> (Except.ok sibling : Raises (List Nat)) = .ok (joinNodes node sibling) := rfl
      rw [next, ok_bind, ih, ok_bind, joinNodes_eq]
      cases rest.mapM hexBytes <;> rfl

omit [Host] in
theorem verifyMerkle_true {leaf path root : Json} (verified : verifyMerkle leaf path root = true) :
    ∃ bytes items siblings top, hexBytes leaf = .ok bytes ∧ path.toList = .ok items ∧ items.mapM hexBytes = .ok siblings ∧
      hexBytes root = .ok top ∧ Merkle.climb (fun first second => Packages.keccak (first ++ second)) bytes siblings = top := by
  unfold verifyMerkle at verified
  split at verified
  next inside climbed =>
    simp only [climbsTo, climbsTo_siblings, bind_eq_ok, pure_eq_ok] at climbed
    obtain ⟨bytes, read, items, listed, _, ⟨siblings, decoded, rfl⟩, top, rooted, rfl⟩ := climbed
    exact ⟨bytes, items, siblings, top, read, listed, decoded, rooted, of_decide_eq_true verified⟩
  next => cases verified

/-! ### What is sound -/

/-- A scope of the mandate covers the one that is asked for. -/
def Grants (mandate : Mandate) (scope : Json) : Prop :=
  ∃ granted ∈ mandate.scope, scopeCovers (.str granted) scope = .ok true

/-- The leaf that is proven is the hash of a mandate that grants the scope and
has not lapsed. -/
def Sound (now : Rat) (root scope proof : Json) : Prop :=
  ∃ leaf mandate, Inclusion root proof leaf ∧ leaf = mandate.leafBytes ∧ Grants mandate scope ∧ truncate now ≤ mandate.notAfter

omit [Host] in
theorem inclusion_of_path {root proof path leaf : Json} (tree : root.truthy = true) (given : proof.item "proof" = .ok path)
    (some : path ≠ .null) (named : proof.item "leaf" = .ok leaf) (inside : included root proof = .ok true) {bytes : List Nat}
    (read : hexBytes leaf = .ok bytes) : Inclusion root proof bytes := by
  simp only [included, Json.get_of_item given, tree, some, named, ok_bind, ne_eq, not_false_eq_true, decide_true, Bool.and_self,
    if_true, pure_eq_ok] at inside
  obtain ⟨node, items, siblings, top, spelled, listed, decoded, rooted, climbs⟩ := verifyMerkle_true inside
  obtain rfl := Except.ok.inj (read.symm.trans spelled)
  exact ⟨⟨leaf, named, read⟩, path, items, siblings, top, given, listed, decoded, rooted, climbs⟩

theorem hexBytes_leaf (ideal : IdealHash) (mandate : Mandate) : hexBytes (.str mandate.leaf) = .ok mandate.leafBytes := by
  have marked : startsWith mandate.leaf "0x" = true := by
    simp [startsWith, Mandate.leaf, digest]
  have text : (Json.str mandate.leaf).asStr "startswith" = .ok mandate.leaf := rfl
  rw [hexBytes, text, ok_bind, if_pos marked]
  exact fromHex_digest ideal _

omit [Host] [Packages] in
theorem lapsed_of_int {now : Rat} {proof : Json} {notAfter : Int} (held : proof.item "notAfter" = .ok (.int notAfter)) :
    lapsed now proof = .ok false ↔ (notAfter ≠ 0 → truncate now ≤ notAfter) := by
  have read : proof.getInt "notAfter" 0 = .ok notAfter := by
    rw [Json.getInt, Json.get_of_item held, ok_bind]
    rfl
  simp only [lapsed, read, held, ok_bind, Json.toInt, andThen_eq_false, decide_eq_true_eq, pure_eq_ok,
    decide_eq_false_iff_not, not_lt]

theorem honest_sound (ideal : IdealHash) {chainId : Json} {now : Rat} {root scope : Json} {mandate : Mandate} {proof : List String}
    {signature : String} (accepted : Accepted chainId now root scope (mandate.toHeader proof signature))
    (tree : root.truthy = true) (asked : scope.truthy = true) (some : mandate.scope ≠ []) (expires : mandate.notAfter ≠ 0) :
    Sound now root scope (mandate.toHeader proof signature) := by
  refine ⟨_, mandate, inclusion_of_path tree rfl ?_ rfl accepted.inside (hexBytes_leaf ideal mandate), rfl, ?_, ?_⟩
  · simp
  · have scopes : (mandate.toHeader proof signature).get "mandateScope" (.list []) =
        .ok (.list (mandate.scope.map Json.str)) := rfl
    have texts : (Json.list (mandate.scope.map Json.str)).truthy = true := by simp [Json.truthy, some]
    have covered := accepted.covered
    simp only [granted, scopes, asked, texts, ok_bind, Bool.and_self, if_true, Json.toList] at covered
    obtain ⟨_, member, covers⟩ := anyCovers_true covered
    obtain ⟨text, listed, rfl⟩ := List.mem_map.mp member
    exact ⟨text, listed, covers⟩
  · exact (lapsed_of_int rfl).mp accepted.live expires

end Soundness

/-! ### A leaf that is presented with other fields -/

section Reader

local instance readerHost : Host := asciiHost []

def readerMandate : Mandate where
  mandateId := "m"
  delegator := "d"
  scope := ["mcp:tools/read"]
  notAfter := 10

def readerHashes : List (List Nat × List Nat) :=
  [(utf8 readerMandate.canonical, [117, 133, 55, 122, 223, 125, 18, 254, 241, 82, 87, 252, 8, 23, 138, 48, 227, 90, 70, 97, 112,
    131, 134, 158, 16, 95, 25, 247, 112, 139, 216, 116])]

local instance readerPackages : Packages := tablePackages readerHashes []

end Reader

end Xcp.Verifier
