import Xcp.Client.Mandate
import Xcp.Library.Url

/-! The verifier's mandate gate. Each of its four checks is made only where the
request has the members that it reads. -/

namespace Xcp.Verifier
open Checked Python Http Eth

section Checks
variable [Host]

/-- A granted scope like "mcp:tools/research.*" covers "mcp:tools/research.fetch". -/
def scopeCovers (granted requested : Json) : Raises Bool := do
  let text ← granted.asStr "endswith"
  if endsWith text "*" then (do
    let wanted ← requested.asStr "startswith"
    return startsWith wanted (dropEnd text 1) : Raises Bool)
  else return (Json.str text).same requested

def anyCovers (requested : Json) : List Json → Raises Bool
  | [] => .ok false
  | granted :: rest => do
    let covers ← scopeCovers granted requested
    if covers then return true else anyCovers requested rest

omit [Host] in
theorem anyCovers_true {requested : Json} {scopes : List Json} (covered : anyCovers requested scopes = .ok true) :
    ∃ granted ∈ scopes, scopeCovers granted requested = .ok true := by
  induction scopes with
  | nil => cases covered
  | cons granted rest ih =>
    simp only [anyCovers, bind_eq_ok] at covered
    obtain ⟨covers, tested, covered⟩ := covered
    cases covers with
    | true => exact ⟨granted, List.mem_cons_self .., tested⟩
    | false =>
      obtain ⟨other, member, covers⟩ := ih covered
      exact ⟨other, List.mem_cons_of_mem _ member, covers⟩

/-- The bytes of a hex string with or without its prefix. -/
def hexBytes (value : Json) : Raises (List Nat) := do
  let text ← value.asStr "startswith"
  fromHex (if startsWith text "0x" then dropStart text 2 else text)

def joinNodes [Packages] (node sibling : List Nat) : List Nat :=
  Packages.keccak (if node ≤ sibling then node ++ sibling else sibling ++ node)

/-- The node that a leaf and its siblings lead to, which is to be the root. -/
def climbsTo [Packages] (leaf proof root : Json) : Raises Bool := do
  let node ← hexBytes leaf
  let siblings ← proof.toList
  let node ← siblings.foldlM (fun node sibling => joinNodes node <$> hexBytes sibling) node
  let root ← hexBytes root
  return node = root

/-- Nothing that raises on the way is a proof. -/
def verifyMerkle [Packages] (leaf proof root : Json) : Bool :=
  match climbsTo leaf proof root with
  | .ok included => included
  | .error _ => false

def verifySponsorSig [Packages] (chainId mandateId delegator scope : Json) (notAfter : Int) (signature : Json) :
    Option String :=
  let recovered : Raises String := do
    let signable ← Packages.encode (Client.typed chainId mandateId delegator scope notAfter)
    Packages.recover signable (.given signature)
  recovered.toOption

/-! ### The four checks -/

/-- A time of zero is none. -/
def lapsed (now : Rat) (proof : Json) : Raises Bool := do
  let notAfter ← proof.getInt "notAfter" 0
  andThen (notAfter ≠ 0) (do
    let value ← proof.item "notAfter"
    let notAfter ← value.toInt
    return notAfter < truncate now)

def included [Packages] (root proof : Json) : Raises Bool := do
  let path ← proof.get "proof"
  if root.truthy && path ≠ .null then (do
    let leaf ← proof.item "leaf"
    return verifyMerkle leaf path root : Raises Bool)
  else return true

/-- Whether the signature, where there is one, has a signer. -/
def sponsor [Packages] (chainId proof : Json) : Raises (Bool × Option String) := do
  let signature ← proof.get "signature" (.str "")
  if signature.truthy then (do
    let mandateId ← proof.get "mandateId" (.str "")
    let delegator ← proof.get "delegator" (.str "")
    let scope ← proof.get "mandateScope" (.list [])
    let notAfter ← proof.getInt "notAfter" 0
    let signer := verifySponsorSig chainId mandateId delegator scope notAfter signature
    return (signer.isSome, signer) : Raises (Bool × Option String))
  else return (true, none)

def granted (scope proof : Json) : Raises Bool := do
  let scopes ← proof.get "mandateScope" (.list [])
  if scope.truthy && scopes.truthy then (do
    let scopes ← scopes.toList
    anyCovers scope scopes : Raises Bool)
  else return true

end Checks

def refusal (reason : String) : Response where
  body := .dict [("ok", .bool false), ("reason", .str reason)]

variable [Host] [Packages]

/-- The endpoint; every check that fails answers for itself. -/
def mandate (chainId : Json) (now : Rat) (body : Json) : Handler Response := do
  let root ← attempt (body.get "mandateRoot" (.str ""))
  let scope ← attempt (body.get "scope" (.str ""))
  let proof ← attempt (body.get "proof" (.dict []))
  let presented ← attempt (andThen proof.truthy (proof.contains "leaf"))
  let _ ← require (presented = true) (refusal "no mandate proof")
  let late ← attempt (lapsed now proof)
  let _ ← require (late = false) (refusal "mandate expired")
  let inside ← attempt (included root proof)
  let _ ← require (inside = true) (refusal "merkle inclusion failed")
  let signed ← attempt (sponsor chainId proof)
  let _ ← require (signed.1 = true) (refusal "bad sponsor signature")
  let covered ← attempt (granted scope proof)
  let _ ← require (covered = true) (refusal s!"scope {scope.toStr} not granted")
  return { body := .dict [("ok", .bool true), ("signer", (signed.2.map Json.str).getD .null)] }

/-- What the endpoint has accepted when it answers that all is well. -/
structure Accepted (chainId : Json) (now : Rat) (root scope proof : Json) : Prop where
  presented : andThen proof.truthy (proof.contains "leaf") = .ok true
  live : lapsed now proof = .ok false
  inside : included root proof = .ok true
  signed : ∃ signer, sponsor chainId proof = .ok (true, signer)
  covered : granted scope proof = .ok true

structure Reads (body root scope proof : Json) : Prop where
  root : body.get "mandateRoot" (.str "") = .ok root
  scope : body.get "scope" (.str "") = .ok scope
  proof : body.get "proof" (.dict []) = .ok proof

theorem mandate_accepts {chainId : Json} {now : Rat} {body root scope proof : Json} (reads : Reads body root scope proof) :
    (∃ response, mandate chainId now body = .ok response) ↔ Accepted chainId now root scope proof := by
  simp only [mandate, reads.root, reads.scope, reads.proof, attempt_ok, ok_bind, bind_eq_ok, attempt_eq_ok, require_eq_ok]
  constructor
  · rintro ⟨response, _, presented, _, rfl, _, live, _, rfl, _, inside, _, rfl, ⟨_, signer⟩, signed, _, rfl, _, covered, _,
      rfl, _⟩
    exact ⟨presented, live, inside, ⟨signer, signed⟩, covered⟩
  · rintro ⟨presented, live, inside, ⟨signer, signed⟩, covered⟩
    exact ⟨_, true, presented, (), rfl, false, live, (), rfl, true, inside, (), rfl, (true, signer), signed, (), rfl, true,
      covered, (), rfl, rfl⟩

end Xcp.Verifier
