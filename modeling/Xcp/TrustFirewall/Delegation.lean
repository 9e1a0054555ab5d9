import Mathlib.Data.Finset.Basic
import Mathlib.Data.List.Dedup
import Xcp.Library.Dumps
import Xcp.Library.Eth
import Xcp.Library.Sha256

/-! Authority that can be passed on, and only downward: a chain of links, each
signed by whoever passes something on. `now` is the instant that the caller gave,
or else that of the clock. -/

namespace Xcp.DelegationChain
open Checked Python Eth Sha256

def maxDepth : Int := 5

def defaultTtl : Int := 300

def delegationError {α : Type} (text : String) : Raises α := raise (.package "DelegationError") text

def sortedTexts (texts : List String) : List String := texts.insertionSort (fun first second => first ≤ second)

/-- `sorted(set(texts))`. -/
def sortedSet (texts : List String) : List String := sortedTexts texts.dedup

theorem mem_sortedSet {texts : List String} {text : String} : text ∈ sortedSet texts ↔ text ∈ texts := by
  rw [sortedSet, sortedTexts, List.mem_insertionSort, List.mem_dedup]

def textList (texts : List String) : Json := .list (texts.map Json.str)

def digestOf [Host] (value : Json) : String := "0x" ++ toHex (sha256 (utf8 (value.dumps .compact)))

/-- One hop, naming exactly what it passes on. The digest of the link above it is
its parent, or nothing at the root. -/
structure Link where
  delegator : String
  delegate : String
  scopes : List String
  notAfter : Int
  depth : Int
  maxDepth : Int := DelegationChain.maxDepth
  parent : String := ""
  reversibilityCap : String := "reversible"
  signer : String := ""
  signature : String := ""
deriving DecidableEq

namespace Link

def payload (link : Link) : Json :=
  .dict [("delegator", .str link.delegator), ("delegate", .str link.delegate), ("scopes", textList link.scopes),
    ("notAfter", .int link.notAfter), ("depth", .int link.depth), ("maxDepth", .int link.maxDepth),
    ("parent", .str link.parent), ("reversibilityCap", .str link.reversibilityCap)]

variable [Host]

def digest (link : Link) : String := digestOf link.payload

def typed (link : Link) (chainId : Int) : TypedData where
  domain := "XCPDelegation"
  primaryType := "Delegation"
  fields := [("delegator", "string"), ("delegate", "string"), ("scopeDigest", "string"), ("notAfter", "uint64"),
    ("depth", "uint8"), ("maxDepth", "uint8"), ("parent", "string"), ("reversibilityCap", "string")]
  chainId := .int chainId
  message := .dict [("delegator", .str link.delegator), ("delegate", .str link.delegate),
    ("scopeDigest", .str (digestOf (textList (sortedTexts link.scopes)))), ("notAfter", .int link.notAfter),
    ("depth", .int link.depth), ("maxDepth", .int link.maxDepth), ("parent", .str link.parent),
    ("reversibilityCap", .str link.reversibilityCap)]

end Link

/-! ### Issuing -/

/-- What a root grant is asked for. -/
structure Terms where
  delegator : String
  delegate : String
  scopes : List String
  ttl : Int := defaultTtl
  maxDepth : Int := DelegationChain.maxDepth
  reversibilityCap : String := "reversible"

/-- What a link below another one is asked for. -/
structure Request where
  delegate : String
  scopes : List String
  ttl : Option Int := none
  reversibilityCap : Option String := none

/-- The four caps, from the least that is allowed to the most. -/
def capOrder : List String := ["reversible", "recoverable", "costly", "irreversible"]

def capIndex (cap : String) : Raises Nat :=
  match capOrder.idxOf? cap with
  | some place => .ok place
  | none => raise .valueError "tuple.index(x): x not in tuple"

/-- The ceiling for everything beneath it. -/
def Terms.link (terms : Terms) (now : Int) : Link where
  delegator := terms.delegator
  delegate := terms.delegate
  scopes := sortedSet terms.scopes
  notAfter := now + terms.ttl
  depth := 0
  maxDepth := max 1 (min terms.maxDepth DelegationChain.maxDepth)
  parent := ""
  reversibilityCap := terms.reversibilityCap

section Issuing
variable [Host]

def Request.cap (request : Request) (parent : Link) : String :=
  (request.reversibilityCap.filter (· ≠ "")).getD parent.reversibilityCap

def Request.notAfter (request : Request) (parent : Link) (now : Int) : Int :=
  min parent.notAfter (now + (request.ttl.filter (· ≠ 0)).getD defaultTtl)

/-- The link that a request makes below its parent, before it is signed. -/
def Request.made (request : Request) (parent : Link) (now : Int) : Link where
  delegator := parent.delegate
  delegate := request.delegate
  scopes := sortedSet request.scopes
  notAfter := request.notAfter parent now
  depth := parent.depth + 1
  maxDepth := parent.maxDepth
  parent := parent.digest
  reversibilityCap := request.cap parent

/-- What would pass on more than the parent holds is refused at the point of issue. -/
def Request.link (request : Request) (parent : Link) (now : Int) : Raises Link := do
  let beyond := request.scopes.filter (fun scope => !parent.scopes.contains scope)
  if request.scopes = [] then delegationError "a delegation with no scopes grants nothing"
  else if beyond ≠ [] then
    delegationError ("cannot delegate scopes the delegator does not hold: " ++
      Host.repr (textList (sortedSet beyond)))
  else if parent.maxDepth ≤ parent.depth + 1 then
    delegationError s!"delegation depth {parent.maxDepth} reached; a chain cannot extend its own limit"
  else if request.notAfter parent now ≤ now then delegationError "parent delegation has already expired"
  else do
    let asked ← capIndex (request.cap parent)
    let held ← capIndex parent.reversibilityCap
    if held < asked then
      delegationError s!"cannot raise the reversibility cap from {parent.reversibilityCap} to {request.cap parent}"
    else return request.made parent now

variable [Packages] [Accounts]

def signLink (privateKey : String) (link : Link) (chainId : Int) : Raises Link := do
  let address ← Accounts.address privateKey
  let signable ← Packages.encode (link.typed chainId)
  let signature ← Packages.sign signable privateKey
  return { link with signer := address, signature := "0x" ++ toHex signature }

def grant (privateKey : String) (terms : Terms) (now chainId : Int) : Raises Link :=
  signLink privateKey (terms.link now) chainId

def extend (privateKey : String) (parent : Link) (request : Request) (now chainId : Int) : Raises Link := do
  let link ← request.link parent now
  signLink privateKey link chainId

end Issuing

/-! ### Verification -/

section Verification
variable [Host]

/-- The problems of a link beneath another one. -/
def Link.followProblems (link previous : Link) (place : Nat) : List String :=
  let beyond := link.scopes.filter (fun scope => !previous.scopes.contains scope)
  problemIf (link.parent ≠ previous.digest) s!"link {place} does not follow link {place - 1}" ++
    problemIf (link.delegator ≠ previous.delegate)
      s!"link {place} is issued by {link.delegator}, but link {place - 1} delegated to {previous.delegate}" ++
    problemIf (beyond ≠ []) (s!"link {place} WIDENS scope beyond its parent: " ++ Host.repr (textList (sortedSet beyond))) ++
    problemIf (previous.notAfter < link.notAfter) s!"link {place} outlives its parent" ++
    problemIf (link.depth ≠ previous.depth + 1) s!"link {place} has a non-sequential depth" ++
    problemIf (link.maxDepth ≠ previous.maxDepth) s!"link {place} changes the depth limit"

variable [Packages]

def Link.signatureProblems (link : Link) (place : Nat) (chainId : Int) : List String :=
  if link.signature = "" then [s!"link {place} is unsigned"]
  else
    let recovered : Raises String := do
      let signable ← Packages.encode (link.typed chainId)
      Packages.recover signable (.given (.str link.signature))
    match recovered with
    | .ok recovered =>
      problemIf (link.signer ≠ "" && lower recovered ≠ lower link.signer) s!"link {place} signature does not match signer"
    | .error exception => [s!"link {place} signature failed to recover: {exception.text}"]

/-- The problems of a link by itself. -/
def Link.ownProblems (link : Link) (place : Nat) (now chainId : Int) : List String :=
  problemIf (link.notAfter ≤ now) s!"link {place} has expired" ++ link.signatureProblems place chainId

def laterProblems (now chainId : Int) (previous : Link) (place : Nat) : List Link → List String
  | [] => []
  | link :: rest =>
    link.ownProblems place now chainId ++ link.followProblems previous place ++
      laterProblems now chainId link (place + 1) rest

/-- The problems of a chain, root first; none means that the final delegate holds
what it claims. -/
def verifyChain (chain : List Link) (requiredScope : String) (now chainId : Int) : List String :=
  match chain with
  | [] => ["empty delegation chain"]
  | root :: rest =>
    problemIf (root.depth ≠ 0 || root.parent ≠ "") "chain does not start at a root grant" ++
      root.ownProblems 0 now chainId ++ laterProblems now chainId root 1 rest ++
      problemIf (root.maxDepth < chain.length) "chain is longer than the root permitted" ++
      problemIf (requiredScope ≠ "" && !((root :: rest).getLast (by simp)).scopes.contains requiredScope)
        s!"the final delegate does not hold {Host.repr (.str requiredScope)}"

end Verification

/-- What the last delegate holds: what every hop passed on. -/
def effectiveScopes : List Link → Finset String
  | [] => ∅
  | root :: rest => rest.foldl (fun held link => held ∩ link.scopes.toFinset) root.scopes.toFinset

/-- Who is ultimately accountable: always the root. -/
def principalOf : List Link → String
  | [] => ""
  | root :: _ => root.delegator

/-! ### What is issued -/

/-- One cap allows no more than another, and both are caps. -/
def CapAtMost (asked held : String) : Prop :=
  ∃ least most, capIndex asked = .ok least ∧ capIndex held = .ok most ∧ least ≤ most

theorem CapAtMost.ne_empty {asked held : String} (capped : CapAtMost asked held) : asked ≠ "" := by
  rintro rfl
  obtain ⟨least, _, known, _⟩ := capped
  cases known

theorem beyond_eq_nil {asked held : List String} :
    asked.filter (fun scope => !held.contains scope) = [] ↔ asked ⊆ held := by
  simp [List.filter_eq_nil_iff, List.subset_def]

section Issued
variable [Host]

/-- A request that is not refused. -/
structure Request.Allowed (request : Request) (parent : Link) (now : Int) : Prop where
  some : request.scopes ≠ []
  held : request.scopes ⊆ parent.scopes
  room : parent.depth + 1 < parent.maxDepth
  lasting : now < request.notAfter parent now
  cap : CapAtMost (request.cap parent) parent.reversibilityCap

theorem Request.link_eq_ok {request : Request} {parent link : Link} {now : Int} :
    request.link parent now = .ok link ↔ request.Allowed parent now ∧ request.made parent now = link := by
  simp only [Request.link, delegationError, raise]
  constructor
  · intro issued
    split at issued
    · cases issued
    next some =>
      split at issued
      · cases issued
      next held =>
        split at issued
        · cases issued
        next room =>
          split at issued
          · cases issued
          next lasting =>
            simp only [bind_eq_ok] at issued
            obtain ⟨least, asked, most, known, issued⟩ := issued
            split at issued
            · cases issued
            next capped =>
              refine ⟨⟨some, ?_, not_le.mp room, not_le.mp lasting, least, most, asked, known, not_lt.mp capped⟩, ?_⟩
              · exact beyond_eq_nil.mp (not_not.mp held)
              · exact Except.ok.inj issued
  · rintro ⟨allowed, rfl⟩
    obtain ⟨least, most, asked, known, capped⟩ := allowed.cap
    rw [if_neg allowed.some, if_neg (not_not.mpr (beyond_eq_nil.mpr allowed.held)), if_neg (not_le.mpr allowed.room),
      if_neg (not_le.mpr allowed.lasting), asked, ok_bind, known, ok_bind, if_neg (not_lt.mpr capped)]
    rfl

end Issued

/-! ### What verification finds -/

section Found
variable [Host]

/-- A link passes on no more than the one before it holds, for no longer, and is
the next one below it. -/
structure Link.Follows (previous link : Link) : Prop where
  parent : link.parent = previous.digest
  delegator : link.delegator = previous.delegate
  scopes : link.scopes ⊆ previous.scopes
  lifetime : link.notAfter ≤ previous.notAfter
  depth : link.depth = previous.depth + 1
  maxDepth : link.maxDepth = previous.maxDepth

theorem Link.followProblems_eq_nil {link previous : Link} {place : Nat} :
    link.followProblems previous place = [] ↔ previous.Follows link := by
  simp only [Link.followProblems, List.append_eq_nil_iff, problemIf_eq_nil, decide_eq_false_iff_not, not_not, and_assoc,
    beyond_eq_nil, not_lt]
  constructor
  · intro clear
    obtain ⟨parent, delegator, scopes, lifetime, depth, maxDepth⟩ := clear
    exact { parent, delegator, scopes, lifetime, depth, maxDepth }
  · intro follows
    exact ⟨follows.parent, follows.delegator, follows.scopes, follows.lifetime, follows.depth, follows.maxDepth⟩

/-- Each link is one deeper than the one before it, under one limit. -/
theorem depth_of_follows {previous : Link} {rest : List Link} (follows : (previous :: rest).IsChain Link.Follows) :
    ∀ (place : Nat) (link : Link), (previous :: rest)[place]? = some link →
      link.depth = previous.depth + place ∧ link.maxDepth = previous.maxDepth := by
  induction rest generalizing previous with
  | nil =>
    intro place link found
    obtain ⟨rfl, rfl⟩ : place = 0 ∧ previous = link := by simpa [List.getElem?_singleton] using found
    simp
  | cons next rest ih =>
    obtain ⟨first, later⟩ := List.isChain_cons_cons.mp follows
    intro place link found
    cases place with
    | zero =>
      obtain rfl := Option.some.inj found
      simp
    | succ place =>
      obtain ⟨depth, limit⟩ := ih later place link (by simpa using found)
      refine ⟨?_, limit.trans first.maxDepth⟩
      rw [depth, first.depth]
      omega

variable [Packages]

/-- The key of the address made the signature of the link. -/
def Link.SignedBy (link : Link) (chainId : Int) (signer : String) : Prop :=
  ∃ signable, Packages.encode (link.typed chainId) = .ok signable ∧
    Packages.recover signable (.given (.str link.signature)) = .ok signer

/-- A link that is in force, and signed by whom it declares to be its signer, if
it declares one. -/
structure Link.Stands (now chainId : Int) (link : Link) : Prop where
  lasting : now < link.notAfter
  given : link.signature ≠ ""
  signed : ∃ signer, link.SignedBy chainId signer ∧ (link.signer ≠ "" → lower signer = lower link.signer)

theorem Link.signatureProblems_eq_nil {link : Link} {place : Nat} {chainId : Int} :
    link.signatureProblems place chainId = [] ↔ link.signature ≠ "" ∧
      ∃ signer, link.SignedBy chainId signer ∧ (link.signer ≠ "" → lower signer = lower link.signer) := by
  unfold Link.signatureProblems Link.SignedBy
  by_cases given : link.signature = ""
  · simp [given]
  · rw [if_neg given]
    cases encoded : Packages.encode (link.typed chainId) with
    | error exception => simp [bind, Except.bind]
    | ok signable =>
      cases recovered : Packages.recover signable (.given (.str link.signature)) with
      | error exception => simp [ok_bind, recovered]
      | ok signer => simp [ok_bind, recovered, given]

theorem Link.ownProblems_eq_nil {link : Link} {place : Nat} {now chainId : Int} :
    link.ownProblems place now chainId = [] ↔ link.Stands now chainId := by
  rw [Link.ownProblems, List.append_eq_nil_iff, problemIf_eq_nil, decide_eq_false_iff_not, not_le, signatureProblems_eq_nil]
  constructor
  · intro ⟨lasting, given, signed⟩
    exact { lasting, given, signed }
  · intro stands
    exact ⟨stands.lasting, stands.given, stands.signed⟩

theorem laterProblems_eq_nil {now chainId : Int} {previous : Link} {place : Nat} {rest : List Link} :
    laterProblems now chainId previous place rest = [] ↔
      (∀ link ∈ rest, link.Stands now chainId) ∧ (previous :: rest).IsChain Link.Follows := by
  induction rest generalizing previous place with
  | nil => simp [laterProblems]
  | cons link rest ih =>
    rw [laterProblems, List.append_eq_nil_iff, List.append_eq_nil_iff, ih, Link.ownProblems_eq_nil,
      Link.followProblems_eq_nil, List.forall_mem_cons, List.isChain_cons_cons]
    tauto

/-- A chain in which every link stands and follows the one before it, from a root
on, no longer than the root permits, at the end of which the scope is held. -/
structure Verified (root : Link) (rest : List Link) (requiredScope : String) (now chainId : Int) : Prop where
  depth : root.depth = 0
  parent : root.parent = ""
  stands : ∀ link ∈ root :: rest, link.Stands now chainId
  follows : (root :: rest).IsChain Link.Follows
  length : ((root :: rest).length : Int) ≤ root.maxDepth
  held : requiredScope = "" ∨ requiredScope ∈ ((root :: rest).getLast (by simp)).scopes

theorem verifyChain_cons {root : Link} {rest : List Link} {requiredScope : String} {now chainId : Int} :
    verifyChain (root :: rest) requiredScope now chainId = [] ↔ Verified root rest requiredScope now chainId := by
  simp only [verifyChain, List.append_eq_nil_iff, problemIf_eq_nil, Link.ownProblems_eq_nil, laterProblems_eq_nil,
    Bool.or_eq_false_iff, Bool.and_eq_false_iff, decide_eq_false_iff_not, not_not, not_lt, Bool.not_eq_false',
    List.contains_iff_mem, and_assoc]
  constructor
  · intro clear
    obtain ⟨depth, parent, first, others, follows, length, held⟩ := clear
    exact { depth, parent, stands := List.forall_mem_cons.mpr ⟨first, others⟩, follows, length, held }
  · intro verified
    obtain ⟨first, others⟩ := List.forall_mem_cons.mp verified.stands
    exact ⟨verified.depth, verified.parent, first, others, verified.follows, verified.length, verified.held⟩

/-- Links lie at their depths, with room for the next one where there is one. -/
theorem Verified.room {root : Link} {rest : List Link} {requiredScope : String} {now chainId : Int}
    (verified : Verified root rest requiredScope now chainId) {before after : List Link} {previous link : Link}
    (split : root :: rest = before ++ previous :: link :: after) : previous.depth + 1 < previous.maxDepth := by
  have found : (root :: rest)[before.length]? = some previous := by simp [split]
  obtain ⟨depth, limit⟩ := depth_of_follows verified.follows before.length previous found
  have total := congrArg List.length split
  have length := verified.length
  rw [total] at length
  rw [depth, limit, verified.depth]
  simp only [List.length_append, List.length_cons] at length
  omega

theorem verifyChain_eq_nil {chain : List Link} {requiredScope : String} {now chainId : Int} :
    verifyChain chain requiredScope now chainId = [] ↔
      ∃ root rest, chain = root :: rest ∧ Verified root rest requiredScope now chainId := by
  cases chain with
  | nil => simp [verifyChain]
  | cons root rest => simp [verifyChain_cons]

end Found

end Xcp.DelegationChain
