import Xcp.Library.Base64
import Xcp.Library.Cipher
import Xcp.Library.Dumps
import Xcp.Library.Loads

/-! Credentials that are sealed to a recipient's key, and their delegation from
one recipient to the next. The chain of those who had a credential is bound into
what it is sealed with. -/

namespace Xcp.Vault
open Cipher Checked Eth Python

def sealedVersion : Int := 1

def hkdfInfo : List Nat := utf8 "xcp-sealed-credential-v1"

def sealError {α : Type} (text : String) : Raises α := raise (.package "SealError") text

/-! ### Key material -/

/-- The public half of a key pair. -/
structure RecipientKey where
  publicB64 : String
deriving DecidableEq, Repr

def RecipientKey.raw (recipient : RecipientKey) : Raises (List Nat) := Base64.decode (recipient.publicB64 ++ "==")

/-- `base64.urlsafe_b64encode(data).decode().rstrip("=")`. -/
def compactB64 (data : List Nat) : String := rstrip (Base64.encode data) '='

/-- What the operating system draws for one sealing: a private key and a nonce. -/
structure Draw where
  ephemeral : List Nat
  nonce : List Nat
  nonce_bytes : ∀ byte ∈ nonce, byte < 256

/-- The separators of a blob, which is not sorted. -/
def blobStyle : DumpStyle where
  items := ","
  members := ":"

section Sealing
variable [Host] [Aead] [Agreement]

def derive (shared recipientPub : List Nat) (context : String) : List Nat :=
  Agreement.hkdf shared (hkdfInfo ++ utf8 "|" ++ recipientPub ++ utf8 "|" ++ utf8 context)

def blobOf (ephPub nonce ct : List Nat) : List (String × Json) :=
  [("v", .int sealedVersion), ("epk", .str (compactB64 ephPub)), ("n", .str (compactB64 nonce)), ("ct", .str (compactB64 ct))]

/-- `context` binds the credential to what it is meant for. -/
def seal_ (credential : String) (recipient : RecipientKey) (context : String) (draw : Draw) : Raises String := do
  if credential = "" then sealError "refusing to seal an empty credential"
  let recipientPub ← recipient.raw
  let shared ← Agreement.exchange draw.ephemeral recipientPub
  let ct ← encrypt (derive shared recipientPub context) draw.nonce (utf8 credential) (recipientPub ++ utf8 context)
  let ephPub ← Agreement.publicKey draw.ephemeral
  return compactB64 (utf8 ((Json.dict (blobOf ephPub draw.nonce ct)).dumps blobStyle))

/-- `"==="[:(-len(text)) % 4]`. -/
def fill (text : String) : String := String.ofList (List.replicate ((4 - text.length % 4) % 4) '=')

/-- A member of the blob, which has to be a text, without its padding. -/
def blobBytes (blob : Json) (name : String) : Raises (List Nat) := do
  match ← blob.item name with
  | .str text => Base64.decode (text ++ "==")
  | other => raise .typeError s!"unsupported operand type(s) for +: '{other.typeName}' and 'str'"

/-- The plaintext of a blob. Whatever goes wrong, the error says the same. -/
def decryptBlob (blob : Json) (privateB64 : String) (recipient : RecipientKey) (context : String) : Raises (List Nat) := do
  let privateKey ← Base64.decode (privateB64 ++ "==")
  let epk ← blobBytes blob "epk"
  let recipientPub ← recipient.raw
  let shared ← Agreement.exchange privateKey epk
  let nonce ← blobBytes blob "n"
  let ct ← blobBytes blob "ct"
  decrypt (derive shared recipientPub context) nonce ct (recipientPub ++ utf8 context)

variable [JsonDecoder]

def readBlob (blobB64 : String) : Raises Json :=
  (Base64.decode (blobB64 ++ fill blobB64) >>= JsonDecoder.loads).mapError
    (fun exception => ⟨.package "SealError", s!"malformed sealed credential: {exception.text}"⟩)

def unseal_ (blobB64 privateB64 : String) (recipient : RecipientKey) (context : String) : Raises String := do
  let blob ← readBlob blobB64
  let version ← blob.get "v"
  if !version.same (.int sealedVersion) then sealError s!"unsupported sealed-credential version {version.toStr}"
  let pt ← (decryptBlob blob privateB64 recipient context).mapError
    (fun _ => ⟨.package "SealError", "could not open the sealed credential (wrong recipient, wrong context, or tampered)"⟩)
  decodeUtf8 pt

end Sealing

/-! ### Delegation chains -/

/-- One hop's record in a chain. -/
structure Delegation where
  fromNode : String
  toNode : String
  at_ : Int
  reason : String := ""
deriving DecidableEq, Repr

/-- A sealed credential and how it got here. -/
structure ChainedCredential where
  blob : String
  /-- Who sealed it first. -/
  origin : String
  hops : List Delegation
  maxHops : Int := 3
deriving DecidableEq, Repr

namespace ChainedCredential

def depth (chained : ChainedCredential) : Nat := chained.hops.length

def path (chained : ChainedCredential) : String :=
  joinWith "|" (chained.hops.map (fun hop => s!"{hop.fromNode}>{hop.toNode}"))

/-- What the blob is bound to: the chain so far. -/
def context (chained : ChainedCredential) : String := s!"chain:{chained.origin}:{chained.depth}:{chained.path}"

/-- Everyone who appears in the chain. -/
def seen (chained : ChainedCredential) : List String :=
  chained.origin :: chained.hops.flatMap (fun hop => [hop.fromNode, hop.toNode])

/-- The origin, and to whom it went from there. -/
def visited (chained : ChainedCredential) : List String := chained.origin :: chained.hops.map Delegation.toNode

end ChainedCredential

section Chains
variable [Host] [Aead] [Agreement]

/-- `max_hops` is how many times the credential may be passed on. -/
def sealChained (credential : String) (recipient : RecipientKey) (origin : String) (maxHops : Int) (draw : Draw) :
    Raises ChainedCredential := do
  if maxHops < 0 then sealError "max_hops cannot be negative"
  let chained : ChainedCredential := { blob := "", origin, hops := [], maxHops }
  let blob ← seal_ credential recipient chained.context draw
  return { chained with blob }

variable [JsonDecoder]

def openChained (chained : ChainedCredential) (privateB64 : String) (recipient : RecipientKey) : Raises String :=
  unseal_ chained.blob privateB64 recipient chained.context

/-- What a hop says when it passes a credential on, and what is drawn and read for it. -/
structure Handover where
  privateB64 : String
  recipient : RecipientKey
  nextRecipient : RecipientKey
  fromNode : String
  toNode : String
  reason : String := ""
  now : Option Int := none
  clock : Int
  draw : Draw

def Handover.hop (handover : Handover) : Delegation where
  fromNode := handover.fromNode
  toNode := handover.toNode
  at_ := (handover.now.filter (· ≠ 0)).getD handover.clock
  reason := handover.reason

/-- The chain with the next hop, before it is sealed again. -/
def ChainedCredential.extended (chained : ChainedCredential) (handover : Handover) : ChainedCredential :=
  { blob := "", origin := chained.origin, maxHops := chained.maxHops, hops := chained.hops ++ [handover.hop] }

def delegate (chained : ChainedCredential) (handover : Handover) : Raises ChainedCredential := do
  if chained.maxHops ≤ chained.depth then
    sealError (s!"delegation budget exhausted: the originator permitted {chained.maxHops} hop(s) and this is hop " ++
      s!"{chained.depth + 1}")
  if chained.seen.contains handover.toNode then
    sealError (s!"{Host.repr (.str handover.toNode)} already appears in this chain; a loop would let a hop " ++
      "see the credential twice and inflate the recorded path")
  let plaintext ← openChained chained handover.privateB64 handover.recipient
  let blob ← seal_ plaintext handover.nextRecipient (chained.extended handover).context handover.draw
  return { chained.extended handover with blob }

end Chains

/-- A recipient's own check. Nothing is asked of the path where there are no limits. -/
def acceptable [Host] (chained : ChainedCredential) (allowedHops : Option (List String)) (maxDepth : Option Int) :
    List String :=
  problemIf (chained.maxHops < chained.depth)
      s!"chain is {chained.depth} hops but the originator permitted {chained.maxHops}" ++
    (match maxDepth with
      | some limit =>
        problemIf (limit < chained.depth) s!"chain is deeper than this recipient accepts ({chained.depth} > {limit})"
      | none => []) ++
    (match allowedHops with
      | some allowed =>
        chained.hops.flatMap (fun hop =>
          problemIf (!allowed.contains hop.toNode && hop.toNode ≠ chained.origin)
            s!"chain passed through {Host.repr (.str hop.toNode)}, which this recipient does not accept")
      | none => []) ++
    problemIf (chained.visited.length ≠ chained.visited.dedup.length) "chain contains a loop"

end Xcp.Vault
