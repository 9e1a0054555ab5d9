import Xcp.Library.Base64
import Xcp.Library.Cipher
import Xcp.Library.Dict
import Xcp.Library.Loads

/-! Personal data that is encrypted under one key for each of its subjects. What
a chain commits to is the ciphertext, and erasure destroys the key. -/

namespace Xcp.Privacy
open Cipher Checked Eth Python

def shredVersion : Int := 1

def shredError {α : Type} (text : String) : Raises α := raise (.package "ShredError") text

/-- Personal data at rest. -/
structure SealedPayload where
  /-- A pseudonym, never a name. -/
  subject : String
  nonce : String
  ciphertext : String
  /-- The digest of the ciphertext, which a chain records. -/
  commitment : String
  createdAt : Int
  dataClass : String := "call_chain"
  version : Int := shredVersion
deriving DecidableEq, Repr

/-- A key of 256 bits, as `AESGCM.generate_key` draws it. -/
structure Key where
  bytes : List Nat
  length : bytes.length = 32
deriving DecidableEq, Repr

/-- One key for each subject, and when the keys of others were destroyed. -/
structure KeyRing where
  keys : Dict String Key := {}
  shredded : Dict String Int := {}

namespace KeyRing
variable [Host]

/-- The key of a subject. Where there is none, the new one is kept, if keys are to be made here at all. -/
def keyFor (ring : KeyRing) (subject : String) (create : Option Key) : Raises Key × KeyRing :=
  match ring.shredded.get? subject with
  | some at_ =>
    (shredError (s!"subject {Host.repr (.str subject)} was erased at {at_}; " ++
      "refusing to mint a new key, which would silently un-erase them"), ring)
  | none =>
    match ring.keys.get? subject with
    | some key => (.ok key, ring)
    | none =>
      match create with
      | some key => (.ok key, { ring with keys := ring.keys.set subject key })
      | none => (shredError s!"no key for subject {Host.repr (.str subject)}", ring)

omit [Host] in
/-- Whether there was a key, and the ring without it. `clock` is what the clock says. -/
def destroy (ring : KeyRing) (subject : String) (now : Option Int) (clock : Int) : Bool × KeyRing :=
  ((ring.keys.get? subject).isSome,
    { keys := ring.keys.remove subject, shredded := ring.shredded.set subject ((now.filter (· ≠ 0)).getD clock) })

omit [Host] in
def isShredded (ring : KeyRing) (subject : String) : Bool := (ring.shredded.get? subject).isSome

end KeyRing

/-- What is drawn to seal a payload: a nonce, and a key if the subject has none. -/
structure Draw where
  key : Key
  nonce : List Nat
  nonce_bytes : ∀ byte ∈ nonce, byte < 256

section Payloads
variable [Host] [Aead] [Packages]

/-- The ring keeps a new key even where the payload is not sealed in the end. -/
def seal_ (ring : KeyRing) (subject : String) (payload : Json) (dataClass : String) (now : Option Int) (clock : Int) (draw : Draw) :
    Raises SealedPayload × KeyRing :=
  let (key, ring) := ring.keyFor subject (some draw.key)
  let sealed : Raises SealedPayload := do
    let key ← key
    let raw ← payload.canonicalBytes
    let ct ← encrypt key.bytes draw.nonce raw (utf8 subject)
    return {
      subject
      nonce := Base64.encodeStandard draw.nonce
      ciphertext := Base64.encodeStandard ct
      commitment := digest ct
      createdAt := (now.filter (· ≠ 0)).getD clock
      dataClass }
  (sealed, ring)

omit [Packages] in
/-- The plaintext of a payload. Whatever goes wrong, the error says the same. -/
def decryptPayload (key : Key) (sealed : SealedPayload) : Raises (List Nat) := do
  let nonce ← Base64.decodeStandard sealed.nonce
  let ct ← Base64.decodeStandard sealed.ciphertext
  decrypt key.bytes nonce ct (utf8 sealed.subject)

omit [Packages] in
def unseal_ [JsonDecoder] (ring : KeyRing) (sealed : SealedPayload) : Raises Json := do
  if ring.isShredded sealed.subject then
    shredError (s!"payload belongs to erased subject {Host.repr (.str sealed.subject)}; the key was " ++
      "destroyed and the content is unrecoverable. The commitment remains valid, so any chain containing it still verifies.")
  let key ← (ring.keyFor sealed.subject none).1
  let raw ← (decryptPayload key sealed).mapError
    (fun _ => ⟨.package "ShredError", "could not decrypt (wrong key or tampered ciphertext)"⟩)
  JsonDecoder.loads raw

omit [Host] [Aead] in
/-- Whether what a chain commits to is still the ciphertext. -/
def commitmentSurvives (sealed : SealedPayload) : Raises Bool := do
  let ct ← Base64.decodeStandard sealed.ciphertext
  return digest ct = sealed.commitment

/-! ### Histories -/

/-- What is asked of a ring, and what is drawn and read for it. -/
inductive Request where
  | keyFor (subject : String) (create : Option Key)
  | seal_ (subject : String) (payload : Json) (dataClass : String) (now : Option Int) (clock : Int) (draw : Draw)
  | unseal_ (sealed : SealedPayload)
  | destroy (subject : String) (now : Option Int) (clock : Int)

def Request.after (request : Request) (ring : KeyRing) : KeyRing :=
  match request with
  | .keyFor subject create => (ring.keyFor subject create).2
  | .seal_ subject payload dataClass now clock draw => (Privacy.seal_ ring subject payload dataClass now clock draw).2
  | .unseal_ _ => ring
  | .destroy subject now clock => (ring.destroy subject now clock).2

def KeyRing.run (ring : KeyRing) (requests : List Request) : KeyRing :=
  requests.foldl (fun ring request => request.after ring) ring

end Payloads

end Xcp.Privacy
