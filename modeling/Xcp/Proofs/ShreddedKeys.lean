import Xcp.Library.Cipher
import Xcp.Library.Decode
import Xcp.Privacy.Shredding

/-! What the destruction of a key changes, and what it leaves alone. A subject
that was erased never has a key again, and nobody else notices. -/

namespace Xcp.Privacy
open Cipher Checked Eth Python

section Laws
variable [Host] [Aead] [Packages]

/-! ### What a request does to the ring -/

omit [Aead] [Packages] in
theorem keyFor_ring (ring : KeyRing) (subject : String) (create : Option Key) :
    (ring.keyFor subject create).2 = ring ∨
      ∃ key, create = some key ∧ ring.shredded.get? subject = none ∧ ring.keys.get? subject = none ∧
        (ring.keyFor subject create).2 = { ring with keys := ring.keys.set subject key } := by
  unfold KeyRing.keyFor
  split
  next => exact .inl rfl
  next fresh =>
    split
    next => exact .inl rfl
    next absent =>
      cases create with
      | none => exact .inl rfl
      | some key => exact .inr ⟨key, rfl, fresh, absent, rfl⟩

/-- A request leaves the ring as it is, or adds the key of a subject that had none, or destroys one. -/
theorem after_cases (request : Request) (ring : KeyRing) :
    request.after ring = ring ∨
    (∃ subject key, ring.shredded.get? subject = none ∧ ring.keys.get? subject = none ∧
      request.after ring = { ring with keys := ring.keys.set subject key }) ∨
    ∃ subject now clock, request = .destroy subject now clock ∧ request.after ring = (ring.destroy subject now clock).2 := by
  cases request with
  | keyFor subject create =>
    rcases keyFor_ring ring subject create with same | ⟨key, _, fresh, absent, grown⟩
    · exact .inl same
    · exact .inr (.inl ⟨subject, key, fresh, absent, grown⟩)
  | seal_ subject payload dataClass now clock draw =>
    rcases keyFor_ring ring subject (some draw.key) with same | ⟨key, _, fresh, absent, grown⟩
    · exact .inl same
    · exact .inr (.inl ⟨subject, key, fresh, absent, grown⟩)
  | unseal_ sealed => exact .inl rfl
  | destroy subject now clock => exact .inr (.inr ⟨subject, now, clock, rfl, rfl⟩)

/-! ### Never again -/

/-- The key of a subject was destroyed. -/
structure Erased (ring : KeyRing) (subject : String) : Prop where
  keyless : ring.keys.get? subject = none
  shredded : (ring.shredded.get? subject).isSome

omit [Host] [Aead] [Packages] in
theorem erased_destroy (ring : KeyRing) (subject : String) (now : Option Int) (clock : Int) :
    Erased (ring.destroy subject now clock).2 subject := by
  constructor <;> simp [KeyRing.destroy]

theorem Erased.after {ring : KeyRing} {subject : String} (erased : Erased ring subject) (request : Request) :
    Erased (request.after ring) subject := by
  rcases after_cases request ring with same | ⟨other, key, fresh, _, grown⟩ | ⟨other, now, clock, _, destroyed⟩
  · rw [same]
    exact erased
  · have differ : subject ≠ other := by
      rintro rfl
      simpa [fresh] using erased.shredded
    rw [grown]
    exact ⟨by simpa [differ] using erased.keyless, erased.shredded⟩
  · rw [destroyed]
    by_cases same : subject = other
    · rw [same]
      exact erased_destroy ring other now clock
    · constructor
      · simpa [KeyRing.destroy, same] using erased.keyless
      · simpa [KeyRing.destroy, same] using erased.shredded

theorem Erased.run {ring : KeyRing} {subject : String} (erased : Erased ring subject) (requests : List Request) :
    Erased (ring.run requests) subject := by
  induction requests generalizing ring with
  | nil => exact erased
  | cons request rest ih => exact ih (erased.after request)

omit [Aead] [Packages] in
theorem Erased.keyFor {ring : KeyRing} {subject : String} (erased : Erased ring subject) (create : Option Key) :
    (∀ key, (ring.keyFor subject create).1 ≠ .ok key) ∧ (ring.keyFor subject create).2 = ring := by
  obtain ⟨at_, shredded⟩ := Option.isSome_iff_exists.mp erased.shredded
  constructor
  · intro key given
    simp [KeyRing.keyFor, shredded, shredError, raise] at given
  · simp only [KeyRing.keyFor, shredded]

omit [Packages] in
theorem unseal_of_isShredded [JsonDecoder] {ring : KeyRing} {sealed : SealedPayload}
    (shredded : ring.isShredded sealed.subject = true) (value : Json) : unseal_ ring sealed ≠ .ok value := by
  simp [unseal_, shredded, shredError, raise]

theorem isShredded_after {ring : KeyRing} {subject : String} (shredded : ring.isShredded subject = true) (request : Request) :
    (request.after ring).isShredded subject = true := by
  rcases after_cases request ring with same | ⟨_, _, _, _, grown⟩ | ⟨other, now, clock, _, destroyed⟩
  · rw [same, shredded]
  · rw [grown]
    exact shredded
  · rw [destroyed]
    simp only [KeyRing.isShredded, KeyRing.destroy, Dict.get?_set] at shredded ⊢
    split
    · rfl
    · exact shredded

/-! ### Payloads -/

/-- How a payload was sealed. -/
structure Seals (ring : KeyRing) (subject : String) (payload : Json) (draw : Draw) (sealed : SealedPayload) (key : Key)
    (raw : List Nat) : Prop where
  held : (ring.keyFor subject (some draw.key)).1 = .ok key
  written : payload.canonicalBytes = .ok raw
  bytes : ∀ byte ∈ raw, byte < 256
  owner : sealed.subject = subject
  nonce : sealed.nonce = Base64.encodeStandard draw.nonce
  ciphertext : sealed.ciphertext = Base64.encodeStandard (Aead.encrypt key.bytes draw.nonce raw (utf8 subject))
  commitment : sealed.commitment = digest (Aead.encrypt key.bytes draw.nonce raw (utf8 subject))

omit [Aead] [Packages] in
theorem canonicalBytes_bytes {payload : Json} {raw : List Nat} (written : payload.canonicalBytes = .ok raw) :
    ∀ byte ∈ raw, byte < 256 := by
  unfold Json.canonicalBytes at written
  split at written
  next =>
    obtain rfl := Except.ok.inj written
    exact utf8_bytes _
  next => cases written

section Sealing
variable {ring : KeyRing} {subject dataClass : String} {payload : Json} {now : Option Int} {clock : Int} {draw : Draw}
  {sealed : SealedPayload}

theorem seal_seals (done : (seal_ ring subject payload dataClass now clock draw).1 = .ok sealed) :
    ∃ key raw, Seals ring subject payload draw sealed key raw ∧ sealed.dataClass = dataClass := by
  simp only [seal_, bind_eq_ok, pure_eq_ok] at done
  obtain ⟨key, held, raw, written, ct, encrypted, rfl⟩ := done
  obtain rfl := encrypt_eq_ok encrypted
  exact ⟨key, raw, ⟨held, written, canonicalBytes_bytes written, rfl, rfl, rfl, rfl⟩, rfl⟩

variable {key : Key} {raw : List Nat}

theorem seal_ok (held : (ring.keyFor subject (some draw.key)).1 = .ok key) (written : payload.canonicalBytes = .ok raw)
    (short : raw.length ≤ maxBytes) (short' : (utf8 subject).length ≤ maxBytes) :
    ∃ sealed, (seal_ ring subject payload dataClass now clock draw).1 = .ok sealed := by
  have room : ¬ (maxBytes < raw.length ∨ maxBytes < (utf8 subject).length) := by omega
  simp only [seal_, held, written, encrypt, room, if_false, ok_bind]
  exact ⟨_, rfl⟩

/-- A payload is what its chain committed to, whatever became of its key. -/
theorem Seals.commitmentSurvives (seals : Seals ring subject payload draw sealed key raw) : commitmentSurvives sealed = .ok true := by
  have bytes := Aead.encrypt_bytes key.bytes draw.nonce raw (utf8 subject) seals.bytes
  rw [Privacy.commitmentSurvives, seals.ciphertext, Base64.decodeStandard_encodeStandard bytes, ok_bind, seals.commitment]
  simp

omit [Packages] in
theorem unseal_eq_ok [JsonDecoder] {value : Json} : unseal_ ring sealed = .ok value ↔
    ring.isShredded sealed.subject = false ∧ ∃ key raw, (ring.keyFor sealed.subject none).1 = .ok key ∧
      decryptPayload key sealed = .ok raw ∧ JsonDecoder.loads raw = .ok value := by
  unfold unseal_
  split
  next shredded => simp [shredded, shredError, raise]
  next kept => simp [kept]

/-- While its key is there, a payload is read as it was written. -/
theorem Seals.unseal [JsonDecoder] (ideal : IdealAead) (seals : Seals ring subject payload draw sealed key raw) {later : KeyRing}
    (held : later.keys.get? subject = some key) (kept : later.shredded.get? subject = none) :
    unseal_ later sealed = JsonDecoder.loads raw := by
  have bytes := Aead.encrypt_bytes key.bytes draw.nonce raw (utf8 subject) seals.bytes
  have given : (later.keyFor subject none).1 = .ok key := by simp only [KeyRing.keyFor, held, kept]
  have unshredded : later.isShredded subject = false := by simp [KeyRing.isShredded, kept]
  have opened : decryptPayload key sealed = .ok raw := by
    rw [decryptPayload, seals.nonce, Base64.decodeStandard_encodeStandard draw.nonce_bytes, ok_bind, seals.ciphertext,
      Base64.decodeStandard_encodeStandard bytes, ok_bind, seals.owner, ideal.decrypt_iff]
    exact ⟨rfl, rfl, rfl⟩
  simp only [unseal_, seals.owner, unshredded, given, opened, ok_bind, if_false, Bool.false_eq_true, Except.mapError]

/-- The ciphertext of a subject is read as nobody else's, whatever is written beside it. -/
theorem Seals.subject_of_unseal [JsonDecoder] (ideal : IdealAead) (seals : Seals ring subject payload draw sealed key raw)
    {later : KeyRing} {relabelled : SealedPayload} (kept : relabelled.ciphertext = sealed.ciphertext) {value : Json}
    (opened : unseal_ later relabelled = .ok value) : relabelled.subject = subject := by
  obtain ⟨_, other, raw', _, decrypted, _⟩ := unseal_eq_ok.mp opened
  have bytes := Aead.encrypt_bytes key.bytes draw.nonce raw (utf8 subject) seals.bytes
  simp only [decryptPayload, bind_eq_ok] at decrypted
  obtain ⟨nonce, _, ct, read, decrypted⟩ := decrypted
  rw [kept, seals.ciphertext, Base64.decodeStandard_encodeStandard bytes] at read
  obtain rfl := Except.ok.inj read
  have genuine := ideal.genuine _ _ _ _ _ (decrypt_eq_ok.mp decrypted)
  exact (utf8_inj (ideal.binds _ _ _ _ _ _ _ _ genuine).2.2).symm

end Sealing

/-! ### Nobody else notices -/

/-- What a ring says of a subject. -/
def KeyRing.view (ring : KeyRing) (subject : String) : Option Key × Option Int :=
  (ring.keys.get? subject, ring.shredded.get? subject)

omit [Packages] in
/-- Reading a payload asks the ring for its subject only. -/
theorem unseal_congr [JsonDecoder] {ring other : KeyRing} {sealed : SealedPayload}
    (same : other.view sealed.subject = ring.view sealed.subject) : unseal_ other sealed = unseal_ ring sealed := by
  obtain ⟨keys, shredded⟩ := Prod.ext_iff.mp same
  simp only [KeyRing.view] at keys shredded
  have given : (other.keyFor sealed.subject none).1 = (ring.keyFor sealed.subject none).1 := by
    simp only [KeyRing.keyFor, keys, shredded]
    split
    · rfl
    · split <;> rfl
  rw [unseal_, unseal_, KeyRing.isShredded, KeyRing.isShredded, shredded, given]

omit [Aead] [Packages] in
theorem view_keyFor (ring : KeyRing) (name subject : String) (create : Option Key) :
    (ring.keyFor name create).2.view subject =
      if subject = name ∧ ring.view name = (none, none) then (create, none) else ring.view subject := by
  by_cases fresh : ring.view name = (none, none)
  · obtain ⟨absent, unshredded⟩ := Prod.ext_iff.mp fresh
    simp only [KeyRing.view] at absent unshredded
    cases create with
    | none =>
      simp only [KeyRing.keyFor, absent, unshredded, fresh, and_true]
      split
      next same => rw [same, fresh]
      next => rfl
    | some key =>
      simp only [KeyRing.keyFor, absent, unshredded, and_true, KeyRing.view, Dict.get?_set]
      split
      next same => rw [same, unshredded]
      next => rfl
  · rw [if_neg (fun both => fresh both.2)]
    rcases keyFor_ring ring name create with same | ⟨_, _, unshredded, absent, _⟩
    · rw [same]
    · exact absurd (Prod.ext absent unshredded) fresh

omit [Host] [Aead] [Packages] in
theorem view_destroy (ring : KeyRing) (name subject : String) (now : Option Int) (clock : Int) :
    (ring.destroy name now clock).2.view subject =
      if subject = name then (none, some ((now.filter (· ≠ 0)).getD clock)) else ring.view subject := by
  simp only [KeyRing.view, KeyRing.destroy, Dict.get?_remove, Dict.get?_set]
  split <;> rfl

/-- What a request does for a subject is told by what the ring says of it. -/
theorem view_after_congr {ring other : KeyRing} {subject : String} (same : other.view subject = ring.view subject)
    (request : Request) : (request.after other).view subject = (request.after ring).view subject := by
  have keyFor (name : String) (create : Option Key) :
      (other.keyFor name create).2.view subject = (ring.keyFor name create).2.view subject := by
    rw [view_keyFor, view_keyFor, same]
    by_cases here : subject = name
    · rw [← here, same]
    · rw [if_neg (fun both => here both.1), if_neg (fun both => here both.1)]
  cases request with
  | keyFor name create => exact keyFor name create
  | seal_ name payload dataClass now clock draw => exact keyFor name (some draw.key)
  | unseal_ sealed => exact same
  | destroy name now clock =>
    simp only [Request.after, view_destroy, same]

theorem view_run_congr {ring other : KeyRing} {subject : String} (same : other.view subject = ring.view subject)
    (requests : List Request) : (other.run requests).view subject = (ring.run requests).view subject := by
  induction requests generalizing ring other with
  | nil => exact same
  | cons request rest ih => exact ih (view_after_congr same request)

/-- Whether a request destroys the key of a subject. -/
def Request.destroys (request : Request) (subject : String) : Prop := ∃ now clock, request = .destroy subject now clock

/-- A key that is not destroyed is kept. -/
theorem view_after_of_key {ring : KeyRing} {subject : String} {key : Key} (held : ring.view subject = (some key, none))
    {request : Request} (spared : ¬ request.destroys subject) : (request.after ring).view subject = (some key, none) := by
  rcases after_cases request ring with same | ⟨other, new, _, absent, grown⟩ | ⟨other, now, clock, asked, destroyed⟩
  · rw [same, held]
  · have differ : subject ≠ other := by
      rintro rfl
      simp [KeyRing.view, absent] at held
    rw [grown]
    simpa [KeyRing.view, differ] using held
  · have differ : subject ≠ other := by
      rintro rfl
      exact spared ⟨now, clock, asked⟩
    rw [destroyed, view_destroy, if_neg differ, held]

theorem view_run_of_key {ring : KeyRing} {subject : String} {key : Key} (held : ring.view subject = (some key, none))
    {requests : List Request} (spared : ∀ request ∈ requests, ¬ request.destroys subject) :
    (ring.run requests).view subject = (some key, none) := by
  induction requests generalizing ring with
  | nil => exact held
  | cons request rest ih =>
    obtain ⟨here, later⟩ := List.forall_mem_cons.mp spared
    exact ih (view_after_of_key held here) later

omit [Packages] in
theorem view_of_unseal [JsonDecoder] {ring : KeyRing} {sealed : SealedPayload} {value : Json}
    (opened : unseal_ ring sealed = .ok value) : ∃ key, ring.view sealed.subject = (some key, none) := by
  obtain ⟨kept, key, _, held, _, _⟩ := unseal_eq_ok.mp opened
  have unshredded := Option.isSome_eq_false_iff.mp kept
  rw [Option.isNone_iff_eq_none] at unshredded
  cases found : ring.keys.get? sealed.subject with
  | none => simp [KeyRing.keyFor, unshredded, found, shredError, raise] at held
  | some key => exact ⟨key, Prod.ext found unshredded⟩

variable [JsonDecoder]

/-- Once a key is destroyed there is none for its subject, whose payloads are never read again. Every commitment
survives, and what others have sealed is read as if nothing had happened, until their own keys are destroyed. -/
theorem shredding_is_final (ideal : IdealAead) (ring : KeyRing) (subject : String) (now : Option Int) (clock : Int)
    (later : List Request) :
    let after := (ring.destroy subject now clock).2.run later
    (after.keys.get? subject = none ∧ ∀ create, (∀ key, (after.keyFor subject create).1 ≠ .ok key) ∧
      (after.keyFor subject create).2 = after) ∧
    (∀ sealed : SealedPayload, (sealed.subject = subject ∨
        ∃ earlier payload dataClass now clock draw original, (seal_ earlier subject payload dataClass now clock draw).1 = .ok original ∧
          sealed.ciphertext = original.ciphertext) →
      ∀ value, unseal_ after sealed ≠ .ok value) ∧
    (∀ earlier name payload dataClass now clock draw sealed, (seal_ earlier name payload dataClass now clock draw).1 = .ok sealed →
      commitmentSurvives sealed = .ok true) ∧
    ∀ sealed : SealedPayload, sealed.subject ≠ subject → unseal_ after sealed = unseal_ (ring.run later) sealed ∧
      ∀ value, unseal_ ring sealed = .ok value → (∀ request ∈ later, ¬ request.destroys sealed.subject) →
        unseal_ after sealed = .ok value := by
  intro after
  have erased : Erased after subject := (erased_destroy ring subject now clock).run later
  have view {name : String} (other : name ≠ subject) : after.view name = (ring.run later).view name := by
    apply view_run_congr
    rw [view_destroy, if_neg other]
  refine ⟨⟨erased.keyless, erased.keyFor⟩, ?_, ?_, ?_⟩
  · intro sealed whose value opened
    have owner : sealed.subject = subject := by
      rcases whose with owner | ⟨_, _, _, _, _, _, original, done, kept⟩
      · exact owner
      · obtain ⟨key, raw, seals, _⟩ := seal_seals done
        exact seals.subject_of_unseal ideal kept opened
    exact unseal_of_isShredded (owner ▸ erased.shredded) value opened
  · intro earlier name payload dataClass now clock draw sealed done
    obtain ⟨key, raw, seals, _⟩ := seal_seals done
    exact seals.commitmentSurvives
  · intro sealed other
    refine ⟨unseal_congr (view other), ?_⟩
    intro value opened spared
    obtain ⟨key, held⟩ := view_of_unseal opened
    have still : after.view sealed.subject = ring.view sealed.subject := by
      rw [view other, view_run_of_key held spared, held]
    rw [unseal_congr still, opened]

end Laws

/-! ### A payload -/

def patientKey : Key where
  bytes := List.replicate 32 5
  length := rfl

def patientDraw : Draw where
  key := patientKey
  nonce := List.range 12
  nonce_bytes := by decide

def patient : Json := .dict [("patient", .str "P0")]

def patientCiphertext : List Nat :=
  [161, 140, 246, 200, 58, 46, 9, 254, 246, 129, 11, 213, 135, 167, 240, 15, 169, 11, 58, 48, 46, 238, 243, 9, 75, 124, 120,
    158, 69, 0, 224, 110]

def patientHashes : List (List Nat × List Nat) :=
  [(patientCiphertext, [211, 66, 128, 22, 229, 191, 33, 196, 104, 119, 104, 112, 103, 246, 206, 171, 215, 232, 40, 161, 209, 32,
    206, 110, 208, 142, 71, 25, 160, 172, 191, 105])]

def patientEncrypted : List Encrypted :=
  [{ key := patientKey.bytes, nonce := patientDraw.nonce, data := utf8 "\x7b\"patient\":\"P0\"\x7d", associated := utf8 "sub_a"
     sealed := patientCiphertext }]

@[reducible] def patientAead : Aead := tableAead patientEncrypted (by decide)

theorem patientAead_ideal : @IdealAead patientAead := tableAead_ideal patientEncrypted (by decide)

section Sample
local instance shreddedHost : Host := asciiHost []
local instance shreddedAead : Aead := patientAead
local instance shreddedPackages : Packages := tablePackages patientHashes []
local instance shreddedDecoder : JsonDecoder := textDecoder

theorem patient_sealed : ∃ sealed, (seal_ {} "sub_a" patient "call_chain" none 1700000000 patientDraw).1 = .ok sealed := by
  have written : patient.canonicalBytes = .ok (utf8 "\x7b\"patient\":\"P0\"\x7d") := by decide +kernel
  exact seal_ok rfl written (by decide) (by decide)

theorem patient_is_shredded : ∃ sealed, (seal_ {} "sub_a" patient "call_chain" none 1700000000 patientDraw).1 = .ok sealed ∧
    commitmentSurvives sealed = .ok true ∧
    ∀ value, unseal_ ((KeyRing.destroy (seal_ {} "sub_a" patient "call_chain" none 1700000000 patientDraw).2
      "sub_a" none 1700000100).2.run [.keyFor "sub_a" (some patientKey), .keyFor "sub_b" (some patientKey)]) sealed ≠ .ok value := by
  obtain ⟨sealed, done⟩ := patient_sealed
  obtain ⟨_, unread, survives, _⟩ := shredding_is_final patientAead_ideal
    (seal_ {} "sub_a" patient "call_chain" none 1700000000 patientDraw).2 "sub_a" none 1700000100
    [.keyFor "sub_a" (some patientKey), .keyFor "sub_b" (some patientKey)]
  exact ⟨sealed, done, survives _ _ _ _ _ _ _ _ done, unread sealed (.inr ⟨_, _, _, _, _, _, sealed, done, rfl⟩)⟩

end Sample

end Xcp.Privacy
