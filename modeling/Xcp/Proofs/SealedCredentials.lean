import Xcp.Library.Cipher
import Xcp.Library.Decode
import Xcp.Vault.Sealed

/-! What a sealed credential opens to, and for whom. A credential that is passed
on is sealed again, to the next recipient and with the longer chain. -/

namespace Xcp.Vault
open Cipher Checked Eth Python

section Laws
variable [Host] [Aead] [Agreement]

/-! ### One blob -/

/-- How a blob was sealed. -/
structure Seals (credential : String) (recipientPub : List Nat) (context : String) (draw : Draw) (shared ephPub : List Nat)
    (blob : String) : Prop where
  filled : credential ≠ ""
  exchanged : Agreement.exchange draw.ephemeral recipientPub = .ok shared
  ephemeral : Agreement.publicKey draw.ephemeral = .ok ephPub
  blob : blob = compactB64 (utf8 ((Json.dict (blobOf ephPub draw.nonce
    (Aead.encrypt (derive shared recipientPub context) draw.nonce (utf8 credential) (recipientPub ++ utf8 context)))).dumps
      blobStyle))

theorem seal_seals {credential context blob : String} {recipient : RecipientKey} {draw : Draw}
    (done : seal_ credential recipient context draw = .ok blob) :
    ∃ recipientPub shared ephPub, recipient.raw = .ok recipientPub ∧
      Seals credential recipientPub context draw shared ephPub blob := by
  unfold seal_ at done
  split at done
  · cases done
  next filled =>
    simp only [bind_eq_ok, pure_eq_ok] at done
    obtain ⟨recipientPub, raw, shared, exchanged, ct, encrypted, ephPub, ephemeral, rfl⟩ := done
    obtain rfl := encrypt_eq_ok encrypted
    exact ⟨recipientPub, shared, ephPub, raw, filled, exchanged, ephemeral, rfl⟩

theorem seal_ok {credential context : String} {recipient : RecipientKey} {draw : Draw} {recipientPub shared ephPub : List Nat}
    (filled : credential ≠ "") (raw : recipient.raw = .ok recipientPub)
    (exchanged : Agreement.exchange draw.ephemeral recipientPub = .ok shared)
    (ephemeral : Agreement.publicKey draw.ephemeral = .ok ephPub) (short : (utf8 credential).length ≤ maxBytes)
    (short' : (recipientPub ++ utf8 context).length ≤ maxBytes) : ∃ blob, seal_ credential recipient context draw = .ok blob := by
  have room : ¬ (maxBytes < (utf8 credential).length ∨ maxBytes < (recipientPub ++ utf8 context).length) := by omega
  simp only [seal_, filled, if_false, raw, exchanged, ephemeral, encrypt, room, ok_bind]
  exact ⟨_, rfl⟩

section Opening
variable {credential context blob : String} {recipientPub shared ephPub : List Nat} {draw : Draw}

omit [Host] [Aead] [Agreement] in
theorem blobBytes_of_item {blob : Json} {name : String} {data : List Nat} (bytes : ∀ byte ∈ data, byte < 256)
    (held : blob.item name = .ok (.str (compactB64 data))) : blobBytes blob name = .ok data := by
  rw [blobBytes, held, ok_bind, compactB64]
  exact Base64.decode_pads bytes

/-- Who opens a blob has the key and names the context that it was sealed with. -/
structure Opens (credential : String) (recipientPub : List Nat) (context : String) (shared ephPub : List Nat)
    (privateB64 : String) (recipient : RecipientKey) (context' text : String) : Prop where
  text : text = credential
  agreed : ∃ privateKey recipientPub' shared', Base64.decode (privateB64 ++ "==") = .ok privateKey ∧
    recipient.raw = .ok recipientPub' ∧ Agreement.exchange privateKey ephPub = .ok shared' ∧
    derive shared' recipientPub' context' = derive shared recipientPub context ∧
    recipientPub' ++ utf8 context' = recipientPub ++ utf8 context

variable [JsonDecoder]

omit [Aead] [Agreement] in
theorem readBlob_compactB64 (reads : ReadsDumped blobStyle) (ephPub nonce ct : List Nat) :
    readBlob (compactB64 (utf8 ((Json.dict (blobOf ephPub nonce ct)).dumps blobStyle))) = .ok (.dict (blobOf ephPub nonce ct)) := by
  have distinct : ((blobOf ephPub nonce ct).map Prod.fst).Nodup := by simp [blobOf]
  have version : (Json.int sealedVersion).isFlat = true := by decide
  have flat : ∀ member ∈ blobOf ephPub nonce ct, member.2.isFlat = true := by
    simp only [blobOf, List.forall_mem_cons]
    exact ⟨version, rfl, rfl, rfl, nofun⟩
  have read := reads _ distinct flat
  have decoded := Base64.decode_rstrip_encode (utf8_bytes ((Json.dict (blobOf ephPub nonce ct)).dumps blobStyle))
  rw [readBlob, compactB64, fill, decoded, ok_bind, read]
  rfl

/-- The errors of a blob aside, it opens as its parts do. -/
theorem unseal_blobOf (reads : ReadsDumped blobStyle) {ephPub nonce ct : List Nat} (first : ∀ byte ∈ ephPub, byte < 256)
    (second : ∀ byte ∈ nonce, byte < 256) (third : ∀ byte ∈ ct, byte < 256) {privateB64 context text : String}
    {recipient : RecipientKey} :
    unseal_ (compactB64 (utf8 ((Json.dict (blobOf ephPub nonce ct)).dumps blobStyle))) privateB64 recipient context = .ok text ↔
      ∃ privateKey recipientPub shared pt, Base64.decode (privateB64 ++ "==") = .ok privateKey ∧
        recipient.raw = .ok recipientPub ∧ Agreement.exchange privateKey ephPub = .ok shared ∧
        decrypt (derive shared recipientPub context) nonce ct (recipientPub ++ utf8 context) = .ok pt ∧ decodeUtf8 pt = .ok text := by
  have epk : blobBytes (.dict (blobOf ephPub nonce ct)) "epk" = .ok ephPub := blobBytes_of_item first rfl
  have drawn : blobBytes (.dict (blobOf ephPub nonce ct)) "n" = .ok nonce := blobBytes_of_item second rfl
  have sealed : blobBytes (.dict (blobOf ephPub nonce ct)) "ct" = .ok ct := blobBytes_of_item third rfl
  have version : (Json.dict (blobOf ephPub nonce ct)).get "v" = .ok (.int sealedVersion) := rfl
  have current : (Json.int sealedVersion).same (.int sealedVersion) = true := by simp
  rw [unseal_, readBlob_compactB64 reads, ok_bind, version, ok_bind, current]
  simp only [Bool.not_true, Bool.false_eq_true, if_false, bind_eq_ok, mapError_eq_ok, decryptBlob, epk, drawn, sealed, ok_bind]
  constructor
  · rintro ⟨pt, ⟨privateKey, held, recipientPub, raw, shared, exchanged, opened⟩, read⟩
    exact ⟨privateKey, recipientPub, shared, pt, held, raw, exchanged, opened, read⟩
  · rintro ⟨privateKey, recipientPub, shared, pt, held, raw, exchanged, opened, read⟩
    exact ⟨pt, ⟨privateKey, held, recipientPub, raw, shared, exchanged, opened⟩, read⟩

theorem Seals.unseal_iff (ideal : IdealAead) (reads : ReadsDumped blobStyle)
    (seals : Seals credential recipientPub context draw shared ephPub blob) {privateB64 context' text : String}
    {recipient : RecipientKey} :
    unseal_ blob privateB64 recipient context' = .ok text ↔
      Opens credential recipientPub context shared ephPub privateB64 recipient context' text := by
  have ephBytes := Agreement.publicKey_bytes _ _ seals.ephemeral
  have ctBytes := Aead.encrypt_bytes (derive shared recipientPub context) draw.nonce (utf8 credential)
    (recipientPub ++ utf8 context) (utf8_bytes credential)
  rw [seals.blob, unseal_blobOf reads ephBytes draw.nonce_bytes ctBytes]
  simp only [ideal.decrypt_iff]
  constructor
  · rintro ⟨privateKey, recipientPub', shared', _, held, raw, exchanged, ⟨keys, beside, rfl⟩, read⟩
    rw [decodeUtf8_utf8] at read
    exact ⟨(Except.ok.inj read).symm, privateKey, recipientPub', shared', held, raw, exchanged, keys, beside⟩
  · rintro ⟨rfl, privateKey, recipientPub', shared', held, raw, exchanged, keys, beside⟩
    exact ⟨privateKey, recipientPub', shared', utf8 text, held, raw, exchanged, ⟨keys, beside, rfl⟩, decodeUtf8_utf8 text⟩

end Opening

/-! ### Any blob -/

section Blobs
variable {privateB64 context : String} {recipient : RecipientKey}

/-- The plaintext was sealed in the blob, to this recipient and under this context. -/
def SealedIn (blob : Json) (privateB64 : String) (recipient : RecipientKey) (context : String) (pt : List Nat) : Prop :=
  ∃ privateKey epk recipientPub shared nonce, Base64.decode (privateB64 ++ "==") = .ok privateKey ∧
    blobBytes blob "epk" = .ok epk ∧ recipient.raw = .ok recipientPub ∧ Agreement.exchange privateKey epk = .ok shared ∧
    blobBytes blob "n" = .ok nonce ∧
    blobBytes blob "ct" = .ok (Aead.encrypt (derive shared recipientPub context) nonce pt (recipientPub ++ utf8 context))

omit [Host] in
theorem decryptBlob_eq_ok (ideal : IdealAead) {blob : Json} {pt : List Nat} :
    decryptBlob blob privateB64 recipient context = .ok pt ↔ SealedIn blob privateB64 recipient context pt := by
  simp only [decryptBlob, bind_eq_ok, decrypt_eq_ok]
  constructor
  · rintro ⟨privateKey, held, epk, named, recipientPub, raw, shared, exchanged, nonce, drawn, ct, given, opened⟩
    refine ⟨privateKey, epk, recipientPub, shared, nonce, held, named, raw, exchanged, drawn, ?_⟩
    rw [given, ideal.genuine _ _ _ _ _ opened]
  · rintro ⟨privateKey, epk, recipientPub, shared, nonce, held, named, raw, exchanged, drawn, given⟩
    exact ⟨privateKey, held, epk, named, recipientPub, raw, shared, exchanged, nonce, drawn, _, given, ideal.opens ..⟩

/-- A blob that is read is an object, and what was sealed in it is text. -/
structure Openable (blob : Json) (privateB64 : String) (recipient : RecipientKey) (context : String) : Prop where
  object : ∃ members, blob = .dict members
  texts : ∀ version pt, blob.get "v" = .ok version → version.same (.int sealedVersion) = true →
    SealedIn blob privateB64 recipient context pt → ∃ text, utf8 text = pt

variable [JsonDecoder]

/-- Either the text that was sealed to the recipient comes out, or a `SealError`. -/
def OpensOrRefuses (blobB64 privateB64 : String) (recipient : RecipientKey) (context : String) : Prop :=
  (∃ blob text, readBlob blobB64 = .ok blob ∧ SealedIn blob privateB64 recipient context (utf8 text) ∧
    unseal_ blobB64 privateB64 recipient context = .ok text) ∨
  ∃ exception, unseal_ blobB64 privateB64 recipient context = .error exception ∧ exception.kind = .package "SealError"

omit [Host] [Aead] [Agreement] in
theorem readBlob_error {blobB64 : String} {exception : Exception} (failed : readBlob blobB64 = .error exception) :
    exception.kind = .package "SealError" := by
  unfold readBlob at failed
  cases reading : Base64.decode (blobB64 ++ fill blobB64) >>= JsonDecoder.loads with
  | ok => simp [reading, Except.mapError] at failed
  | error =>
    rw [reading] at failed
    exact congrArg Exception.kind (Except.error.inj failed).symm

section Read
variable {blobB64 : String} {blob version : Json} {pt : List Nat}

theorem unseal_of_sealed (ideal : IdealAead) (read : readBlob blobB64 = .ok blob) (versioned : blob.get "v" = .ok version)
    (current : version.same (.int sealedVersion) = true) (sealed : SealedIn blob privateB64 recipient context pt) :
    unseal_ blobB64 privateB64 recipient context = decodeUtf8 pt := by
  rw [unseal_, read, ok_bind, versioned, ok_bind, current, (decryptBlob_eq_ok ideal).mpr sealed]
  rfl

theorem OpensOrRefuses.openable (ideal : IdealAead) (opens : OpensOrRefuses blobB64 privateB64 recipient context)
    (read : readBlob blobB64 = .ok blob) : Openable blob privateB64 recipient context where
  object := by
    by_contra other
    have outcome : unseal_ blobB64 privateB64 recipient context = blob.noAttribute "get" := by
      rw [unseal_, read, ok_bind]
      cases blob with
      | dict members => exact absurd ⟨members, rfl⟩ other
      | _ => rfl
    rcases opens with ⟨_, _, _, _, opened⟩ | ⟨exception, failed, kind⟩
    · rw [outcome] at opened
      cases opened
    · rw [outcome] at failed
      rw [← Except.error.inj failed] at kind
      cases kind
  texts := by
    intro version pt versioned current sealed
    have outcome := unseal_of_sealed ideal read versioned current sealed
    rcases opens with ⟨_, text, _, _, opened⟩ | ⟨exception, failed, kind⟩
    · rw [outcome] at opened
      exact ⟨text, decodeUtf8_eq_ok.mp opened⟩
    · rw [outcome, decodeUtf8] at failed
      split at failed
      · cases failed
      · rw [← Except.error.inj failed] at kind
        cases kind

theorem Openable.opens (ideal : IdealAead) (openable : Openable blob privateB64 recipient context)
    (read : readBlob blobB64 = .ok blob) : OpensOrRefuses blobB64 privateB64 recipient context := by
  obtain ⟨members, rfl⟩ := openable.object
  obtain ⟨version, versioned⟩ : ∃ version, (Json.dict members).get "v" = .ok version := ⟨_, rfl⟩
  by_cases current : version.same (.int sealedVersion) = true
  · cases decrypted : decryptBlob (.dict members) privateB64 recipient context with
    | ok pt =>
      have sealed := (decryptBlob_eq_ok ideal).mp decrypted
      obtain ⟨text, rfl⟩ := openable.texts version pt versioned current sealed
      refine .inl ⟨_, text, read, sealed, ?_⟩
      rw [unseal_of_sealed ideal read versioned current sealed, decodeUtf8_utf8]
    | error =>
      have refused : unseal_ blobB64 privateB64 recipient context =
          sealError "could not open the sealed credential (wrong recipient, wrong context, or tampered)" := by
        rw [unseal_, read, ok_bind, versioned, ok_bind, current, decrypted]
        rfl
      exact .inr ⟨_, refused, rfl⟩
  · have refused : unseal_ blobB64 privateB64 recipient context =
        sealError s!"unsupported sealed-credential version {version.toStr}" := by
      rw [unseal_, read, ok_bind, versioned, ok_bind, Bool.eq_false_iff.mpr current]
      rfl
    exact .inr ⟨_, refused, rfl⟩

end Read

/-- What was made by sealing is openable, whoever tries it. -/
theorem Seals.openable (ideal : IdealAead) (reads : ReadsDumped blobStyle) {credential blobB64 context' : String}
    {recipientPub shared ephPub : List Nat} {draw : Draw} {blob : Json}
    (seals : Seals credential recipientPub context' draw shared ephPub blobB64) (read : readBlob blobB64 = .ok blob) :
    Openable blob privateB64 recipient context := by
  have ctBytes := Aead.encrypt_bytes (derive shared recipientPub context') draw.nonce (utf8 credential)
    (recipientPub ++ utf8 context') (utf8_bytes credential)
  rw [seals.blob, readBlob_compactB64 reads] at read
  obtain rfl := Except.ok.inj read
  refine ⟨⟨_, rfl⟩, ?_⟩
  rintro version pt versioned current ⟨_, _, _, _, _, _, _, _, _, _, given⟩
  rw [blobBytes_of_item ctBytes rfl] at given
  have bound := ideal.binds _ _ _ _ _ _ _ _ (Except.ok.inj given)
  exact ⟨credential, bound.2.1⟩

/-- Unsealing opens or refuses exactly the blobs that are no JSON, or an object in
which nothing but text was sealed. -/
theorem unseal_opens_or_refuses_iff (ideal : IdealAead) (blobB64 privateB64 : String) (recipient : RecipientKey)
    (context : String) : OpensOrRefuses blobB64 privateB64 recipient context ↔
      ∀ blob, readBlob blobB64 = .ok blob → Openable blob privateB64 recipient context := by
  constructor
  · intro opens blob read
    exact opens.openable ideal read
  · intro openable
    cases read : readBlob blobB64 with
    | ok blob => exact (openable blob read).opens ideal read
    | error exception =>
      refine .inr ⟨exception, ?_, readBlob_error read⟩
      rw [unseal_, read]
      rfl

end Blobs

/-! ### Chains -/

/-- A private key, and the half of it that is published. -/
def KeyPair (privateB64 : String) (recipient : RecipientKey) : Prop :=
  ∃ privateKey key, Base64.decode (privateB64 ++ "==") = .ok privateKey ∧ Agreement.publicKey privateKey = .ok key ∧
    recipient.raw = .ok key

/-- The credential in a chain, and to whom it is sealed. -/
def Carries (credential : String) (recipient : RecipientKey) (chained : ChainedCredential) : Prop :=
  ∃ recipientPub draw shared ephPub, recipient.raw = .ok recipientPub ∧
    Seals credential recipientPub chained.context draw shared ephPub chained.blob

theorem sealChained_ok {credential origin : String} {recipient : RecipientKey} {maxHops : Int} {draw : Draw}
    {chained : ChainedCredential} (done : sealChained credential recipient origin maxHops draw = .ok chained) :
    0 ≤ maxHops ∧ chained.origin = origin ∧ chained.hops = [] ∧ chained.maxHops = maxHops ∧ Carries credential recipient chained := by
  unfold sealChained at done
  split at done
  · cases done
  next positive =>
    simp only [bind_eq_ok, pure_eq_ok] at done
    obtain ⟨blob, sealed, rfl⟩ := done
    obtain ⟨recipientPub, shared, ephPub, raw, seals⟩ := seal_seals sealed
    exact ⟨not_lt.mp positive, rfl, rfl, rfl, recipientPub, draw, shared, ephPub, raw, seals⟩

variable [JsonDecoder]

/-- What a delegation that goes through does. -/
structure Delegates (chained : ChainedCredential) (handover : Handover) (next : ChainedCredential) : Prop where
  budget : chained.depth < chained.maxHops
  fresh : handover.toNode ∉ chained.seen
  origin : next.origin = chained.origin
  maxHops : next.maxHops = chained.maxHops
  hops : next.hops = chained.hops ++ [handover.hop]
  passed : ∃ plaintext, openChained chained handover.privateB64 handover.recipient = .ok plaintext ∧
    Carries plaintext handover.nextRecipient next

theorem delegate_delegates {chained next : ChainedCredential} {handover : Handover}
    (done : delegate chained handover = .ok next) : Delegates chained handover next := by
  unfold delegate at done
  by_cases exhausted : chained.maxHops ≤ chained.depth
  · simp [exhausted, sealError, raise] at done
  by_cases seen : chained.seen.contains handover.toNode = true
  · simp [exhausted, List.contains_iff_mem.mp seen, sealError, raise] at done
  simp only [exhausted, seen, if_false, bind_eq_ok, pure_eq_ok, Bool.false_eq_true] at done
  obtain ⟨plaintext, opened, blob, sealed, rfl⟩ := done
  obtain ⟨recipientPub, shared, ephPub, raw, seals⟩ := seal_seals sealed
  exact {
    budget := not_le.mp exhausted
    fresh := by simpa using seen
    origin := rfl
    maxHops := rfl
    hops := rfl
    passed := ⟨plaintext, opened, recipientPub, handover.draw, shared, ephPub, raw, seals⟩ }

theorem delegate_ok {chained : ChainedCredential} {handover : Handover} {plaintext blob : String}
    (budget : chained.depth < chained.maxHops) (fresh : handover.toNode ∉ chained.seen)
    (opened : openChained chained handover.privateB64 handover.recipient = .ok plaintext)
    (sealed : seal_ plaintext handover.nextRecipient (chained.extended handover).context handover.draw = .ok blob) :
    delegate chained handover = .ok { chained.extended handover with blob } := by
  have unseen : chained.seen.contains handover.toNode = false := by simpa using fresh
  simp only [delegate, not_le.mpr budget, unseen, opened, sealed, if_false, ok_bind, Bool.false_eq_true]
  rfl

section Carrying
variable {credential : String} {recipient : RecipientKey} {chained : ChainedCredential}

/-- Who has the recipient's private key opens the credential in its chain. -/
theorem Carries.opens (ideal : IdealAead) (agreement : IdealAgreement) (reads : ReadsDumped blobStyle)
    (carries : Carries credential recipient chained) {privateB64 : String} (pair : KeyPair privateB64 recipient)
    {changed : ChainedCredential} (kept : changed.blob = chained.blob) (same : changed.context = chained.context) :
    openChained changed privateB64 recipient = .ok credential := by
  obtain ⟨recipientPub, draw, shared, ephPub, raw, seals⟩ := carries
  obtain ⟨privateKey, key, held, owned, published⟩ := pair
  obtain rfl : key = recipientPub := Except.ok.inj (published.symm.trans raw)
  have agreed := agreement.agrees _ _ _ _ owned seals.ephemeral
  rw [openChained, kept, seals.unseal_iff ideal reads, same]
  exact ⟨rfl, privateKey, key, shared, held, raw, agreed.trans seals.exchanged, rfl, rfl⟩

/-- Whoever opens it, and wherever, it is the credential that was sealed. -/
theorem Carries.text (ideal : IdealAead) (reads : ReadsDumped blobStyle) (carries : Carries credential recipient chained)
    {changed : ChainedCredential} (kept : changed.blob = chained.blob) {privateB64 text : String} {asked : RecipientKey}
    (opened : openChained changed privateB64 asked = .ok text) : text = credential := by
  obtain ⟨recipientPub, draw, shared, ephPub, raw, seals⟩ := carries
  rw [openChained, kept, seals.unseal_iff ideal reads] at opened
  exact opened.text

/-- Its recipient opens it in its own chain alone. -/
theorem Carries.context (ideal : IdealAead) (reads : ReadsDumped blobStyle) (carries : Carries credential recipient chained)
    {changed : ChainedCredential} (kept : changed.blob = chained.blob) {privateB64 text : String}
    (opened : openChained changed privateB64 recipient = .ok text) : changed.context = chained.context := by
  obtain ⟨recipientPub, draw, shared, ephPub, raw, seals⟩ := carries
  rw [openChained, kept, seals.unseal_iff ideal reads] at opened
  obtain ⟨_, key, _, _, published, _, _, beside⟩ := opened.agreed
  obtain rfl : key = recipientPub := Except.ok.inj (published.symm.trans raw)
  exact utf8_inj (List.append_cancel_left beside)

/-- Another private key does not open it, whatever public key is named beside it. -/
theorem Carries.stranger (ideal : IdealAead) (agreement : IdealAgreement) (reads : ReadsDumped blobStyle)
    (carries : Carries credential recipient chained) {privateB64 otherB64 text : String} {other asked : RecipientKey}
    (pair : KeyPair privateB64 recipient) (otherPair : KeyPair otherB64 other)
    (opened : openChained chained otherB64 asked = .ok text) : other.raw = recipient.raw := by
  obtain ⟨recipientPub, draw, shared, ephPub, raw, seals⟩ := carries
  obtain ⟨privateKey, key, _, owned, published⟩ := pair
  obtain ⟨otherKey, key', held, otherOwned, otherPublished⟩ := otherPair
  obtain rfl : key = recipientPub := Except.ok.inj (published.symm.trans raw)
  rw [openChained, seals.unseal_iff ideal reads] at opened
  obtain ⟨_, _, _, held', _, exchanged, derived, _⟩ := opened.agreed
  obtain rfl := Except.ok.inj (held'.symm.trans held)
  obtain rfl := agreement.derives _ _ _ _ derived
  have agreed := (agreement.agrees _ _ _ _ owned seals.ephemeral).trans seals.exchanged
  rw [raw, otherPublished, agreement.alone _ _ _ _ _ _ _ owned otherOwned seals.ephemeral agreed exchanged]

end Carrying

/-! ### One delegation after another -/

def relay : ChainedCredential → List Handover → Raises ChainedCredential
  | chained, [] => .ok chained
  | chained, handover :: rest => do
    let next ← delegate chained handover
    relay next rest

/-- To whom a credential is sealed in the end. -/
def lastRecipient : RecipientKey → List Handover → RecipientKey
  | recipient, [] => recipient
  | _, handover :: rest => lastRecipient handover.nextRecipient rest

omit [Host] [Aead] [Agreement] [JsonDecoder] in
theorem lastRecipient_mem (recipient : RecipientKey) (handovers : List Handover) :
    lastRecipient recipient handovers ∈ recipient :: handovers.map Handover.nextRecipient := by
  induction handovers generalizing recipient with
  | nil => exact List.mem_singleton.mpr rfl
  | cons handover rest ih =>
    apply List.mem_cons_of_mem
    exact ih handover.nextRecipient

/-- What each delegation keeps is kept by any number of them. -/
theorem relay_induction (invariant : RecipientKey → ChainedCredential → Prop) (recipient : RecipientKey)
    (step : ∀ recipient chained handover next, invariant recipient chained → Delegates chained handover next →
      invariant handover.nextRecipient next)
    {chained last : ChainedCredential} {handovers : List Handover} (start : invariant recipient chained)
    (done : relay chained handovers = .ok last) : invariant (lastRecipient recipient handovers) last := by
  induction handovers generalizing recipient chained with
  | nil =>
    obtain rfl := Except.ok.inj done
    exact start
  | cons handover rest ih =>
    rw [relay, bind_eq_ok] at done
    obtain ⟨next, delegated, relayed⟩ := done
    exact ih handover.nextRecipient (step recipient chained handover next start (delegate_delegates delegated)) relayed

theorem Carries.delegates (ideal : IdealAead) (reads : ReadsDumped blobStyle) {credential : String} {recipient : RecipientKey}
    {chained next : ChainedCredential} {handover : Handover} (carries : Carries credential recipient chained)
    (delegates : Delegates chained handover next) : Carries credential handover.nextRecipient next := by
  obtain ⟨plaintext, opened, carried⟩ := delegates.passed
  obtain rfl := carries.text ideal reads rfl opened
  exact carried

/-- The credential is in the chain from its origin on, for each recipient in turn. -/
theorem Carries.relay (ideal : IdealAead) (reads : ReadsDumped blobStyle) {credential : String} {recipient : RecipientKey}
    {chained last : ChainedCredential} {handovers : List Handover} (carries : Carries credential recipient chained)
    (done : relay chained handovers = .ok last) : Carries credential (lastRecipient recipient handovers) last := by
  apply relay_induction (Carries credential) recipient ?_ carries done
  intro recipient chained handover next carries delegates
  exact carries.delegates ideal reads delegates

end Laws

/-! ### A credential that is passed on once -/

theorem range_bytes : ∀ byte ∈ List.range 12, byte < 256 := by decide

def plannerDraw : Draw where
  ephemeral := List.replicate 32 3
  nonce := List.range 12
  nonce_bytes := range_bytes

def gatewayDraw : Draw where
  ephemeral := List.replicate 32 4
  nonce := List.range' 12 12
  nonce_bytes := by decide

def gatewayPublic : List Nat :=
  [164, 224, 146, 146, 182, 81, 194, 120, 185, 119, 44, 86, 159, 95, 169, 187, 19, 217, 6, 180, 106, 182, 140, 157, 249, 220,
  43, 68, 9, 248, 162, 9]

def billingPublic : List Nat :=
  [206, 141, 58, 209, 204, 182, 51, 236, 123, 112, 193, 120, 20, 165, 199, 110, 205, 2, 150, 133, 5, 13, 52, 71, 69, 186, 5,
  135, 14, 88, 125, 89]

def plannerPublic : List Nat :=
  [93, 254, 221, 59, 107, 212, 127, 111, 162, 142, 225, 93, 150, 157, 91, 176, 234, 83, 119, 77, 72, 139, 218, 249, 223, 28,
  110, 1, 36, 179, 239, 34]

def onwardPublic : List Nat :=
  [172, 1, 178, 32, 158, 134, 53, 79, 184, 83, 35, 123, 93, 224, 244, 250, 177, 60, 127, 203, 244, 51, 166, 28, 1, 147, 105, 97,
  127, 236, 241, 11]

def plannerSecret : List Nat :=
  [176, 25, 5, 65, 162, 171, 184, 188, 22, 59, 110, 239, 15, 174, 123, 160, 23, 144, 4, 180, 68, 50, 111, 115, 128, 149, 99, 22,
  77, 71, 197, 33]

def onwardSecret : List Nat :=
  [9, 187, 151, 76, 227, 121, 153, 89, 9, 102, 96, 189, 236, 227, 187, 137, 202, 16, 110, 109, 243, 28, 47, 112, 27, 123, 139,
  153, 119, 4, 124, 52]

/-- Two recipients, and what is drawn to seal a credential to each of them. -/
def sampleOwners : List Owner :=
  [⟨List.replicate 32 1, gatewayPublic, [(plannerPublic, plannerSecret)]⟩,
    ⟨List.replicate 32 2, billingPublic, [(onwardPublic, onwardSecret)]⟩,
    ⟨plannerDraw.ephemeral, plannerPublic, [(gatewayPublic, plannerSecret)]⟩,
    ⟨gatewayDraw.ephemeral, onwardPublic, [(billingPublic, onwardSecret)]⟩]

def plannerKey : List Nat :=
  [110, 106, 104, 160, 232, 91, 61, 95, 196, 27, 150, 16, 137, 75, 97, 15, 216, 136, 202, 76, 114, 153, 164, 216, 183, 220, 203,
  164, 19, 123, 125, 188]

def onwardKey : List Nat :=
  [252, 175, 21, 183, 133, 17, 59, 45, 148, 241, 208, 94, 177, 254, 111, 194, 91, 227, 38, 203, 180, 251, 13, 250, 83, 4, 56,
  235, 143, 24, 5, 6]

def sampleDerived : List ((List Nat × List Nat) × List Nat) :=
  [((plannerSecret, hkdfInfo ++ utf8 "|" ++ gatewayPublic ++ utf8 "|" ++ utf8 "chain:planner:0:"), plannerKey),
    ((onwardSecret, hkdfInfo ++ utf8 "|" ++ billingPublic ++ utf8 "|" ++ utf8 "chain:planner:1:gateway>wrapper>billing"), onwardKey)]

def sampleEncrypted : List Encrypted :=
  [{ key := plannerKey, nonce := plannerDraw.nonce, data := utf8 "sk_live_51"
     associated := gatewayPublic ++ utf8 "chain:planner:0:"
     sealed := [115, 195, 29, 181, 143, 150, 86, 142, 238, 67, 60, 138, 103, 159, 161, 96, 235, 137, 145, 246, 131, 199, 242,
               222, 8, 31] },
    { key := onwardKey, nonce := gatewayDraw.nonce, data := utf8 "sk_live_51"
      associated := billingPublic ++ utf8 "chain:planner:1:gateway>wrapper>billing"
      sealed := [116, 215, 74, 78, 232, 238, 73, 192, 207, 12, 236, 62, 245, 178, 252, 37, 211, 139, 54, 200, 201, 15, 184, 159,
                244, 97] }]

@[reducible] def sampleAead : Aead := tableAead sampleEncrypted (by decide)

@[reducible] def sampleAgreement : Agreement := tableAgreement sampleOwners sampleDerived (by decide)

theorem sampleAead_ideal : @IdealAead sampleAead := tableAead_ideal sampleEncrypted (by decide)

theorem sampleAgreement_ideal : @IdealAgreement sampleAgreement :=
  tableAgreement_ideal (by decide) (by decide)

def gatewayKey : RecipientKey := ⟨"pOCSkrZRwni5dyxWn1-puxPZBrRqtoyd-dwrRAn4ogk"⟩

def billingKey : RecipientKey := ⟨"zo060cy2M-x7cMF4FKXHbs0CloUFDTRHRboFhw5YfVk"⟩

/-- The gateway passes a credential on to the billing wrapper. -/
def sampleHandover : Handover where
  privateB64 := "AQEBAQEBAQEBAQEBAQEBAQEBAQEBAQEBAQEBAQEBAQE"
  recipient := gatewayKey
  nextRecipient := billingKey
  fromNode := "gateway"
  toNode := "wrapper>billing"
  clock := 1700000000
  draw := gatewayDraw

theorem blobStyle_standard : blobStyle.Standard :=
  ⟨⟨[], rfl, List.forall_mem_nil _⟩, ⟨[], rfl, List.forall_mem_nil _⟩⟩

section Sample
local instance sealedHost : Host := asciiHost []
local instance sealedAead : Aead := sampleAead
local instance sealedAgreement : Agreement := sampleAgreement
local instance sealedDecoder : JsonDecoder := textDecoder

theorem sample_reads : ReadsDumped blobStyle := textDecoder_readsDumped blobStyle_standard

theorem gateway_keyPair : KeyPair "AQEBAQEBAQEBAQEBAQEBAQEBAQEBAQEBAQEBAQEBAQE" gatewayKey :=
  ⟨List.replicate 32 1, gatewayPublic, by decide, by decide, by decide⟩

theorem billing_keyPair : KeyPair "AgICAgICAgICAgICAgICAgICAgICAgICAgICAgICAgI" billingKey :=
  ⟨List.replicate 32 2, billingPublic, by decide, by decide, by decide⟩

/-- An empty list is a blob that is read. -/
theorem list_blob_unrefused : unseal_ "W10" "AQEBAQEBAQEBAQEBAQEBAQEBAQEBAQEBAQEBAQEBAQE" gatewayKey "" =
      raise .attributeError "'list' object has no attribute 'get'" ∧
    ¬ OpensOrRefuses "W10" "AQEBAQEBAQEBAQEBAQEBAQEBAQEBAQEBAQEBAQEBAQE" gatewayKey "" := by
  have outcome : unseal_ "W10" "AQEBAQEBAQEBAQEBAQEBAQEBAQEBAQEBAQEBAQEBAQE" gatewayKey "" =
    raise .attributeError "'list' object has no attribute 'get'" := rfl
  refine ⟨outcome, ?_⟩
  rintro (⟨_, _, _, _, opened⟩ | ⟨exception, failed, kind⟩)
  · rw [outcome] at opened
    cases opened
  · rw [outcome] at failed
    rw [← Except.error.inj failed] at kind
    cases kind

theorem planner_seals : ∃ blob, seal_ "sk_live_51" gatewayKey "chain:planner:0:" plannerDraw = .ok blob := by
  have raw : gatewayKey.raw = .ok gatewayPublic := by decide
  have shared : Agreement.exchange plannerDraw.ephemeral gatewayPublic = .ok plannerSecret := by decide
  have drawn : Agreement.publicKey plannerDraw.ephemeral = .ok plannerPublic := by decide
  exact seal_ok (by decide) raw shared drawn (by decide) (by decide)

theorem sealed_opens_or_refuses : ∃ blob, seal_ "sk_live_51" gatewayKey "chain:planner:0:" plannerDraw = .ok blob ∧
    OpensOrRefuses blob "AQEBAQEBAQEBAQEBAQEBAQEBAQEBAQEBAQEBAQEBAQE" gatewayKey "chain:planner:0:" := by
  obtain ⟨blob, sealed⟩ := planner_seals
  obtain ⟨recipientPub, shared, ephPub, _, seals⟩ := seal_seals sealed
  refine ⟨blob, sealed, (unseal_opens_or_refuses_iff sampleAead_ideal blob _ gatewayKey _).mpr ?_⟩
  intro read found
  exact seals.openable sampleAead_ideal sample_reads found

theorem sample_relayed : ∃ first chained, sealChained "sk_live_51" gatewayKey "planner" 1 plannerDraw = .ok first ∧
    relay first [sampleHandover] = .ok chained ∧ chained.origin = "planner" ∧ chained.hops = [sampleHandover.hop] ∧
    chained.maxHops = 1 := by
  have billingRaw : billingKey.raw = .ok billingPublic := by decide
  have onward : Agreement.exchange gatewayDraw.ephemeral billingPublic = .ok onwardSecret := by decide
  have gatewayDrawn : Agreement.publicKey gatewayDraw.ephemeral = .ok onwardPublic := by decide
  obtain ⟨blob, sealed⟩ := planner_seals
  have start : ChainedCredential.context { blob := "", origin := "planner", hops := [], maxHops := 1 } = "chain:planner:0:" := by
    decide
  have first : sealChained "sk_live_51" gatewayKey "planner" 1 plannerDraw =
      .ok { blob, origin := "planner", hops := [], maxHops := 1 } := by
    simp only [sealChained, start, sealed]
    rfl
  have carries := (sealChained_ok first).2.2.2.2
  have opened := carries.opens sampleAead_ideal sampleAgreement_ideal sample_reads gateway_keyPair rfl rfl
  obtain ⟨next, sealed'⟩ : ∃ blob, seal_ "sk_live_51" billingKey "chain:planner:1:gateway>wrapper>billing" gatewayDraw = .ok blob :=
    seal_ok (by decide) billingRaw onward gatewayDrawn (by decide) (by decide)
  have longer : ChainedCredential.context { blob := "", origin := "planner", hops := [sampleHandover.hop], maxHops := 1 } =
      "chain:planner:1:gateway>wrapper>billing" := by decide
  rw [← longer] at sealed'
  have fresh : sampleHandover.toNode ∉ ["planner"] := by decide
  have budget : ((0 : Nat) : Int) < 1 := by decide
  have passed : delegate { blob, origin := "planner", hops := [], maxHops := 1 } sampleHandover =
      .ok { blob := next, origin := "planner", hops := [sampleHandover.hop], maxHops := 1 } :=
    delegate_ok budget fresh opened sealed'
  have relayed : relay { blob, origin := "planner", hops := [], maxHops := 1 } [sampleHandover] =
      .ok { blob := next, origin := "planner", hops := [sampleHandover.hop], maxHops := 1 } := by
    rw [relay, passed]
    rfl
  exact ⟨_, _, first, relayed, rfl, rfl, rfl⟩

end Sample

end Xcp.Vault
