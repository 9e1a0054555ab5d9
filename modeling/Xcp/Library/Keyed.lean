import Xcp.Library.Ideal

/-! Packages and accounts for tests in which keys sign: they know what each key
signed. -/

namespace Eth
open Python

/-- A message that a key signed. -/
structure KeyedMessage where
  message : TypedData
  hash : List Nat
  key : String
  signature : List Nat
  signer : String

/-- The packages on the messages at hand; every other input is its own hash. -/
@[reducible] def keyedPackages (hashes : List (List Nat × List Nat)) (signed : List KeyedMessage) : Packages :=
  { tablePackages hashes [] with
    encode := fun data =>
      match signed.find? (fun known => known.message = data) with
      | some known => .ok known.hash
      | none => raise (.package "ValidationError") ""
    recover := fun signable signature =>
      match signed.find? (fun known => known.hash = signable && .given (.str ("0x" ++ toHex known.signature)) = signature) with
      | some known => .ok known.signer
      | none => raise (.package "BadSignature") ""
    sign := fun signable key =>
      match signed.find? (fun known => known.hash = signable && known.key = key) with
      | some known => .ok known.signature
      | none => raise (.package "ValidationError") "" }

@[reducible] def keyedAccounts (signed : List KeyedMessage) : Accounts where
  address := fun key =>
    match signed.find? (fun known => known.key = key) with
    | some known => .ok known.signer
    | none => raise (.package "ValidationError") ""

variable (hashes : List (List Nat × List Nat)) {signed : List KeyedMessage}

theorem find?_of_only {α : Type} {items : List α} {passes : α → Bool} {item : α} (member : item ∈ items)
    (only : ∀ other ∈ items, passes other = true ↔ other = item) : items.find? passes = some item := by
  cases found : items.find? passes with
  | none => exact absurd ((only item member).mpr rfl) (List.find?_eq_none.mp found item member)
  | some other =>
    rw [(only other (List.mem_of_find?_eq_some found)).mp (List.find?_some found)]

/-- Each key has one address. -/
def OneOwner (signed : List KeyedMessage) : Prop :=
  ∀ first ∈ signed, ∀ second ∈ signed, first.key = second.key → first.signer = second.signer

theorem address_keyedAccounts (owners : OneOwner signed) {known : KeyedMessage} (member : known ∈ signed) :
    (keyedAccounts signed).address known.key = .ok known.signer := by
  cases found : signed.find? (fun other => other.key = known.key) with
  | none =>
    have other := List.find?_eq_none.mp found known member
    simp at other
  | some owner =>
    have key : owner.key = known.key := by simpa using List.find?_some found
    simp only [Accounts.address, found]
    rw [owners owner (List.mem_of_find?_eq_some found) known member key]

theorem encode_keyedPackages {known : KeyedMessage}
    (found : signed.find? (fun other => other.message = known.message) = some known) :
    (keyedPackages hashes signed).encode known.message = .ok known.hash := by
  simp only [Packages.encode, found]

section Distinct

variable (distinct : (signed.map KeyedMessage.hash).Nodup) {known : KeyedMessage} (member : known ∈ signed)
include distinct member

/-- The message with a hash, whatever else it is asked for. -/
theorem find?_of_hash {also : KeyedMessage → Bool} (passes : also known = true) :
    signed.find? (fun other => other.hash = known.hash && also other) = some known := by
  apply find?_of_only member
  intro other inside
  rw [Bool.and_eq_true, decide_eq_true_eq]
  constructor
  · intro ⟨same, _⟩
    exact List.inj_on_of_nodup_map distinct inside member same
  · rintro rfl
    exact ⟨rfl, passes⟩

theorem sign_keyedPackages : (keyedPackages hashes signed).sign known.hash known.key = .ok known.signature := by
  have found : signed.find? (fun other => other.hash = known.hash && other.key = known.key) = some known := by
    apply find?_of_hash distinct member
    exact decide_eq_true rfl
  simp only [Packages.sign, found]

theorem recover_keyedPackages :
    (keyedPackages hashes signed).recover known.hash (.given (.str ("0x" ++ toHex known.signature))) = .ok known.signer := by
  have found : signed.find? (fun other => other.hash = known.hash &&
      Signature.given (.str ("0x" ++ toHex other.signature)) = .given (.str ("0x" ++ toHex known.signature))) = some known := by
    apply find?_of_hash distinct member
    exact decide_eq_true rfl
  simp only [Packages.recover, found]

end Distinct

/-- What a key signs is recovered to the address of the key. -/
theorem keyedPackages_recover (owners : OneOwner signed) (distinct : (signed.map KeyedMessage.hash).Nodup)
    (key address : String) (signable signature : List Nat) (known : (keyedAccounts signed).address key = .ok address)
    (made : (keyedPackages hashes signed).sign signable key = .ok signature) :
    (keyedPackages hashes signed).recover signable (.given (.str ("0x" ++ toHex signature))) = .ok address := by
  simp only [Packages.sign] at made
  split at made
  next entry found =>
    have member := List.mem_of_find?_eq_some found
    have passed := List.find?_some found
    rw [Bool.and_eq_true, decide_eq_true_eq, decide_eq_true_eq] at passed
    obtain ⟨rfl, rfl⟩ := passed
    rw [address_keyedAccounts owners member, Except.ok.injEq] at known
    rw [← known, ← Except.ok.inj made]
    exact recover_keyedPackages hashes distinct member
  next => cases made

/-! ### Packages on whole tables -/

/-- The packages on the messages at hand, whose signatures are read as bytes and as text. -/
@[reducible] def signingPackages (hashes : List (List Nat × List Nat)) (signed : List KeyedMessage) : Packages where
  keccak := fun data => (hashes.lookup data).getD (List.replicate 32 0)
  encode := (keyedPackages hashes signed).encode
  recover := fun signable signature =>
    match signed.find? (fun known => known.hash = signable &&
        (signature = .bytes known.signature || signature = .given (.str ("0x" ++ toHex known.signature)))) with
    | some known => .ok known.signer
    | none => raise (.package "BadSignature") ""
  sign := (keyedPackages hashes signed).sign

/-- A number of an unsigned field. -/
def fitsWord : Raises Json → Bool
  | .ok (.int number) => 0 ≤ number && number < 2 ^ 256
  | _ => false

/-- Tables of hashes of 32 bytes, of signatures that are bytes and of signers that have an
address. -/
structure SoundTables (hashes : List (List Nat × List Nat)) (signed : List KeyedMessage) : Prop where
  sized : ∀ entry ∈ hashes, entry.2.length = 32 ∧ ∀ byte ∈ entry.2, byte < 256
  messages : (signed.map KeyedMessage.message).Nodup
  distinct : (signed.map KeyedMessage.hash).Nodup
  owners : OneOwner signed
  bytes : ∀ known ∈ signed, ∀ byte ∈ known.signature, byte < 256
  letters : ∀ known ∈ signed, isAscii known.signer = true ∧ (utf8 (lowerAscii known.signer)).length = 42
  words : ∀ known ∈ signed, ∀ field ∈ known.message.fields, startsWith field.2 "uint" = true →
    fitsWord (known.message.message.item field.1) = true

namespace SoundTables
variable {hashes : List (List Nat × List Nat)} {signed : List KeyedMessage} (sound : SoundTables hashes signed)
include sound

theorem sizedHash : @SizedHash (signingPackages hashes signed) := by
  have each (data : List Nat) : ((hashes.lookup data).getD (List.replicate 32 0)).length = 32 ∧
      ∀ byte ∈ (hashes.lookup data).getD (List.replicate 32 0), byte < 256 := by
    cases found : hashes.lookup data with
    | none => simp
    | some hash =>
      obtain ⟨before, after, same, _⟩ := List.lookup_eq_some_iff.mp found
      exact sound.sized (data, hash) (by simp [same])
  exact @SizedHash.mk (signingPackages hashes signed) (fun data => (each data).1) (fun data => (each data).2)

theorem encodes {known : KeyedMessage} (member : known ∈ signed) :
    (signingPackages hashes signed).encode known.message = .ok known.hash := by
  apply encode_keyedPackages hashes
  apply find?_of_only member
  intro other inside
  rw [decide_eq_true_eq]
  constructor
  · intro same
    exact List.inj_on_of_nodup_map sound.messages inside member same
  · rintro rfl
    rfl

theorem signs {known : KeyedMessage} (member : known ∈ signed) :
    (signingPackages hashes signed).sign known.hash known.key = .ok known.signature :=
  sign_keyedPackages hashes sound.distinct member

omit sound in
/-- What is recovered is the signer of a message with the hash. -/
theorem recovered_signer {signable : List Nat} {signature : Signature} {signer : String}
    (found : (signingPackages hashes signed).recover signable signature = .ok signer) :
    ∃ known ∈ signed, known.hash = signable ∧ known.signer = signer := by
  simp only [Packages.recover] at found
  split at found
  next known listed =>
    have passed := List.find?_some listed
    rw [Bool.and_eq_true, decide_eq_true_eq] at passed
    exact ⟨known, List.mem_of_find?_eq_some listed, passed.1, Except.ok.inj found⟩
  next => cases found

/-- Both forms of a signature are recovered to the address of its key. -/
theorem recover_signed {key address : String} {signable signature : List Nat}
    (known : (keyedAccounts signed).address key = .ok address)
    (made : (signingPackages hashes signed).sign signable key = .ok signature) :
    (∀ byte ∈ signature, byte < 256) ∧ (signingPackages hashes signed).recover signable (.bytes signature) = .ok address ∧
      (signingPackages hashes signed).recover signable (.given (.str ("0x" ++ toHex signature))) = .ok address := by
  simp only [Packages.sign] at made
  split at made
  next entry found =>
    have member := List.mem_of_find?_eq_some found
    have passed := List.find?_some found
    rw [Bool.and_eq_true, decide_eq_true_eq, decide_eq_true_eq] at passed
    obtain ⟨rfl, rfl⟩ := passed
    rw [address_keyedAccounts sound.owners member, Except.ok.injEq] at known
    obtain rfl := Except.ok.inj made
    subst known
    have recovers (signature : Signature)
        (form : (signature = .bytes entry.signature || signature = .given (.str ("0x" ++ toHex entry.signature))) = true) :
        (signingPackages hashes signed).recover entry.hash signature = .ok entry.signer := by
      have listed : signed.find? (fun other => other.hash = entry.hash &&
          (signature = .bytes other.signature || signature = .given (.str ("0x" ++ toHex other.signature)))) = some entry :=
        find?_of_hash sound.distinct member form
      simp only [Packages.recover, listed]
    exact ⟨sound.bytes entry member, recovers _ (by simp), recovers _ (by simp)⟩
  next => cases made

theorem recovered_letters [Host] (ascii : LowersAscii) {signable : List Nat} {signature : Signature} {signer : String}
    (found : (signingPackages hashes signed).recover signable signature = .ok signer) : (utf8 (lower signer)).length = 42 := by
  obtain ⟨known, member, _, rfl⟩ := recovered_signer found
  obtain ⟨plain, length⟩ := sound.letters known member
  rw [ascii _ plain, length]

omit sound in
theorem mem_of_encode {data : TypedData} {signable : List Nat}
    (encoded : (signingPackages hashes signed).encode data = .ok signable) :
    ∃ known ∈ signed, known.message = data ∧ known.hash = signable := by
  simp only [Packages.encode] at encoded
  split at encoded
  next known found =>
    exact ⟨known, List.mem_of_find?_eq_some found, by simpa using List.find?_some found, Except.ok.inj encoded⟩
  next => cases encoded

theorem encoded_words {data : TypedData} {signable : List Nat}
    (encoded : (signingPackages hashes signed).encode data = .ok signable) {field : String × String} (member : field ∈ data.fields)
    (unsigned : startsWith field.2 "uint" = true) :
    ∃ number : Int, data.message.item field.1 = .ok (.int number) ∧ 0 ≤ number ∧ number < 2 ^ 256 := by
  obtain ⟨known, listed, rfl, _⟩ := mem_of_encode encoded
  have fits := sound.words known listed field member unsigned
  unfold fitsWord at fits
  split at fits
  next number held =>
    simp only [Bool.and_eq_true, decide_eq_true_eq] at fits
    exact ⟨number, held, fits⟩
  next => cases fits

theorem faithful : @FaithfulEncoding (signingPackages hashes signed) := by
  refine @FaithfulEncoding.mk (signingPackages hashes signed) ?_ ?_
  · intro data data' signable first second _ field _ value value' held held'
    obtain ⟨known, listed, rfl, hash⟩ := mem_of_encode first
    obtain ⟨other, listed', rfl, hash'⟩ := mem_of_encode second
    obtain rfl := List.inj_on_of_nodup_map sound.distinct listed listed' (hash.trans hash'.symm)
    obtain rfl := Except.ok.inj (held.symm.trans held')
    exact ReadAlike.refl field.2 value
  · intro data signable encoded field member unsigned
    obtain ⟨number, held, _⟩ := sound.encoded_words encoded member unsigned
    exact ⟨.int number, held, .inl ⟨number, rfl⟩⟩

end SoundTables

end Eth
