import Xcp.Library.Ideal
import Xcp.Library.PythonText

/-! Authenticated encryption and key agreement, as programs take them from a
package: AES-GCM, X25519, and keys that are derived with HKDF. What an ideal
cipher and an ideal agreement guarantee is stated apart from what they do. -/

namespace Cipher
open Python

/-! ### Authenticated encryption -/

/-- Data is encrypted under a key and a nonce and bound to other data beside it. -/
class Aead where
  encrypt : (key nonce data associated : List Nat) → List Nat
  /-- Nothing where the tag does not match. -/
  decrypt : (key nonce sealed associated : List Nat) → Option (List Nat)
  encrypt_bytes : ∀ key nonce data associated, (∀ byte ∈ data, byte < 256) →
    ∀ byte ∈ encrypt key nonce data associated, byte < 256

/-- Only what was encrypted is decrypted, under the same key and beside the same data. -/
structure IdealAead [Aead] : Prop where
  opens : ∀ key nonce data associated, Aead.decrypt key nonce (Aead.encrypt key nonce data associated) associated = some data
  genuine : ∀ key nonce sealed associated data, Aead.decrypt key nonce sealed associated = some data →
    sealed = Aead.encrypt key nonce data associated
  binds : ∀ key nonce data associated key' nonce' data' associated',
    Aead.encrypt key nonce data associated = Aead.encrypt key' nonce' data' associated' →
    key = key' ∧ data = data' ∧ associated = associated'

/-- The most bytes that the package encrypts. -/
def maxBytes : Nat := 2 ^ 31 - 1

variable [Aead]

/-- `AESGCM(key).encrypt(nonce, data, associated)`, with a nonce of twelve bytes. -/
def encrypt (key nonce data associated : List Nat) : Raises (List Nat) :=
  if maxBytes < data.length ∨ maxBytes < associated.length then
    raise .overflowError "Data or associated data too long. Max 2**31 - 1 bytes"
  else .ok (Aead.encrypt key nonce data associated)

/-- `AESGCM(key).decrypt(nonce, sealed, associated)`. -/
def decrypt (key nonce sealed associated : List Nat) : Raises (List Nat) :=
  match Aead.decrypt key nonce sealed associated with
  | some data => .ok data
  | none => raise (.package "InvalidTag") ""

theorem encrypt_eq_ok {key nonce data associated sealed : List Nat} (done : encrypt key nonce data associated = .ok sealed) :
    sealed = Aead.encrypt key nonce data associated := by
  unfold encrypt at done
  split at done
  · cases done
  · exact (Except.ok.inj done).symm

theorem decrypt_eq_ok {key nonce sealed associated data : List Nat} :
    decrypt key nonce sealed associated = .ok data ↔ Aead.decrypt key nonce sealed associated = some data := by
  unfold decrypt
  split <;> simp_all [raise]

/-- What was encrypted opens to what it was made of, where key and associated data are the same. -/
theorem IdealAead.decrypt_iff (ideal : IdealAead) {key nonce data associated key' associated' data' : List Nat} :
    decrypt key' nonce (Aead.encrypt key nonce data associated) associated' = .ok data' ↔
      key' = key ∧ associated' = associated ∧ data' = data := by
  rw [decrypt_eq_ok]
  constructor
  · intro opened
    obtain ⟨keys, texts, beside⟩ := ideal.binds _ _ _ _ _ _ _ _ (ideal.genuine _ _ _ _ _ opened)
    exact ⟨keys.symm, beside.symm, texts.symm⟩
  · rintro ⟨rfl, rfl, rfl⟩
    exact ideal.opens ..

/-! ### Key agreement -/

/-- X25519 on raw keys, each of 32 bytes, and HKDF with SHA-256. -/
class Agreement where
  publicKey : List Nat → Raises (List Nat)
  /-- The secret that the owner of a private key shares with the owner of a public one. -/
  exchange : (privateKey publicKey : List Nat) → Raises (List Nat)
  hkdf : (secret info : List Nat) → List Nat
  publicKey_bytes : ∀ privateKey key, publicKey privateKey = .ok key → ∀ byte ∈ key, byte < 256
  publicKey_length : ∀ privateKey key, publicKey privateKey = .ok key → key.length = 32
  exchange_length : ∀ privateKey key secret, exchange privateKey key = .ok secret → key.length = 32

/-- Two owners agree on a secret, which nobody else arrives at. -/
structure IdealAgreement [Agreement] : Prop where
  agrees : ∀ one other key key', Agreement.publicKey one = .ok key → Agreement.publicKey other = .ok key' →
    Agreement.exchange one key' = Agreement.exchange other key
  alone : ∀ one other third key key' key'' secret, Agreement.publicKey one = .ok key → Agreement.publicKey other = .ok key' →
    Agreement.publicKey third = .ok key'' → Agreement.exchange one key'' = .ok secret →
    Agreement.exchange other key'' = .ok secret → key = key'
  derives : ∀ secret secret' info info', Agreement.hkdf secret info = Agreement.hkdf secret' info' → secret = secret'

end Cipher

/-! Ciphers and agreements that are given by tables: what the packages say on
the inputs at hand, and some other ideal thing on every other input. -/

namespace Cipher
open Eth Python PrefixCode

/-! ### Numbers in a row -/

/-- The numbers, and where they end. -/
def closed (numbers : List Nat) : List Nat := numbers.flatMap numberCode ++ [255]

theorem closed_inj {first second rest others : List Nat} (same : closed first ++ rest = closed second ++ others) :
    first = second ∧ rest = others := by
  simp only [closed, List.append_assoc, List.singleton_append] at same
  apply numberCode_isCode.until_inj ?_ same
  intro number tail
  unfold numberCode
  split
  next small =>
    simp only [ne_eq, List.cons.injEq, not_and]
    omega
  next => simp

theorem closed_bytes (numbers : List Nat) : ∀ byte ∈ closed numbers, byte < 256 := by
  intro byte member
  simp only [closed, List.mem_append, List.mem_flatMap, List.mem_singleton] at member
  rcases member with ⟨number, _, inside⟩ | rfl
  · unfold numberCode at inside
    split at inside
    · simp only [List.mem_singleton] at inside
      omega
    · simp only [List.mem_cons, List.mem_append, List.mem_replicate, List.not_mem_nil, or_false] at inside
      omega
  · decide

/-! ### Authenticated encryption -/

structure Encrypted where
  key : List Nat
  nonce : List Nat
  data : List Nat
  associated : List Nat
  sealed : List Nat

/-- No two of the results are the same, and each one is of bytes, the first of which is not zero. -/
def realResults (results : List (List Nat)) : Bool :=
  results.Nodup && results.all (fun result => result.all (· < 256) && result.head?.any (· ≠ 0))

theorem realResults_mem {results : List (List Nat)} (real : realResults results = true) {result : List Nat}
    (member : result ∈ results) : (∀ byte ∈ result, byte < 256) ∧ ∀ coded, result ≠ 0 :: coded := by
  simp only [realResults, Bool.and_eq_true, List.all_eq_true, decide_eq_true_eq] at real
  obtain ⟨bytes, first⟩ := real.2 result member
  refine ⟨bytes, ?_⟩
  rintro coded rfl
  simp at first

/-- What stands before data that nobody encrypted so far. -/
def label (key nonce associated : List Nat) : List Nat := 0 :: (closed key ++ closed nonce ++ closed associated)

def tableEncrypt (table : List Encrypted) (key nonce data associated : List Nat) : List Nat :=
  match table.find? (fun known =>
    known.key = key && known.nonce = nonce && known.data = data && known.associated = associated) with
  | some known => known.sealed
  | none => label key nonce associated ++ data

/-- What was known to be encrypted, and what is after a label. -/
def candidates (table : List Encrypted) (key nonce sealed associated : List Nat) : List (List Nat) :=
  sealed.drop (label key nonce associated).length :: table.map Encrypted.data

section Table
variable {table : List Encrypted}

theorem tableEncrypt_cases (table : List Encrypted) (key nonce data associated : List Nat) :
    (∃ known ∈ table, known.key = key ∧ known.nonce = nonce ∧ known.data = data ∧ known.associated = associated ∧
      tableEncrypt table key nonce data associated = known.sealed) ∨
    tableEncrypt table key nonce data associated = label key nonce associated ++ data := by
  unfold tableEncrypt
  split
  next known found =>
    have entry := List.find?_some found
    simp only [Bool.and_eq_true, decide_eq_true_eq, and_assoc] at entry
    obtain ⟨keys, nonces, texts, beside⟩ := entry
    exact .inl ⟨known, List.mem_of_find?_eq_some found, keys, nonces, texts, beside, rfl⟩
  next => exact .inr rfl

theorem tableEncrypt_bytes (real : realResults (table.map Encrypted.sealed) = true) {key nonce data associated : List Nat}
    (bytes : ∀ byte ∈ data, byte < 256) : ∀ byte ∈ tableEncrypt table key nonce data associated, byte < 256 := by
  rcases tableEncrypt_cases table key nonce data associated with ⟨known, member, _, _, _, _, same⟩ | same
  · rw [same]
    exact (realResults_mem real (List.mem_map_of_mem member)).1
  · rw [same]
    intro byte member
    simp only [label, List.mem_cons, List.mem_append] at member
    rcases member with (rfl | ((member | member) | member)) | member
    · decide
    · exact closed_bytes key byte member
    · exact closed_bytes nonce byte member
    · exact closed_bytes associated byte member
    · exact bytes byte member

theorem tableEncrypt_inj (real : realResults (table.map Encrypted.sealed) = true)
    {key nonce data associated key' nonce' data' associated' : List Nat}
    (same : tableEncrypt table key nonce data associated = tableEncrypt table key' nonce' data' associated') :
    key = key' ∧ data = data' ∧ associated = associated' := by
  have fresh {known : Encrypted} (member : known ∈ table) (coded : List Nat) : known.sealed ≠ 0 :: coded :=
    (realResults_mem real (List.mem_map_of_mem member)).2 coded
  rcases tableEncrypt_cases table key nonce data associated with ⟨known, member, rfl, rfl, rfl, rfl, first⟩ | first
  · rcases tableEncrypt_cases table key' nonce' data' associated' with ⟨known', member', rfl, rfl, rfl, rfl, second⟩ | second
    · rw [first, second] at same
      simp only [realResults, Bool.and_eq_true, decide_eq_true_eq] at real
      obtain rfl := List.inj_on_of_nodup_map real.1 member member' same
      exact ⟨rfl, rfl, rfl⟩
    · rw [first, second] at same
      exact absurd same (fresh member _)
  · rcases tableEncrypt_cases table key' nonce' data' associated' with ⟨known', member', _, _, _, _, second⟩ | second
    · rw [first, second] at same
      exact absurd same.symm (fresh member' _)
    · rw [first, second] at same
      simp only [label, List.cons_append, List.append_assoc, List.cons.injEq, true_and] at same
      obtain ⟨keys, same⟩ := closed_inj same
      obtain ⟨_, same⟩ := closed_inj same
      obtain ⟨beside, texts⟩ := closed_inj same
      exact ⟨keys, texts, beside⟩

def tableDecrypt (table : List Encrypted) (key nonce sealed associated : List Nat) : Option (List Nat) :=
  (candidates table key nonce sealed associated).find? (fun data => tableEncrypt table key nonce data associated = sealed)

theorem tableEncrypt_of_tableDecrypt {key nonce sealed associated data : List Nat}
    (found : tableDecrypt table key nonce sealed associated = some data) :
    sealed = tableEncrypt table key nonce data associated := by
  have same := List.find?_some found
  rw [decide_eq_true_eq] at same
  exact same.symm

theorem tableDecrypt_tableEncrypt (real : realResults (table.map Encrypted.sealed) = true) (key nonce data associated : List Nat) :
    tableDecrypt table key nonce (tableEncrypt table key nonce data associated) associated = some data := by
  have listed : data ∈ candidates table key nonce (tableEncrypt table key nonce data associated) associated := by
    rcases tableEncrypt_cases table key nonce data associated with ⟨known, member, _, _, rfl, _, _⟩ | same
    · exact List.mem_cons_of_mem _ (List.mem_map_of_mem member)
    · rw [same, candidates, List.drop_left]
      exact List.mem_cons_self ..
  have some : (tableDecrypt table key nonce (tableEncrypt table key nonce data associated) associated).isSome = true := by
    apply List.find?_isSome.mpr
    exact ⟨data, listed, decide_eq_true rfl⟩
  obtain ⟨data', found⟩ := Option.isSome_iff_exists.mp some
  obtain ⟨_, rfl, _⟩ := tableEncrypt_inj real (tableEncrypt_of_tableDecrypt found)
  exact found

end Table

/-- The cipher on the inputs at hand. -/
@[reducible] def tableAead (table : List Encrypted) (real : realResults (table.map Encrypted.sealed) = true) : Aead where
  encrypt := tableEncrypt table
  decrypt := tableDecrypt table
  encrypt_bytes := fun _ _ _ _ bytes => tableEncrypt_bytes real bytes

theorem tableAead_ideal (table : List Encrypted) (real : realResults (table.map Encrypted.sealed) = true) :
    @IdealAead (tableAead table real) := by
  refine @IdealAead.mk (tableAead table real) (tableDecrypt_tableEncrypt real) ?_ ?_
  · intro key nonce sealed associated data found
    exact tableEncrypt_of_tableDecrypt found
  · intro key nonce data associated key' nonce' data' associated' same
    exact tableEncrypt_inj real same

/-! ### Key agreement -/

/-- The owner of a private key, and with the owners of which public keys it shares a secret. -/
structure Owner where
  privateKey : List Nat
  publicKey : List Nat
  secrets : List (List Nat × List Nat)

def Owner.shares (owner other : Owner) : Option (List Nat) := owner.secrets.lookup other.publicKey

/-- Both who share a secret are told the same one, and nobody else is told it. -/
def realOwners (owners : List Owner) : Bool :=
  owners.all (fun owner =>
    owner.publicKey.length = 32 && owner.publicKey.all (· < 256) && owner.secrets.all (fun shared => shared.1.length = 32) &&
    owners.all (fun other => owner.shares other = other.shares owner &&
      (owner.publicKey = other.publicKey ||
        owners.all (fun third => owner.shares third = none || owner.shares third ≠ other.shares third))))

def ownerOf (owners : List Owner) (privateKey : List Nat) : Raises Owner :=
  match owners.find? (fun owner => owner.privateKey = privateKey) with
  | some owner => .ok owner
  | none => raise .valueError "An X25519 private key is 32 bytes long"

def tableExchange (owners : List Owner) (privateKey publicKey : List Nat) : Raises (List Nat) := do
  let owner ← ownerOf owners privateKey
  match owner.secrets.lookup publicKey with
  | some secret => .ok secret
  | none => raise .valueError "An X25519 public key is 32 bytes long"

def tableHkdf (derived : List ((List Nat × List Nat) × List Nat)) (secret info : List Nat) : List Nat :=
  (derived.lookup (secret, info)).getD (0 :: (closed secret ++ info))

section Table
variable {owners : List Owner} {derived : List ((List Nat × List Nat) × List Nat)}

theorem mem_of_ownerOf {privateKey : List Nat} {owner : Owner} (found : ownerOf owners privateKey = .ok owner) :
    owner ∈ owners := by
  unfold ownerOf at found
  split at found
  next known entry =>
    obtain rfl := Except.ok.inj found
    exact List.mem_of_find?_eq_some entry
  next => cases found

theorem tableHkdf_inj (real : realResults (derived.map Prod.snd) = true) {secret secret' info info' : List Nat}
    (same : tableHkdf derived secret info = tableHkdf derived secret' info') : secret = secret' := by
  have cases (secret info : List Nat) : (∃ result, ((secret, info), result) ∈ derived ∧ tableHkdf derived secret info = result) ∨
      tableHkdf derived secret info = 0 :: (closed secret ++ info) := by
    unfold tableHkdf
    cases found : derived.lookup (secret, info) with
    | none => exact .inr rfl
    | some result =>
      obtain ⟨before, after, rfl, _⟩ := List.lookup_eq_some_iff.mp found
      exact .inl ⟨result, by simp, rfl⟩
  have fresh {entry : (List Nat × List Nat) × List Nat} (member : entry ∈ derived) (coded : List Nat) : entry.2 ≠ 0 :: coded :=
    (realResults_mem real (List.mem_map_of_mem member)).2 coded
  rcases cases secret info with ⟨result, member, first⟩ | first
  · rcases cases secret' info' with ⟨result', member', second⟩ | second
    · rw [first, second] at same
      simp only [realResults, Bool.and_eq_true, decide_eq_true_eq] at real
      have entries := List.inj_on_of_nodup_map real.1 member member' same
      exact congrArg (fun entry => entry.1.1) entries
    · rw [first, second] at same
      exact absurd same (fresh member _)
  · rcases cases secret' info' with ⟨result', member', second⟩ | second
    · rw [first, second] at same
      exact absurd same.symm (fresh member' _)
    · rw [first, second, List.cons.injEq] at same
      exact (closed_inj same.2).1

end Table

/-- The agreement on the inputs at hand. -/
@[reducible] def tableAgreement (owners : List Owner) (derived : List ((List Nat × List Nat) × List Nat))
    (real : realOwners owners = true) : Agreement where
  publicKey := fun privateKey => Owner.publicKey <$> ownerOf owners privateKey
  exchange := tableExchange owners
  hkdf := tableHkdf derived
  publicKey_bytes := by
    intro privateKey key found
    rw [Checked.map_eq_ok] at found
    obtain ⟨owner, found, rfl⟩ := found
    simp only [realOwners, List.all_eq_true, Bool.and_eq_true, decide_eq_true_eq] at real
    exact (real owner (mem_of_ownerOf found)).1.1.2
  publicKey_length := by
    intro privateKey key found
    rw [Checked.map_eq_ok] at found
    obtain ⟨owner, found, rfl⟩ := found
    simp only [realOwners, List.all_eq_true, Bool.and_eq_true, decide_eq_true_eq] at real
    exact (real owner (mem_of_ownerOf found)).1.1.1
  exchange_length := by
    intro privateKey key secret exchanged
    rw [tableExchange, Checked.bind_eq_ok] at exchanged
    obtain ⟨owner, found, exchanged⟩ := exchanged
    simp only [realOwners, List.all_eq_true, Bool.and_eq_true, decide_eq_true_eq] at real
    split at exchanged
    next shared entry =>
      obtain ⟨before, after, secrets, _⟩ := List.lookup_eq_some_iff.mp entry
      exact (real owner (mem_of_ownerOf found)).1.2 (key, shared) (by simp [secrets])
    next => cases exchanged

theorem tableAgreement_ideal {owners : List Owner} {derived : List ((List Nat × List Nat) × List Nat)}
    (real : realOwners owners = true) (distinct : realResults (derived.map Prod.snd) = true) :
    @IdealAgreement (tableAgreement owners derived real) := by
  have law := real
  simp only [realOwners, List.all_eq_true, Bool.and_eq_true, Bool.or_eq_true, decide_eq_true_eq] at law
  refine @IdealAgreement.mk (tableAgreement owners derived real) ?_ ?_ ?_
  · intro one other key key' first second
    obtain ⟨owner, found, rfl⟩ := (Checked.map_eq_ok ..).mp first
    obtain ⟨owner', found', rfl⟩ := (Checked.map_eq_ok ..).mp second
    have told : owner.shares owner' = owner'.shares owner :=
      ((law owner (mem_of_ownerOf found)).2 owner' (mem_of_ownerOf found')).1
    simp only [Owner.shares] at told
    simp only [Agreement.exchange, tableExchange, found, found', Checked.ok_bind, told]
  · intro one other third key key' key'' secret first second last told told'
    obtain ⟨owner, found, rfl⟩ := (Checked.map_eq_ok ..).mp first
    obtain ⟨owner', found', rfl⟩ := (Checked.map_eq_ok ..).mp second
    obtain ⟨owner'', found'', rfl⟩ := (Checked.map_eq_ok ..).mp last
    have shares {owner : Owner} {privateKey : List Nat} (found : ownerOf owners privateKey = .ok owner)
        (told : tableExchange owners privateKey owner''.publicKey = .ok secret) : owner.shares owner'' = some secret := by
      simp only [tableExchange, found, Checked.ok_bind] at told
      split at told
      next shared entry => exact entry.trans (congrArg some (Except.ok.inj told))
      next => cases told
    have mine := shares found told
    have theirs := shares found' told'
    rcases ((law owner (mem_of_ownerOf found)).2 owner' (mem_of_ownerOf found')).2 with same | alone
    · exact same
    · rcases alone owner'' (mem_of_ownerOf found'') with nothing | differ
      · rw [mine] at nothing
        cases nothing
      · rw [mine, theirs] at differ
        simp at differ
  · intro secret secret' info info' same
    exact tableHkdf_inj distinct same

end Cipher
