import Mathlib.Data.String.Basic
import Xcp.Library.Canonical
import Xcp.Library.Eth

/-! What is assumed of an ideal hash and of structured data that is signed, and
what a digest then says of its value. -/

namespace Eth
open Checked Python PrefixCode

/-! ### Bytes -/

theorem utf8_isCode : IsPrefixCode utf8Letter where
  nonempty := by
    intro letter
    simp only [utf8Letter]
    split_ifs <;> exact List.cons_ne_nil _ _
  reads := by
    intro first second rest others same
    have both : first.toNat = second.toNat ∧ rest = others := by
      simp only [utf8Letter] at same
      split_ifs at same <;> simp only [List.cons_append, List.nil_append, List.cons.injEq] at same
      all_goals first | exact ⟨by omega, by tauto⟩ | omega
    exact ⟨Char.toNat_inj.mp both.1, both.2⟩

theorem hexDigit_not_space : ∀ digit < 16, [9, 10, 11, 12, 13, 32].contains (hexDigit digit).toNat = false := by
  decide

theorem fromHexLetters_hex {bytes : List Nat} (small : ∀ byte ∈ bytes, byte < 256) :
    fromHexLetters (bytes.flatMap (fun byte => [hexDigit (byte / 16), hexDigit (byte % 16)])) = some bytes := by
  induction bytes with
  | nil => rfl
  | cons byte rest ih =>
    have bound := small byte (List.mem_cons_self ..)
    have space := hexDigit_not_space (byte / 16) (by omega)
    have high := hexValue_hexDigit (byte / 16) (by omega)
    have low := hexValue_hexDigit (byte % 16) (by omega)
    have later := ih (fun byte member => small byte (List.mem_cons_of_mem _ member))
    simp only [List.flatMap_cons, List.cons_append, List.nil_append, fromHexLetters, space, high, low, later]
    have whole : 16 * (byte / 16) + byte % 16 = byte := Nat.div_add_mod byte 16
    simp [whole]

theorem hex_toList (bytes : List Nat) : ("0x" ++ toHex bytes).toList =
    '0' :: 'x' :: bytes.flatMap (fun byte => [hexDigit (byte / 16), hexDigit (byte % 16)]) := by
  simp [toHex]

theorem fromHex_toHex {bytes : List Nat} (small : ∀ byte ∈ bytes, byte < 256) :
    fromHex (dropStart ("0x" ++ toHex bytes) 2) = .ok bytes := by
  have letters : (dropStart ("0x" ++ toHex bytes) 2).toList =
      bytes.flatMap (fun byte => [hexDigit (byte / 16), hexDigit (byte % 16)]) := by
    rw [dropStart, String.toList_ofList, hex_toList]
    rfl
  rw [fromHex, letters, fromHexLetters_hex small]

/-! ### Digests -/

section Hash
variable [Packages]

/-- A hash without collisions. Its values are bytes, and none of them is the
beginning of another one, as they are of one length. -/
structure IdealHash : Prop where
  bytes : ∀ data, ∀ byte ∈ Packages.keccak data, byte < 256
  splits : ∀ data data' rest rest', Packages.keccak data ++ rest = Packages.keccak data' ++ rest' → data = data'

variable (ideal : IdealHash)
include ideal

theorem fromHex_digest (data : List Nat) : fromHex (dropStart (digest data) 2) = .ok (Packages.keccak data) :=
  fromHex_toHex (ideal.bytes data)

theorem digest_inj {data data' : List Nat} (same : digest data = digest data') : data = data' := by
  have read := fromHex_digest ideal data
  rw [same, fromHex_digest ideal data', Except.ok.injEq] at read
  exact ideal.splits data data' [] [] (by rw [read])

theorem canonical_of_digestJson [Host] {first second : Json} (same : digestJson first = digestJson second) :
    first.canonical = second.canonical := by
  have letters := utf8_isCode.flatMap_inj (digest_inj ideal same)
  exact String.toList_inj.mp letters

/-- A digest commits to a value, up to the order of the members of its objects. -/
theorem digestJson_inj [Host] (legible : LegibleFloats) {first second : Json}
    (same : digestJson first = digestJson second) : first.sorted = second.sorted :=
  canonical_inj legible (canonical_of_digestJson ideal same)

end Hash

/-! ### Structured data -/

/-- Two values of a field that have its type are the same one. -/
def ReadAlike (type : String) (first second : Json) : Prop :=
  (type = "string" → ∀ text text', first = .str text → second = .str text' → text = text') ∧
    (startsWith type "uint" = true → ∀ number number', first = .int number → second = .int number' → number = number')

/-- What is signed says what the fields hold, where they hold what their types
say; an unsigned field holds a number, or a text that is read as one. -/
structure FaithfulEncoding [Packages] : Prop where
  alike : ∀ data data' signable, Packages.encode data = .ok signable → Packages.encode data' = .ok signable →
    data.fields = data'.fields → ∀ field ∈ data.fields, ∀ value value', data.message.item field.1 = .ok value →
    data'.message.item field.1 = .ok value' → ReadAlike field.2 value value'
  whole : ∀ data signable, Packages.encode data = .ok signable → ∀ field ∈ data.fields, startsWith field.2 "uint" = true →
    ∃ value, data.message.item field.1 = .ok value ∧ ((∃ number, value = .int number) ∨ ∃ text, value = .str text)

/-- The key of an address signed one message only. -/
def SignsOnly [Host] [Packages] (address : String) (signable : List Nat) : Prop :=
  ∀ other signature signer, Packages.recover other signature = .ok signer → lower signer = address → other = signable

/-- A signature is of one message, among the messages that name their signer. -/
def IdealSignatures [Packages] (names : TypedData → String → Prop) : Prop :=
  ∀ data data' signable signable' signature signer signer', Packages.encode data = .ok signable →
    Packages.encode data' = .ok signable' → Packages.recover signable signature = .ok signer →
    Packages.recover signable' signature = .ok signer' → names data signer → names data' signer' → signable = signable'

theorem ReadAlike.refl (type : String) (value : Json) : ReadAlike type value value := by
  constructor
  · rintro _ text text' rfl held
    exact Json.str.inj held
  · rintro _ number number' rfl held
    exact Json.int.inj held

/-! ### Packages for tests -/

theorem truthy_append (first second : String) (some : first ≠ "") : (Json.str (first ++ second)).truthy = true := by
  simp [Json.truthy, some]

/-- A code for numbers of which bytes stand for themselves, but for the last two. -/
def numberCode (number : Nat) : List Nat :=
  if number < 254 then [number] else 254 :: (List.replicate (number - 254) 0 ++ [1])

theorem numberCode_isCode : IsPrefixCode numberCode where
  nonempty := by
    intro number
    unfold numberCode
    split <;> simp
  reads := by
    intro first second rest others same
    unfold numberCode at same
    split at same <;> split at same
    · simpa using same
    · simp only [List.cons_append, List.cons.injEq] at same
      omega
    · simp only [List.cons_append, List.cons.injEq] at same
      omega
    · simp only [List.cons_append, List.append_assoc, List.nil_append, List.cons.injEq, true_and] at same
      have zeros (count : Nat) : ∀ letter ∈ List.replicate count 0, decide (letter = 1) = false := by
        intro letter member
        simp [List.eq_of_mem_replicate member]
      have ends (tail : List Nat) : Bounded (fun letter => decide (letter = 1)) (1 :: tail) := by
        simp [Bounded]
      obtain ⟨words, tails⟩ := word_inj (zeros _) (zeros _) (ends rest) (ends others) same
      have count := congrArg List.length words
      simp only [List.length_replicate] at count
      exact ⟨by omega, (List.cons.inj tails).2⟩

/-- A message that was signed, with what is signed for it. -/
structure SignedMessage where
  message : TypedData
  hash : List Nat
  signature : Signature
  signer : String

/-- The packages on the inputs at hand; every other input is its own hash. -/
@[reducible] def tablePackages (hashes : List (List Nat × List Nat)) (signed : List SignedMessage) : Packages where
  keccak := fun data => (hashes.lookup data).getD (0 :: (data.flatMap numberCode ++ [255]))
  encode := fun data =>
    match signed.find? (fun known => known.message = data) with
    | some known => .ok known.hash
    | none => raise (.package "ValidationError") ""
  recover := fun signable signature =>
    match signed.find? (fun known => known.hash = signable && known.signature = signature) with
    | some known => .ok known.signer
    | none => raise (.package "BadSignature") ""
  sign := fun _ _ => raise (.package "ValidationError") ""

theorem encode_tablePackages (hashes : List (List Nat × List Nat)) {signed : List SignedMessage} {known : SignedMessage}
    (found : signed.find? (fun other => other.message = known.message) = some known) :
    (tablePackages hashes signed).encode known.message = .ok known.hash := by
  simp only [Packages.encode, found]

theorem mem_of_encode {hashes : List (List Nat × List Nat)} {signed : List SignedMessage} {data : TypedData}
    {signable : List Nat} (encoded : (tablePackages hashes signed).encode data = .ok signable) :
    ∃ known ∈ signed, known.message = data ∧ known.hash = signable := by
  simp only [Packages.encode] at encoded
  split at encoded
  next known found =>
    exact ⟨known, List.mem_of_find?_eq_some found, by simpa using List.find?_some found, Except.ok.inj encoded⟩
  next => cases encoded

theorem recover_tablePackages (hashes : List (List Nat × List Nat)) {signed : List SignedMessage} {known : SignedMessage}
    (found : signed.find? (fun other => other.hash = known.hash && other.signature = known.signature) = some known) :
    (tablePackages hashes signed).recover known.hash known.signature = .ok known.signer := by
  simp only [Packages.recover, found]

theorem digest_tablePackages (hashes : List (List Nat × List Nat)) (signed other : List SignedMessage) (data : List Nat) :
    @digest (tablePackages hashes signed) data = @digest (tablePackages hashes other) data := rfl

/-- Hashes of 32 bytes, no two of which are the same. -/
def realHashes (hashes : List (List Nat × List Nat)) : Bool :=
  (hashes.map Prod.snd).Nodup && hashes.all (fun entry =>
    entry.2.length = 32 && entry.2.all (· < 256) && entry.2.head? ≠ some 0)

theorem realHashes_entry {hashes : List (List Nat × List Nat)} (real : realHashes hashes = true) {data hash : List Nat}
    (found : hashes.lookup data = some hash) :
    (data, hash) ∈ hashes ∧ hash.length = 32 ∧ (∀ byte ∈ hash, byte < 256) ∧ hash.head? ≠ some 0 := by
  simp only [realHashes, Bool.and_eq_true, List.all_eq_true, decide_eq_true_eq, and_assoc] at real
  obtain ⟨before, after, rfl, _⟩ := List.lookup_eq_some_iff.mp found
  have member : (data, hash) ∈ before ++ (data, hash) :: after := by simp
  obtain ⟨size, bytes, first⟩ := real.2 _ member
  exact ⟨member, size, bytes, first⟩

theorem realHashes_fresh {hashes : List (List Nat × List Nat)} (real : realHashes hashes = true) {data hash : List Nat}
    (found : hashes.lookup data = some hash) (rest coded : List Nat) : hash ++ rest ≠ 0 :: coded := by
  obtain ⟨_, size, _, first⟩ := realHashes_entry real found
  intro same
  cases hash with
  | nil => cases size
  | cons byte bytes => exact absurd (List.cons.inj same).1 (by simpa using first)

theorem tablePackages_ideal {hashes : List (List Nat × List Nat)} (signed : List SignedMessage)
    (real : realHashes hashes = true) : @IdealHash (tablePackages hashes signed) := by
  refine @IdealHash.mk (tablePackages hashes signed) ?_ ?_
  · intro data byte member
    simp only [Packages.keccak] at member
    cases found : hashes.lookup data with
    | some hash =>
      rw [found] at member
      exact (realHashes_entry real found).2.2.1 byte member
    | none =>
      simp only [found, Option.getD_none, List.mem_cons, List.mem_append, List.mem_flatMap, List.not_mem_nil, or_false] at member
      rcases member with rfl | ⟨number, _, inside⟩ | rfl
      · decide
      · unfold numberCode at inside
        split at inside
        · simp only [List.mem_singleton] at inside
          omega
        · simp only [List.mem_cons, List.mem_append, List.mem_replicate, List.not_mem_nil, or_false] at inside
          omega
      · decide
  · intro data data' rest rest' same
    simp only [Packages.keccak] at same
    cases found : hashes.lookup data with
    | some hash =>
      obtain ⟨member, size, _⟩ := realHashes_entry real found
      cases found' : hashes.lookup data' with
      | some hash' =>
        obtain ⟨member', size', _⟩ := realHashes_entry real found'
        simp only [found, found', Option.getD_some] at same
        obtain ⟨hashed, _⟩ := List.append_inj same (size.trans size'.symm)
        simp only [realHashes, Bool.and_eq_true, decide_eq_true_eq] at real
        have entries := List.inj_on_of_nodup_map real.1 member member' hashed
        exact congrArg Prod.fst entries
      | none =>
        simp only [found, found', Option.getD_some, Option.getD_none] at same
        exact absurd same (realHashes_fresh real found _ _)
    | none =>
      cases found' : hashes.lookup data' with
      | some hash' =>
        simp only [found, found', Option.getD_some, Option.getD_none] at same
        exact absurd same.symm (realHashes_fresh real found' _ _)
      | none =>
        simp only [found, found', Option.getD_none, List.cons_append, List.append_assoc, List.nil_append,
          List.cons.injEq, true_and] at same
        refine (numberCode_isCode.until_inj ?_ same).1
        intro number tail
        unfold numberCode
        split
        next small =>
          simp only [ne_eq, List.cons.injEq, not_and]
          omega
        next => simp

/-- Whole numbers or texts where the messages say so. -/
def wholeMessages (signed : List SignedMessage) : Bool :=
  signed.all (fun known => known.message.fields.all (fun field =>
    !startsWith field.2 "uint" ||
      match known.message.message.item field.1 with
      | .ok (.int _) | .ok (.str _) => true
      | _ => false))

theorem tablePackages_faithful (hashes : List (List Nat × List Nat)) {signed : List SignedMessage}
    (real : wholeMessages signed = true)
    (alike : ∀ known ∈ signed, ∀ other ∈ signed, known.hash = other.hash → ∀ field ∈ known.message.fields, ∀ value value',
      known.message.message.item field.1 = .ok value → other.message.message.item field.1 = .ok value' →
      ReadAlike field.2 value value') :
    @FaithfulEncoding (tablePackages hashes signed) := by
  simp only [wholeMessages, List.all_eq_true] at real
  refine @FaithfulEncoding.mk (tablePackages hashes signed) ?_ ?_
  · intro data data' signable encoded encoded' _ field inside value value' found found'
    obtain ⟨known, member, rfl, hash⟩ := mem_of_encode encoded
    obtain ⟨known', member', rfl, hash'⟩ := mem_of_encode encoded'
    exact alike known member known' member' (hash.trans hash'.symm) field inside value value' found found'
  · intro data signable encoded field member unsigned
    obtain ⟨known, inside, rfl, _⟩ := mem_of_encode encoded
    have held := real known inside field member
    rw [unsigned, Bool.not_true, Bool.false_or] at held
    split at held
    next number found => exact ⟨_, found, .inl ⟨number, rfl⟩⟩
    next text found => exact ⟨_, found, .inr ⟨text, rfl⟩⟩
    next => cases held

theorem tablePackages_separate (hashes : List (List Nat × List Nat)) {signed : List SignedMessage}
    (real : wholeMessages signed = true) (separate : (signed.map SignedMessage.hash).Nodup) :
    @FaithfulEncoding (tablePackages hashes signed) := by
  apply tablePackages_faithful hashes real
  intro known member other member' same field _ value value' found found'
  obtain rfl := List.inj_on_of_nodup_map separate member member' same
  obtain rfl := Except.ok.inj (found.symm.trans found')
  exact ReadAlike.refl field.2 value

/-! ### Words of 32 bytes that are written in hex, such as the values of a hash -/

/-- The case of ASCII letters does not depend on the tables of the interpreter. -/
def LowersAscii [Host] : Prop := ∀ text, isAscii text = true → lower text = lowerAscii text

theorem asciiHost_lowersAscii (documents : List (String × Json)) : @LowersAscii (asciiHost documents) := by
  intro text _
  rfl

/-- A word of 32 bytes as it is written. -/
def Word (text : String) : Prop :=
  ∃ bytes : List Nat, bytes.length = 32 ∧ (∀ byte ∈ bytes, byte < 256) ∧ text = "0x" ++ toHex bytes

/-- The bytes of a word; other texts have none. -/
def wordBytes (text : String) : List Nat := settle [] (fromHex (dropStart text 2))

theorem wordBytes_hex {bytes : List Nat} (small : ∀ byte ∈ bytes, byte < 256) :
    wordBytes ("0x" ++ toHex bytes) = bytes := by
  rw [wordBytes, fromHex_toHex small, settle_ok]

theorem Word.length {text : String} (word : Word text) : (wordBytes text).length = 32 := by
  obtain ⟨bytes, size, small, rfl⟩ := word
  rw [wordBytes_hex small, size]

theorem Word.reads {text : String} (word : Word text) : fromHex (dropStart text 2) = .ok (wordBytes text) := by
  obtain ⟨bytes, size, small, rfl⟩ := word
  rw [fromHex_toHex small, wordBytes_hex small]

theorem Word.inj {first second : String} (one : Word first) (other : Word second)
    (same : wordBytes first = wordBytes second) : first = second := by
  obtain ⟨bytes, size, small, rfl⟩ := one
  obtain ⟨bytes', size', small', rfl⟩ := other
  rw [wordBytes_hex small, wordBytes_hex small'] at same
  rw [same]

theorem hexDigit_lower : ∀ digit < 16, lowerLetter (hexDigit digit) = hexDigit digit := by
  decide

theorem hexDigit_ascii : ∀ digit < 16, (hexDigit digit).toNat < 128 := by
  decide

/-- The digits of a word are small letters. -/
theorem lower_word [Host] (ascii : LowersAscii) {text : String} (word : Word text) : lower text = text := by
  obtain ⟨bytes, size, small, rfl⟩ := word
  have plain : isAscii ("0x" ++ toHex bytes) = true := by
    simp only [isAscii, hex_toList, List.all_cons, List.all_flatMap, List.all_nil, Bool.and_true, Bool.and_eq_true,
      List.all_eq_true, decide_eq_true_eq]
    refine ⟨by decide, by decide, ?_⟩
    intro byte member
    have bound := small byte member
    exact ⟨hexDigit_ascii _ (by omega), hexDigit_ascii _ (by omega)⟩
  rw [ascii _ plain]
  apply String.toList_inj.mp
  rw [lowerAscii, String.toList_ofList, hex_toList, List.map_cons, List.map_cons, List.map_flatMap]
  have same : ∀ byte ∈ bytes, List.map lowerLetter [hexDigit (byte / 16), hexDigit (byte % 16)] =
      [hexDigit (byte / 16), hexDigit (byte % 16)] := by
    intro byte member
    have bound := small byte member
    simp [hexDigit_lower (byte / 16) (by omega), hexDigit_lower (byte % 16) (by omega)]
  rw [List.flatMap_congr same]
  rfl

theorem Word.small {text : String} (word : Word text) : ∀ byte ∈ wordBytes text, byte < 256 := by
  obtain ⟨bytes, size, small, rfl⟩ := word
  rwa [wordBytes_hex small]

/-! ### Either case of letters -/

/-- A word of 32 bytes, the letters among its digits small or large. -/
def HexWord (text : String) : Prop :=
  ∃ digits : List Char, digits.length = 64 ∧ (∀ digit ∈ digits, (hexValue? digit).isSome) ∧
    text.toList = '0' :: 'x' :: digits

theorem hexDigit_of_value {digit : Char} {value : Nat} (read : hexValue? digit = some value) :
    value < 16 ∧ digit.toNat < 128 ∧ lowerLetter digit = hexDigit value ∧
      [9, 10, 11, 12, 13, 32].contains digit.toNat = false := by
  have codes : ∀ code < 128, ∀ value < 16, hexValue? (Char.ofNat code) = some value →
      lowerLetter (Char.ofNat code) = hexDigit value ∧ [9, 10, 11, 12, 13, 32].contains (Char.ofNat code).toNat = false := by
    decide +kernel
  have bounds : value < 16 ∧ digit.toNat < 128 := by
    simp only [hexValue?] at read
    split_ifs at read with decimal small large
    · simp only [Option.some.injEq, Bool.and_eq_true, decide_eq_true_eq] at read decimal
      omega
    · simp only [Option.some.injEq, Bool.and_eq_true, decide_eq_true_eq] at read small
      omega
    · simp only [Option.some.injEq, Bool.and_eq_true, decide_eq_true_eq] at read large
      omega
  have known := codes digit.toNat bounds.2 value bounds.1 (by rwa [Char.ofNat_toNat])
  rw [Char.ofNat_toNat] at known
  exact ⟨bounds.1, bounds.2, known⟩

/-- Pairs of digits are read as bytes, and small letters are how the bytes are written. -/
theorem fromHexLetters_digits : ∀ {digits : List Char}, digits.length % 2 = 0 →
    (∀ digit ∈ digits, (hexValue? digit).isSome) →
    ∃ bytes : List Nat, 2 * bytes.length = digits.length ∧ (∀ byte ∈ bytes, byte < 256) ∧
      fromHexLetters digits = some bytes ∧
      digits.map lowerLetter = bytes.flatMap (fun byte => [hexDigit (byte / 16), hexDigit (byte % 16)])
  | [], _, _ => ⟨[], rfl, by simp, rfl, rfl⟩
  | [_], even, _ => by simp at even
  | first :: second :: rest, even, hex => by
    simp only [List.forall_mem_cons, Option.isSome_iff_exists] at hex
    obtain ⟨⟨high, readHigh⟩, ⟨low, readLow⟩, hex⟩ := hex
    have shorter : rest.length % 2 = 0 := by
      simp only [List.length_cons] at even
      omega
    obtain ⟨bytes, size, small, read, written⟩ := fromHexLetters_digits shorter (by simpa [Option.isSome_iff_exists] using hex)
    obtain ⟨highBound, _, highLetter, space⟩ := hexDigit_of_value readHigh
    obtain ⟨lowBound, _, lowLetter, _⟩ := hexDigit_of_value readLow
    have upper : (16 * high + low) / 16 = high := by omega
    have lower : (16 * high + low) % 16 = low := by omega
    refine ⟨(16 * high + low) :: bytes, ?_, ?_, ?_, ?_⟩
    · simp only [List.length_cons]
      omega
    · exact List.forall_mem_cons.mpr ⟨by omega, small⟩
    · rw [fromHexLetters, space]
      simp [readHigh, readLow, read]
    · simp [highLetter, lowLetter, written, upper, lower]

/-- Spaces leave room for fewer bytes. -/
theorem fromHexLetters_some {letters : List Char} {bytes : List Nat} (read : fromHexLetters letters = some bytes) :
    2 * bytes.length ≤ letters.length ∧
      (2 * bytes.length = letters.length → ∀ letter ∈ letters, (hexValue? letter).isSome) := by
  fun_induction fromHexLetters letters generalizing bytes with
  | case1 =>
    obtain rfl : [] = bytes := Option.some.inj read
    simp
  | case2 last space =>
    obtain rfl : [] = bytes := Option.some.inj read
    simp
  | case3 last other => cases read
  | case4 first second rest space ih =>
    obtain ⟨most, _⟩ := ih read
    simp only [List.length_cons] at most ⊢
    exact ⟨by omega, fun same => by omega⟩
  | case5 first second rest other ih =>
    simp only [Option.bind_eq_bind, Option.bind_eq_some_iff, Option.pure_def, Option.some.injEq] at read
    obtain ⟨high, readHigh, low, readLow, later, rest, rfl⟩ := read
    obtain ⟨most, hex⟩ := ih rest
    simp only [List.length_cons, List.forall_mem_cons]
    refine ⟨by omega, fun same => ⟨?_, ?_, hex (by omega)⟩⟩
    · rw [readHigh]
      rfl
    · rw [readLow]
      rfl

/-- What is read as hex is ASCII. -/
theorem fromHexLetters_ascii {letters : List Char} {bytes : List Nat} (read : fromHexLetters letters = some bytes) :
    ∀ letter ∈ letters, letter.toNat < 128 := by
  have spaces {letter : Char} (space : [9, 10, 11, 12, 13, 32].contains letter.toNat = true) : letter.toNat < 128 := by
    simp only [List.contains_iff_mem, List.mem_cons, List.not_mem_nil, or_false] at space
    omega
  fun_induction fromHexLetters letters generalizing bytes with
  | case1 => simp
  | case2 last space => simpa using spaces space
  | case3 last other => cases read
  | case4 first second rest space ih => exact List.forall_mem_cons.mpr ⟨spaces space, ih read⟩
  | case5 first second rest other ih =>
    simp only [Option.bind_eq_bind, Option.bind_eq_some_iff, Option.pure_def, Option.some.injEq] at read
    obtain ⟨high, readHigh, low, readLow, later, rest, rfl⟩ := read
    simp only [List.forall_mem_cons]
    exact ⟨(hexDigit_of_value readHigh).2.1, (hexDigit_of_value readLow).2.1, ih rest⟩

theorem HexWord.lower [Host] (ascii : LowersAscii) {text : String} (word : HexWord text) :
    Word (lower text) ∧ fromHex (dropStart text 2) = .ok (wordBytes (Python.lower text)) := by
  obtain ⟨digits, size, hex, whole⟩ := word
  obtain ⟨bytes, half, small, read, written⟩ := fromHexLetters_digits (by omega) hex
  have plain : isAscii text = true := by
    rw [isAscii, whole, List.all_eq_true]
    simp only [List.forall_mem_cons, decide_eq_true_eq]
    refine ⟨by decide, by decide, ?_⟩
    intro digit member
    obtain ⟨value, known⟩ := Option.isSome_iff_exists.mp (hex digit member)
    exact (hexDigit_of_value known).2.1
  have lowered : Python.lower text = "0x" ++ toHex bytes := by
    rw [ascii text plain]
    apply String.toList_inj.mp
    rw [lowerAscii, String.toList_ofList, whole, hex_toList, ← written]
    rfl
  refine ⟨⟨bytes, by omega, small, lowered⟩, ?_⟩
  have dropped : (dropStart text 2).toList = digits := by
    rw [dropStart, String.toList_ofList, whole]
    rfl
  rw [lowered, wordBytes_hex small, fromHex, dropped, read]

/-- What has the length of a word, in small letters, is one or has fewer bytes. -/
theorem word_or_short [Host] (ascii : LowersAscii) {text : String} (start : startsWith text "0x" = true)
    (length : text.length = 66) (small : Python.lower text = text) : Word text ∨ (wordBytes text).length < 32 := by
  obtain ⟨letters, whole⟩ := List.isPrefixOf_iff_prefix.mp start
  have zeroX : "0x".toList = ['0', 'x'] := rfl
  rw [zeroX] at whole
  have size : letters.length = 64 := by
    rw [← String.length_toList, ← whole] at length
    simpa using length
  have dropped : (dropStart text 2).toList = letters := by
    rw [dropStart, String.toList_ofList, ← whole]
    rfl
  rw [wordBytes, fromHex, dropped]
  cases read : fromHexLetters letters with
  | none => exact .inr (by decide)
  | some bytes =>
    obtain ⟨most, hex⟩ := fromHexLetters_some read
    by_cases full : bytes.length = 32
    · have word : HexWord text := ⟨letters, size, hex (by omega), whole.symm⟩
      exact .inl (small ▸ (word.lower ascii).1)
    · right
      rw [settle_ok]
      omega

theorem Word.hexWord {text : String} (word : Word text) : HexWord text := by
  obtain ⟨bytes, size, small, rfl⟩ := word
  refine ⟨bytes.flatMap (fun byte => [hexDigit (byte / 16), hexDigit (byte % 16)]), ?_, ?_, hex_toList bytes⟩
  · simp [size]
  · intro digit member
    obtain ⟨byte, inside, written⟩ := List.mem_flatMap.mp member
    have bound := small byte inside
    simp only [List.mem_cons, List.not_mem_nil, or_false] at written
    obtain rfl | rfl := written
    · simp [hexValue_hexDigit (byte / 16) (by omega)]
    · simp [hexValue_hexDigit (byte % 16) (by omega)]

/-! ### The order of words

Words are compared as texts in one place, and as numbers in another. -/

/-- A word as a number. -/
def wordNumber (text : String) : Nat := ofBytes (wordBytes text)

theorem hexDigit_lt : ∀ first < 16, ∀ second < 16, hexDigit first < hexDigit second ↔ first < second := by
  decide

theorem hexDigit_inj : ∀ first < 16, ∀ second < 16, hexDigit first = hexDigit second ↔ first = second := by
  decide

/-- Texts of equally many bytes are in the order of the bytes. -/
theorem hex_lt_iff {first second : List Nat} (size : first.length = second.length) (one : ∀ byte ∈ first, byte < 256)
    (other : ∀ byte ∈ second, byte < 256) : "0x" ++ toHex first < "0x" ++ toHex second ↔ first < second := by
  rw [String.lt_iff_toList_lt, hex_toList, hex_toList]
  simp only [List.cons_lt_cons_iff, lt_self_iff_false, true_and, false_or]
  induction first generalizing second with
  | nil =>
    obtain rfl := List.eq_nil_of_length_eq_zero size.symm
    simp
  | cons byte rest ih =>
    cases second with
    | nil => simp at size
    | cons byte' rest' =>
      obtain ⟨bound, one⟩ := List.forall_mem_cons.mp one
      obtain ⟨bound', other⟩ := List.forall_mem_cons.mp other
      have later := ih (by simpa using size) one other
      simp only [List.flatMap_cons, List.cons_append, List.nil_append, List.cons_lt_cons_iff, later,
        hexDigit_lt (byte / 16) (by omega) (byte' / 16) (by omega), hexDigit_inj (byte / 16) (by omega) (byte' / 16) (by omega),
        hexDigit_lt (byte % 16) (by omega) (byte' % 16) (by omega), hexDigit_inj (byte % 16) (by omega) (byte' % 16) (by omega)]
      by_cases tail : rest < rest'
      · simp only [tail, and_true]
        omega
      · simp only [tail, and_false, or_false]
        omega

/-- Equally many bytes are in the order of the numbers that they are. -/
theorem ofBytes_lt_iff {first second : List Nat} (size : first.length = second.length) (one : ∀ byte ∈ first, byte < 256)
    (other : ∀ byte ∈ second, byte < 256) : ofBytes first < ofBytes second ↔ first < second := by
  have totals : ∀ (first second : List Nat) (high high' : Nat), first.length = second.length →
      (∀ byte ∈ first, byte < 256) → (∀ byte ∈ second, byte < 256) →
      (first.foldl (fun total byte => 256 * total + byte) high < second.foldl (fun total byte => 256 * total + byte) high' ↔
        high < high' ∨ high = high' ∧ first < second) := by
    intro first
    induction first with
    | nil =>
      intro second high high' size _ _
      obtain rfl := List.eq_nil_of_length_eq_zero size.symm
      simp
    | cons byte rest ih =>
      intro second high high' size one other
      cases second with
      | nil => simp at size
      | cons byte' rest' =>
        obtain ⟨bound, one⟩ := List.forall_mem_cons.mp one
        obtain ⟨bound', other⟩ := List.forall_mem_cons.mp other
        rw [List.foldl_cons, List.foldl_cons, ih rest' _ _ (by simpa using size) one other, List.cons_lt_cons_iff]
        by_cases tail : rest < rest'
        · simp only [tail, and_true]
          omega
        · simp only [tail, and_false, or_false]
          omega
  rw [ofBytes, ofBytes, totals first second 0 0 size one other]
  simp

theorem Word.lt_iff {first second : String} (one : Word first) (other : Word second) :
    first < second ↔ wordNumber first < wordNumber second := by
  rw [wordNumber, wordNumber, ofBytes_lt_iff (one.length.trans other.length.symm) one.small other.small]
  obtain ⟨bytes, size, small, rfl⟩ := one
  obtain ⟨bytes', size', small', rfl⟩ := other
  rw [hex_lt_iff (size.trans size'.symm) small small', wordBytes_hex small, wordBytes_hex small']

/-! ### A hash of 32 bytes -/

variable [Packages]

structure SizedHash : Prop where
  size : ∀ data, (Packages.keccak data).length = 32
  bytes : ∀ data, ∀ byte ∈ Packages.keccak data, byte < 256

/-- No two of the inputs have one hash. -/
def CollisionFree (inputs : List (List Nat)) : Prop :=
  ∀ data ∈ inputs, ∀ data' ∈ inputs, digest data = digest data' → data = data'

theorem word_digest (sized : SizedHash) (data : List Nat) : Word (digest data) :=
  ⟨Packages.keccak data, sized.size data, sized.bytes data, rfl⟩

end Eth
