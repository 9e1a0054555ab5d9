import Mathlib.Data.List.TakeWhile
import Xcp.Library.PythonText

/-! Base64 with the alphabet for URLs. The decoder passes over letters that are
not in the alphabet, and stops at the padding. -/

namespace Base64
open Python

/-- The letter of a number below 64. -/
def letterOf (value : Nat) : Char :=
  if value < 26 then Char.ofNat (65 + value)
  else if value < 52 then Char.ofNat (71 + value)
  else if value < 62 then Char.ofNat (value - 4)
  else if value = 62 then '-' else '_'

/-- The number of a letter, of this alphabet or of the one it is translated to. -/
def valueOf? (letter : Char) : Option Nat :=
  let code := letter.toNat
  if 65 ≤ code ∧ code ≤ 90 then some (code - 65)
  else if 97 ≤ code ∧ code ≤ 122 then some (code - 71)
  else if 48 ≤ code ∧ code ≤ 57 then some (code + 4)
  else if letter = '-' ∨ letter = '+' then some 62
  else if letter = '_' ∨ letter = '/' then some 63
  else none

/-- The numbers that stand for bytes, without the padding. -/
def sextets : List Nat → List Nat
  | first :: second :: third :: rest =>
    first / 4 :: (first % 4 * 16 + second / 16) :: (second % 16 * 4 + third / 64) :: third % 64 :: sextets rest
  | [first, second] => [first / 4, first % 4 * 16 + second / 16, second % 16 * 4]
  | [first] => [first / 4, first % 4 * 16]
  | [] => []

def padding (count : Nat) : List Char := List.replicate (count % 4) '='

/-- `base64.urlsafe_b64encode(data).decode()`. -/
def encode (data : List Nat) : String :=
  String.ofList ((sextets data).map letterOf ++ padding (3 * (sextets data).length))

/-- `binascii.a2b_base64`, from a state: how many letters of the current group
were read, what is left over of the last one, the pads since then, and the
bytes that were written. -/
def decodeLetters : (position left pads written : Nat) → List Char → Raises (List Nat)
  | position, _, _, written, [] =>
    if position = 0 then .ok []
    else if position = 1 then
      raise .valueError s!"Invalid base64-encoded string: number of data characters ({written / 3 * 4 + 1}) cannot be 1 more than a multiple of 4"
    else raise .valueError "Incorrect padding"
  | position, left, pads, written, letter :: rest =>
    if letter = '=' then
      if 2 ≤ position then
        if 4 ≤ position + (pads + 1) then .ok [] else decodeLetters position left (pads + 1) written rest
      else decodeLetters position left pads written rest
    else
      match valueOf? letter with
      | none => decodeLetters position left pads written rest
      | some value =>
        match position with
        | 0 => decodeLetters 1 value 0 written rest
        | 1 => List.cons (left * 4 + value / 16) <$> decodeLetters 2 (value % 16) 0 (written + 1) rest
        | 2 => List.cons (left * 16 + value / 4) <$> decodeLetters 3 (value % 4) 0 (written + 1) rest
        | _ => List.cons (left * 64 + value) <$> decodeLetters 0 0 0 (written + 1) rest

/-- `base64.urlsafe_b64decode(text)`. -/
def decode (text : String) : Raises (List Nat) :=
  if isAscii text then decodeLetters 0 0 0 0 text.toList
  else raise .valueError "string argument should contain only ASCII characters"

/-! ### The standard alphabet -/

def standardLetter (value : Nat) : Char := if value = 62 then '+' else if value = 63 then '/' else letterOf value

/-- `base64.b64encode(data).decode()`. -/
def encodeStandard (data : List Nat) : String :=
  String.ofList ((sextets data).map standardLetter ++ padding (3 * (sextets data).length))

/-- `base64.b64decode(text)`, which passes over the letters of the other alphabet. -/
def decodeStandard (text : String) : Raises (List Nat) :=
  if isAscii text then decodeLetters 0 0 0 0 (text.toList.filter (fun letter => letter ≠ '-' && letter ≠ '_'))
  else raise .valueError "string argument should contain only ASCII characters"

/-! ### Round trip -/

theorem letterOf_value : ∀ value < 64, valueOf? (letterOf value) = some value ∧ letterOf value ≠ '=' ∧
    (letterOf value).toNat < 128 := by
  decide

theorem sextets_small {data : List Nat} (bytes : ∀ byte ∈ data, byte < 256) : ∀ value ∈ sextets data, value < 64 := by
  induction data using sextets.induct with
  | case1 first second third rest ih =>
    simp only [List.forall_mem_cons] at bytes
    simp only [sextets, List.forall_mem_cons]
    exact ⟨by omega, by omega, by omega, by omega, ih bytes.2.2.2⟩
  | case2 first second =>
    simp only [List.forall_mem_cons] at bytes
    simp only [sextets, List.forall_mem_cons]
    exact ⟨by omega, by omega, by omega, nofun⟩
  | case3 first =>
    simp only [List.forall_mem_cons] at bytes
    simp only [sextets, List.forall_mem_cons]
    exact ⟨by omega, by omega, nofun⟩
  | case4 => exact nofun

/-- Letters that are read as the numbers they are written for. -/
def Spells (spell : Nat → Char) : Prop := ∀ value < 64, valueOf? (spell value) = some value ∧ spell value ≠ '='

theorem spells_letterOf : Spells letterOf := by
  intro value small
  obtain ⟨read, plain, _⟩ := letterOf_value value small
  exact ⟨read, plain⟩

section Letters
variable {spell : Nat → Char} (spells : Spells spell) {value : Nat} (small : value < 64) (left pads written : Nat)
  (rest : List Char)
include spells small

theorem decode_first : decodeLetters 0 left pads written (spell value :: rest) =
    decodeLetters 1 value 0 written rest := by
  obtain ⟨read, plain⟩ := spells value small
  simp only [decodeLetters, if_neg plain, read]

theorem decode_second : decodeLetters 1 left pads written (spell value :: rest) =
    List.cons (left * 4 + value / 16) <$> decodeLetters 2 (value % 16) 0 (written + 1) rest := by
  obtain ⟨read, plain⟩ := spells value small
  simp only [decodeLetters, if_neg plain, read]

theorem decode_third : decodeLetters 2 left pads written (spell value :: rest) =
    List.cons (left * 16 + value / 4) <$> decodeLetters 3 (value % 4) 0 (written + 1) rest := by
  obtain ⟨read, plain⟩ := spells value small
  simp only [decodeLetters, if_neg plain, read]

theorem decode_fourth : decodeLetters 3 left pads written (spell value :: rest) =
    List.cons (left * 64 + value) <$> decodeLetters 0 0 0 (written + 1) rest := by
  obtain ⟨read, plain⟩ := spells value small
  simp only [decodeLetters, if_neg plain, read]

end Letters

/-- What ends a text when some letters of a group were read. -/
def Closes (tail : List Char) (position : Nat) : Prop :=
  ∀ left written, decodeLetters position left 0 written tail = .ok []

theorem closes_padding (count : Nat) (whole : count % 4 ≠ 1) : Closes (padding (3 * count)) (count % 4) := by
  intro left written
  obtain none | two | three : count % 4 = 0 ∨ count % 4 = 2 ∨ count % 4 = 3 := by omega
  · have pads : 3 * count % 4 = 0 := by omega
    rw [padding, pads, none]
    rfl
  · have pads : 3 * count % 4 = 2 := by omega
    rw [padding, pads, two]
    rfl
  · have pads : 3 * count % 4 = 1 := by omega
    rw [padding, pads, three]
    rfl

/-- Two pads are enough for every text, and they do no harm. -/
theorem closes_pads (count : Nat) (whole : count % 4 ≠ 1) : Closes ['=', '='] (count % 4) := by
  intro left written
  obtain none | two | three : count % 4 = 0 ∨ count % 4 = 2 ∨ count % 4 = 3 := by omega
  · rw [none]
    rfl
  · rw [two]
    rfl
  · rw [three]
    rfl

theorem decodeLetters_closed {spell : Nat → Char} (spells : Spells spell) {tail : List Char} {data : List Nat}
    (bytes : ∀ byte ∈ data, byte < 256) (closes : Closes tail ((sextets data).length % 4)) (written : Nat) :
    decodeLetters 0 0 0 written ((sextets data).map spell ++ tail) = .ok data := by
  induction data using sextets.induct generalizing written with
  | case1 first second third rest ih =>
    simp only [List.forall_mem_cons] at bytes
    have closes : Closes tail ((sextets rest).length % 4) := by
      rwa [sextets, List.length_cons, List.length_cons, List.length_cons, List.length_cons, Nat.add_assoc, Nat.add_assoc,
        Nat.add_assoc, Nat.add_mod_right] at closes
    simp only [sextets, List.map_cons, List.cons_append]
    rw [decode_first spells (by omega), decode_second spells (by omega), decode_third spells (by omega),
      decode_fourth spells (by omega), ih bytes.2.2.2 closes]
    have one : first / 4 * 4 + (first % 4 * 16 + second / 16) / 16 = first := by omega
    have two : (first % 4 * 16 + second / 16) % 16 * 16 + (second % 16 * 4 + third / 64) / 4 = second := by omega
    have three : (second % 16 * 4 + third / 64) % 4 * 64 + third % 64 = third := by omega
    rw [one, two, three]
    rfl
  | case2 first second =>
    simp only [List.forall_mem_cons] at bytes
    have closes : Closes tail 3 := closes
    simp only [sextets, List.map_cons, List.map_nil, List.cons_append, List.nil_append]
    rw [decode_first spells (by omega), decode_second spells (by omega), decode_third spells (by omega), closes]
    have one : first / 4 * 4 + (first % 4 * 16 + second / 16) / 16 = first := by omega
    have two : (first % 4 * 16 + second / 16) % 16 * 16 + second % 16 * 4 / 4 = second := by omega
    rw [one, two]
    rfl
  | case3 first =>
    simp only [List.forall_mem_cons] at bytes
    have closes : Closes tail 2 := closes
    simp only [sextets, List.map_cons, List.map_nil, List.cons_append, List.nil_append]
    rw [decode_first spells (by omega), decode_second spells (by omega), closes]
    have one : first / 4 * 4 + first % 4 * 16 / 16 = first := by omega
    rw [one]
    rfl
  | case4 => exact closes 0 written

theorem sextets_count (data : List Nat) : (sextets data).length % 4 ≠ 1 := by
  induction data using sextets.induct with
  | case1 first second third rest ih =>
    simp only [sextets, List.length_cons]
    omega
  | case2 => simp [sextets]
  | case3 => simp [sextets]
  | case4 => simp [sextets]

/-- Without its padding the code of some bytes is the letters of their sextets. -/
theorem rstrip_encode {data : List Nat} (bytes : ∀ byte ∈ data, byte < 256) :
    (rstrip (encode data) '=').toList = (sextets data).map letterOf := by
  have plain : ∀ letter ∈ (sextets data).map letterOf, decide (letter = '=') = false := by
    intro letter member
    obtain ⟨value, inside, rfl⟩ := List.mem_map.mp member
    simp [(letterOf_value value (sextets_small bytes value inside)).2.1]
  rw [rstrip, encode, String.toList_ofList, String.toList_ofList, List.reverse_append, padding, List.reverse_replicate,
    List.dropWhile_append_of_pos (by simp)]
  rw [List.dropWhile_eq_self_iff.mpr, List.reverse_reverse]
  intro nonempty
  rw [plain _ (List.mem_reverse.mp (List.getElem_mem nonempty))]
  exact Bool.false_ne_true

theorem sextets_ne_nil {data : List Nat} (inhabited : data ≠ []) : sextets data ≠ [] := by
  cases data using sextets.induct with
  | case1 => simp [sextets]
  | case2 => simp [sextets]
  | case3 => simp [sextets]
  | case4 => exact absurd rfl inhabited

theorem rstrip_encode_ne {data : List Nat} (bytes : ∀ byte ∈ data, byte < 256) (inhabited : data ≠ []) :
    rstrip (encode data) '=' ≠ "" := by
  intro blank
  have letters := rstrip_encode bytes
  rw [blank, String.toList_empty, eq_comm, List.map_eq_nil_iff] at letters
  exact sextets_ne_nil inhabited letters

theorem letterOf_ascii {data : List Nat} (bytes : ∀ byte ∈ data, byte < 256) :
    ∀ letter ∈ (sextets data).map letterOf, letter.toNat < 128 := by
  intro letter member
  obtain ⟨value, inside, rfl⟩ := List.mem_map.mp member
  exact (letterOf_value value (sextets_small bytes value inside)).2.2

/-- A text that is closed is read back. -/
theorem decode_closed {data : List Nat} (bytes : ∀ byte ∈ data, byte < 256) {tail : String}
    (plain : isAscii tail = true) (closes : Closes tail.toList ((sextets data).length % 4)) :
    decode (rstrip (encode data) '=' ++ tail) = .ok data := by
  have ascii : isAscii (rstrip (encode data) '=' ++ tail) = true := by
    rw [isAscii, String.toList_append, rstrip_encode bytes, List.all_append, Bool.and_eq_true, List.all_eq_true]
    exact ⟨fun letter member => decide_eq_true (letterOf_ascii bytes letter member), plain⟩
  rw [decode, if_pos ascii, String.toList_append, rstrip_encode bytes]
  exact decodeLetters_closed spells_letterOf bytes closes 0

theorem decode_pads {data : List Nat} (bytes : ∀ byte ∈ data, byte < 256) :
    decode (rstrip (encode data) '=' ++ "==") = .ok data :=
  decode_closed bytes rfl (closes_pads _ (sextets_count data))

theorem isAscii_pads (count : Nat) : isAscii (String.ofList (List.replicate count '=')) = true := by
  rw [isAscii, String.toList_ofList, List.all_eq_true]
  intro letter member
  rw [List.eq_of_mem_replicate member]
  rfl

/-- Padded to a multiple of four letters, it is read back. -/
theorem decode_rstrip_encode {data : List Nat} (bytes : ∀ byte ∈ data, byte < 256) :
    decode (rstrip (encode data) '=' ++ String.ofList (List.replicate ((4 - (rstrip (encode data) '=').length % 4) % 4) '=')) =
      .ok data := by
  have count := sextets_count data
  apply decode_closed bytes (isAscii_pads _)
  have pads : (4 - (rstrip (encode data) '=').length % 4) % 4 = 3 * (sextets data).length % 4 := by
    rw [← String.length_toList, rstrip_encode bytes, List.length_map]
    omega
  rw [String.toList_ofList, pads]
  exact closes_padding _ count

theorem standardLetter_value : ∀ value < 64, valueOf? (standardLetter value) = some value ∧ standardLetter value ≠ '=' ∧
    (standardLetter value).toNat < 128 ∧ standardLetter value ≠ '-' ∧ standardLetter value ≠ '_' := by
  decide

theorem spells_standardLetter : Spells standardLetter := by
  intro value small
  obtain ⟨read, plain, _⟩ := standardLetter_value value small
  exact ⟨read, plain⟩

theorem decodeStandard_encodeStandard {data : List Nat} (bytes : ∀ byte ∈ data, byte < 256) :
    decodeStandard (encodeStandard data) = .ok data := by
  have letters : ∀ letter ∈ (sextets data).map standardLetter ++ padding (3 * (sextets data).length),
      letter.toNat < 128 ∧ letter ≠ '-' ∧ letter ≠ '_' := by
    intro letter member
    rcases List.mem_append.mp member with member | member
    · obtain ⟨value, inside, rfl⟩ := List.mem_map.mp member
      exact (standardLetter_value value (sextets_small bytes value inside)).2.2
    · rw [List.eq_of_mem_replicate member]
      exact ⟨by decide, by decide, by decide⟩
  have ascii : isAscii (encodeStandard data) = true := by
    rw [isAscii, encodeStandard, String.toList_ofList, List.all_eq_true]
    exact fun letter member => decide_eq_true (letters letter member).1
  have kept : (encodeStandard data).toList.filter (fun letter => letter ≠ '-' && letter ≠ '_') =
      (sextets data).map standardLetter ++ padding (3 * (sextets data).length) := by
    rw [encodeStandard, String.toList_ofList, List.filter_eq_self]
    intro letter member
    simpa using (letters letter member).2
  rw [decodeStandard, if_pos ascii, kept]
  exact decodeLetters_closed spells_standardLetter bytes (closes_padding _ (sextets_count data)) 0

end Base64
