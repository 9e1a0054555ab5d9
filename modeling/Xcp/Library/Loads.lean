import Xcp.Library.Ideal

/-! What `json.dumps` refuses to write, and what `json.loads` makes of the bytes
that it wrote. -/

namespace Python
open PrefixCode Eth

/-- What programs take from the interpreter for documents that arrive as bytes. -/
class JsonDecoder where
  loads : List Nat → Raises Json

/-! ### Writing -/

/-- `str` refuses a number that has too many digits. -/
def prints (value : Int) : Bool := (Nat.toDigits 10 value.natAbs).length ≤ maxIntDigits

mutual
def Json.printable : Json → Bool
  | .int value => prints value
  | .list items => printableItems items
  | .dict members => printableMembers members
  | _ => true
termination_by structural value => value

def printableItems : List Json → Bool
  | [] => true
  | value :: rest => value.printable && printableItems rest
termination_by structural items => items

def printableMembers : List (String × Json) → Bool
  | [] => true
  | (_, value) :: rest => value.printable && printableMembers rest
termination_by structural members => members
end

/-- `json.dumps(value, separators=(",", ":"), sort_keys=True, ensure_ascii=False).encode("utf-8")`. -/
def Json.canonicalBytes [Host] (value : Json) : Raises (List Nat) :=
  if value.printable then .ok (utf8 value.canonical)
  else raise .valueError ("Exceeds the limit (4300 digits) for integer string conversion; " ++
    "use sys.set_int_max_str_digits() to increase the limit")

/-! ### Reading -/

/-- Texts and the whole numbers that print. -/
def Json.isFlat : Json → Bool
  | .str _ => true
  | .int value => prints value
  | _ => false

/-- An object of texts and whole numbers is read back as it was written. -/
def ReadsBack [Host] [JsonDecoder] : Prop :=
  ∀ members : List (String × Json), (members.map Prod.fst).Nodup → (∀ member ∈ members, member.2.isFlat = true) →
    JsonDecoder.loads (utf8 (Json.dict members).canonical) = .ok (.dict (byName members))

theorem Json.printable_of_isFlat {value : Json} (flat : value.isFlat = true) : value.printable = true := by
  cases value with
  | str => rfl
  | int => exact flat
  | _ => cases flat

theorem printable_flat {members : List (String × Json)} (flat : ∀ member ∈ members, member.2.isFlat = true) :
    (Json.dict members).printable = true := by
  have each : printableMembers members = true := by
    induction members with
    | nil => rfl
    | cons member rest ih =>
      obtain ⟨here, later⟩ := List.forall_mem_cons.mp flat
      rw [printableMembers, Json.printable_of_isFlat here, ih later]
      rfl
  exact each

theorem utf8_bytes (text : String) : ∀ byte ∈ utf8 text, byte < 256 := by
  intro byte member
  obtain ⟨letter, _, inside⟩ := List.mem_flatMap.mp member
  have bound : letter.toNat < 0x110000 := by
    rcases letter.valid with low | ⟨_, high⟩
    · exact Nat.lt_trans low (by decide)
    · exact high
  unfold utf8Letter at inside
  dsimp only at inside
  split_ifs at inside <;> simp only [List.mem_cons, List.not_mem_nil, or_false] at inside <;> omega

theorem find?_eq_some {members : List (String × Json)} (distinct : (members.map Prod.fst).Nodup) (name : String) (value : Json) :
    Json.find? members name = some value ↔ (name, value) ∈ members := by
  induction members with
  | nil => simp [Json.find?]
  | cons member rest ih =>
    rw [List.map_cons, List.nodup_cons] at distinct
    have later := ih distinct.2
    unfold Json.find? at later ⊢
    by_cases here : member.1 = name
    · subst here
      have absent : (member.1, value) ∉ rest := fun inside => distinct.1 (List.mem_map.mpr ⟨_, inside, rfl⟩)
      simp [absent, Prod.ext_iff, eq_comm]
    · have other : (name, value) ≠ member := fun same => here (by rw [← same])
      simp [here, other, later]

/-- Where each name occurs once, its place does not matter. -/
theorem find?_perm {members others : List (String × Json)} (distinct : (members.map Prod.fst).Nodup)
    (perm : others.Perm members) (name : String) : Json.find? others name = Json.find? members name := by
  have distinct' : (others.map Prod.fst).Nodup := (perm.map Prod.fst).nodup_iff.mpr distinct
  apply Option.ext
  intro value
  rw [find?_eq_some distinct', find?_eq_some distinct, perm.mem_iff]

theorem byName_perm (members : List (String × Json)) : (byName members).Perm members := List.perm_insertionSort _ members

/-! ### A decoder for tests -/

/-- The letter that begins some bytes, and what is after it. -/
def utf8First : List Nat → Option (Char × List Nat)
  | [] => none
  | first :: rest =>
    if first < 0x80 then some (Char.ofNat first, rest)
    else if first < 0xe0 then
      match rest with
      | second :: rest => some (Char.ofNat ((first - 0xc0) * 64 + (second - 0x80)), rest)
      | _ => none
    else if first < 0xf0 then
      match rest with
      | second :: third :: rest => some (Char.ofNat (((first - 0xe0) * 64 + (second - 0x80)) * 64 + (third - 0x80)), rest)
      | _ => none
    else
      match rest with
      | second :: third :: fourth :: rest =>
        some (Char.ofNat ((((first - 0xf0) * 64 + (second - 0x80)) * 64 + (third - 0x80)) * 64 + (fourth - 0x80)), rest)
      | _ => none

theorem utf8First_letter (letter : Char) (rest : List Nat) : utf8First (utf8Letter letter ++ rest) = some (letter, rest) := by
  have read {code : Nat} (same : code = letter.toNat) : some (Char.ofNat code, rest) = some (letter, rest) := by
    rw [same, Char.ofNat_toNat]
  unfold utf8Letter
  dsimp only
  split
  next one =>
    simp only [List.singleton_append, utf8First, if_pos one]
    exact read rfl
  split
  next one two =>
    have second : ¬0xc0 + letter.toNat / 64 < 0x80 ∧ 0xc0 + letter.toNat / 64 < 0xe0 := by omega
    simp only [List.cons_append, List.nil_append, utf8First, if_neg second.1, if_pos second.2]
    exact read (by omega)
  split
  next two three =>
    have third : ¬0xe0 + letter.toNat / 4096 < 0x80 ∧ ¬0xe0 + letter.toNat / 4096 < 0xe0 ∧
        0xe0 + letter.toNat / 4096 < 0xf0 := by omega
    simp only [List.cons_append, List.nil_append, utf8First, if_neg third.1, if_neg third.2.1, if_pos third.2.2]
    exact read (by omega)
  next three =>
    have fourth : ¬0xf0 + letter.toNat / 262144 < 0x80 ∧ ¬0xf0 + letter.toNat / 262144 < 0xe0 ∧
        ¬0xf0 + letter.toNat / 262144 < 0xf0 := by omega
    simp only [List.cons_append, List.nil_append, utf8First, if_neg fourth.1, if_neg fourth.2.1, if_neg fourth.2.2]
    exact read (by omega)

/-- The text that some bytes encode. -/
def fromUtf8? (data : List Nat) : Option String :=
  match readAll utf8First data.length data with
  | some letters => if utf8 (String.ofList letters) = data then some (String.ofList letters) else none
  | none => none

theorem fromUtf8_utf8 (text : String) : fromUtf8? (utf8 text) = some text := by
  have letters : readAll utf8First (utf8 text).length (utf8 text) = some text.toList :=
    readAll_flatMap utf8First utf8First_letter utf8_isCode.nonempty (length_le_flatMap utf8_isCode.nonempty _)
  simp only [fromUtf8?, letters, String.ofList_toList, if_pos]

/-- `data.decode("utf-8")`. -/
def decodeUtf8 (data : List Nat) : Raises String :=
  match fromUtf8? data with
  | some text => .ok text
  | none => raise .valueError "'utf-8' codec can't decode the data"

theorem decodeUtf8_eq_ok {data : List Nat} {text : String} : decodeUtf8 data = .ok text ↔ utf8 text = data := by
  constructor
  · intro read
    unfold decodeUtf8 fromUtf8? at read
    split at read
    next found =>
      obtain rfl := Except.ok.inj read
      split at found
      next letters _ =>
        by_cases same : utf8 (String.ofList letters) = data
        · rw [if_pos same] at found
          rw [← Option.some.inj found, same]
        · rw [if_neg same] at found
          cases found
      · cases found
    · cases read
  · rintro rfl
    rw [decodeUtf8, fromUtf8_utf8]

theorem decodeUtf8_utf8 (text : String) : decodeUtf8 (utf8 text) = .ok text := by
  rw [decodeUtf8, fromUtf8_utf8]

theorem utf8_inj {first second : String} (same : utf8 first = utf8 second) : first = second :=
  String.toList_inj.mp (utf8_isCode.flatMap_inj same)

def readText : List Char → Option (String × List Char)
  | '"' :: rest =>
    (readUntil (fun letters => some (unescape letters)) '"' rest.length rest).map (Prod.map String.ofList id)
  | _ => none

theorem readText_quoted (text : String) (rest : List Char) : readText (quotedLetters text ++ rest) = some (text, rest) := by
  have enough : text.toList.length < (text.toList.flatMap escapeLetter ++ '"' :: rest).length := by
    have short := length_le_flatMap escape_isCode.nonempty text.toList
    rw [List.length_append, List.length_cons]
    omega
  have read := readUntil_flatMap (fun letters => some (unescape letters))
    (fun letter rest => congrArg some (unescape_escape letter rest)) escape_isCode.nonempty escape_not_quote enough rest
  rw [quotedLetters, List.cons_append, List.append_assoc, List.singleton_append]
  simp only [readText, read, Option.map_some, Prod.map_apply, String.ofList_toList, id]

/-- A word ends where its letters end. -/
theorem word_split {inside : Char → Bool} {word rest : List Char} (letters : ∀ letter ∈ word, inside letter = true)
    (ends : ∀ letter ∈ rest.head?, inside letter = false) :
    (word ++ rest).takeWhile inside = word ∧ (word ++ rest).dropWhile inside = rest := by
  rw [List.takeWhile_append_of_pos letters, List.dropWhile_append_of_pos letters]
  cases rest with
  | nil => simp
  | cons letter rest => simp [ends letter rfl]

def readWhole (letters : List Char) : Option (Int × List Char) :=
  match (String.ofList (letters.takeWhile numberLetter)).toInt? with
  | some value => if prints value then some (value, letters.dropWhile numberLetter) else none
  | none => none

def readFlat (letters : List Char) : Option (Json × List Char) :=
  match readText letters with
  | some (text, rest) => some (.str text, rest)
  | none => (readWhole letters).map (Prod.map .int id)

def readMember (letters : List Char) : Option ((String × Json) × List Char) :=
  match readText letters with
  | some (name, ':' :: rest) => (readFlat rest).map (Prod.map (Prod.mk name) id)
  | _ => none

def readMembers : List Char → Option (List (String × Json))
  | '\x7b' :: rest =>
    if rest = ['\x7d'] then some []
    else match readSeparated readMember ',' '\x7d' rest.length rest with
      | some (members, []) => some members
      | _ => none
  | _ => none

/-- Enough of a decoder for objects of texts and whole numbers. -/
@[reducible] def flatDecoder : JsonDecoder where
  loads := fun data =>
    match (readAll utf8First data.length data).bind readMembers with
    | some members => .ok (.dict members)
    | none => raise .valueError "Expecting value: line 1 column 1 (char 0)"

section Form
variable [Host]

theorem readWhole_letters {value : Int} (prints : prints value = true) {rest : List Char}
    (ends : ∀ letter ∈ rest.head?, numberLetter letter = false) :
    readWhole ((Json.int value).letters ++ rest) = some (value, rest) := by
  obtain ⟨taken, dropped⟩ := word_split (int_numberLetters value) ends
  have numeral : (String.ofList (Json.int value).letters).toInt? = some value := by
    rw [Json.letters, String.ofList_toList]
    exact Int.toInt?_repr value
  rw [readWhole, taken, dropped, numeral]
  exact if_pos prints

theorem readFlat_letters {value : Json} (flat : value.isFlat = true) {rest : List Char}
    (ends : ∀ letter ∈ rest.head?, numberLetter letter = false) : readFlat (value.letters ++ rest) = some (value, rest) := by
  cases value with
  | str text => simp only [readFlat, letters_str, readText_quoted]
  | int value =>
    have plain : readText ((Json.int value).letters ++ rest) = none := by
      obtain ⟨letter, letters, spelled⟩ := List.exists_cons_of_ne_nil (int_letters_ne_nil value)
      have number := int_numberLetters value letter (by simp [spelled])
      have other : letter ≠ '"' := by
        rintro rfl
        exact absurd number (by decide)
      rw [spelled, List.cons_append]
      simp only [readText]
      split
      next same => exact absurd (List.cons.inj same).1 other
      next => rfl
    simp only [readFlat, plain, readWhole_letters flat ends, Option.map_some, Prod.map_apply, id]
  | _ => cases flat

theorem readMember_letters {member : String × Json} (flat : member.2.isFlat = true) {rest : List Char}
    (ends : ∀ letter ∈ rest.head?, numberLetter letter = false) :
    readMember (memberLetters member ++ rest) = some (member, rest) := by
  rw [memberLetters, List.append_assoc, List.cons_append]
  simp only [readMember, readText_quoted, readFlat_letters flat ends, Option.map_some, Prod.map_apply, id]

theorem readMembers_letters {members : List (String × Json)} (flat : ∀ member ∈ members, member.2.isFlat = true) :
    readMembers (Json.dict members).letters = some (byName members) := by
  rw [letters_dict]
  cases sorted : byName members with
  | nil => rfl
  | cons first others =>
    have ends (mark : Char) (plain : numberLetter mark = false) (rest : List Char) :
        ∀ letter ∈ (mark :: rest).head?, numberLetter letter = false := by
      rintro letter ⟨⟩
      exact plain
    have reads : ∀ member ∈ first :: others, ∀ rest, readMember (memberLetters member ++ ',' :: rest) = some (member, ',' :: rest) ∧
        readMember (memberLetters member ++ '\x7d' :: rest) = some (member, '\x7d' :: rest) := by
      intro member inside rest
      rw [← sorted] at inside
      have here := flat member ((List.mem_insertionSort _).mp inside)
      exact ⟨readMember_letters here (ends ',' (by decide) rest), readMember_letters here (ends '\x7d' (by decide) rest)⟩
    have written (member : String × Json) : memberLetters member ≠ [] := by simp [memberLetters]
    have short := length_le_separated written ',' (first :: others)
    have enough : (first :: others).length ≤ (separated memberLetters ',' (first :: others) ++ ['\x7d']).length := by
      rw [List.length_append]
      omega
    have read := readSeparated_separated readMember (by decide) reads (List.cons_ne_nil first others) enough []
    have more : separated memberLetters ',' (first :: others) ++ ['\x7d'] ≠ ['\x7d'] := by
      intro same
      have count := congrArg List.length same
      simp only [List.length_append, List.length_cons, List.length_nil] at count short
      omega
    simp only [readMembers, if_neg more, read]

theorem flatDecoder_readsBack : @ReadsBack _ flatDecoder := by
  intro members distinct flat
  have letters : readAll utf8First (utf8 (Json.dict members).canonical).length (utf8 (Json.dict members).canonical) =
      some (Json.dict members).letters :=
    readAll_flatMap utf8First utf8First_letter utf8_isCode.nonempty (length_le_flatMap utf8_isCode.nonempty _)
  change (match (readAll utf8First _ _).bind readMembers with | some members => _ | none => _) = _
  rw [letters, Option.bind_some, readMembers_letters flat]

end Form

end Python
