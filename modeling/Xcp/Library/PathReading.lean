import Xcp.Library.Ideal
import Xcp.Library.Templates

/-! How the receiver of a request reads its path: separators, octets that are
percent-encoded, and letters. Where values were put into a template, it reads the
same if nothing in them is a separator or belongs to an encoded octet. -/

namespace PathReading
open Python Eth Templates

/-- A letter of a path is the template's own, or a value's. -/
structure Letter where
  char : Char
  own : Bool
deriving DecidableEq

inductive Sign where
  | separator (mark : Char)
  | octet (code : Nat)
deriving DecidableEq

/-- What begins a segment, the query and the fragment. -/
def isSeparator (char : Char) : Bool := ['/', '?', '#'].contains char

/-- The octet that letters of the template's own begin with, if it is percent-encoded. -/
def escape? : List Letter → Option Nat
  | first :: second :: third :: _ =>
    if first.char = '%' && first.own && second.own && third.own then do
      let high ← hexValue? second.char
      let low ← hexValue? third.char
      return 16 * high + low
    else none
  | _ => none

/-- A separator of the template's own separates; all else is data. -/
def Letter.signs (letter : Letter) : List Sign :=
  if letter.own && isSeparator letter.char then [.separator letter.char] else (utf8Letter letter.char).map .octet

/-- After a number of letters that belong to an octet. -/
def readFrom : Nat → List Letter → List Sign
  | _, [] => []
  | skip + 1, _ :: rest => readFrom skip rest
  | 0, letter :: rest =>
    match escape? (letter :: rest) with
    | some code => .octet code :: readFrom 2 rest
    | none => letter.signs ++ readFrom 0 rest

def read (letters : List Letter) : List Sign := readFrom 0 letters

/-- The receiver does not see which letters are whose. -/
def Letter.sent (letter : Letter) : Letter where
  char := letter.char
  own := true

def sent (letters : List Letter) : List Letter := letters.map Letter.sent

/-! ### Reading letter by letter -/

theorem eq_of_escape {letters : List Letter} {code : Nat} (found : escape? (sent letters) = some code) :
    ∃ first second third rest, letters = first :: second :: third :: rest ∧ first.char = '%' ∧
      (hexValue? second.char).isSome ∧ (hexValue? third.char).isSome := by
  match letters with
  | [] => cases found
  | [_] => cases found
  | [_, _] => cases found
  | first :: second :: third :: rest =>
    refine ⟨first, second, third, rest, rfl, ?_⟩
    simp only [sent, List.map_cons, escape?, Letter.sent, Bool.and_true, Option.ite_none_right_eq_some] at found
    obtain ⟨percent, found⟩ := found
    obtain ⟨high, first, found⟩ := Option.bind_eq_some_iff.mp found
    obtain ⟨low, second, _⟩ := Option.bind_eq_some_iff.mp found
    exact ⟨by simpa using percent, Option.isSome_of_mem first, Option.isSome_of_mem second⟩

theorem escape_sent {letters : List Letter} {code : Nat} (found : escape? letters = some code) :
    escape? (sent letters) = some code := by
  match letters with
  | [] => cases found
  | [_] => cases found
  | [_, _] => cases found
  | first :: second :: third :: rest =>
    simp only [escape?, Option.ite_none_right_eq_some, Bool.and_eq_true] at found
    simp only [sent, List.map_cons, escape?, Letter.sent, Bool.and_true, found.1.1.1.1, if_true]
    exact found.2

theorem escape_none {letters : List Letter} (absent : escape? (sent letters) = none) : escape? letters = none := by
  by_contra some
  obtain ⟨code, found⟩ := Option.ne_none_iff_exists'.mp some
  rw [escape_sent found] at absent
  cases absent

theorem escape_of_other {letter : Letter} (other : letter.char ≠ '%') (rest : List Letter) : escape? (letter :: rest) = none := by
  match rest with
  | [] => rfl
  | [_] => rfl
  | second :: third :: rest => simp [escape?, other]

theorem other_of_hex {char : Char} (hex : (hexValue? char).isSome) : char ≠ '%' ∧ isSeparator char = false := by
  constructor
  · rintro rfl
    cases hex
  · by_contra separator
    simp only [isSeparator, Bool.not_eq_false, List.contains_iff_mem, List.mem_cons, List.not_mem_nil, or_false] at separator
    rcases separator with rfl | rfl | rfl <;> cases hex

theorem read_octet {first second third : Letter} {rest : List Letter} {code : Nat}
    (found : escape? (first :: second :: third :: rest) = some code) :
    read (first :: second :: third :: rest) = .octet code :: read rest := by
  rw [read, readFrom, found]
  rfl

theorem read_letter {letter : Letter} {rest : List Letter} (absent : escape? (letter :: rest) = none) :
    read (letter :: rest) = letter.signs ++ read rest := by
  rw [read, readFrom, absent]
  rfl

/-- What is sent begins with an encoded octet or with a letter. -/
theorem read_induction {motive : List Letter → Prop} (empty : motive [])
    (octet : ∀ first second third rest code, escape? (sent (first :: second :: third :: rest)) = some code → first.char = '%' →
      (hexValue? second.char).isSome → (hexValue? third.char).isSome → motive rest → motive (first :: second :: third :: rest))
    (letter : ∀ letter rest, escape? (sent (letter :: rest)) = none → motive rest → motive (letter :: rest))
    (letters : List Letter) : motive letters := by
  induction length : letters.length using Nat.strong_induction_on generalizing letters with
  | _ length ih =>
    subst length
    match letters with
    | [] => exact empty
    | front :: others =>
      cases found : escape? (sent (front :: others)) with
      | none => exact letter front others found (ih others.length (by simp) others rfl)
      | some code =>
        obtain ⟨first, second, third, rest, same, percent, high, low⟩ := eq_of_escape found
        rw [same] at found ih ⊢
        exact octet first second third rest code found percent high low (ih rest.length (by simp; omega) rest rfl)

theorem signs_ne_nil (letter : Letter) : letter.signs ≠ [] := by
  rw [Letter.signs]
  split
  · exact List.cons_ne_nil _ _
  · exact fun none => utf8_isCode.nonempty letter.char (List.map_eq_nil_iff.mp none)

theorem length_signs_sent_le (letter : Letter) : letter.sent.signs.length ≤ letter.signs.length := by
  have some := List.length_pos_iff.mpr (signs_ne_nil letter)
  rw [Letter.signs, Letter.sent]
  dsimp only
  split
  · exact some
  next other =>
    rw [Letter.signs, if_neg]
    rw [Bool.true_and] at other
    simp [other]

/-- An encoded octet that begins in the template and has letters of a value is not read, but its letters are. -/
theorem read_of_escape_none {first second third : Letter} (rest : List Letter) (none : escape? (first :: second :: third :: rest) = none)
    (high : (hexValue? second.char).isSome) (low : (hexValue? third.char).isSome) :
    read (first :: second :: third :: rest) = first.signs ++ (second.signs ++ (third.signs ++ read rest)) := by
  rw [read_letter none, read_letter (escape_of_other (other_of_hex high).1 _), read_letter (escape_of_other (other_of_hex low).1 _)]

theorem length_read_sent_le (letters : List Letter) : (read (sent letters)).length ≤ (read letters).length := by
  induction letters using read_induction with
  | empty => rfl
  | octet first second third rest code found percent high low ih =>
    have sending : (read (sent (first :: second :: third :: rest))).length = (read (sent rest)).length + 1 :=
      congrArg List.length (read_octet found)
    rw [sending]
    cases own : escape? (first :: second :: third :: rest) with
    | some code =>
      rw [read_octet own, List.length_cons]
      omega
    | none =>
      have one := List.length_pos_iff.mpr (signs_ne_nil first)
      rw [read_of_escape_none rest own high low, List.length_append, List.length_append, List.length_append]
      omega
  | letter letter rest absent ih =>
    have sending : read (sent (letter :: rest)) = letter.sent.signs ++ read (sent rest) := read_letter absent
    have own := escape_none absent
    have here := length_signs_sent_le letter
    rw [sending, read_letter own, List.length_append, List.length_append]
    omega

/-! ### Values that are only data -/

/-- No letter of a value separates here or belongs to an encoded octet that begins here. -/
def Calm : List Letter → Prop
  | [] => True
  | letter :: rest => (isSeparator letter.char → letter.own) ∧ escape? (sent (letter :: rest)) = escape? (letter :: rest)

def Inert (letters : List Letter) : Prop := ∀ tail, tail <:+ letters → Calm tail

theorem inert_cons {letter : Letter} {rest : List Letter} : Inert (letter :: rest) ↔ Calm (letter :: rest) ∧ Inert rest := by
  simp only [Inert, List.suffix_cons_iff, forall_eq_or_imp]

theorem calm_of_hex {letter : Letter} (hex : (hexValue? letter.char).isSome) (rest : List Letter) : Calm (letter :: rest) := by
  obtain ⟨other, data⟩ := other_of_hex hex
  refine ⟨fun separator => ?_, ?_⟩
  · rw [data] at separator
    cases separator
  · have sending : escape? (letter.sent :: sent rest) = none := @escape_of_other letter.sent other _
    rw [escape_of_other other]
    exact sending

theorem signs_sent_ne {letter : Letter} (separator : isSeparator letter.char = true) (carried : letter.own = false)
    (first second : List Sign) : letter.sent.signs ++ first ≠ letter.signs ++ second := by
  have sending : letter.sent.signs = [.separator letter.char] := by simp [Letter.signs, Letter.sent, separator]
  have data : letter.signs = (utf8Letter letter.char).map .octet := by simp [Letter.signs, carried]
  rw [sending, data]
  cases code : utf8Letter letter.char with
  | nil => exact (utf8_isCode.nonempty letter.char code).elim
  | cons octet octets => simp

theorem signs_sent {letter : Letter} (calm : isSeparator letter.char → letter.own) : letter.sent.signs = letter.signs := by
  cases separator : isSeparator letter.char with
  | false => simp [Letter.signs, Letter.sent, separator]
  | true => simp [Letter.signs, Letter.sent, separator, calm separator]

/-- A path reads as the template and the values in it exactly if the values are only data. -/
theorem read_sent_iff (letters : List Letter) : read (sent letters) = read letters ↔ Inert letters := by
  induction letters using read_induction with
  | empty =>
    refine iff_of_true rfl ?_
    intro tail suffix
    rw [List.suffix_nil.mp suffix]
    exact trivial
  | octet first second third rest code found percent high low ih =>
    have sending : read (sent (first :: second :: third :: rest)) = .octet code :: read (sent rest) := read_octet found
    have data : isSeparator first.char = false := by
      rw [percent]
      decide
    rw [sending, inert_cons, inert_cons, inert_cons, and_iff_right (calm_of_hex low rest), and_iff_right (calm_of_hex high _), Calm,
      found, data]
    cases own : escape? (first :: second :: third :: rest) with
    | some code' =>
      obtain rfl : code = code' := Option.some.inj (found.symm.trans (escape_sent own))
      rw [read_octet own, List.cons.injEq, ih]
      simp
    | none =>
      -- three letters stand for more than one octet
      refine iff_of_false ?_ (by simp)
      intro same
      have lengths := congrArg List.length same
      have shorter := length_read_sent_le rest
      have one := List.length_pos_iff.mpr (signs_ne_nil first)
      have two := List.length_pos_iff.mpr (signs_ne_nil second)
      rw [read_of_escape_none rest own high low, List.length_cons, List.length_append, List.length_append, List.length_append] at lengths
      omega
  | letter letter rest absent ih =>
    have sending : read (sent (letter :: rest)) = letter.sent.signs ++ read (sent rest) := read_letter absent
    have own := escape_none absent
    rw [sending, read_letter own, inert_cons, Calm, absent, own, and_iff_left rfl]
    by_cases calm : isSeparator letter.char → letter.own
    · rw [signs_sent calm, List.append_cancel_left_eq, ih, and_iff_right calm]
    · rw [Classical.not_imp, Bool.not_eq_true] at calm
      refine iff_of_false (signs_sent_ne calm.1 calm.2 _ _) ?_
      intro ⟨kept, _⟩
      rw [kept calm.1] at calm
      cases calm.2

theorem own_of_inert {letters : List Letter} (inert : Inert letters) {letter : Letter} (member : letter ∈ letters)
    (separator : isSeparator letter.char = true) : letter.own = true := by
  obtain ⟨front, rest, rfl⟩ := List.append_of_mem member
  exact (inert _ (List.suffix_append front (letter :: rest))).1 separator

/-! ### Separators -/

def Sign.mark? : Sign → Option Char
  | separator mark => some mark
  | octet _ => none

def Letter.mark? (letter : Letter) : Option Char := if letter.own && isSeparator letter.char then some letter.char else none

theorem marks_signs (letter : Letter) (rest : List Sign) :
    (letter.signs ++ rest).filterMap Sign.mark? = letter.mark?.toList ++ rest.filterMap Sign.mark? := by
  rw [List.filterMap_append]
  congr 1
  rw [Letter.signs, Letter.mark?]
  split
  · rfl
  · rw [List.filterMap_map]
    exact List.filterMap_eq_nil_iff.mpr (fun _ _ => rfl)

theorem mark_of_hex {letter : Letter} (hex : (hexValue? letter.char).isSome) : letter.mark? = none := by
  rw [Letter.mark?, (other_of_hex hex).2, Bool.and_false]
  rfl

/-- The separators that are read are those of the template's own. -/
theorem marks_read (letters : List Letter) : (read letters).filterMap Sign.mark? = letters.filterMap Letter.mark? := by
  induction letters using read_induction with
  | empty => rfl
  | octet first second third rest code found percent high low ih =>
    have data : first.mark? = none := by
      rw [Letter.mark?, percent, Bool.and_comm]
      rfl
    rw [List.filterMap_cons_none data, List.filterMap_cons_none (mark_of_hex high), List.filterMap_cons_none (mark_of_hex low)]
    cases own : escape? (first :: second :: third :: rest) with
    | some code' =>
      rw [read_octet own, List.filterMap_cons_none rfl, ih]
    | none =>
      rw [read_of_escape_none rest own high low, marks_signs, marks_signs, marks_signs, data, mark_of_hex high, mark_of_hex low, ih]
      rfl
  | letter letter rest absent ih =>
    have own := escape_none absent
    rw [read_letter own, marks_signs, List.filterMap_cons, ih]
    cases letter.mark? <;> rfl

/-! ### Segments -/

def isOwn : Piece → Bool
  | .letter _ => true
  | _ => false

def isValue : Piece → Bool
  | .value _ => true
  | _ => false

/-- The letters of a template that is filled in. -/
def lettersOf (pieces : List Piece) : List Letter :=
  pieces.flatMap (fun piece => piece.text.map (fun char => { char, own := !isValue piece }))

/-- A path as a template of its own letters, as it is sent. -/
def plain (path : List Char) : List Piece := path.map .letter

theorem textOf_plain (path : List Char) : textOf (plain path) = path := by
  rw [textOf, plain, List.flatMap_map]
  exact List.flatMap_singleton' path

theorem lettersOf_plain (path : List Char) : lettersOf (plain path) = path.map (fun char => { char, own := true }) := by
  rw [lettersOf, plain, List.flatMap_map, List.map_eq_flatMap]
  rfl

theorem sent_lettersOf (pieces : List Piece) : sent (lettersOf pieces) = lettersOf (plain (textOf pieces)) := by
  rw [lettersOf_plain, sent, lettersOf, textOf, List.map_flatMap, List.map_flatMap]
  apply List.flatMap_congr
  intro piece _
  rw [List.map_map]
  rfl

/-- A mark of the template's own. -/
def isMark (marks : Char → Bool) : Piece → Bool
  | .letter own => marks own
  | _ => false

/-- The segments of the path, as far as the query or the fragment. -/
def segments (pieces : List Piece) : List (List Piece) :=
  (pieces.takeWhile (fun piece => !isMark (fun own => own = '?' || own = '#') piece)).splitOnP (isMark (· = '/'))

/-- A segment that stands for this or for the one above, however its dots are written. -/
def isDot (segment : List Char) : Bool :=
  [[.octet 46], [.octet 46, .octet 46]].contains (read (lettersOf (plain segment)))

/-- Which segments are dots, of the template's own. -/
def climbing (pieces : List Piece) : List Bool := (segments pieces).map (fun part => part.all isOwn && isDot (textOf part))

/-- No segment becomes dots by what is put in. -/
def Level (pieces : List Piece) : Prop := ∀ part ∈ segments pieces, isDot (textOf part) = true → part.all isOwn = true

/-- What is put in has no separators. -/
def Solid (pieces : List Piece) : Prop := ∀ piece ∈ pieces, isOwn piece = false → ∀ char ∈ piece.text, isSeparator char = false

theorem splitOnP_append {α : Type} {mark : α → Bool} {front : List α} (none : ∀ item ∈ front, mark item = false) (rest : List α) :
    (front ++ rest).splitOnP mark = (rest.splitOnP mark).modifyHead (front ++ ·) := by
  induction front with
  | nil =>
    rw [List.nil_append]
    cases rest.splitOnP mark <;> rfl
  | cons item front ih =>
    rw [List.forall_mem_cons] at none
    rw [List.cons_append, List.splitOnP_cons_eq_if_modifyHead, none.1, ih none.2]
    cases rest.splitOnP mark <;> rfl

section Segments
variable {marks : Char → Bool} (separate : ∀ char, marks char = true → isSeparator char = true)
include separate

/-- Only a letter of the template's own is a mark in the text. -/
theorem not_mark_text {piece : Piece} (other : isMark marks piece = false)
    (solid : isOwn piece = false → ∀ char ∈ piece.text, isSeparator char = false) :
    ∀ letter ∈ plain piece.text, isMark marks letter = false := by
  intro letter member
  obtain ⟨char, within, rfl⟩ := List.mem_map.mp member
  cases own : isOwn piece with
  | false =>
    by_contra mark
    rw [Bool.not_eq_false] at mark
    have data := solid own char within
    rw [separate char mark] at data
    cases data
  | true =>
    cases piece with
    | letter own =>
      obtain rfl := List.mem_singleton.mp within
      exact other
    | hole name => cases own
    | value text => cases own

theorem splitOnP_plain {pieces : List Piece} (solid : Solid pieces) :
    (plain (textOf pieces)).splitOnP (isMark marks) = (pieces.splitOnP (isMark marks)).map (fun part => plain (textOf part)) := by
  induction pieces with
  | nil => rfl
  | cons piece rest ih =>
    have later := ih (fun piece member => solid piece (List.mem_cons_of_mem _ member))
    have whole : plain (textOf (piece :: rest)) = plain piece.text ++ plain (textOf rest) := List.map_append
    rw [List.splitOnP_cons_eq_if_modifyHead, whole]
    cases mark : isMark marks piece with
    | true =>
      cases piece with
      | letter own =>
        have first : plain (Piece.text (.letter own)) = [.letter own] := rfl
        rw [first, List.singleton_append, List.splitOnP_cons_eq_if_modifyHead, mark, if_pos rfl, if_pos rfl, later]
        rfl
      | hole name => cases mark
      | value text => cases mark
    | false =>
      rw [splitOnP_append (not_mark_text separate mark (solid piece List.mem_cons_self)), later, if_neg Bool.false_ne_true]
      cases rest.splitOnP (isMark marks) with
      | nil => rfl
      | cons first others =>
        have here : plain (textOf (piece :: first)) = plain piece.text ++ plain (textOf first) := List.map_append
        rw [List.map_cons, List.modifyHead_cons, List.modifyHead_cons, List.map_cons, here]

theorem takeWhile_plain {pieces : List Piece} (solid : Solid pieces) :
    (plain (textOf pieces)).takeWhile (fun piece => !isMark marks piece) =
      plain (textOf (pieces.takeWhile (fun piece => !isMark marks piece))) := by
  induction pieces with
  | nil => rfl
  | cons piece rest ih =>
    have later := ih (fun piece member => solid piece (List.mem_cons_of_mem _ member))
    have whole : plain (textOf (piece :: rest)) = plain piece.text ++ plain (textOf rest) := List.map_append
    rw [List.takeWhile_cons, whole]
    cases mark : isMark marks piece with
    | true =>
      cases piece with
      | letter own =>
        have first : plain (Piece.text (.letter own)) = [.letter own] := rfl
        rw [first, List.singleton_append, List.takeWhile_cons, mark]
        rfl
      | hole name => cases mark
      | value text => cases mark
    | false =>
      have none := not_mark_text separate mark (solid piece List.mem_cons_self)
      rw [List.takeWhile_append_of_pos (fun letter member => by rw [none letter member]; rfl), later]
      exact List.map_append.symm

end Segments

theorem segments_plain {pieces : List Piece} (solid : Solid pieces) :
    segments (plain (textOf pieces)) = (segments pieces).map (fun part => plain (textOf part)) := by
  have path : Solid (pieces.takeWhile (fun piece => !isMark (fun own => own = '?' || own = '#') piece)) :=
    fun piece member => solid piece ((List.takeWhile_prefix _).subset member)
  have ends : ∀ char : Char, (char = '?' || char = '#' : Bool) = true → isSeparator char = true := by
    intro char mark
    rw [Bool.or_eq_true, decide_eq_true_eq, decide_eq_true_eq] at mark
    rcases mark with rfl | rfl <;> decide
  have slash : ∀ char : Char, decide (char = '/') = true → isSeparator char = true := by
    intro char mark
    rw [of_decide_eq_true mark]
    decide
  rw [segments, takeWhile_plain ends solid, splitOnP_plain slash path, segments]

/-- The path climbs where the template does exactly if no segment becomes dots by what is put in. -/
theorem climbing_iff {pieces : List Piece} (solid : Solid pieces) :
    climbing (plain (textOf pieces)) = climbing pieces ↔ Level pieces := by
  rw [climbing, segments_plain solid, List.map_map, climbing, List.map_inj_left]
  apply forall₂_congr
  intro part member
  rw [Function.comp_apply, textOf_plain]
  have own : (plain (textOf part)).all isOwn = true := by simp [plain, isOwn]
  rw [own, Bool.true_and]
  cases isDot (textOf part) <;> simp

/-- A path is read as the template with the values as data in it, and no value makes it climb. -/
structure Conveys (path : List Char) (pieces : List Piece) : Prop where
  signs : read (lettersOf (plain path)) = read (lettersOf pieces)
  climbs : climbing (plain path) = climbing pieces

theorem solid_of_inert {pieces : List Piece} (inert : Inert (lettersOf pieces)) (whole : ∀ name, .hole name ∉ pieces) :
    Solid pieces := by
  intro piece member put char within
  cases piece with
  | letter own => cases put
  | hole name => exact (whole name member).elim
  | value text =>
    have carried : { char, own := false } ∈ lettersOf pieces :=
      List.mem_flatMap.mpr ⟨.value text, member, List.mem_map.mpr ⟨char, within, rfl⟩⟩
    by_contra separator
    rw [Bool.not_eq_false] at separator
    cases own_of_inert inert carried separator

/-- What is read of a template that is filled in, if all of it is. -/
theorem conveys_iff {pieces : List Piece} (whole : ∀ name, .hole name ∉ pieces) :
    Conveys (textOf pieces) pieces ↔ Inert (lettersOf pieces) ∧ Level pieces := by
  have signs : read (lettersOf (plain (textOf pieces))) = read (lettersOf pieces) ↔ Inert (lettersOf pieces) := by
    rw [← sent_lettersOf, read_sent_iff]
  constructor
  · intro ⟨same, climbs⟩
    have inert := signs.mp same
    exact ⟨inert, (climbing_iff (solid_of_inert inert whole)).mp climbs⟩
  · intro ⟨inert, level⟩
    exact ⟨signs.mpr inert, (climbing_iff (solid_of_inert inert whole)).mpr level⟩

/-- The separators of a template. -/
def ownMarks (pieces : List Piece) : List Char :=
  pieces.filterMap (fun piece => match piece with
    | .letter own => if isSeparator own then some own else none
    | _ => none)

theorem ownMarks_filled (values : String → Option (List Char)) (pieces : List Piece) :
    ownMarks (filled values pieces) = ownMarks pieces := by
  rw [ownMarks, filled, List.filterMap_map, ownMarks]
  apply List.filterMap_congr
  intro piece _
  cases piece with
  | letter own => rfl
  | value text => rfl
  | hole name =>
    rw [Function.comp_apply, Piece.filled]
    cases values name.text <;> rfl

theorem marks_lettersOf {pieces : List Piece} (whole : ∀ name, .hole name ∉ pieces) :
    (lettersOf pieces).filterMap Letter.mark? = ownMarks pieces := by
  induction pieces with
  | nil => rfl
  | cons piece rest ih =>
    have later := ih (fun name member => whole name (List.mem_cons_of_mem _ member))
    rw [lettersOf] at later ⊢
    rw [List.flatMap_cons, List.filterMap_append, later, ownMarks, ownMarks, List.filterMap_cons, List.filterMap_map]
    cases piece with
    | letter own =>
      have here : [own].filterMap (Letter.mark? ∘ fun char => { char, own := true }) = if isSeparator own then [own] else [] := by
        rw [List.filterMap_cons, Function.comp_apply, Letter.mark?, Bool.true_and]
        split_ifs <;> rfl
      refine (congrArg (· ++ _) here).trans ?_
      dsimp only
      split_ifs <;> rfl
    | hole name => exact (whole name List.mem_cons_self).elim
    | value text =>
      have data : (text.filterMap (Letter.mark? ∘ fun char => { char, own := false })) = [] :=
        List.filterMap_eq_nil_iff.mpr (fun _ _ => rfl)
      exact congrArg (· ++ _) data

/-- What is read as the template has its separators, whatever the values are. -/
theorem Conveys.marks {path : List Char} {pieces : List Piece} (conveys : Conveys path pieces) (whole : ∀ name, .hole name ∉ pieces) :
    (read (lettersOf (plain path))).filterMap Sign.mark? = ownMarks pieces := by
  rw [conveys.signs, marks_read, marks_lettersOf whole]

end PathReading
