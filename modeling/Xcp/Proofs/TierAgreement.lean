import Xcp.Federation.Tier
import Xcp.Library.Digits
import Xcp.Sdk.Go
import Xcp.Sdk.TypeScript

/-! Cells of the lattice in three languages. What is a space and what is a digit
differs between them, and one of them has no way to refuse a comparison. -/

namespace Xcp.TierAgreement
open Spaces
open Python (Exception Host Raises isAscii lowerAscii lowerLetter stripBy upperAscii upperLetter)

/-! ### Case -/

/-- Letters of ASCII have the small letters of ASCII. Any other letter has a small one
outside of ASCII, the sign for kelvin and the dotted I apart. -/
structure Lowers (lower : String → String) : Prop where
  ascii : ∀ text, isAscii text = true → lower text = lowerAscii text
  other : ∀ text, isAscii text = false → ∃ letter ∈ (lower text).toList, 128 ≤ letter.toNat ∨ letter = 'i' ∨ letter = 'k'

def Uppers [Host] : Prop := ∀ text, isAscii text = true → Python.upper text = upperAscii text

/-- What the languages document of case. -/
structure Cases [Host] [JavaScript.Unicode] [Go.Unicode] : Prop where
  python : Uppers
  javaScript : Lowers JavaScript.Unicode.toLowerCase
  go : Lowers Go.Unicode.toLower

/-! ### Cells -/

def legLetter (leg : Fin 3) : Char := Char.ofNat (48 + leg)

/-- A cell in letters of any case. -/
def Spells (text : String) (agent human : Fin 3) : Prop :=
  text.toList.map lowerLetter = ['a', legLetter agent, 'x', 'h', legLetter human]

instance (text : String) (agent human : Fin 3) : Decidable (Spells text agent human) :=
  inferInstanceAs (Decidable (_ = _))

/-- A cell, in any case and between spaces that all three languages know. -/
def Cell (text : String) : Prop := ∃ agent human, Spells (core text) agent human

def canonical (agent human : Fin 3) : String :=
  "A" ++ String.singleton (legLetter agent) ++ "xH" ++ String.singleton (legLetter human)

theorem lowerLetter_printed {letter : Char} (printed : 33 ≤ (lowerLetter letter).toNat ∧ (lowerLetter letter).toNat ≤ 126) :
    33 ≤ letter.toNat ∧ letter.toNat ≤ 126 := by
  unfold lowerLetter at printed
  split at printed
  · omega
  · exact printed

theorem upperLetter_lowerLetter (letter : Char) : upperLetter (lowerLetter letter) = upperLetter letter := by
  by_cases upper : 65 ≤ letter.toNat ∧ letter.toNat ≤ 90
  · have codes : ∀ code < 91, 65 ≤ code → upperLetter (Char.ofNat (code + 32)) = Char.ofNat code := by decide
    rw [lowerLetter, if_pos upper, codes letter.toNat (by omega) upper.1, upperLetter, if_neg (by omega), Char.ofNat_toNat]
  · rw [lowerLetter, if_neg upper]

theorem legLetter_printed : ∀ leg, 33 ≤ (legLetter leg).toNat ∧ (legLetter leg).toNat ≤ 126 := by decide

section Spelled
variable {text : String} {agent human : Fin 3}

theorem Spells.printed (spells : Spells text agent human) :
    ∀ letter ∈ text.toList, 33 ≤ letter.toNat ∧ letter.toNat ≤ 126 := by
  intro letter member
  apply lowerLetter_printed
  have image : lowerLetter letter ∈ ['a', legLetter agent, 'x', 'h', legLetter human] := by
    rw [← spells]
    exact List.mem_map_of_mem member
  simp only [List.mem_cons, List.not_mem_nil, or_false] at image
  obtain same | same | same | same | same := image
  all_goals rw [same]
  · decide
  · exact legLetter_printed agent
  · decide
  · decide
  · exact legLetter_printed human

theorem Spells.ascii (spells : Spells text agent human) : isAscii text = true := by
  rw [isAscii, List.all_eq_true]
  intro letter member
  have printed := spells.printed letter member
  rw [decide_eq_true_iff]
  omega

theorem Spells.lowered (spells : Spells text agent human) {lower : String → String} (lowers : Lowers lower) :
    (lower text).toList = ['a', legLetter agent, 'x', 'h', legLetter human] := by
  rw [lowers.ascii text spells.ascii, lowerAscii, String.toList_ofList]
  exact spells

theorem Spells.uppered (spells : Spells text agent human) :
    (upperAscii text).toList = ['A', legLetter agent, 'X', 'H', legLetter human] := by
  have capital : ∀ leg, upperLetter (legLetter leg) = legLetter leg := by decide
  have same : text.toList.map upperLetter = (text.toList.map lowerLetter).map upperLetter := by
    rw [List.map_map]
    exact List.map_congr_left (fun letter _ => (upperLetter_lowerLetter letter).symm)
  rw [upperAscii, String.toList_ofList, same, spells]
  simp only [List.map_cons, List.map_nil, capital]
  rfl

end Spelled

/-! ### What reads a cell has found one -/

theorem isLeg_iff (letter : Char) : TypeScript.isLeg letter = true ↔ ∃ leg, letter = legLetter leg := by
  constructor
  · intro digit
    obtain ⟨low, high⟩ : 48 ≤ letter.toNat ∧ letter.toNat ≤ 50 := by simpa [TypeScript.isLeg] using digit
    refine ⟨⟨letter.toNat - 48, by omega⟩, ?_⟩
    have code : 48 + (letter.toNat - 48) = letter.toNat := by omega
    rw [legLetter, code, Char.ofNat_toNat]
  · rintro ⟨leg, rfl⟩
    revert leg
    decide

theorem goSdk_cell? (text : String) : GoSdk.cell? text = TypeScript.cell? text := rfl

theorem cell?_some {text : String} {pair : Char × Char} (found : TypeScript.cell? text = some pair) :
    ∃ agent human, text.toList = ['a', legLetter agent, 'x', 'h', legLetter human] := by
  unfold TypeScript.cell? at found
  split at found
  next agent human letters =>
    split at found
    next legs =>
      rw [Bool.and_eq_true, isLeg_iff, isLeg_iff] at legs
      obtain ⟨⟨agent, rfl⟩, human, rfl⟩ := legs
      exact ⟨agent, human, letters⟩
    · cases found
  · cases found

theorem cell?_of_letters {text : String} {agent human : Fin 3}
    (letters : text.toList = ['a', legLetter agent, 'x', 'h', legLetter human]) :
    TypeScript.cell? text = some (legLetter agent, legLetter human) := by
  have legs (leg : Fin 3) : TypeScript.isLeg (legLetter leg) = true := (isLeg_iff _).mpr ⟨leg, rfl⟩
  rw [TypeScript.cell?, letters]
  simp [legs]

/-- No letter outside of ASCII becomes one of a cell. -/
theorem spells_of_cell? {lower : String → String} (lowers : Lowers lower) {text : String} {pair : Char × Char}
    (found : TypeScript.cell? (lower text) = some pair) : ∃ agent human, Spells text agent human := by
  obtain ⟨agent, human, letters⟩ := cell?_some found
  cases ascii : isAscii text with
  | true =>
    rw [lowers.ascii text ascii, lowerAscii, String.toList_ofList] at letters
    exact ⟨agent, human, letters⟩
  | false =>
    obtain ⟨letter, member, strange⟩ := lowers.other text ascii
    have plain : ∀ leg, ¬ (128 ≤ (legLetter leg).toNat ∨ legLetter leg = 'i' ∨ legLetter leg = 'k') := by decide
    rw [letters] at member
    simp only [List.mem_cons, List.not_mem_nil, or_false] at member
    obtain rfl | rfl | rfl | rfl | rfl := member
    · exact absurd strange (by decide)
    · exact absurd strange (plain agent)
    · exact absurd strange (by decide)
    · exact absurd strange (by decide)
    · exact absurd strange (plain human)

/-- The two languages that read with a pattern. -/
def ported : Bool → Language
  | false => .javaScript
  | true => .go

section Read
variable [Host] [JavaScript.Unicode] [Go.Unicode] (cases : Cases)
include cases

theorem typeScript_spells {text answer : String} (read : TypeScript.canonicalTier text = .ok answer) :
    ∃ agent human, Spells (trim .javaScript text) agent human := by
  unfold TypeScript.canonicalTier at read
  split at read
  next agent human found => exact spells_of_cell? cases.javaScript found
  · cases read

theorem goSdk_spells {text answer : String} (read : GoSdk.canonicalTier text = .ok answer) :
    ∃ agent human, Spells (trim .go text) agent human := by
  unfold GoSdk.canonicalTier at read
  split at read
  next agent human found => exact spells_of_cell? cases.go found
  · cases read

/-- What two of the languages read, all three read. -/
theorem cell_of_read {text answer answer' : String} (typeScript : TypeScript.canonicalTier text = .ok answer)
    (goSdk : GoSdk.canonicalTier text = .ok answer') : Cell text := by
  have common (letter : Char) : isCommonSpace letter = true ↔ ∀ index, isSpace (ported index) letter = true := by
    simp only [Bool.forall_bool, ported, isSpace, isCommonSpace, JavaScript.isSpace, Go.isSpace, Bool.or_eq_true,
      Bool.and_eq_true, decide_eq_true_iff]
    omega
  have spelled (index : Bool) : ∃ agent human, Spells (trim (ported index) text) agent human := by
    cases index with
    | false => exact typeScript_spells cases typeScript
    | true => exact goSdk_spells cases goSdk
  have settled : Strip.Settled (fun index => isSpace (ported index)) isCommonSpace text.toList := by
    by_contra disputed
    obtain ⟨letter, index, other, dropped, kept, ends⟩ := Strip.disputed_of_not_settled common disputed
    obtain ⟨agent, human, spells⟩ := spelled other
    have member : letter ∈ (trim (ported other) text).toList := by
      rw [toList_trim]
      obtain ⟨rest, left⟩ | ⟨rest, left⟩ := ends <;> simp [left]
    rw [isSpace_printed (spells.printed letter member)] at dropped
    cases dropped
  obtain ⟨agent, human, spells⟩ := spelled false
  rw [trim, Strip.stripBy_of_settled common settled] at spells
  exact ⟨agent, human, spells⟩

end Read

/-! ### What the three make of a cell -/

theorem trim_cell {text : String} {agent human : Fin 3} (spells : Spells (core text) agent human) (language : Language) :
    trim language text = core text := trim_of_printed spells.printed language

section Made
variable [Host] {text : String} {agent human : Fin 3} (spells : Spells (core text) agent human)
include spells

theorem delegation_parseTier (uppers : Uppers) :
    Delegation.parseTier text = .ok { agent := (agent : Int), human := (human : Int) } := by
  have stripped : Python.strip text = core text := trim_cell spells .python
  have digits : ∀ leg : Fin 3, Python.isDigit (String.singleton (legLetter leg)) = true := by decide
  have values : ∀ leg : Fin 3, Python.intOfText (String.singleton (legLetter leg)) = .ok (leg : Int) := by decide
  have range : 0 ≤ (agent : Int) ∧ (agent : Int) ≤ 2 ∧ 0 ≤ (human : Int) ∧ (human : Int) ≤ 2 := by omega
  unfold Delegation.parseTier
  rw [stripped, uppers _ spells.ascii, spells.uppered]
  simp only [digits, values, Bool.and_self, if_true]
  exact if_pos range

variable [JavaScript.Unicode] [Go.Unicode] (cases : Cases)
include cases

theorem typeScript_canonicalTier : TypeScript.canonicalTier text = .ok (canonical agent human) := by
  have trimmed : JavaScript.trim text = core text := trim_cell spells .javaScript
  unfold TypeScript.canonicalTier
  rw [trimmed, cell?_of_letters (spells.lowered cases.javaScript)]
  rfl

theorem goSdk_canonicalTier : GoSdk.canonicalTier text = .ok (canonical agent human) := by
  have trimmed : Go.trimSpace text = core text := trim_cell spells .go
  unfold GoSdk.canonicalTier
  rw [trimmed, goSdk_cell?, cell?_of_letters (spells.lowered cases.go)]
  rfl

theorem typeScript_parseTier : TypeScript.parseTier text = .ok ((agent : Nat), (human : Nat)) := by
  have legs : ∀ agent human : Fin 3, (TypeScript.leg ((canonical agent human).toList.getD 1 ' '),
      TypeScript.leg ((canonical agent human).toList.getD 4 ' ')) = ((agent : Nat), (human : Nat)) := by decide
  unfold TypeScript.parseTier
  rw [typeScript_canonicalTier spells cases]
  exact congrArg Except.ok (legs agent human)

theorem goSdk_parseTier : GoSdk.parseTier text = .ok ((agent : Int), (human : Int)) := by
  have legs : ∀ agent human : Fin 3, (((canonical agent human).toList.getD 1 ' ').toNat - '0'.toNat : Int) = agent ∧
      (((canonical agent human).toList.getD 4 ' ').toNat - '0'.toNat : Int) = human := by decide
  unfold GoSdk.parseTier
  rw [goSdk_canonicalTier spells cases]
  exact congrArg Except.ok (Prod.ext (legs agent human).1 (legs agent human).2)

end Made

/-- The three write a cell the same way. -/
theorem formats : ∀ agent human : Fin 3, canonical agent human = Delegation.formatTier ⟨(agent : Int), (human : Int)⟩ ∧
    canonical agent human = TypeScript.formatTier agent human ∧ canonical agent human = GoSdk.formatTier agent human := by
  decide

/-! ### One arithmetic -/

/-- One answer of all three, or three refusals of which Python's is the package's own. -/
inductive Same {α : Type} : Raises α → Except String α → Except String α → Prop
  | answer (value : α) : Same (.ok value) (.ok value) (.ok value)
  | refused {exception : Exception} {second third : String} (own : exception.kind = .package "DelegationError") :
      Same (.error exception) (.error second) (.error third)

section Arithmetic
variable [Host] [JavaScript.Unicode] [Go.Unicode]

/-- The three agree on two strings. Go's comparison has an answer for every pair. -/
structure OneTier (asserted effective : String) : Prop where
  first : Same (Delegation.canonicalTier asserted) (TypeScript.canonicalTier asserted) (GoSdk.canonicalTier asserted)
  second : Same (Delegation.canonicalTier effective) (TypeScript.canonicalTier effective) (GoSdk.canonicalTier effective)
  narrow : Same (Delegation.narrowTier asserted effective) (TypeScript.narrowTier asserted effective)
    (GoSdk.narrowTier asserted effective)
  compared : Same (Delegation.widens asserted effective) (TypeScript.widens asserted effective)
    (.ok (GoSdk.widens asserted effective))

omit [Host] [Go.Unicode] in
theorem canonicalTier_of_widens {asserted effective : String} {answer : Bool}
    (compared : TypeScript.widens asserted effective = .ok answer) :
    (∃ cell, TypeScript.canonicalTier asserted = .ok cell) ∧ ∃ cell, TypeScript.canonicalTier effective = .ok cell := by
  unfold TypeScript.widens TypeScript.parseTier at compared
  cases first : TypeScript.canonicalTier asserted with
  | error message =>
    rw [first] at compared
    cases compared
  | ok cell =>
    cases second : TypeScript.canonicalTier effective with
    | error message =>
      rw [first, second] at compared
      cases compared
    | ok cell' => exact ⟨⟨cell, rfl⟩, cell', rfl⟩

variable (cases : Cases)
include cases

theorem cell_of_same {text cell : String}
    (same : Same (Delegation.canonicalTier text) (TypeScript.canonicalTier text) (GoSdk.canonicalTier text))
    (read : TypeScript.canonicalTier text = .ok cell) : Cell text := by
  generalize python : Delegation.canonicalTier text = first at same
  generalize goSdk : GoSdk.canonicalTier text = third at same
  rw [read] at same
  obtain ⟨⟩ | _ := same
  exact cell_of_read cases read goSdk

theorem canonical_same {text : String} {agent human : Fin 3} (spells : Spells (core text) agent human) :
    Same (Delegation.canonicalTier text) (TypeScript.canonicalTier text) (GoSdk.canonicalTier text) := by
  have python : Delegation.canonicalTier text = .ok (canonical agent human) := by
    rw [Delegation.canonicalTier, delegation_parseTier spells cases.python, (formats agent human).1]
    rfl
  rw [python, typeScript_canonicalTier spells cases, goSdk_canonicalTier spells cases]
  exact .answer _

section Two
variable {asserted effective : String} {agent human agent' human' : Fin 3} (first : Spells (core asserted) agent human)
  (second : Spells (core effective) agent' human')
include first second

theorem narrow_same : Same (Delegation.narrowTier asserted effective) (TypeScript.narrowTier asserted effective)
    (GoSdk.narrowTier asserted effective) := by
  have naturals : ∀ a b : Fin 3, ((min a b : Fin 3) : Nat) = min (a : Nat) b := by decide
  have integers : ∀ a b : Fin 3, ((min a b : Fin 3) : Int) = min (a : Int) b := by decide
  obtain ⟨python, typeScript, goSdk⟩ := formats (min agent agent') (min human human')
  have one : Delegation.narrowTier asserted effective = .ok (canonical (min agent agent') (min human human')) := by
    rw [Delegation.narrowTier, delegation_parseTier first cases.python, delegation_parseTier second cases.python, python, integers, integers]
    rfl
  have two : TypeScript.narrowTier asserted effective = .ok (canonical (min agent agent') (min human human')) := by
    rw [TypeScript.narrowTier, typeScript_parseTier first cases, typeScript_parseTier second cases, typeScript, naturals,
      naturals]
    rfl
  have three : GoSdk.narrowTier asserted effective = .ok (canonical (min agent agent') (min human human')) := by
    rw [GoSdk.narrowTier, goSdk_parseTier first cases, goSdk_parseTier second cases, goSdk, integers, integers]
    rfl
  rw [one, two, three]
  exact .answer _

theorem widens_same : Same (Delegation.widens asserted effective) (TypeScript.widens asserted effective)
    (.ok (GoSdk.widens asserted effective)) := by
  have naturals : ∀ a b : Fin 3, decide (a < b) = decide ((a : Nat) < b) := by decide
  have integers : ∀ a b : Fin 3, decide (a < b) = decide ((a : Int) < b) := by decide
  have python : Delegation.widens asserted effective = .ok (agent < agent' || human < human') := by
    rw [Delegation.widens, delegation_parseTier first cases.python, delegation_parseTier second cases.python, integers, integers]
    rfl
  have typeScript : TypeScript.widens asserted effective = .ok (agent < agent' || human < human') := by
    rw [TypeScript.widens, typeScript_parseTier first cases, typeScript_parseTier second cases, naturals, naturals]
    rfl
  have goSdk : GoSdk.widens asserted effective = (agent < agent' || human < human') := by
    rw [GoSdk.widens, goSdk_parseTier first cases, goSdk_parseTier second cases, integers, integers]
  rw [python, typeScript, goSdk]
  exact .answer _

end Two

/-- The three have one arithmetic of tiers exactly where both strings are cells in
every language. -/
theorem one_tier_iff (asserted effective : String) : OneTier asserted effective ↔ Cell asserted ∧ Cell effective := by
  constructor
  · intro one
    have compared := one.compared
    generalize Delegation.widens asserted effective = python at compared
    generalize typeScript : TypeScript.widens asserted effective = answer at compared
    obtain ⟨⟩ | _ := compared
    obtain ⟨⟨cell, first⟩, cell', second⟩ := canonicalTier_of_widens typeScript
    exact ⟨cell_of_same cases one.first first, cell_of_same cases one.second second⟩
  · intro ⟨⟨agent, human, first⟩, agent', human', second⟩
    exact {
      first := canonical_same cases first
      second := canonical_same cases second
      narrow := narrow_same cases first second
      compared := widens_same cases first second }

end Arithmetic

/-! ### Runs -/

local instance : Host := Python.asciiHost []

local instance : JavaScript.Unicode where
  toLowerCase := lowerAscii

local instance : Go.Unicode where
  toLower := lowerAscii
  quote := fun text => "\"" ++ text ++ "\""

theorem lowers_lowerAscii : Lowers lowerAscii where
  ascii := fun _ _ => rfl
  other := by
    intro text strange
    obtain ⟨letter, member, large⟩ : ∃ letter ∈ text.toList, 128 ≤ letter.toNat := by
      simpa [isAscii] using strange
    refine ⟨letter, ?_, .inl large⟩
    have same : lowerLetter letter = letter := if_neg (by omega)
    rw [lowerAscii, String.toList_ofList]
    exact List.mem_map.mpr ⟨letter, member, same⟩

theorem ascii_cases : Cases where
  python := fun _ _ => rfl
  javaScript := lowers_lowerAscii
  go := lowers_lowerAscii

theorem one_tier_iff_cells : OneTier " a2xH1" "A1xh2" := by
  refine (one_tier_iff ascii_cases " a2xH1" "A1xh2").mpr ⟨⟨2, 1, ?_⟩, 1, 2, ?_⟩
  · decide
  · decide

/-- To Go, what is no cell widens nothing. -/
theorem malformed_passes : ¬ OneTier "owner" "A0xH0" := by
  intro one
  have refused : TypeScript.widens "owner" "A0xH0" = .error "not a lattice cell: \"owner\"" := by decide
  have compared := one.compared
  rw [refused] at compared
  cases compared

end Xcp.TierAgreement
