import Xcp.Library.Display

/-! Source of which some strings are filled in while the code around them stays:
the strings read back are the ones that were filled in just where these stand
for themselves. -/

namespace Python.Written
open Python

/-- Lines of text, each with its end. -/
def unlines : List String → String
  | [] => ""
  | line :: rest => line ++ "\n" ++ unlines rest

/-- Strings, each behind the code that is before it. -/
def withStrings : List (String × String) → String
  | [] => ""
  | (code, text) :: rest => code ++ "\"" ++ text ++ "\"" ++ withStrings rest

variable {named : List Char → Option Nat}

/-! ### Lines between three quotes -/

theorem toList_unlines_cons (line : String) (rest : List String) :
    (unlines (line :: rest)).toList = line.toList ++ ['\n'] ++ (unlines rest).toList := by
  rw [unlines, String.toList_append, String.toList_append]
  rfl

theorem unlines_blank {lines rest : List String} (begins : lines = "" :: rest) :
    (unlines lines).toList = '\n' :: (unlines rest).toList := by
  rw [begins, toList_unlines_cons]
  rfl

/-- Lines are inert together just where each of them is. -/
theorem inert_unlines {lines : List String} :
    inert named (unlines lines).toList = true ↔ ∀ line ∈ lines, inert named (line.toList ++ ['\n']) = true := by
  induction lines with
  | nil => exact ⟨fun _ _ member => (List.not_mem_nil member).elim, fun _ => rfl⟩
  | cons line rest ih =>
    rw [toList_unlines_cons, List.forall_mem_cons, ← ih]
    constructor
    · intro quiet
      have here : inert named (line.toList ++ ['\n']) = true := inert_of_append rfl quiet
      rw [inert_append (by decide) here] at quiet
      exact ⟨here, quiet⟩
    · intro ⟨here, later⟩
      rw [inert_append (by decide) here]
      exact later

theorem unlines_last {lines : List String} (inhabited : lines ≠ []) : ∃ text, (unlines lines).toList = text ++ ['\n'] := by
  induction lines with
  | nil => exact absurd rfl inhabited
  | cons line rest ih =>
    rw [toList_unlines_cons]
    cases rest with
    | nil => exact ⟨line.toList, List.append_nil _⟩
    | cons next rest =>
      obtain ⟨text, whole⟩ := ih (List.cons_ne_nil next rest)
      exact ⟨line.toList ++ ['\n'] ++ text, by rw [whole, List.append_assoc _ text]⟩

/-- Letters that are no backslash, no quote and no end of a line. -/
def isPlain (letter : Char) : Bool := letter ≠ '\\' && letter ≠ '"' && !endsLine letter

theorem verbatim_of_plain {text : List Char} (plain : ∀ letter ∈ text, isPlain letter = true) : verbatim text = true := by
  induction text with
  | nil => rfl
  | cons letter rest ih =>
    obtain ⟨here, later⟩ := List.forall_mem_cons.mp plain
    rw [verbatim]
    · rw [Bool.and_eq_true]
      exact ⟨here, ih later⟩
    · rintro next tail rfl
      cases here

theorem verbatim_noQuote {text : List Char} (plain : verbatim text = true) : '"' ∉ text := by
  induction text using verbatim.induct with
  | case1 => exact List.not_mem_nil
  | case2 next rest ih =>
    obtain ⟨keeps, later⟩ := Bool.and_eq_true_iff.mp plain
    have other : next ≠ '"' := by
      rintro rfl
      exact absurd keeps (by decide)
    simp [Ne.symm other, ih later]
  | case3 letter rest other ih =>
    rw [verbatim] at plain
    · obtain ⟨here, later⟩ := Bool.and_eq_true_iff.mp plain
      have quote : letter ≠ '"' := by
        rintro rfl
        cases here
      simp [Ne.symm quote, ih later]
    · exact other

/-- After a text that stands for itself, what follows decides. -/
theorem inert_verbatim_append {text : List Char} (plain : verbatim text = true) (rest : List Char) :
    inert named (text ++ rest) = inert named rest := by
  rcases List.eq_nil_or_concat text with rfl | ⟨before, last, rfl⟩
  · rfl
  · rw [List.concat_eq_append] at plain ⊢
    have noQuote : last ≠ '"' := by
      rintro rfl
      exact verbatim_noQuote plain (by simp)
    exact inert_append noQuote (verbatim_inert plain) rest

theorem verbatim_nat (value : Nat) : verbatim (toString value).toList = true := by
  have digits : (toString value).toList = Nat.toDigits 10 value := by
    simp [toString, Nat.repr]
  rw [digits]
  apply verbatim_of_plain
  intro letter member
  have digit := toDigits_isDigit member
  rw [isPlain, Bool.and_eq_true, Bool.and_eq_true]
  refine ⟨⟨decide_eq_true ?_, decide_eq_true ?_⟩, ?_⟩
  · rintro rfl
    cases digit
  · rintro rfl
    cases digit
  · rw [Bool.not_eq_true', endsLine, Bool.or_eq_false_iff, Bool.or_eq_false_iff, isNull]
    refine ⟨⟨decide_eq_false ?_, decide_eq_false ?_⟩, decide_eq_false ?_⟩
    · rintro rfl
      cases digit
    · rintro rfl
      cases digit
    · rintro rfl
      cases digit

/-- No backslash, and no three quotes. -/
def isQuiet (letters : List Char) : Bool := !letters.contains '\\' && passBlock false letters = some false

theorem inert_of_quiet {letters : List Char} (quiet : isQuiet letters = true) : inert named letters = true := by
  obtain ⟨noBackslash, passes⟩ := Bool.and_eq_true_iff.mp quiet
  have steps : ∀ (text : List Char), '\\' ∉ text → ∀ read,
      advances named (read, .plain) text = some (read ++ codes text, .plain) := by
    intro text absent
    induction text with
    | nil =>
      intro read
      rw [codes, List.map_nil, List.append_nil]
      rfl
    | cons letter rest ih =>
      intro read
      have other : letter ≠ '\\' := fun same => absent (same ▸ List.mem_cons_self ..)
      have step : advance named (read, .plain) letter = some (read ++ [letter.toNat], .plain) := by
        rw [advance, plainStep, if_neg other]
      rw [advances_cons, step, Option.bind_some, ih (fun inside => absent (List.mem_cons_of_mem _ inside)), codes, codes,
        List.map_cons, List.append_assoc]
      rfl
  refine inert_iff.mpr ⟨of_decide_eq_true passes, codes letters, ?_⟩
  apply steps
  intro inside
  rw [List.contains_iff_mem.mpr inside] at noBackslash
  cases noBackslash

/-- A line that is the same in every text. -/
theorem inert_line (letters : List Char) (quiet : isQuiet (letters ++ ['\n']) = true) :
    inert named ((String.ofList letters).toList ++ ['\n']) = true := by
  rw [String.toList_ofList]
  exact inert_of_quiet quiet

/-! ### Strings behind code -/

section Strings
variable (named)

/-- The strings behind the given code. -/
def readStrings : List String → List Char → Option (List (List Nat) × List Char)
  | [], letters => some ([], letters)
  | code :: codes, letters => do
    let rest ← letters.dropPrefix? code.toList
    let (text, rest) ← readLine named rest
    let (texts, rest) ← readStrings codes rest
    return (text :: texts, rest)

end Strings

theorem toList_withStrings_cons (code text : String) (pairs : List (String × String)) (rest : List Char) :
    (withStrings ((code, text) :: pairs)).toList ++ rest =
      code.toList ++ ('"' :: (text.toList ++ '"' :: ((withStrings pairs).toList ++ rest))) := by
  simp [withStrings]

/-- What may stand after a text and its quote: if that quote is escaped, the line has no other. -/
structure Follows (text rest : List Char) : Prop where
  noQuote : rest.head? ≠ some '"'
  ends : passLine false text = some true → scanLine false rest = none

theorem follows_line (text rest : List Char) : Follows text ('\n' :: rest) := ⟨by simp, fun _ => rfl⟩

theorem code_head {code : String} {mark : Char} {tail : List Char} (begins : code.toList = mark :: tail) (string : String)
    (pairs : List (String × String)) (rest : List Char) :
    ((withStrings ((code, string) :: pairs)).toList ++ rest).head? = some mark := by
  rw [toList_withStrings_cons, begins]
  rfl

theorem follows_code {code : String} {tail : List Char} (begins : code.toList = '\n' :: tail) (text : List Char) (string : String)
    (pairs : List (String × String)) (rest : List Char) :
    Follows text ((withStrings ((code, string) :: pairs)).toList ++ rest) := by
  rw [toList_withStrings_cons, begins]
  exact follows_line text _

theorem follows_closed_line (text rest : List Char) : Follows text (')' :: '\n' :: rest) := ⟨by simp, fun _ => rfl⟩

theorem passLine_last {escaped : Bool} {text : List Char} {last : Char} (back : last ≠ '\\') :
    passLine escaped (text ++ [last]) ≠ some true := by
  induction text generalizing escaped with
  | nil =>
    cases escaped <;> simp [passLine, back]
  | cons letter text ih =>
    cases escaped with
    | true =>
      rw [List.cons_append, passLine]
      split
      · simp
      · exact ih
    | false =>
      rw [List.cons_append, passLine]
      split
      · simp
      · exact ih

theorem follows_last {text rest : List Char} {last : Char} (back : last ≠ '\\') (noQuote : rest.head? ≠ some '"') :
    Follows (text ++ [last]) rest := ⟨noQuote, fun escapes => absurd escapes (passLine_last back)⟩

def Closed : List (String × String) → List Char → Prop
  | [], _ => True
  | (_, text) :: pairs, rest => Follows text.toList ((withStrings pairs).toList ++ rest) ∧ Closed pairs rest

theorem readStrings_verbatim {pairs : List (String × String)} {rest : List Char} (closed : Closed pairs rest)
    (plain : ∀ pair ∈ pairs, verbatim pair.2.toList = true) :
    readStrings named (pairs.map Prod.fst) ((withStrings pairs).toList ++ rest) =
      some (pairs.map (fun pair => points pair.2), rest) := by
  induction pairs with
  | nil => rfl
  | cons pair pairs ih =>
    obtain ⟨code, text⟩ := pair
    obtain ⟨here, later⟩ := List.forall_mem_cons.mp plain
    have passed : ∀ letters : List Char, (code.toList ++ letters).dropPrefix? code.toList = some letters :=
      fun letters => List.dropPrefix?_append_of_beq letters (beq_self_eq_true _)
    rw [toList_withStrings_cons, List.map_cons, readStrings, passed]
    simp only [Option.bind_eq_bind, Option.bind_some, readLine_verbatim here closed.1.noQuote, ih closed.2 later]
    rfl

/-- A string that is read as one of its length, or that stands for itself anyway, is read as itself. -/
theorem readStrings_inv {pairs : List (String × String)} {rest after : List Char} {texts : List (List Nat)}
    (closed : Closed pairs rest)
    (fits : List.Forall₂ (fun text pair => text.length = pair.2.toList.length ∨ verbatim pair.2.toList = true) texts pairs)
    (read : readStrings named (pairs.map Prod.fst) ((withStrings pairs).toList ++ rest) = some (texts, after)) :
    (∀ pair ∈ pairs, verbatim pair.2.toList = true) ∧ texts = pairs.map (fun pair => points pair.2) ∧ after = rest := by
  induction fits generalizing after with
  | nil =>
    cases read
    exact ⟨fun _ member => (List.not_mem_nil member).elim, rfl, rfl⟩
  | @cons expected pair texts pairs fit fits ih =>
    obtain ⟨code, text⟩ := pair
    have passed : ∀ letters : List Char, (code.toList ++ letters).dropPrefix? code.toList = some letters :=
      fun letters => List.dropPrefix?_append_of_beq letters (beq_self_eq_true _)
    rw [toList_withStrings_cons, List.map_cons, readStrings, passed, Option.bind_eq_bind, Option.bind_some] at read
    obtain ⟨⟨first, middle⟩, line, more⟩ := Option.bind_eq_some_iff.mp read
    obtain ⟨⟨others, last⟩, later, whole⟩ := Option.bind_eq_some_iff.mp more
    obtain ⟨same, rfl⟩ := Prod.mk.inj (Option.some.inj whole)
    obtain ⟨rfl, rfl⟩ := List.cons.inj same
    have plain : verbatim text.toList = true := by
      rcases fit with long | plain
      · exact (verbatim_of_readLine closed.1.ends long line).1
      · exact plain
    rw [readLine_verbatim plain closed.1.noQuote] at line
    obtain ⟨rfl, rfl⟩ := Prod.mk.inj (Option.some.inj line)
    obtain ⟨plains, rfl, rfl⟩ := ih closed.2 later
    exact ⟨List.forall_mem_cons.mpr ⟨plain, plains⟩, rfl, rfl⟩

end Python.Written
