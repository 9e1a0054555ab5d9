import Mathlib.Algebra.Order.BigOperators.Group.List
import Mathlib.Algebra.Order.Ring.Nat
import Mathlib.Data.List.Infix
import Mathlib.Data.List.TakeWhile

/-! Replacing a word wherever it occurs in a text, from the left. Where the word does
not overlap itself, what lies between some of its occurrences is replaced on its own. -/

namespace Replace

variable {α : Type} [DecidableEq α]

/-- A text with its occurrences of a word marked, after a number of letters that are passed over. -/
def scanFrom (word : List α) : Nat → List α → List (Option α)
  | _, [] => []
  | skip + 1, _ :: rest => scanFrom word skip rest
  | 0, letter :: rest =>
    if word.isPrefixOf (letter :: rest) then none :: scanFrom word (word.length - 1) rest
    else some letter :: scanFrom word 0 rest

def scan (word text : List α) : List (Option α) := scanFrom word 0 text

/-- What stands at a mark or a letter. -/
def written (new : List α) (items : List (Option α)) : List α := items.flatMap (fun item => item.elim new (fun letter => [letter]))

/-- `text.replace(word, new)`. -/
def replace (word new text : List α) : List α := written new (scan word text)

/-- `text.count(word)`. -/
def occurrences (word text : List α) : Nat := (scan word text).count none

/-! ### Scanning -/

variable {word : List α}

theorem scanFrom_eq (skip : Nat) (text : List α) : scanFrom word skip text = scan word (text.drop skip) := by
  induction text generalizing skip with
  | nil => simp [scanFrom, scan]
  | cons letter rest ih =>
    cases skip with
    | zero => rfl
    | succ skip => exact ih skip

theorem scan_word (filled : word ≠ []) (rest : List α) : scan word (word ++ rest) = none :: scan word rest := by
  cases word with
  | nil => exact (filled rfl).elim
  | cons letter others =>
    have front : (letter :: others).isPrefixOf (letter :: (others ++ rest)) = true :=
      List.isPrefixOf_iff_prefix.mpr (List.prefix_append (letter :: others) rest)
    rw [List.cons_append, scan, scanFrom, if_pos front, scanFrom_eq]
    simp

theorem scan_letter {letter : α} {rest : List α} (absent : ¬ word <+: letter :: rest) :
    scan word (letter :: rest) = some letter :: scan word rest := by
  rw [scan, scanFrom, if_neg (fun front => absent (List.isPrefixOf_iff_prefix.mp front))]
  rfl

/-- A text is empty, begins with the word, or begins with a letter where the word does not. -/
theorem scan_induction (filled : word ≠ []) {motive : List α → Prop} (empty : motive [])
    (found : ∀ rest, motive rest → motive (word ++ rest))
    (letter : ∀ letter rest, ¬ word <+: letter :: rest → motive rest → motive (letter :: rest)) (text : List α) : motive text := by
  induction length : text.length using Nat.strong_induction_on generalizing text with
  | _ length ih =>
    subst length
    match text with
    | [] => exact empty
    | first :: rest =>
      by_cases front : word <+: first :: rest
      · obtain ⟨others, same⟩ := front
        have shorter : others.length < (first :: rest).length := by
          have positive := List.length_pos_iff.mpr filled
          rw [← same, List.length_append]
          omega
        rw [← same]
        exact found others (ih _ shorter others rfl)
      · exact letter first rest front (ih _ (by simp) rest rfl)

theorem replace_word (filled : word ≠ []) (new rest : List α) : replace word new (word ++ rest) = new ++ replace word new rest := by
  rw [replace, scan_word filled]
  rfl

theorem replace_letter {letter : α} {rest : List α} (absent : ¬ word <+: letter :: rest) (new : List α) :
    replace word new (letter :: rest) = letter :: replace word new rest := by
  rw [replace, scan_letter absent]
  rfl

theorem occurrences_word (filled : word ≠ []) (rest : List α) : occurrences word (word ++ rest) = occurrences word rest + 1 := by
  rw [occurrences, scan_word filled, List.count_cons_self]
  rfl

theorem occurrences_letter {letter : α} {rest : List α} (absent : ¬ word <+: letter :: rest) :
    occurrences word (letter :: rest) = occurrences word rest := by
  rw [occurrences, scan_letter absent, List.count_cons_of_ne (Option.some_ne_none letter)]
  rfl

/-- The word put back where it was found. -/
theorem replace_self (filled : word ≠ []) (text : List α) : replace word word text = text := by
  induction text using scan_induction filled with
  | empty => rfl
  | found rest ih => rw [replace_word filled, ih]
  | letter letter rest absent ih => rw [replace_letter absent, ih]

/-- A word occurs if it is found. -/
theorem infix_iff (filled : word ≠ []) (text : List α) : word <:+: text ↔ occurrences word text ≠ 0 := by
  induction text using scan_induction filled with
  | empty => simp [occurrences, scan, scanFrom, filled]
  | found rest ih =>
    rw [occurrences_word filled]
    exact iff_of_true (List.prefix_append word rest).isInfix (Nat.succ_ne_zero _)
  | letter letter rest absent ih => rw [List.infix_cons_iff, ih, occurrences_letter absent, or_iff_right absent]

theorem replace_of_absent (filled : word ≠ []) {text : List α} (absent : occurrences word text = 0) (new : List α) :
    replace word new text = text := by
  induction text using scan_induction filled with
  | empty => rfl
  | found rest ih =>
    rw [occurrences_word filled] at absent
    cases absent
  | letter letter rest front ih =>
    rw [occurrences_letter front] at absent
    rw [replace_letter front, ih absent]

theorem length_replace (filled : word ≠ []) (new text : List α) :
    (replace word new text).length + occurrences word text * word.length = text.length + occurrences word text * new.length := by
  induction text using scan_induction filled with
  | empty => simp [replace, occurrences, scan, scanFrom, written]
  | found rest ih =>
    rw [replace_word filled, occurrences_word filled, List.length_append, List.length_append, Nat.succ_mul, Nat.succ_mul]
    omega
  | letter letter rest absent ih =>
    rw [replace_letter absent, occurrences_letter absent, List.length_cons, List.length_cons]
    omega

/-- What is put in place of a word that occurs is that word, if the text stays. -/
theorem eq_of_replace_eq (filled : word ≠ []) {new text : List α} (lengths : new.length = word.length)
    (same : replace word new text = text) (found : occurrences word text ≠ 0) : new = word := by
  induction text using scan_induction filled with
  | empty => exact (found rfl).elim
  | found rest ih =>
    rw [replace_word filled] at same
    exact (List.append_inj same lengths).1
  | letter letter rest absent ih =>
    rw [replace_letter absent, List.cons.injEq] at same
    rw [occurrences_letter absent] at found
    exact ih same.2 found

/-! ### Texts around occurrences of the word -/

/-- No end of the word is a beginning of it. -/
def Unbordered (word : List α) : Prop := ∀ front back, front ≠ [] → back ≠ [] → word = front ++ back → ¬ back <+: word

omit [DecidableEq α] in
/-- It is enough that the word has its first letter nowhere else. -/
theorem unbordered_of_head {letter : α} {rest : List α} (once : letter ∉ rest) : Unbordered (letter :: rest) := by
  intro front back some more split again
  cases front with
  | nil => exact some rfl
  | cons first front =>
    cases back with
    | nil => exact more rfl
    | cons second back =>
      obtain ⟨rfl, -⟩ := List.cons_prefix_cons.mp again
      rw [List.cons_append, List.cons.injEq] at split
      apply once
      rw [split.2]
      exact List.mem_append_right front List.mem_cons_self

omit [DecidableEq α] in
/-- A word that does not begin a text does not begin in it and end in the word after it. -/
theorem not_prefix_append (unbordered : Unbordered word) {text : List α} (some : text ≠ []) (absent : ¬ word <+: text) (rest : List α) :
    ¬ word <+: text ++ (word ++ rest) := by
  intro front
  rcases Nat.lt_or_ge text.length word.length with longer | shorter
  · obtain ⟨back, split⟩ := List.prefix_of_prefix_length_le (List.prefix_append text (word ++ rest)) front longer.le
    have more : back ≠ [] := by
      intro empty
      rw [← split, empty, List.append_nil] at longer
      exact longer.false
    apply unbordered text back some more split.symm
    nth_rewrite 1 [← split] at front
    have inside := (List.prefix_append_right_inj text).mp front
    refine List.prefix_of_prefix_length_le inside (List.prefix_append word rest) ?_
    rw [← split, List.length_append]
    omega
  · exact absent (List.prefix_of_prefix_length_le front (List.prefix_append text _) shorter)

/-- Then the word is found wherever it was put in. -/
theorem scan_append_word (filled : word ≠ []) (unbordered : Unbordered word) (text rest : List α) :
    scan word (text ++ (word ++ rest)) = scan word text ++ none :: scan word rest := by
  induction text using scan_induction filled with
  | empty => exact scan_word filled rest
  | found text ih => rw [List.append_assoc, scan_word filled, scan_word filled, ih, List.cons_append]
  | letter letter text absent ih =>
    have still : ¬ word <+: letter :: (text ++ (word ++ rest)) :=
      not_prefix_append unbordered (List.cons_ne_nil letter text) absent rest
    rw [List.cons_append, scan_letter still, scan_letter absent, ih, List.cons_append]

theorem replace_append_word (filled : word ≠ []) (unbordered : Unbordered word) (new text rest : List α) :
    replace word new (text ++ (word ++ rest)) = replace word new text ++ (new ++ replace word new rest) := by
  rw [replace, scan_append_word filled unbordered, written, List.flatMap_append, List.flatMap_cons]
  rfl

theorem occurrences_append_word (filled : word ≠ []) (unbordered : Unbordered word) (text rest : List α) :
    occurrences word (text ++ (word ++ rest)) = occurrences word text + (occurrences word rest + 1) := by
  rw [occurrences, scan_append_word filled unbordered, List.count_append, List.count_cons_self]
  rfl

/-- Texts with something between them. -/
def spliced (between : List α) (first : List α) : List (List α) → List α
  | [] => first
  | next :: rest => first ++ (between ++ spliced between next rest)

/-- Then what is between the occurrences is replaced on its own. -/
theorem replace_spliced (filled : word ≠ []) {first : List α} {rest : List (List α)} (unbordered : rest ≠ [] → Unbordered word)
    (new : List α) :
    replace word new (spliced word first rest) = spliced new (replace word new first) (rest.map (replace word new)) := by
  induction rest generalizing first with
  | nil => rfl
  | cons next rest ih =>
    have solid := unbordered (List.cons_ne_nil next rest)
    rw [List.map_cons, spliced, spliced, replace_append_word filled solid, ih (fun _ => solid)]

theorem occurrences_spliced (filled : word ≠ []) {first : List α} {rest : List (List α)}
    (unbordered : rest ≠ [] → Unbordered word) :
    occurrences word (spliced word first rest) = rest.length + (occurrences word first + (rest.map (occurrences word)).sum) := by
  induction rest generalizing first with
  | nil => simp [spliced]
  | cons next rest ih =>
    have solid := unbordered (List.cons_ne_nil next rest)
    rw [List.map_cons, List.sum_cons, List.length_cons, spliced, occurrences_append_word filled solid, ih (fun _ => solid)]
    omega

omit [DecidableEq α] in
theorem length_spliced (between first : List α) (rest : List (List α)) :
    (spliced between first rest).length = rest.length * between.length + (first.length + (rest.map List.length).sum) := by
  induction rest generalizing first with
  | nil => simp [spliced]
  | cons next rest ih =>
    rw [spliced, List.length_append, List.length_append, ih, List.length_cons, List.map_cons, List.sum_cons, Nat.succ_mul]
    omega

omit [DecidableEq α] in
/-- Texts with the same between them are the same if the lengths of their parts are. -/
theorem spliced_inj {between first first' : List α} {rest rest' : List (List α)} (lengths : first.length = first'.length)
    (later : List.Forall₂ (fun part part' => part.length = part'.length) rest rest')
    (same : spliced between first rest = spliced between first' rest') : first = first' ∧ rest = rest' := by
  induction later generalizing first first' with
  | nil => exact ⟨same, rfl⟩
  | cons here _ ih =>
    rw [spliced, spliced] at same
    obtain ⟨rfl, tails⟩ := List.append_inj same lengths
    obtain ⟨rfl, rfl⟩ := ih here (List.append_cancel_left tails)
    exact ⟨rfl, rfl⟩

/-- How often the word occurs in the parts. -/
def within (word first : List α) (rest : List (List α)) : Nat := occurrences word first + (rest.map (occurrences word)).sum

theorem within_eq_zero_iff {first : List α} {rest : List (List α)} :
    within word first rest = 0 ↔ occurrences word first = 0 ∧ ∀ part ∈ rest, occurrences word part = 0 := by
  rw [within, Nat.add_eq_zero_iff, List.sum_eq_zero_iff, List.forall_mem_map]

theorem lengths_replaced (filled : word ≠ []) (new : List α) (rest : List (List α)) :
    ((rest.map (replace word new)).map List.length).sum + (rest.map (occurrences word)).sum * word.length =
      (rest.map List.length).sum + (rest.map (occurrences word)).sum * new.length := by
  induction rest with
  | nil => simp
  | cons part rest ih =>
    have here := length_replace filled new part
    simp only [List.map_cons, List.sum_cons, Nat.add_mul]
    omega

/-- What replacing changes in the parts, if it puts in something as long as the word. -/
theorem within_eq_zero_of_inj (filled : word ≠ []) {new first : List α} {rest : List (List α)} (lengths : new.length = word.length)
    (same : spliced new (replace word new first) (rest.map (replace word new)) = spliced new first rest) (other : new ≠ word) :
    within word first rest = 0 := by
  have kept : ∀ part : List α, (replace word new part).length = part.length := by
    intro part
    have here := length_replace filled new part
    rw [lengths] at here
    omega
  have later : List.Forall₂ (fun part part' => part.length = part'.length) (rest.map (replace word new)) rest := by
    rw [List.forall₂_map_left_iff, List.forall₂_same]
    exact fun part _ => kept part
  obtain ⟨here, others⟩ := spliced_inj (kept first) later same
  have absent : ∀ part : List α, replace word new part = part → occurrences word part = 0 := by
    intro part alike
    by_contra found
    exact other (eq_of_replace_eq filled lengths alike found)
  rw [within_eq_zero_iff]
  refine ⟨absent first here, fun part member => absent part ?_⟩
  have whole : rest.map (replace word new) = rest.map id := by rw [others, List.map_id]
  exact List.map_inj_left.mp whole part member

/-- Replacing in the parts changes something, unless the word is not there or is what is put in. -/
theorem spliced_replaced_iff (filled : word ≠ []) (new first : List α) (rest : List (List α)) :
    spliced new (replace word new first) (rest.map (replace word new)) = spliced new first rest ↔
      within word first rest = 0 ∨ new = word := by
  constructor
  · intro same
    by_cases lengths : new.length = word.length
    · rw [or_iff_not_imp_right]
      exact within_eq_zero_of_inj filled lengths same
    · -- what is put in is longer or shorter, and so is the whole
      have whole := congrArg List.length same
      rw [length_spliced, length_spliced, List.length_map] at whole
      have here := length_replace filled new first
      have others := lengths_replaced filled new rest
      have equal : within word first rest * word.length = within word first rest * new.length := by
        simp only [within, Nat.add_mul]
        omega
      left
      by_contra some
      exact lengths ((Nat.mul_right_inj some).mp equal).symm
  · intro either
    rcases either with none | rfl
    · rw [within_eq_zero_iff] at none
      have others : rest.map (replace word new) = rest.map id :=
          List.map_inj_left.mpr (fun part member => replace_of_absent filled (none.2 part member) new)
      rw [replace_of_absent filled none.1, others, List.map_id]
    · rw [replace_self filled, List.map_id'' (replace_self filled)]

/-- Putting a word in the place of another that was put between some texts. -/
theorem replace_spliced_iff (filled : word ≠ []) {first : List α} {rest : List (List α)} (unbordered : rest ≠ [] → Unbordered word)
    (new : List α) : replace word new (spliced word first rest) = spliced new first rest ↔
      occurrences word (spliced word first rest) = rest.length ∨ new = word := by
  rw [replace_spliced filled unbordered, spliced_replaced_iff filled, occurrences_spliced filled unbordered, within]
  apply or_congr_left
  omega

end Replace

/-! Path templates, with placeholders in braces, and what is put in for them. Replacing
one braced name after the other in the text is meant to do the same. -/

namespace Templates
open Replace

def opens : Char := '\x7b'

def closes : Char := '\x7d'

/-- The name of a placeholder has no braces. -/
structure Name where
  text : String
  plain : ∀ letter ∈ text.toList, letter ≠ opens ∧ letter ≠ closes
deriving DecidableEq

/-- What a template is made of, as far as it is filled in: letters of its own,
placeholders, and what was put in for one. -/
inductive Piece where
  | letter (own : Char)
  | hole (name : Name)
  | value (text : List Char)
deriving DecidableEq

/-- A name in braces. -/
def token (name : String) : List Char := opens :: (name.toList ++ [closes])

def isPlain (letter : Char) : Bool := letter ≠ opens && letter ≠ closes

/-! ### Reading a template -/

theorem plain_front (letters : List Char) :
    ∀ letter ∈ (String.ofList (letters.takeWhile isPlain)).toList, letter ≠ opens ∧ letter ≠ closes := by
  intro letter member
  rw [String.toList_ofList] at member
  have plain := List.mem_takeWhile_imp member
  simpa [isPlain] using plain

/-- The name of the placeholder that letters after an opening brace begin with. -/
def name? (letters : List Char) : Option Name :=
  if (letters.dropWhile isPlain).head? = some closes then
    some { text := String.ofList (letters.takeWhile isPlain), plain := plain_front letters }
  else none

/-- After a number of letters that belong to a placeholder. -/
def piecesFrom : Nat → List Char → List Piece
  | _, [] => []
  | skip + 1, _ :: rest => piecesFrom skip rest
  | 0, first :: rest =>
    match if first = opens then name? rest else none with
    | some name => .hole name :: piecesFrom (name.text.toList.length + 1) rest
    | none => .letter first :: piecesFrom 0 rest

def pieces (template : String) : List Piece := piecesFrom 0 template.toList

def Piece.text : Piece → List Char
  | letter own => [own]
  | hole name => token name.text
  | value text => text

def textOf (pieces : List Piece) : List Char := pieces.flatMap Piece.text

theorem piecesFrom_eq (skip : Nat) (letters : List Char) : piecesFrom skip letters = piecesFrom 0 (letters.drop skip) := by
  induction letters generalizing skip with
  | nil => simp [piecesFrom]
  | cons letter rest ih =>
    cases skip with
    | zero => rfl
    | succ skip => exact ih skip

theorem eq_of_name? {letters : List Char} {name : Name} (named : name? letters = some name) :
    ∃ rest, letters = name.text.toList ++ closes :: rest := by
  rw [name?, Option.ite_none_right_eq_some, Option.some.injEq] at named
  obtain ⟨closed, rfl⟩ := named
  obtain ⟨rest, after⟩ := List.head?_eq_some_iff.mp closed
  refine ⟨rest, ?_⟩
  rw [String.toList_ofList, ← after, List.takeWhile_append_dropWhile]

/-- The pieces of a template are its text. -/
theorem textOf_pieces (template : String) : textOf (pieces template) = template.toList := by
  rw [pieces]
  generalize template.toList = letters
  induction length : letters.length using Nat.strong_induction_on generalizing letters with
  | _ length ih =>
    subst length
    match letters with
    | [] => rfl
    | first :: rest =>
      rw [piecesFrom]
      split
      next name named =>
        obtain ⟨rfl, named⟩ := Option.ite_none_right_eq_some.mp named
        obtain ⟨later, rfl⟩ := eq_of_name? named
        have after : (name.text.toList ++ closes :: later).drop (name.text.toList.length + 1) = later := by simp
        have here := ih later.length (by simp; omega) later rfl
        rw [piecesFrom_eq, after, textOf, List.flatMap_cons, ← textOf, here]
        simp [Piece.text, token]
      next =>
        rw [textOf, List.flatMap_cons, ← textOf, ih rest.length (by simp) rest rfl]
        rfl

/-! ### Filling in -/

/-- What is put in for placeholders, where there is something for their names. -/
def Piece.filled (values : String → Option (List Char)) : Piece → Piece
  | hole name => (values name.text).elim (hole name) value
  | piece => piece

def filled (values : String → Option (List Char)) (pieces : List Piece) : List Piece := pieces.map (Piece.filled values)

def Piece.isHole (key : String) : Piece → Bool
  | hole name => name.text = key
  | _ => false

def Piece.fill (key : String) (text : List Char) (piece : Piece) : Piece := if piece.isHole key then value text else piece

/-- What is before the first placeholder of a name, and after each of them. -/
def around (key : String) : List Piece → List Char × List (List Char)
  | [] => ([], [])
  | piece :: rest =>
    if piece.isHole key then ([], (around key rest).1 :: (around key rest).2)
    else (piece.text ++ (around key rest).1, (around key rest).2)

theorem append_spliced (between front first : List Char) (rest : List (List Char)) :
    spliced between (front ++ first) rest = front ++ spliced between first rest := by
  cases rest with
  | nil => rfl
  | cons next rest => rw [spliced, spliced, List.append_assoc]

theorem text_of_isHole {key : String} {piece : Piece} (hole : piece.isHole key = true) : piece.text = token key := by
  cases piece with
  | hole name => rw [Piece.text, of_decide_eq_true hole]
  | letter letter => cases hole
  | value text => cases hole

variable (key : String)

theorem textOf_eq (pieces : List Piece) : textOf pieces = spliced (token key) (around key pieces).1 (around key pieces).2 := by
  induction pieces with
  | nil => rfl
  | cons piece rest ih =>
    rw [textOf] at ih ⊢
    rw [List.flatMap_cons, ih, around]
    by_cases hole : piece.isHole key = true
    · rw [if_pos hole, spliced, text_of_isHole hole, List.nil_append]
    · rw [if_neg hole, append_spliced]

theorem textOf_fill (text : List Char) (pieces : List Piece) :
    textOf (pieces.map (Piece.fill key text)) = spliced text (around key pieces).1 (around key pieces).2 := by
  induction pieces with
  | nil => rfl
  | cons piece rest ih =>
    rw [textOf] at ih ⊢
    rw [List.map_cons, List.flatMap_cons, ih, around, Piece.fill]
    by_cases hole : piece.isHole key = true
    · rw [if_pos hole, if_pos hole, spliced, List.nil_append, Piece.text]
    · rw [if_neg hole, if_neg hole, append_spliced]

theorem length_around (pieces : List Piece) : (around key pieces).2.length = pieces.countP (Piece.isHole key) := by
  induction pieces with
  | nil => rfl
  | cons piece rest ih =>
    rw [around, List.countP_cons]
    by_cases hole : piece.isHole key = true
    · rw [if_pos hole, if_pos hole, List.length_cons, ih]
    · rw [if_neg hole, if_neg hole, ih, Nat.add_zero]

theorem token_ne_nil : token key ≠ [] := List.cons_ne_nil _ _

/-- A name in braces does not overlap itself. -/
theorem unbordered_token (plain : opens ∉ key.toList) : Unbordered (token key) := by
  apply unbordered_of_head
  rw [List.mem_append, not_or]
  exact ⟨plain, by decide⟩

variable {key}

theorem plain_of_isHole {piece : Piece} (hole : piece.isHole key = true) : opens ∉ key.toList := by
  cases piece with
  | hole name =>
    rw [← of_decide_eq_true hole]
    exact fun member => (name.plain _ member).1 rfl
  | letter letter => cases hole
  | value text => cases hole

theorem unbordered_around {pieces : List Piece} (some : (around key pieces).2 ≠ []) : Unbordered (token key) := by
  have holes : 0 < pieces.countP (Piece.isHole key) := by
    rw [← length_around]
    exact List.length_pos_iff.mpr some
  obtain ⟨piece, _, hole⟩ := List.countP_pos_iff.mp holes
  exact unbordered_token key (plain_of_isHole hole)

/-- A braced name is where its placeholders are, and maybe elsewhere. -/
theorem countP_le_occurrences (key : String) (pieces : List Piece) :
    pieces.countP (Piece.isHole key) ≤ occurrences (token key) (textOf pieces) := by
  rw [textOf_eq key pieces, occurrences_spliced (token_ne_nil key) unbordered_around, ← length_around]
  exact Nat.le_add_right _ _

theorem fill_of_absent {pieces : List Piece} (absent : pieces.countP (Piece.isHole key) = 0) (text : List Char) :
    pieces.map (Piece.fill key text) = pieces := by
  rw [List.countP_eq_zero] at absent
  have same : pieces.map (Piece.fill key text) = pieces.map id :=
    List.map_inj_left.mpr (fun piece member => if_neg (absent piece member))
  rw [same, List.map_id]

/-- Replacing a braced name in the text fills in its placeholders, if it is nowhere else or stays. -/
theorem replace_iff (text : List Char) (pieces : List Piece) :
    replace (token key) text (textOf pieces) = textOf (pieces.map (Piece.fill key text)) ↔
      occurrences (token key) (textOf pieces) = pieces.countP (Piece.isHole key) ∨ text = token key := by
  rw [textOf_fill, textOf_eq key pieces, ← length_around]
  exact replace_spliced_iff (token_ne_nil key) unbordered_around text

/-- Filling in one name more. -/
theorem filled_fill (values : String → Option (List Char)) (key : String) (text : List Char) (pieces : List Piece) :
    (filled values pieces).map (Piece.fill key text) =
      filled (fun name => (values name).or (if name = key then some text else none)) pieces := by
  rw [filled, filled, List.map_map]
  apply List.map_congr_left
  intro piece _
  cases piece with
  | letter own => rfl
  | value text => rfl
  | hole name =>
    rw [Function.comp_apply, Piece.filled, Piece.filled]
    cases put : values name.text with
    | some value => rfl
    | none =>
      have hole : (Piece.hole name).isHole key = decide (name.text = key) := rfl
      rw [Option.elim_none, Piece.fill, Option.none_or, hole]
      by_cases named : name.text = key
      · rw [if_pos (decide_eq_true named), if_pos named]
        rfl
      · rw [if_neg (by rwa [decide_eq_true_eq]), if_neg named]
        rfl

theorem filled_none (pieces : List Piece) : filled (fun _ => none) pieces = pieces := by
  have same : filled (fun _ => none) pieces = pieces.map id := by
    apply List.map_congr_left
    intro piece _
    cases piece <;> rfl
  rw [same, List.map_id]

/-- A placeholder is left if nothing is put in for its name. -/
theorem hole_mem_filled {values : String → Option (List Char)} {name : Name} {pieces : List Piece} :
    .hole name ∈ filled values pieces ↔ .hole name ∈ pieces ∧ values name.text = none := by
  rw [filled, List.mem_map]
  constructor
  · intro ⟨piece, member, left⟩
    cases piece with
    | letter own => cases left
    | value text => cases left
    | hole other =>
      rw [Piece.filled] at left
      cases put : values other.text with
      | some text =>
        rw [put] at left
        cases left
      | none =>
        rw [put] at left
        obtain rfl : other = name := Piece.hole.inj left
        exact ⟨member, put⟩
  · intro ⟨member, empty⟩
    exact ⟨.hole name, member, by rw [Piece.filled, empty]; rfl⟩

end Templates
