import Xcp.Library.PythonText

/-! Texts in which whole runs of letters are replaced, as `re.sub` of a class
with `+` does, and their first letters. -/

namespace Python

/-- Every run of some letters becomes one mark. -/
def squeeze (inRun : Char → Bool) (mark : Char) : (inside : Bool) → List Char → List Char
  | _, [] => []
  | inside, letter :: rest =>
    if inRun letter then (if inside then [] else [mark]) ++ squeeze inRun mark true rest
    else letter :: squeeze inRun mark false rest

/-- `text[:count]`. -/
def cut (text : String) (count : Nat) : String := String.ofList (text.toList.take count)

theorem cut_length (text : String) (count : Nat) : (cut text count).length ≤ count := by
  simp [cut, List.length_take]

/-! ### Spans

What is left of a text of which whole runs of letters became one mark: the
spans between the runs, and whether a run stands at either end. -/

variable {inRun : Char → Bool} {mark : Char}

/-- The letters between the runs. -/
def spans (inRun : Char → Bool) : List Char → List (List Char)
  | [] => []
  | letter :: rest =>
    if inRun letter then spans inRun rest
    else
      match rest with
      | [] => [[letter]]
      | next :: _ => if inRun next then [letter] :: spans inRun rest else (spans inRun rest).modifyHead (letter :: ·)

/-- A run stands at the start. -/
def begins (inRun : Char → Bool) (letters : List Char) : Bool := letters.head?.any inRun

/-- A run stands at the end. -/
def ends (inRun : Char → Bool) (letters : List Char) : Bool := letters.getLast?.any inRun

theorem spans_of_run {letter : Char} (run : inRun letter = true) (rest : List Char) :
    spans inRun (letter :: rest) = spans inRun rest := by
  cases rest <;> simp [spans, run]

theorem spans_last {letter : Char} (apart : inRun letter = false) : spans inRun [letter] = [[letter]] := by
  simp [spans, apart]

theorem spans_stop {letter next : Char} (apart : inRun letter = false) (run : inRun next = true) (rest : List Char) :
    spans inRun (letter :: next :: rest) = [letter] :: spans inRun rest := by
  simp [spans, apart, run]

theorem spans_go {letter next : Char} (apart : inRun letter = false) (more : inRun next = false) (rest : List Char) :
    spans inRun (letter :: next :: rest) = (spans inRun (next :: rest)).modifyHead (letter :: ·) := by
  rw [spans]
  simp [apart, more]

/-! ### What squeezing keeps -/

theorem spans_squeeze (marked : inRun mark = true) (inside : Bool) (letters : List Char) :
    spans inRun (squeeze inRun mark inside letters) = spans inRun letters := by
  induction letters generalizing inside with
  | nil => rfl
  | cons letter rest ih =>
    cases run : inRun letter with
    | true =>
      rw [spans_of_run run, squeeze, if_pos run]
      cases inside with
      | true => exact ih true
      | false => exact (spans_of_run marked _).trans (ih true)
    | false =>
      rw [squeeze, if_neg (by simp [run])]
      -- what comes next decides where the span of the letter ends
      cases rest with
      | nil => rfl
      | cons next rest =>
        have known := ih false
        cases more : inRun next with
        | true =>
          have squeezed : squeeze inRun mark false (next :: rest) = mark :: squeeze inRun mark true rest := by
            simp [squeeze, more]
          rw [squeezed, spans_of_run marked, spans_of_run more] at known
          rw [squeezed, spans_stop run marked, spans_stop run more, known]
        | false =>
          have squeezed : squeeze inRun mark false (next :: rest) = next :: squeeze inRun mark false rest := by
            simp [squeeze, more]
          rw [squeezed] at known ⊢
          rw [spans_go run more, spans_go run more, known]

theorem begins_squeeze (marked : inRun mark = true) (letters : List Char) :
    begins inRun (squeeze inRun mark false letters) = begins inRun letters := by
  cases letters with
  | nil => rfl
  | cons letter rest =>
    cases run : inRun letter with
    | true => simp [squeeze, run, begins, marked]
    | false => simp [squeeze, run, begins]

theorem ends_cons_cons (letter next : Char) (rest : List Char) :
    ends inRun (letter :: next :: rest) = ends inRun (next :: rest) := by
  rw [ends, List.getLast?_cons_cons, ends]

theorem spans_ne_nil {next : Char} (more : inRun next = false) (rest : List Char) : spans inRun (next :: rest) ≠ [] := by
  induction rest generalizing next with
  | nil => simp [spans_last more]
  | cons third rest ih =>
    cases run : inRun third with
    | true => simp [spans_stop more run]
    | false =>
      rw [spans_go more run]
      cases here : spans inRun (third :: rest) with
      | nil => exact absurd here (ih run)
      | cons span others => simp

/-- Without a span, there is nothing but a run. -/
theorem ends_of_spans_nil {next : Char} {rest : List Char} (empty : spans inRun (next :: rest) = []) :
    ends inRun (next :: rest) = true := by
  induction rest generalizing next with
  | nil =>
    cases run : inRun next with
    | true => simpa [ends] using run
    | false => exact absurd empty (spans_ne_nil run [])
  | cons third rest ih =>
    rw [ends_cons_cons]
    apply ih
    cases run : inRun next with
    | true => rwa [spans_of_run run] at empty
    | false => exact absurd empty (spans_ne_nil run _)

/-- The mark at the end; where nothing but a run was, it is at the start. -/
def closing (inRun : Char → Bool) (mark : Char) (letters : List Char) : List Char :=
  if ends inRun letters && !(spans inRun letters).isEmpty then [mark] else []

theorem intercalate_modifyHead (letter mark : Char) {parts : List (List Char)} (some : parts ≠ []) :
    [mark].intercalate (parts.modifyHead (letter :: ·)) = letter :: [mark].intercalate parts := by
  obtain ⟨part, parts, rfl⟩ := List.exists_cons_of_ne_nil some
  cases parts <;> simp [List.intercalate]

theorem closing_of_run {letter : Char} (run : inRun letter = true) (rest : List Char) :
    closing inRun mark (letter :: rest) = closing inRun mark rest := by
  cases rest with
  | nil =>
    have empty : spans inRun [letter] = [] := spans_of_run run []
    simp only [closing, empty, List.isEmpty_nil, Bool.not_true, Bool.and_false]
    rfl
  | cons next rest => simp [closing, spans_of_run run, ends_cons_cons]

/-- A squeezed text is its spans with one mark between two, and one for a run at an end. -/
theorem squeeze_eq (inRun : Char → Bool) (mark : Char) (inside : Bool) (letters : List Char) :
    squeeze inRun mark inside letters = (if begins inRun letters && !inside then [mark] else []) ++
      ([mark].intercalate (spans inRun letters) ++ closing inRun mark letters) := by
  induction letters generalizing inside with
  | nil => simp [squeeze, begins, spans, closing, ends, List.intercalate]
  | cons letter rest ih =>
    cases run : inRun letter with
    | true =>
      rw [squeeze, if_pos run, ih true, spans_of_run run, closing_of_run run]
      cases inside <;> simp [begins, run]
    | false =>
      rw [squeeze, if_neg (by simp [run]), ih false]
      cases rest with
      | nil => simp [begins, spans, run, closing, ends, List.intercalate]
      | cons next rest =>
        cases more : inRun next with
        | true =>
          -- where no span follows, the run goes on to the end
          cases empty : spans inRun (next :: rest) with
          | nil =>
            have last := ends_of_spans_nil empty
            rw [spans_of_run more] at empty
            simp [begins, run, more, closing, spans_stop run more, spans_of_run more, empty, ends_cons_cons, last, List.intercalate]
          | cons span others =>
            have closed : closing inRun mark (letter :: next :: rest) = closing inRun mark (next :: rest) := by
              simp [closing, spans_stop run more, empty, ends_cons_cons]
            rw [closed, spans_stop run more, ← spans_of_run more rest, empty]
            simp [begins, run, more, List.intercalate]
        | false =>
          have some := spans_ne_nil more rest
          have closed : closing inRun mark (letter :: next :: rest) = closing inRun mark (next :: rest) := by
            obtain ⟨span, others, known⟩ := List.exists_cons_of_ne_nil some
            simp [closing, spans_go run more, known, ends_cons_cons]
          rw [closed, spans_go run more, intercalate_modifyHead letter mark some]
          simp [begins, run, more]

theorem begins_eq_ends {letters : List Char} (empty : spans inRun letters = []) :
    begins inRun letters = ends inRun letters := by
  cases letters with
  | nil => rfl
  | cons next rest =>
    rw [ends_of_spans_nil empty]
    cases run : inRun next with
    | true => simpa [begins] using run
    | false => exact absurd empty (spans_ne_nil run rest)

/-- Two texts are squeezed to the same exactly if they have the same spans, and runs at the same ends. -/
theorem squeeze_inj (marked : inRun mark = true) {letters others : List Char} :
    squeeze inRun mark false letters = squeeze inRun mark false others ↔
      spans inRun letters = spans inRun others ∧ begins inRun letters = begins inRun others ∧
        ends inRun letters = ends inRun others := by
  constructor
  · intro same
    have spanned : spans inRun letters = spans inRun others := by
      rw [← spans_squeeze marked false letters, same, spans_squeeze marked]
    have begun : begins inRun letters = begins inRun others := by
      rw [← begins_squeeze marked letters, same, begins_squeeze marked]
    refine ⟨spanned, begun, ?_⟩
    cases empty : spans inRun letters with
    | nil => rw [← begins_eq_ends empty, begun, begins_eq_ends (spanned ▸ empty)]
    | cons span parts =>
      rw [squeeze_eq, squeeze_eq inRun mark false others, begun, spanned] at same
      have closed := List.append_cancel_left (List.append_cancel_left same)
      simp only [closing, ← spanned, empty, List.isEmpty_cons, Bool.not_false, Bool.and_true] at closed
      cases finish : ends inRun letters with
      | true =>
        cases other : ends inRun others with
        | true => rfl
        | false => simp [finish, other] at closed
      | false =>
        cases other : ends inRun others with
        | true => simp [finish, other] at closed
        | false => rfl
  · intro ⟨spanned, begun, ended⟩
    rw [squeeze_eq, squeeze_eq inRun mark false others, begun, spanned, closing, closing, spanned, ended]

/-! ### Two texts with a mark between them -/

theorem spans_append_cons {mark : Char} (marked : inRun mark = true) (front back : List Char) :
    spans inRun (front ++ mark :: back) = spans inRun front ++ spans inRun back := by
  induction front with
  | nil => exact spans_of_run marked back
  | cons letter front ih =>
    cases run : inRun letter with
    | true => rw [List.cons_append, spans_of_run run, spans_of_run run, ih]
    | false =>
      cases front with
      | nil => simp [spans_stop run marked, spans_last run]
      | cons next front =>
        rw [List.cons_append, List.cons_append]
        rw [List.cons_append] at ih
        cases more : inRun next with
        | true =>
          rw [spans_of_run more, spans_of_run more] at ih
          rw [spans_stop run more, spans_stop run more, ih, List.cons_append]
        | false =>
          obtain ⟨span, parts, known⟩ := List.exists_cons_of_ne_nil (spans_ne_nil more front)
          rw [spans_go run more, spans_go run more, ih, known]
          rfl

theorem begins_append {front : List Char} (some : front ≠ []) (back : List Char) :
    begins inRun (front ++ back) = begins inRun front := by
  obtain ⟨letter, rest, rfl⟩ := List.exists_cons_of_ne_nil some
  rfl

theorem ends_append (front : List Char) {back : List Char} (some : back ≠ []) :
    ends inRun (front ++ back) = ends inRun back := by
  rw [ends, List.getLast?_append_of_ne_nil front some, ends]

end Python
