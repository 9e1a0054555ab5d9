import Xcp.Connectors.Wrap
import Xcp.Library.PathReading
import Xcp.Library.Delimited

/-! When arguments stay in the segments of the path that are theirs. They are put in as
they are, one after the other, wherever a name in braces is found by then. -/

namespace Xcp.Connectors
open Checked Python Templates PathReading
open Replace (occurrences)
open Tokens (containsText_iff)

section Handler
variable [Host]

/-- What is put in for a placeholder that an argument names. -/
def valueOf (arguments : List (String × Json)) (name : String) : Option (List Char) :=
  (Dict.look name arguments).map (fun value => value.toStr.toList)

/-- The path of a tool with the values of arguments in it. -/
def Tool.filledBy (tool : Tool) (arguments : List (String × Json)) : List Piece := filled (valueOf arguments) (pieces tool.path)

/-- In every round the path has the values of the arguments so far for its placeholders,
in the end for all of them, and it is read as the template with these values as data. -/
structure Tool.Confines (tool : Tool) (baseUrl : String) (arguments : Dict String Json) : Prop where
  rounds : ∀ earlier later, (arguments.remove "body").entries = earlier ++ later →
    ∃ sending, earlier.foldlM argumentRound { path := tool.path } = .ok sending ∧ sending.path.toList = textOf (tool.filledBy earlier)
  whole : ∀ name, .hole name ∉ tool.filledBy (arguments.remove "body").entries
  request : ∃ request path, tool.upstream baseUrl arguments = .ok request ∧ request.url = baseUrl ++ path ∧
    Conveys path.toList (tool.filledBy (arguments.remove "body").entries)

/-- A name in braces is not found but at its placeholders, whose value can be written, or is its own value. -/
def Apart (pieces : List Piece) (name : String) (value : Json) : Prop :=
  occurrences (token name) (textOf pieces) = 0 ∨
    value.printable = true ∧
      (occurrences (token name) (textOf pieces) = pieces.countP (Piece.isHole name) ∨ value.toStr.toList = token name)

/-- Every placeholder is named by an argument; where the values of those before it are put in, the
braced name of an argument is not found elsewhere; and the values are only data in their segments. -/
structure Tool.Fits (tool : Tool) (arguments : List (String × Json)) : Prop where
  named : ∀ name, .hole name ∈ pieces tool.path → name.text ∈ arguments.map Prod.fst
  apart : ∀ earlier name value later, arguments = earlier ++ (name, value) :: later → Apart (tool.filledBy earlier) name value
  inert : Inert (lettersOf (tool.filledBy arguments))
  level : Level (tool.filledBy arguments)

/-! ### One argument -/

omit [Host] in
theorem toList_tokenOf (name : String) : (tokenOf name).toList = token name := by
  rw [tokenOf, String.toList_append, String.toList_append]
  rfl

omit [Host] in
theorem found_iff (path name : String) : containsText path (tokenOf name) = true ↔ occurrences (token name) path.toList ≠ 0 := by
  rw [containsText_iff, toList_tokenOf]
  exact Replace.infix_iff (List.cons_ne_nil _ _) path.toList

theorem argumentRound_iff {sending : Sending} {pieces : List Piece} (path : sending.path.toList = textOf pieces) (name : String)
    (value : Json) : (∃ next, argumentRound sending (name, value) = .ok next ∧
      next.path.toList = textOf (pieces.map (Piece.fill name value.toStr.toList))) ↔ Apart pieces name value := by
  have found := found_iff sending.path name
  rw [path] at found
  rw [argumentRound, Apart]
  by_cases absent : occurrences (token name) (textOf pieces) = 0
  · have none : pieces.countP (Piece.isHole name) = 0 := by
      have fewer := countP_le_occurrences name pieces
      omega
    rw [if_neg (fun contained => found.mp contained absent), fill_of_absent none]
    refine iff_of_true ⟨_, rfl, path⟩ (.inl absent)
  · rw [if_pos (found.mpr absent), or_iff_right absent, ← replace_iff]
    have replaced : (replaceText sending.path (tokenOf name) value.toStr).toList =
        Replace.replace (token name) value.toStr.toList (textOf pieces) := by
      rw [replaceText, String.toList_ofList, toList_tokenOf, path]
    cases printable : value.printable with
    | false =>
      refine iff_of_false ?_ (fun both => Bool.false_ne_true both.1)
      intro ⟨next, done, _⟩
      rw [written, printable] at done
      cases done
    | true =>
      rw [written, printable, if_pos rfl, ok_bind, and_iff_right rfl, ← replaced]
      constructor
      · intro ⟨next, done, same⟩
        obtain rfl := Except.ok.inj done
        exact same
      · intro same
        exact ⟨_, rfl, same⟩

/-! ### All arguments -/

omit [Host] in
theorem look_append (key : String) (earlier : List (String × Json)) (name : String) (value : Json) :
    Dict.look key (earlier ++ [(name, value)]) = (Dict.look key earlier).or (if key = name then some value else none) := by
  induction earlier with
  | nil => rfl
  | cons entry rest ih =>
    rw [List.cons_append, Dict.look, Dict.look]
    by_cases same : key = entry.1
    · rw [if_pos same, if_pos same, Option.some_or]
    · rw [if_neg same, if_neg same, ih]

theorem filledBy_append (tool : Tool) (earlier : List (String × Json)) (name : String) (value : Json) :
    tool.filledBy (earlier ++ [(name, value)]) = (tool.filledBy earlier).map (Piece.fill name value.toStr.toList) := by
  rw [Tool.filledBy, Tool.filledBy, filled_fill]
  congr 1
  funext key
  rw [valueOf, valueOf, look_append]
  cases Dict.look key earlier with
  | some found => rfl
  | none =>
    rw [Option.none_or, Option.map_none, Option.none_or]
    split <;> rfl

/-- In every round the path is filled in exactly if the names are apart in all of them. -/
theorem rounds_iff (tool : Tool) (arguments : List (String × Json)) :
    (∀ earlier later, arguments = earlier ++ later → ∃ sending, earlier.foldlM argumentRound { path := tool.path } = .ok sending ∧
      sending.path.toList = textOf (tool.filledBy earlier)) ↔
      ∀ earlier name value later, arguments = earlier ++ (name, value) :: later → Apart (tool.filledBy earlier) name value := by
  constructor
  · intro rounds earlier name value later split
    obtain ⟨sending, done, path⟩ := rounds earlier ((name, value) :: later) split
    obtain ⟨next, after, filled⟩ := rounds (earlier ++ [(name, value)]) later (by rw [split, List.append_assoc]; rfl)
    apply (argumentRound_iff path name value).mp
    refine ⟨next, ?_, by rw [filled, filledBy_append]⟩
    rw [List.foldlM_append, done, ok_bind, List.foldlM_cons] at after
    obtain ⟨only, step, stays⟩ := (bind_eq_ok ..).mp after
    obtain rfl := Except.ok.inj stays
    exact step
  · intro apart earlier
    induction earlier using List.reverseRecOn with
    | nil =>
      intro later _
      refine ⟨_, rfl, ?_⟩
      have empty : tool.filledBy [] = pieces tool.path := filled_none _
      rw [empty, textOf_pieces]
    | append_singleton earlier argument ih =>
      intro later split
      rw [List.append_assoc] at split
      obtain ⟨sending, done, path⟩ := ih (argument :: later) split
      have here := apart earlier argument.1 argument.2 later split
      obtain ⟨next, step, filled⟩ := (argumentRound_iff path argument.1 argument.2).mpr here
      refine ⟨next, ?_, by rw [filled, filledBy_append]⟩
      rw [List.foldlM_append, done, ok_bind, List.foldlM_cons, step]
      rfl

omit [Host] in
theorem look_ne_none_iff {key : String} {entries : List (String × Json)} :
    Dict.look key entries ≠ none ↔ key ∈ entries.map Prod.fst := by
  induction entries with
  | nil => simp [Dict.look]
  | cons entry rest ih =>
    rw [Dict.look, List.map_cons, List.mem_cons, ← ih]
    by_cases same : key = entry.1
    · rw [if_pos same]
      exact iff_of_true (Option.some_ne_none _) (.inl same)
    · rw [if_neg same, or_iff_right same]

theorem whole_iff (tool : Tool) (arguments : List (String × Json)) :
    (∀ name, .hole name ∉ tool.filledBy arguments) ↔
      ∀ name, .hole name ∈ pieces tool.path → name.text ∈ arguments.map Prod.fst := by
  apply forall_congr'
  intro name
  rw [Tool.filledBy, hole_mem_filled, not_and]
  apply imp_congr_right
  intro _
  rw [valueOf, Option.map_eq_none_iff]
  exact look_ne_none_iff

/-- Whatever the arguments are, a call that stays in its segments has the separators of the template:
as many segments, and a query only where the template has one. -/
theorem separators_kept {tool : Tool} {baseUrl : String} {arguments : Dict String Json} (confined : tool.Confines baseUrl arguments) :
    ∃ request path, tool.upstream baseUrl arguments = .ok request ∧ request.url = baseUrl ++ path ∧
      (PathReading.read (lettersOf (plain path.toList))).filterMap Sign.mark? = ownMarks (pieces tool.path) := by
  obtain ⟨request, path, given, url, conveys⟩ := confined.request
  refine ⟨request, path, given, url, ?_⟩
  rw [conveys.marks confined.whole]
  exact ownMarks_filled _ _

theorem fits_of_confines {tool : Tool} {baseUrl : String} {arguments : Dict String Json} (confined : tool.Confines baseUrl arguments) :
    tool.Fits (arguments.remove "body").entries := by
  obtain ⟨rounds, whole, request, path, given, url, conveys⟩ := confined
  obtain ⟨sending, done, filled⟩ := rounds _ [] (List.append_nil _).symm
  rw [Tool.upstream, done] at given
  obtain rfl := Except.ok.inj given
  have same : path.toList = sending.path.toList := by
    have letters := congrArg String.toList url
    rw [String.toList_append, String.toList_append] at letters
    exact (List.append_cancel_left letters).symm
  rw [same, filled, conveys_iff whole] at conveys
  exact {
    named := (whole_iff tool (arguments.remove "body").entries).mp whole
    apart := (rounds_iff tool (arguments.remove "body").entries).mp rounds
    inert := conveys.1
    level := conveys.2 }

/-- A call stays in its segments exactly if its arguments fit the path. -/
theorem confines_iff_fits (tool : Tool) (baseUrl : String) (arguments : Dict String Json) :
    tool.Confines baseUrl arguments ↔ tool.Fits (arguments.remove "body").entries := by
  constructor
  · exact fits_of_confines
  · intro ⟨named, apart, inert, level⟩
    have rounds := (rounds_iff tool (arguments.remove "body").entries).mpr apart
    have whole := (whole_iff tool (arguments.remove "body").entries).mpr named
    obtain ⟨sending, done, path⟩ := rounds _ [] (List.append_nil _).symm
    refine ⟨rounds, whole, _, sending.path, by rw [Tool.upstream, done]; rfl, rfl, ?_⟩
    rw [path, conveys_iff whole]
    exact ⟨inert, level⟩

end Handler

/-! ### Calls at hand -/

section Sample
local instance pathHost : Host := decimalHost []

def toolAt (path : String) : Tool where
  method := "get"
  path := path
  summary := .str ""
  schema := {}

/-- `/users/{id}`. -/
def userTool : Tool := toolAt "/users/\x7bid\x7d"

/-- `/{a}/{b}`. -/
def pairTool : Tool := toolAt "/\x7ba\x7d/\x7bb\x7d"

def admin : Dict String Json where
  entries := [("id", .str "../admin")]

/-- A value that is the braced name of the argument after it. -/
def braced : Dict String Json where
  entries := [("a", .str "\x7bb\x7d"), ("b", .str "x")]

theorem users_left :
    (userTool.upstream "https://api.example" admin).toOption.map UpstreamRequest.url = some "https://api.example/users/../admin" ∧
      ¬ userTool.Confines "https://api.example" admin ∧
      (pairTool.upstream "https://api.example" braced).toOption.map UpstreamRequest.url = some "https://api.example/x/x" ∧
      ¬ pairTool.Confines "https://api.example" braced := by
  refine ⟨by decide, ?_, by decide, ?_⟩
  · intro confined
    have carried : { char := '/', own := false } ∈ lettersOf (userTool.filledBy (admin.remove "body").entries) := by decide
    cases own_of_inert (fits_of_confines confined).inert carried rfl
  · intro confined
    have apart := (fits_of_confines confined).apart [("a", .str "\x7bb\x7d")] "b" (.str "x") [] rfl
    revert apart
    rw [Apart]
    decide

end Sample

end Xcp.Connectors
