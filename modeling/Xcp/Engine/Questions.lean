import Mathlib.Data.List.MinMax
import Mathlib.Data.List.Sort
import Mathlib.Data.Rat.Floor
import Mathlib.Tactic.NormNum
import Xcp.Library.Dict
import Xcp.Library.Python

/-! Typed questions with closed answer sets, and verdicts on them. A verdict is an
estimate, or it says that there is none. -/

namespace Xcp.Engine
open Checked Python

/-! ### Numbers -/

/-- The nearest whole number, of two the even one. -/
def nearest (value : Rat) : Int :=
  let down := value.floor
  let rest := value - down
  if rest < 1 / 2 ∨ rest = 1 / 2 ∧ down % 2 = 0 then down else down + 1

/-- `round(value, digits)`. -/
def rounded (digits : Nat) (value : Rat) : Rat := nearest (value * 10 ^ digits) / 10 ^ digits

/-- `f"{value:.2f}"` with that many digits. -/
def fixed (digits : Nat) (value : Rat) : String :=
  let scaled := nearest (value * 10 ^ digits)
  let whole := toString (scaled.natAbs / 10 ^ digits)
  let after := toString (scaled.natAbs % 10 ^ digits)
  (if value < 0 then "-" else "") ++ whole ++ "." ++ String.ofList (List.replicate (digits - after.length) '0') ++ after

/-! ### Questions -/

/-- What answered. -/
inductive Tier where
  | deterministic | linear | semantic | cached | none
deriving DecidableEq, Repr

def Tier.value : Tier → String
  | deterministic => "deterministic"
  | linear => "linear"
  | semantic => "semantic"
  | cached => "cached"
  | none => "none"

inductive QuestionKind where
  | noul | choice | score
deriving DecidableEq, Repr

def QuestionKind.value : QuestionKind → String
  | noul => "noul"
  | choice => "choice"
  | score => "score"

def defaultConfidence : Rat := 7 / 10

def defaultMargin : Rat := 3 / 20

theorem defaultConfidence_floor : 0 < defaultConfidence ∧ defaultConfidence ≤ 1 := by
  norm_num [defaultConfidence]

/-- A question, with the answers that it can have. -/
structure Question where
  id : String
  kind : QuestionKind
  prompt : String
  /-- In order; for a score, of severity. -/
  options : List String := []
  minConfidence : Rat := defaultConfidence
  minMargin : Rat := defaultMargin
  bare : kind = .noul → options = []
  decides : kind ≠ .noul → 2 ≤ options.length
  distinct : kind ≠ .noul → options.Nodup
  floor : 0 < minConfidence ∧ minConfidence ≤ 1

def Question.answerSet (question : Question) : List String :=
  if question.kind = .noul then ["no", "yes"] else question.options

section Making
variable [Host]

def Question.make (id : String) (kind : QuestionKind) (prompt : String) (options : List String)
    (minConfidence minMargin : Rat) : Raises Question :=
  if bare : kind = .noul → options = [] then
    if decides : kind ≠ .noul → 2 ≤ options.length then
      if distinct : kind ≠ .noul → options.Nodup then
        if floor : 0 < minConfidence ∧ minConfidence ≤ 1 then
          .ok { id, kind, prompt, options, minConfidence, minMargin, bare, decides, distinct, floor }
        else raise .valueError "min_confidence must be in (0, 1]"
      else raise .valueError s!"question {Host.repr (.str id)} has duplicate options"
    else raise .valueError (s!"question {Host.repr (.str id)} of kind {kind.value} needs at " ++
      "least two options; with one there is nothing to decide")
  else raise .valueError "a Noul question has no options; it answers yes/no"

/-- A question passes the checks that it is made with. -/
theorem Question.make_eq (question : Question) :
    Question.make question.id question.kind question.prompt question.options question.minConfidence question.minMargin = .ok question := by
  rw [Question.make, dif_pos question.bare, dif_pos question.decides, dif_pos question.distinct, dif_pos question.floor]

def noul (id prompt : String) (minConfidence : Rat := defaultConfidence) : Raises Question :=
  Question.make id .noul prompt [] minConfidence defaultMargin

def choice (id prompt : String) (options : List String) (minConfidence : Rat := defaultConfidence)
    (minMargin : Rat := defaultMargin) : Raises Question :=
  Question.make id .choice prompt options minConfidence minMargin

/-- Levels in order are next to each other, so that a small gap between two of them says nothing. -/
def score (id prompt : String) (levels : List String) (minConfidence : Rat := defaultConfidence) : Raises Question :=
  Question.make id .score prompt levels minConfidence 0

end Making

/-! ### Shapes of a distribution -/

/-- How probable each answer is that was given any weight. -/
abbrev Distribution := Dict String Rat

namespace Distribution

/-- `probabilities.get(answer, 0.0)`. -/
def of (probabilities : Distribution) (answer : String) : Rat := (probabilities.get? answer).getD 0

/-- The first of the most probable answers. -/
def top? (probabilities : Distribution) : Option (String × Rat) := probabilities.entries.argmax Prod.snd

/-- Between the two most probable answers. -/
def gap (probabilities : Distribution) : Rat :=
  match probabilities.values.insertionSort (fun first second => second ≤ first) with
  | first :: second :: _ => first - second
  | _ => 0

def positive (probabilities : Distribution) : Distribution where
  entries := probabilities.entries.filter (fun entry => 0 < entry.2)
  distinct := probabilities.distinct.sublist (List.filter_sublist.map Prod.fst)

/-- `levels[0]`, `levels[1:-1]` and `levels[-1]`, where there are three levels. -/
def ends : List String → Option (String × List String × String)
  | first :: second :: third :: rest =>
    some (first, (second :: third :: rest).dropLast, (third :: rest).getLast (List.cons_ne_nil third rest))
  | _ => none

/-- Mass at both ends, and little in between. -/
def isBimodal (probabilities : Distribution) (levels : List String) (threshold : Rat := 1 / 4) : Bool :=
  match ends levels with
  | none => false
  | some (first, middle, last) =>
    let lo := probabilities.of first
    let hi := probabilities.of last
    let mid := (middle.map probabilities.of).sum
    threshold ≤ lo && threshold ≤ hi && mid < max lo hi

/-- `{l: i for i, l in enumerate(levels)}`. -/
def indexed (levels : List String) : Dict String Nat :=
  levels.zipIdx.foldl (fun index entry => index.set entry.1 entry.2) {}

/-- Most of the mass is next to the most probable level, or there is mass at both ends. -/
def interpretable (probabilities : Distribution) (levels : List String) (floor : Rat) : Bool :=
  if probabilities.entries.isEmpty || levels.isEmpty then false
  else if probabilities.isBimodal levels then true
  else
    match probabilities.top?.bind (fun top => (indexed levels).get? top.1) with
    | none => false
    | some centre =>
      let near := probabilities.entries.filter (fun entry =>
        (((indexed levels).get? entry.1).map (fun place : Nat => decide ((place - centre : Int).natAbs ≤ 1))).getD false)
      floor ≤ (near.map Prod.snd).sum

end Distribution

/-! ### Verdicts -/

structure Verdict where
  questionId : String
  kind : QuestionKind
  /-- None where the verdict abstains. -/
  probabilities : Distribution := {}
  tier : Tier := .none
  abstained : Bool := true
  reason : String := "no backend answered"
  micros : Nat := 0

namespace Verdict

def answer (verdict : Verdict) : Option String :=
  if verdict.abstained then none else verdict.probabilities.top?.map Prod.fst

def confidence (verdict : Verdict) : Rat :=
  if verdict.abstained then 0 else (verdict.probabilities.top?.map Prod.snd).getD 0

def margin (verdict : Verdict) : Rat := verdict.probabilities.gap

/-- The expected level of a score. -/
def expected [Host] (verdict : Verdict) (levels : List String) : Raises (Option Rat) :=
  if verdict.kind ≠ .score then raise .typeError s!"{Host.repr (.str verdict.questionId)} is not a Score"
  else if verdict.abstained || verdict.probabilities.entries.isEmpty then return none
  else
    let total := (levels.map verdict.probabilities.of).sum
    if total ≤ 0 then return none
    else return some ((levels.zipIdx.map (fun entry => (entry.2 : Rat) * verdict.probabilities.of entry.1)).sum / total)

def bimodal (verdict : Verdict) (levels : List String) (threshold : Rat := 1 / 4) : Bool :=
  if verdict.kind ≠ .score || verdict.abstained then false else verdict.probabilities.isBimodal levels threshold

def abstain (question : Question) (reason : String) (tier : Tier := .none) (micros : Nat := 0) : Verdict where
  questionId := question.id
  kind := question.kind
  probabilities := {}
  tier := tier
  abstained := true
  reason := reason
  micros := micros

variable [Host]

/-- `list(texts)` in an f-string. -/
def listed (texts : List String) : String := Host.repr (.list (texts.map Json.str))

/-- Why the thresholds of a question refuse a distribution that adds up to one. -/
def objection? (question : Question) (clean : Distribution) : Option String :=
  let top := (clean.top?.map Prod.snd).getD 0
  if question.kind = .score && !clean.interpretable question.options question.minConfidence then
    some (s!"distribution is neither concentrated (>= {fixed 2 question.minConfidence} within one level of the " ++
      s!"top) nor bimodal; a flat spread over {listed question.options} carries no usable severity")
  else if question.kind ≠ .score && top < question.minConfidence then
    some s!"confidence {fixed 3 top} below floor {fixed 2 question.minConfidence}"
  else if 2 ≤ clean.size && 0 < question.minMargin && clean.gap < question.minMargin then
    some (s!"margin {fixed 3 clean.gap} below floor {fixed 2 question.minMargin}; " ++
      "the top answer is the least unconfident one, not a confident one")
  else none

/-- A verdict with an answer, if what a backend says passes the thresholds of the question. -/
def answered (question : Question) (probabilities : Distribution) (tier : Tier) (micros : Nat := 0) : Verdict :=
  let unknown := probabilities.keys.filter (fun answer => answer ∉ question.answerSet)
  if unknown ≠ [] then
    abstain question s!"backend returned answers outside the question's set: {listed (unknown.insertionSort (· ≤ ·))}" tier micros
  else
    let total := probabilities.positive.values.sum
    if total ≤ 0 then abstain question "backend returned no mass" tier micros
    else
      let clean := probabilities.positive.mapValues (· / total)
      match objection? question clean with
      | some reason => abstain question reason tier micros
      | none => {
          questionId := question.id, kind := question.kind, probabilities := clean, tier, abstained := false
          reason := "", micros }

/-- What goes into the record of a decision. -/
def toObservation (verdict : Verdict) : Json := .dict [
  ("questionId", .str verdict.questionId), ("kind", .str verdict.kind.value), ("tier", .str verdict.tier.value),
  ("abstained", .bool verdict.abstained), ("answer", (verdict.answer.map Json.str).getD .null),
  ("confidence", .float (.finite (rounded 4 verdict.confidence))),
  ("margin", .float (.finite (rounded 4 verdict.margin))), ("micros", .int verdict.micros),
  ("reason", if verdict.reason = "" then .null else .str verdict.reason), ("tainted", .bool true)]

end Verdict

/-! ### Advice

What a classifier can say to a gateway: which of several routes it prefers, and
whether to look harder. Neither is about what is permitted. -/

inductive Scrutiny where
  | normal | elevated
deriving DecidableEq, Repr

structure Advice where
  /-- The name of a route. -/
  route : Option String := none
  scrutiny : Scrutiny := .normal
  /-- For the record of the decision. -/
  observations : List Json := []

/-- Of several verdicts on a question, the last one stands. -/
def byId (verdicts : List Verdict) : Dict String Verdict :=
  verdicts.foldl (fun dict verdict => dict.set verdict.questionId verdict) {}

variable [Host]

/-- How hard a verdict on the risk says to look. -/
def scrutinyOf (risk : Option Verdict) (levels : List String) (elevateAt : Rat) : Raises Scrutiny :=
  match risk with
  | none => .ok .normal
  | some risk =>
    if risk.abstained then .ok .normal
    -- split between the extremes, which is no reason to save
    else if risk.bimodal levels then .ok .elevated
    else do
      let expected ← risk.expected levels
      return match expected with
      | none => .normal
      | some expected => if elevateAt ≤ expected then .elevated else .normal

def advise (verdicts : List Verdict) (routeQuestion : String := "complexity") (riskQuestion : String := "risk")
    (riskLevels : List String := ["low", "medium", "high", "critical"]) (elevateAt : Rat := 2) : Advice :=
  let observations := (byId verdicts).values.map Verdict.toObservation
  match scrutinyOf ((byId verdicts).get? riskQuestion) riskLevels elevateAt with
  -- a question of another kind has the id; nothing else is raised
  | .error _ => { observations }
  | .ok scrutiny =>
    let route := ((byId verdicts).get? routeQuestion).bind (fun complexity =>
      if complexity.abstained then none else complexity.answer)
    { route, scrutiny, observations }

end Xcp.Engine
