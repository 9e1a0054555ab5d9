import Xcp.Engine.Features
import Xcp.Engine.Questions
import Xcp.Library.StableSort

/-! Tiers that are asked in the order of what they cost, within a budget, until one of
them answers; and a cache of what came of that. -/

namespace Xcp.Engine
open Checked Python

/-! ### Tiers -/

/-- A tier, with what `_answer` gives or raises. -/
structure Backend where
  tier : Tier
  /-- What it is taken to cost, before it runs. -/
  typicalMicros : Int
  name : String
  available : Bool
  answer : String → Question → Raises Verdict

/-- A question that runs for `took` microseconds if it is put at all. -/
def Backend.ask (backend : Backend) (features : String) (question : Question) (remaining : Int) (took : Nat) : Verdict :=
  if !backend.available then .abstain question s!"{backend.name} unavailable" backend.tier
  else if remaining < backend.typicalMicros then
    .abstain question (s!"{backend.name} typically costs {backend.typicalMicros}us and " ++ s!"{remaining}us of budget remain")
      backend.tier
  else
    match backend.answer features question with
    | .error error => .abstain question s!"{backend.name} raised {error.kind.className}: {error.text}" backend.tier took
    | .ok verdict => { verdict with micros := took }

structure Rule where
  questionId : String
  predicate : String → Bool
  answer : String

namespace Deterministic
variable [Host]

/-- The first rule that is about the question and holds of the features. -/
def rule? (rules : List Rule) (features : String) (question : Question) : Option Rule :=
  rules.find? (fun rule => rule.questionId = question.id && rule.predicate features)

def certain (answer : String) : Distribution where
  entries := [(answer, 1)]

omit [Host] in
/-- All of the mass is next to the one answer. -/
theorem certain_interpretable {levels : List String} (distinct : levels.Nodup) {answer : String} (offered : answer ∈ levels)
    {floor : Rat} (low : floor ≤ 1) : (certain answer).interpretable levels floor = true := by
  have some : ((certain answer).entries.isEmpty || levels.isEmpty) = false := by
    cases levels with
    | nil => cases offered
    | cons => rfl
  obtain ⟨place, inside⟩ : ∃ place, (answer, place) ∈ levels.zipIdx := by
    have listed := List.zipIdx_map_fst 0 levels ▸ offered
    obtain ⟨⟨level, place⟩, inside, rfl⟩ := List.mem_map.mp listed
    exact ⟨place, inside⟩
  have index : (Distribution.indexed levels).get? answer = Option.some place :=
    Dict.get?_foldl_set_of_mem Prod.fst Prod.snd (by rwa [List.zipIdx_map_fst]) inside {}
  have top : (certain answer).top? = Option.some (answer, 1) := rfl
  rw [Distribution.interpretable, if_neg (by rw [some]; exact Bool.false_ne_true), top]
  split
  · rfl
  · simp only [Option.bind_some, index]
    simp [certain, index, low]

/-- A certain answer passes the thresholds of every question that has it. -/
theorem answered_certain {question : Question} {answer : String} (offered : answer ∈ question.answerSet) (tier : Tier)
    (micros : Nat := 0) :
    Verdict.answered question (certain answer) tier micros = {
      questionId := question.id, kind := question.kind, probabilities := certain answer, tier, abstained := false, reason := ""
      micros } := by
  have known : (certain answer).keys.filter (fun answer => answer ∉ question.answerSet) = [] := by
    simp [Dict.keys, certain, offered]
  have positive : (certain answer).positive = certain answer := by simp [Distribution.positive, certain]
  have total : (certain answer).values.sum = 1 := by simp [Dict.values, certain]
  have clean : (certain answer).mapValues (· / 1) = certain answer := by simp [Dict.mapValues, certain]
  have passes : Verdict.objection? question (certain answer) = none := by
    have top : (certain answer).top? = some (answer, 1) := rfl
    have usable : question.kind = .score → (certain answer).interpretable question.options question.minConfidence = true := by
      intro kind
      apply certain_interpretable (question.distinct (by simp [kind])) _ question.floor.2
      simpa [Question.answerSet, kind] using offered
    have single : (certain answer).size = 1 := rfl
    have high : ¬ (1 : Rat) < question.minConfidence := not_lt.mpr question.floor.2
    rw [Verdict.objection?, top, single]
    by_cases kind : question.kind = .score
    · simp [kind, usable kind]
    · simp [kind, high]
  rw [Verdict.answered]
  dsimp only
  rw [if_neg (not_not.mpr known), positive, total, if_neg (by norm_num), clean, passes]

def answer (rules : List Rule) (features : String) (question : Question) : Verdict :=
  match rule? rules features question with
  | none => .abstain question "no rule matched" .deterministic
  | some rule =>
    if rule.answer ∉ question.answerSet then
      .abstain question (s!"rule for {Host.repr (.str rule.questionId)} answers {Host.repr (.str rule.answer)}, which is not in " ++
        Verdict.listed question.answerSet) .deterministic
    else .answered question (certain rule.answer) .deterministic

/-- Tier 0, of rules that are exact. -/
def backend (rules : List Rule) : Backend where
  tier := .deterministic
  typicalMicros := 2
  name := "deterministic"
  available := !rules.isEmpty
  answer := fun features question => .ok (answer rules features question)

end Deterministic

/-! ### The cascade -/

structure CascadeStats where
  asked : Nat := 0
  answered : Nat := 0
  abstained : Nat := 0
  cacheHits : Nat := 0
  microsTotal : Nat := 0
  byTier : Dict String Nat := {}

def CascadeStats.record (stats : CascadeStats) (verdict : Verdict) (cached : Bool) : CascadeStats where
  asked := stats.asked + 1
  microsTotal := stats.microsTotal + verdict.micros
  cacheHits := if cached then stats.cacheHits + 1 else stats.cacheHits
  abstained := if verdict.abstained then stats.abstained + 1 else stats.abstained
  answered := if verdict.abstained then stats.answered else stats.answered + 1
  byTier :=
    if verdict.abstained then stats.byTier
    else stats.byTier.set verdict.tier.value ((stats.byTier.get? verdict.tier.value).getD 0 + 1)

/-- The tiers are in the order of their cost. -/
structure Cascade where
  backends : List Backend
  ordered : StableSort.Ordered Backend.typicalMicros backends
  cacheSize : Int := 4096
  budgetMicros : Int := 2000
  cache : Dict String Verdict := {}
  stats : CascadeStats := {}

namespace Cascade

def make (backends : List Backend) (cacheSize : Int := 4096) (budgetMicros : Int := 2000) : Cascade where
  backends := StableSort.sort Backend.typicalMicros backends
  ordered := StableSort.sort_ordered backends
  cacheSize := cacheSize
  budgetMicros := budgetMicros

/-- One tier after the other, until one answers: its verdict, or why there is none, and what has been spent. -/
def consult (features : String) (question : Question) (budget : Int) :
    List Backend → (Nat → Nat) → Nat → List String → Verdict × Nat
  | [], _, spent, reasons =>
    (.abstain question (if reasons = [] then "no backends configured" else joinWith "; " reasons) .none spent, spent)
  | backend :: rest, took, spent, reasons =>
    let verdict := backend.ask features question (max 0 (budget - spent)) (took 0)
    let spent := spent + verdict.micros
    if !verdict.abstained then (verdict, spent)
    else consult features question budget rest (fun place => took (place + 1)) spent
      (reasons ++ [s!"{backend.name}: {verdict.reason}"])

/-- What the tiers give for a question, if one is put to them. -/
def uncached (cascade : Cascade) (features : String) (question : Question) (budget : Int) (took : Nat → Nat) : Verdict × Nat :=
  consult features question budget cascade.backends took 0 []

/-- A verdict is stored, and the oldest go until the cache is small enough. A size below zero is never reached. -/
def store (cascade : Cascade) (key : String) (verdict : Verdict) : Raises Unit × Cascade :=
  let cache := cascade.cache.set key verdict
  if cascade.cacheSize < 0 then (raise .keyError "'dictionary is empty'", { cascade with cache := {} })
  else (.ok (), { cascade with cache := {
    entries := cache.entries.drop (cache.size - cascade.cacheSize.toNat)
    distinct := cache.distinct.sublist ((List.drop_sublist _ _).map Prod.fst) } })

def recorded (cascade : Cascade) (verdict : Verdict) (cached : Bool) : Cascade :=
  { cascade with stats := cascade.stats.record verdict cached }

/-- A verdict from the cache. -/
def served (verdict : Verdict) : Verdict := { verdict with tier := .cached, micros := 0 }

/-- The turn of a question: its verdict, and what is left of the budget. -/
def turn (cascade : Cascade) (features : String) (question : Question) (budget : Int) (took : Nat → Nat) :
    Raises (Verdict × Int) × Cascade :=
  let key := cacheKey features [question.id]
  let held := if cascade.cacheSize = 0 then none else cascade.cache.get? key
  match held with
  | some verdict =>
    let cascade := { cascade with cache := (cascade.cache.moveToEnd key).getD cascade.cache }
    (.ok (served verdict, budget), cascade.recorded (served verdict) true)
  | none =>
    let (verdict, spent) := cascade.uncached features question budget took
    let result : Raises Unit × Cascade := if cascade.cacheSize = 0 then (.ok (), cascade) else cascade.store key verdict
    match result with
    | (.error error, cascade) => (.error error, cascade)
    | (.ok _, cascade) => (.ok (verdict, max 0 (budget - spent)), cascade.recorded verdict false)

def askRounds (features : String) : List Question → Int → (Nat → Nat → Nat) → Cascade → Raises (List Verdict) × Cascade
  | [], _, _, cascade => (.ok [], cascade)
  | question :: rest, budget, took, cascade =>
    match cascade.turn features question budget (took 0) with
    | (.error error, cascade) => (.error error, cascade)
    | (.ok (verdict, left), cascade) =>
      let (others, cascade) := askRounds features rest left (fun round => took (round + 1)) cascade
      ((fun others => verdict :: others) <$> others, cascade)

/-- A verdict for each question. The tiers take as long for a question as `took` says for its place. -/
def ask (cascade : Cascade) (features : String) (questions : List Question) (budget : Option Int) (took : Nat → Nat → Nat) :
    Raises (List Verdict) × Cascade :=
  askRounds features questions (budget.getD cascade.budgetMicros) took cascade

end Cascade

/-! ### Rules

The questions that are put to every request, and the rules that answer some of them. -/

def complexityLevels : List String := ["simple", "medium", "complex", "reasoning"]

/-- Of severity, in order. -/
def riskLevels : List String := ["low", "medium", "high", "critical"]

def complexityQuestion : Question where
  id := "complexity"
  kind := .choice
  prompt := "How much capability does servicing this request actually require?"
  options := complexityLevels
  bare := by decide
  decides := by decide
  distinct := by decide
  floor := defaultConfidence_floor

def riskQuestion : Question where
  id := "risk"
  kind := .score
  prompt := "How much damage could this request do if it were malicious or malformed?"
  options := riskLevels
  minMargin := 0
  bare := by decide
  decides := by decide
  distinct := by decide
  floor := defaultConfidence_floor

def standardQuestions : List Question := [complexityQuestion, riskQuestion]

/-- `token in features`. -/
def has (token features : String) : Bool := containsText features token

def hasAny (tokens : List String) (features : String) : Bool := tokens.any (fun token => has token features)

def listScopes : List String := ["scp:mcp:tools/list", "scp:mcp:resources/list", "scp:mcp:prompts/list", "scp:mcp:tasks/list"]

/-- Arguments that are named like a command, with a string. -/
def commandArguments : List String := ["cmd:str", "command:str", "script:str", "shell:str", "exec:str"]

/-- Lists are read only; what names a command is the riskiest. -/
def defaultRules : List Rule := [
  { questionId := "complexity", predicate := hasAny listScopes, answer := "simple" },
  { questionId := "risk", predicate := hasAny listScopes, answer := "low" },
  { questionId := "risk", predicate := hasAny commandArguments, answer := "critical" }]

section Classifying
variable [Host]

theorem choice_complexity : choice "complexity" "How much capability does servicing this request actually require?" complexityLevels =
    .ok complexityQuestion :=
  Question.make_eq complexityQuestion

theorem score_risk : score "risk" "How much damage could this request do if it were malicious or malformed?" riskLevels =
    .ok riskQuestion :=
  Question.make_eq riskQuestion

/-- A request to classify. -/
structure Request where
  server : String := ""
  tool : String := ""
  method : String := ""
  scope : String := ""
  arguments : Json := .null
  tier : String := ""

def Request.features (request : Request) : String :=
  extract request.server request.tool request.method request.scope request.arguments request.tier

/-- Advice on a request. What is raised on the way leaves nothing to say. -/
def classify (cascade : Cascade) (request : Request) (questions : List Question) (budget : Option Int)
    (took : Nat → Nat → Nat) : Advice × Cascade :=
  match cascade.ask request.features questions budget took with
  | (.error _, cascade) => ({}, cascade)
  | (.ok verdicts, cascade) => (advise verdicts "complexity" "risk" riskLevels, cascade)

end Classifying

end Xcp.Engine
