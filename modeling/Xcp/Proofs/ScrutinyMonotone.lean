import Xcp.Engine.Cascade
import Xcp.Library.Ideal
import Xcp.Library.Dominance
import Mathlib.Algebra.BigOperators.Ring.List

/-! When more risk means at least as much scrutiny. The expected severity grows with
the risk, but a distribution that is split between the ends can be elevated for
that alone, and one that dominates it need not be split. -/

namespace Xcp.Engine
open Checked Python Dominance

/-! ### Distributions over levels -/

namespace Distribution

/-- The weights of levels that have all answers among them are all the weight there is. -/
theorem sum_of {levels : List String} (distinct : levels.Nodup) (probabilities : Distribution)
    (known : ∀ answer ∈ probabilities.keys, answer ∈ levels) : (levels.map probabilities.of).sum = probabilities.values.sum := by
  obtain ⟨entries, single⟩ := probabilities
  change (levels.map (fun level => (Dict.look level entries).getD 0)).sum = (entries.map Prod.snd).sum
  replace known : ∀ answer ∈ entries.map Prod.fst, answer ∈ levels := known
  induction entries with
  | nil => simp [Dict.look]
  | cons entry rest ih =>
    rw [List.map_cons, List.nodup_cons] at single
    rw [List.map_cons, List.forall_mem_cons] at known
    have later := ih single.2 known.2
    have apart : ∀ level ∈ levels, (Dict.look level (entry :: rest)).getD 0 =
        (if level = entry.1 then entry.2 else 0) + (Dict.look level rest).getD 0 := by
      intro level _
      rw [Dict.look]
      split
      next here => simp [here, Dict.look_of_not_mem single.1]
      next => simp
    have once : (levels.map (fun level => if level = entry.1 then entry.2 else 0)).sum = entry.2 := by
      rw [List.sum_map_ite_eq, List.count_eq_one_of_mem distinct known.1, one_nsmul, List.map_const', List.sum_replicate]
      simp
    rw [List.map_congr_left apart, List.sum_map_add, once, later, List.map_cons, List.sum_cons]

theorem ends_eq_some {levels middle : List String} {first last : String} (split : ends levels = some (first, middle, last)) :
    levels = first :: (middle ++ [last]) := by
  match levels with
  | lowest :: second :: third :: rest =>
    simp only [ends, Option.some.injEq, Prod.mk.injEq] at split
    obtain ⟨rfl, rfl, rfl⟩ := split
    rw [← List.getLast_cons (List.cons_ne_nil third rest) (a := second), List.dropLast_append_getLast]

/-- A quarter of the mass is on the lowest level, and less between the ends than on one of them. -/
def Split (levels : List String) (probabilities : Distribution) : Prop :=
  ∃ first middle last, ends levels = some (first, middle, last) ∧ 1 / 4 ≤ probabilities.of first ∧
    (middle.map probabilities.of).sum < max (probabilities.of first) (probabilities.of last)

theorem isBimodal_iff {levels : List String} {probabilities : Distribution} :
    probabilities.isBimodal levels = true ↔ ∃ first middle last, ends levels = some (first, middle, last) ∧
      1 / 4 ≤ probabilities.of first ∧ 1 / 4 ≤ probabilities.of last ∧
        (middle.map probabilities.of).sum < max (probabilities.of first) (probabilities.of last) := by
  rw [isBimodal]
  generalize ends levels = parts
  match parts with
  | none => simp
  | some (first, middle, last) => simp [and_assoc]

/-- The lowest level keeps the split where the highest has it already. -/
theorem bimodal_of_split {levels : List String} {first second : Distribution} (bimodal : first.isBimodal levels = true)
    (dominated : Dominated (levels.map first.of) (levels.map second.of)) (split : Split levels second) :
    second.isBimodal levels = true := by
  obtain ⟨lowest, middle, highest, parts, low, less⟩ := split
  obtain ⟨_, _, _, parts', _, high, _⟩ := isBimodal_iff.mp bimodal
  rw [parts, Option.some.injEq, Prod.mk.injEq, Prod.mk.injEq] at parts'
  obtain ⟨rfl, rfl, rfl⟩ := parts'
  refine isBimodal_iff.mpr ⟨lowest, middle, highest, parts, low, ?_, less⟩
  have above := dominated (middle.length + 1)
  rw [ends_eq_some parts] at above
  simp only [List.map_cons, List.map_append, List.map_nil, List.drop_succ_cons] at above
  rw [List.drop_left' (List.length_map _), List.drop_left' (List.length_map _)] at above
  exact high.trans (by simpa using above)

end Distribution

/-! ### Verdicts that answer -/

section Answering
variable [Host]

/-- What an answer of a verdict says, whatever made it and however long that took. -/
structure SameAnswer (first second : Verdict) : Prop where
  questionId : first.questionId = second.questionId
  kind : first.kind = second.kind
  probabilities : first.probabilities = second.probabilities
  abstained : first.abstained = second.abstained

/-- A verdict that passes the thresholds of its question. -/
def Answers (question : Question) (verdict : Verdict) : Prop :=
  ∃ probabilities tier micros, SameAnswer verdict (Verdict.answered question probabilities tier micros) ∧ verdict.abstained = false

theorem answered_eq {question : Question} {probabilities : Distribution} {tier : Tier} {micros : Nat}
    (answers : (Verdict.answered question probabilities tier micros).abstained = false) :
    (∀ answer ∈ probabilities.keys, answer ∈ question.answerSet) ∧ 0 < probabilities.positive.values.sum ∧
      Verdict.answered question probabilities tier micros = {
        questionId := question.id, kind := question.kind
        probabilities := probabilities.positive.mapValues (· / probabilities.positive.values.sum), tier, abstained := false
        reason := "", micros } := by
  rw [Verdict.answered] at answers ⊢
  dsimp only at answers ⊢
  split at answers
  next => cases answers
  next known =>
    rw [if_neg known]
    split at answers
    next => cases answers
    next positive =>
      rw [if_neg positive]
      split at answers
      next => cases answers
      next =>
        refine ⟨?_, not_le.mp positive, rfl⟩
        simpa [List.filter_eq_nil_iff] using known

/-- What a verdict that answers has been checked for. -/
structure Reading (question : Question) (verdict : Verdict) : Prop where
  questionId : verdict.questionId = question.id
  kind : verdict.kind = question.kind
  abstained : verdict.abstained = false
  known : ∀ answer ∈ verdict.probabilities.keys, answer ∈ question.answerSet
  total : verdict.probabilities.values.sum = 1

theorem Answers.reading {question : Question} {verdict : Verdict} (answers : Answers question verdict) : Reading question verdict := by
  obtain ⟨probabilities, tier, micros, same, settled⟩ := answers
  obtain ⟨known, positive, made⟩ := answered_eq (same.abstained.symm.trans settled)
  rw [made] at same
  refine ⟨same.questionId, same.kind, settled, ?_, ?_⟩
  · rw [same.probabilities]
    intro answer member
    apply known
    simp only [Dict.keys, Dict.mapValues, Distribution.positive, List.map_map] at member
    exact (List.filter_sublist.map Prod.fst).subset member
  · rw [same.probabilities]
    have values : (probabilities.positive.mapValues (· / probabilities.positive.values.sum)).values =
        probabilities.positive.values.map (· / probabilities.positive.values.sum) := by
      simp [Dict.values, Dict.mapValues]
    rw [values]
    simp only [div_eq_mul_inv]
    rw [List.sum_map_mul_right, List.map_id', mul_inv_cancel₀ positive.ne']

theorem Answers.alone {question : Question} {verdict : Verdict} (answers : Answers question verdict) :
    (byId [verdict]).get? question.id = some verdict := by
  rw [← answers.reading.questionId]
  simp [byId]

/-- The expected severity of a score. -/
def severity (question : Question) (verdict : Verdict) : Rat := moment (question.options.map verdict.probabilities.of)

theorem Reading.expected {question : Question} {verdict : Verdict} (kind : question.kind = .score) (reading : Reading question verdict) :
    verdict.expected question.options = .ok (some (severity question verdict)) := by
  have options : question.answerSet = question.options := by simp [Question.answerSet, kind]
  have total : (question.options.map verdict.probabilities.of).sum = 1 := by
    rw [Distribution.sum_of (question.distinct (by simp [kind])) _ (options ▸ reading.known), reading.total]
  have some : verdict.probabilities.entries.isEmpty = false := by
    rw [List.isEmpty_eq_false_iff]
    intro none
    have zero := reading.total
    rw [Dict.values, none] at zero
    cases zero
  rw [Verdict.expected, total, severity, moment, List.zipIdx_map, List.map_map]
  simp [reading.kind, kind, reading.abstained, some]
  rfl

/-- Scrutiny is elevated for a split, or for the expected severity. -/
theorem Reading.scrutinyOf {question : Question} {verdict : Verdict} (kind : question.kind = .score) (reading : Reading question verdict)
    (elevateAt : Rat) :
    scrutinyOf (some verdict) question.options elevateAt =
      .ok (if verdict.probabilities.isBimodal question.options = true ∨ elevateAt ≤ severity question verdict then .elevated
        else .normal) := by
  have split : verdict.bimodal question.options = verdict.probabilities.isBimodal question.options := by
    simp [Verdict.bimodal, reading.kind, kind, reading.abstained]
  rw [Engine.scrutinyOf, reading.abstained, split, reading.expected kind]
  by_cases bimodal : verdict.probabilities.isBimodal question.options = true
  · rw [if_neg Bool.false_ne_true, if_pos bimodal, if_pos (.inl bimodal)]
  · rw [if_neg Bool.false_ne_true, if_neg bimodal]
    simp only [bimodal, Bool.false_eq_true, false_or]
    rfl

theorem Reading.elevates {question : Question} {verdict : Verdict} {verdicts : List Verdict} (kind : question.kind = .score)
    (reading : Reading question verdict) (found : (byId verdicts).get? question.id = some verdict) (routeQuestion : String)
    (elevateAt : Rat) :
    (advise verdicts routeQuestion question.id question.options elevateAt).scrutiny = .elevated ↔
      verdict.probabilities.isBimodal question.options = true ∨ elevateAt ≤ severity question verdict := by
  rw [advise, found, reading.scrutinyOf kind]
  dsimp only
  split <;> simp_all

/-- A score that dominates another one is elevated if that one is, unless that one is elevated for being split only, and
the dominating one is neither severe enough nor split any more. -/
theorem elevated_of_dominated {question : Question} (kind : question.kind = .score) {first second : Verdict}
    (one : Answers question first) (other : Answers question second)
    (dominated : Dominated (question.options.map first.probabilities.of) (question.options.map second.probabilities.of))
    {firsts seconds : List Verdict} (given : (byId firsts).get? question.id = some first)
    (found : (byId seconds).get? question.id = some second) {routeQuestion : String} {elevateAt : Rat}
    (kept : elevateAt ≤ severity question first ∨ elevateAt ≤ severity question second ∨
      Distribution.Split question.options second.probabilities)
    (elevated : (advise firsts routeQuestion question.id question.options elevateAt).scrutiny = .elevated) :
    (advise seconds routeQuestion question.id question.options elevateAt).scrutiny = .elevated := by
  have severe : severity question first ≤ severity question second := moment_mono (by simp) dominated
  rw [other.reading.elevates kind found]
  rcases (one.reading.elevates kind given routeQuestion elevateAt).mp elevated with bimodal | reaches
  · rcases kept with reaches | reaches | split
    · exact .inr (reaches.trans severe)
    · exact .inr reaches
    · exact .inl (Distribution.bimodal_of_split bimodal dominated split)
  · exact .inr (reaches.trans severe)

end Answering

/-! ### Verdicts at hand -/

section Sample
local instance sampleHost : Host := decimalHost []

/-- A verdict on the risk, of a tier that says of two levels how likely they are. -/
def riskOf (first second : String) (weight : Rat) (differ : first ≠ second) : Verdict :=
  .answered riskQuestion { entries := [(first, weight), (second, 1 - weight)], distinct := by simpa using differ } .linear

theorem riskOf_answers {first second : String} {weight : Rat} {differ : first ≠ second}
    (settled : (riskOf first second weight differ).abstained = false) : Answers riskQuestion (riskOf first second weight differ) :=
  ⟨_, _, _, ⟨rfl, rfl, rfl, rfl⟩, settled⟩

def lowOrCritical : Verdict := riskOf "low" "critical" (7 / 10) (by decide)

def mediumOrCritical : Verdict := riskOf "medium" "critical" (7 / 10) (by decide)

def highOrCritical : Verdict := riskOf "high" "critical" (7 / 10) (by decide)

def mostlyCritical : Verdict := riskOf "high" "critical" (3 / 10) (by decide)

theorem critical_elevated : (advise [mostlyCritical]).scrutiny = .elevated := by
  have one : Answers riskQuestion highOrCritical := riskOf_answers (by decide +kernel)
  have other : Answers riskQuestion mostlyCritical := riskOf_answers (by decide +kernel)
  have dominated : Dominated (riskQuestion.options.map highOrCritical.probabilities.of)
      (riskQuestion.options.map mostlyCritical.probabilities.of) := by
    have weights : riskQuestion.options.map highOrCritical.probabilities.of = [0, 0, 7 / 10, 3 / 10] := by decide +kernel
    have others : riskQuestion.options.map mostlyCritical.probabilities.of = [0, 0, 3 / 10, 7 / 10] := by decide +kernel
    rw [weights, others]
    simp only [dominated_cons, dominated_nil]
    norm_num
  have severe : 2 ≤ severity riskQuestion highOrCritical := by decide +kernel
  have elevated : (advise [highOrCritical]).scrutiny = .elevated := by decide +kernel
  exact elevated_of_dominated rfl one other dominated one.alone other.alone (.inl severe) elevated

/-- The severity is what decides here, and the split of the first one is lost. -/
theorem split_lost : ∃ first second, Answers riskQuestion first ∧ Answers riskQuestion second ∧
    Dominated (riskLevels.map first.probabilities.of) (riskLevels.map second.probabilities.of) ∧
      (advise [first]).scrutiny = .elevated ∧ (advise [second]).scrutiny = .normal := by
  refine ⟨lowOrCritical, mediumOrCritical, ?_, ?_, ?_, ?_, ?_⟩
  · exact riskOf_answers (by decide +kernel)
  · exact riskOf_answers (by decide +kernel)
  · have weights : riskLevels.map lowOrCritical.probabilities.of = [7 / 10, 0, 0, 3 / 10] := by decide +kernel
    have others : riskLevels.map mediumOrCritical.probabilities.of = [0, 7 / 10, 0, 3 / 10] := by decide +kernel
    rw [weights, others]
    simp only [dominated_cons, dominated_nil]
    norm_num
  · decide +kernel
  · decide +kernel

end Sample

end Xcp.Engine
