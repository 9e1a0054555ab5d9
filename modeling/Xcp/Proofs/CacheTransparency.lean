import Xcp.Library.Ideal
import Xcp.Proofs.Visits

/-! When the cache of a cascade does not show. What it holds for a key is what came of
the last question with that key that the tiers were asked. -/

namespace Xcp.Engine
open Checked Python Thrift

/-! ### What the cache holds -/

/-- The last visit with a key that put something into the cache. -/
def storedAt (visits : List Visit) (key : String) : Option Visit :=
  visits.reverse.find? (fun visit => visit.stores && visit.key = key)

theorem storedAt_append (visits : List Visit) (visit : Visit) (key : String) :
    storedAt (visits ++ [visit]) key = if visit.stores && visit.key = key then some visit else storedAt visits key := by
  rw [storedAt, List.reverse_append, List.reverse_singleton, List.singleton_append, List.find?_cons]
  split <;> simp_all [storedAt]

/-- What the cache holds is what came of the last visit with the key that put something there. -/
def Recalls (visits : List Visit) (cascade : Cascade) : Prop :=
  ∀ key verdict, cascade.cache.get? key = some verdict → ∃ source, storedAt visits key = some source ∧ verdict = source.uncached

/-- A cache that holds no more than another one. -/
theorem Recalls.mono {visits : List Visit} {cascade other : Cascade} (recalls : Recalls visits cascade)
    (fewer : ∀ key verdict, other.cache.get? key = some verdict → cascade.cache.get? key = some verdict) : Recalls visits other :=
  fun key verdict held => recalls key verdict (fewer key verdict held)

theorem store_get? {cascade : Cascade} {key other : String} {verdict held : Verdict}
    (found : (cascade.store key verdict).2.cache.get? other = some held) :
    (cascade.cache.set key verdict).get? other = some held := by
  rw [Cascade.store] at found
  split at found
  · cases found
  · rw [← Dict.mem_entries] at found ⊢
    exact (List.drop_sublist _ _).subset found

namespace Visit

/-- A question that the cache holds gets what it holds. -/
theorem turn_of_hit {visit : Visit} {verdict : Verdict} (hit : visit.hit? = some verdict) :
    visit.turn.1 = .ok (Cascade.served verdict, visit.left) ∧
      visit.turn.2.cache = (visit.cascade.cache.moveToEnd visit.key).getD visit.cascade.cache := by
  rw [hit?, key] at hit
  simp only [turn, Cascade.turn, hit]
  exact ⟨trivial, rfl⟩

/-- Another question gets what the tiers give, which is stored if there is a cache. -/
theorem turn_of_miss {visit : Visit} (miss : visit.hit? = none) :
    visit.turn.2.cache = (if visit.stores then (visit.cascade.store visit.key visit.uncached).2 else visit.cascade).cache := by
  have stores : visit.stores = decide (visit.cascade.cacheSize ≠ 0) := by simp [Visit.stores, miss]
  rw [stores]
  rw [hit?, key] at miss
  simp only [turn, Cascade.turn, miss]
  by_cases none : visit.cascade.cacheSize = 0
  · simp [none, Cascade.recorded]
  · simp only [none, if_false, ne_eq, not_false_eq_true, decide_true, if_true]
    split
    next stops => exact congrArg (fun result => result.2.cache) stops.symm
    next done => exact congrArg (fun result => result.2.cache) done.symm

/-- A visit leaves the cache alone, or stores what came of it. -/
theorem turn_cache {visit : Visit} {name : String} {verdict : Verdict} (held : visit.turn.2.cache.get? name = some verdict) :
    if visit.stores && visit.key = name then verdict = visit.uncached else visit.cascade.cache.get? name = some verdict := by
  cases hit : visit.hit? with
  | some found =>
    have stores : visit.stores = false := by simp [Visit.stores, hit]
    rw [(turn_of_hit hit).2] at held
    rw [stores, Bool.false_and, if_neg Bool.false_ne_true]
    cases moved : visit.cascade.cache.moveToEnd visit.key with
    | none => simpa [moved] using held
    | some cache =>
      rw [moved, Option.getD_some, Dict.get?_moveToEnd moved] at held
      exact held
  | none =>
    rw [turn_of_miss hit] at held
    cases stores : visit.stores
    · rw [stores, if_neg Bool.false_ne_true] at held
      rw [Bool.false_and, if_neg Bool.false_ne_true]
      exact held
    · rw [stores, if_pos rfl] at held
      have put := store_get? held
      rw [Dict.get?_set] at put
      by_cases same : name = visit.key
      · rw [if_pos same] at put
        simp [same, Option.some.inj put]
      · rw [if_neg same] at put
        simpa [Ne.symm same] using put

end Visit

/-- The step: a visit more, and the cache after it. -/
theorem Recalls.turn {visits : List Visit} (visit : Visit) (recalls : Recalls visits visit.cascade) :
    Recalls (visits ++ [visit]) visit.turn.2 := by
  intro key verdict held
  have before := Visit.turn_cache held
  rw [storedAt_append]
  split at before
  next stored =>
    rw [if_pos stored]
    exact ⟨visit, rfl, before⟩
  next other =>
    rw [if_neg other]
    exact recalls key verdict before

/-- Each visit finds a cache that recalls the visits before it. -/
def Kept : List Visit → List Visit → Prop
  | _, [] => True
  | earlier, visit :: rest => Recalls earlier visit.cascade ∧ Kept (earlier ++ [visit]) rest

theorem Kept.append {earlier first second : List Visit} (kept : Kept earlier first) (later : Kept (earlier ++ first) second) :
    Kept earlier (first ++ second) := by
  induction first generalizing earlier with
  | nil => rwa [List.append_nil] at later
  | cons visit rest ih =>
    refine ⟨kept.1, ih kept.2 ?_⟩
    rwa [List.append_assoc, List.singleton_append]

theorem Kept.recalls {earlier before after : List Visit} {visit : Visit} (kept : Kept earlier (before ++ visit :: after)) :
    Recalls (earlier ++ before) visit.cascade := by
  induction before generalizing earlier with
  | nil =>
    rw [List.append_nil]
    exact kept.1
  | cons first rest ih =>
    have later := ih kept.2
    rwa [List.append_assoc, List.singleton_append] at later

/-- What a question gets from the cache. -/
theorem Kept.held {before after : List Visit} {visit : Visit} {held : Verdict} (kept : Kept [] (before ++ visit :: after))
    (hit : visit.hit? = some held) : ∃ source, storedAt before visit.key = some source ∧ held = source.uncached := by
  have inside : visit.cascade.cache.get? visit.key = some held := by
    rw [Visit.hit?] at hit
    split at hit
    · cases hit
    · exact hit
  exact kept.recalls visit.key held inside

/-- The run of a call. -/
theorem visitsOf_kept {earlier : List Visit} {features : String} {questions : List Question} {left : Int}
    {took : Nat → Nat → Nat} {cascade : Cascade} (recalls : Recalls earlier cascade) :
    Kept earlier (visitsOf features questions left took cascade) ∧
      Recalls (earlier ++ visitsOf features questions left took cascade) (Cascade.askRounds features questions left took cascade).2 := by
  induction questions generalizing earlier left took cascade with
  | nil =>
    rw [visitsOf, Cascade.askRounds, List.append_nil]
    exact ⟨trivial, recalls⟩
  | cons question rest ih =>
    have next := Recalls.turn { cascade, features, question, left, took := took 0 } recalls
    rw [visitsOf, Cascade.askRounds]
    dsimp only [Visit.turn] at next ⊢
    rcases goes : cascade.turn features question left (took 0) with ⟨_ | ⟨verdict, less⟩, later⟩
    · rw [goes] at next
      exact ⟨⟨recalls, trivial⟩, next⟩
    · rw [goes] at next
      obtain ⟨kept, after⟩ := ih next
      rw [List.append_assoc, List.singleton_append] at after
      exact ⟨⟨recalls, kept⟩, after⟩

/-- The run of a sequence of calls. -/
theorem history_kept {earlier : List Visit} {calls : List Call} {cascade : Cascade} (recalls : Recalls earlier cascade) :
    Kept earlier (history calls cascade) := by
  induction calls generalizing earlier cascade with
  | nil => exact trivial
  | cons call rest ih =>
    obtain ⟨kept, after⟩ := visitsOf_kept recalls
    exact kept.append (ih after)

theorem history_kept_make (backends : List Backend) (cacheSize budgetMicros : Int) (calls : List Call) :
    Kept [] (history calls (.make backends cacheSize budgetMicros)) := by
  apply history_kept
  intro key verdict held
  cases held

/-! ### A cache that does not show -/

/-- What a verdict answers. -/
def Verdict.reply (verdict : Verdict) : Option Distribution := if verdict.abstained then none else some verdict.probabilities

/-- What the first tier that answers says. -/
def Visit.decision (visit : Visit) : Option Distribution := visit.decider?.map (fun found => found.value.probabilities)

/-- The first tier that answers is affordable at both visits, and says the same; or it is at neither. -/
def RepliesAlike (first second : Visit) : Prop :=
  (first.Affords ↔ second.Affords) ∧ (first.Affords → first.decision = second.decision)

/-- Every question that the cache answers is answered as the tiers would. -/
def Transparent (visits : List Visit) : Prop :=
  ∀ visit ∈ visits, visit.hit?.isSome → ∃ verdict, visit.given = .ok verdict ∧ verdict.reply = visit.uncached.reply

/-- Every question that the cache answers is like the one whose answer it holds. -/
def Steady (visits : List Visit) : Prop :=
  ∀ before visit after, visits = before ++ visit :: after → visit.hit?.isSome →
    ∀ source, storedAt before visit.key = some source → RepliesAlike source visit

/-- What the tiers give is what the first one that answers says, if that is affordable. -/
theorem Visit.uncached_reply (visit : Visit) :
    (visit.Affords → visit.uncached.reply = visit.decision ∧ visit.decision.isSome) ∧ (¬ visit.Affords → visit.uncached.reply = none) := by
  have came := visit.uncached_cameOf
  rw [decision, Affords]
  cases decides : visit.decider? with
  | none =>
    rw [decides] at came
    refine ⟨fun ⟨_, found, _⟩ => (Option.some_ne_none _ found.symm).elim, fun _ => ?_⟩
    rw [Verdict.reply, if_pos came.1]
  | some found =>
    rw [decides] at came
    by_cases enough : found.source.typicalMicros ≤ max 0 (visit.left - found.before)
    · have cheap : Found.affordable Backend.typicalMicros visit.left found = true := decide_eq_true enough
      rw [Option.filter_some_pos cheap] at came
      refine ⟨fun _ => ⟨?_, rfl⟩, fun dear => (dear ⟨found, rfl, enough⟩).elim⟩
      rw [Verdict.reply, came.1]
      simp [came.2]
    · have dear : Found.affordable Backend.typicalMicros visit.left found = false := decide_eq_false enough
      rw [Option.filter_some_neg dear] at came
      refine ⟨?_, fun _ => by rw [Verdict.reply, if_pos came.1]⟩
      intro ⟨other, same, cheap⟩
      exact (enough (Option.some.inj same ▸ cheap)).elim

theorem reply_eq_iff (first second : Visit) : first.uncached.reply = second.uncached.reply ↔ RepliesAlike first second := by
  obtain ⟨one, other⟩ := first.uncached_reply
  obtain ⟨one', other'⟩ := second.uncached_reply
  rw [RepliesAlike]
  by_cases affords : first.Affords
  · rw [(one affords).1]
    by_cases affords' : second.Affords
    · rw [(one' affords').1]
      simp [affords, affords']
    · have some := (one affords).2
      rw [other' affords']
      simp [affords, affords', Option.isSome_iff_ne_none.mp some]
  · rw [other affords]
    by_cases affords' : second.Affords
    · have some := (one' affords').2
      rw [(one' affords').1]
      simp [affords, affords', (Option.isSome_iff_ne_none.mp some).symm]
    · rw [other' affords']
      simp [affords, affords']

/-- What the cache answers was put there at an earlier visit, and is transparent if that one is like this. -/
theorem given_iff {visits before after : List Visit} {visit : Visit} (kept : Kept [] visits) (split : visits = before ++ visit :: after)
    (hit : visit.hit?.isSome) : ∃ source, storedAt before visit.key = some source ∧
      ((∃ verdict, visit.given = .ok verdict ∧ verdict.reply = visit.uncached.reply) ↔ RepliesAlike source visit) := by
  obtain ⟨held, found⟩ := Option.isSome_iff_exists.mp hit
  rw [split] at kept
  obtain ⟨source, stored, rfl⟩ := kept.held found
  refine ⟨source, stored, ?_⟩
  have given : visit.given = .ok (Cascade.served source.uncached) := by
    rw [Visit.given, (Visit.turn_of_hit found).1]
    rfl
  rw [given, ← reply_eq_iff]
  simp only [Except.ok.injEq, exists_eq_left']
  rfl

/-- A cache is transparent in a run exactly if it answers only questions that are like those it has its answers from. -/
theorem transparent_iff (backends : List Backend) (cacheSize budgetMicros : Int) (calls : List Call) :
    Transparent (history calls (.make backends cacheSize budgetMicros)) ↔ Steady (history calls (.make backends cacheSize budgetMicros)) := by
  have kept := history_kept_make backends cacheSize budgetMicros calls
  generalize history calls (.make backends cacheSize budgetMicros) = visits at kept
  constructor
  · intro transparent before visit after split hit source stored
    obtain ⟨other, found, alike⟩ := given_iff kept split hit
    obtain rfl : source = other := Option.some.inj (stored.symm.trans found)
    exact alike.mp (transparent visit (by simp [split]) hit)
  · intro steady visit member hit
    obtain ⟨before, after, split⟩ := List.append_of_mem member
    obtain ⟨source, stored, alike⟩ := given_iff kept split hit
    exact alike.mpr (steady before visit after split hit source stored)

/-! ### A cascade at hand -/

section Sample
local instance listHost : Host := decimalHost []

/-- A question about a list, which a rule answers. -/
def listCall (budget : Option Int) : Call where
  features := "mth:tools/list scp:mcp:tools/list"
  questions := [complexityQuestion]
  budget := budget
  took := fun _ _ => 1

def rulesOnly : Cascade := .make [Deterministic.backend defaultRules]

/-- The question after one that had no budget. -/
def starved : Visit where
  cascade := (listCall (some 0)).after rulesOnly
  features := "mth:tools/list scp:mcp:tools/list"
  question := complexityQuestion
  left := 2000
  took := fun _ => 1

/-- A question that had no budget is not answered, nor is it later with one. -/
theorem starved_stays : ¬ Transparent (history [listCall (some 0), listCall none] rulesOnly) := by
  intro transparent
  have visited : starved ∈ history [listCall (some 0), listCall none] rulesOnly := by
    apply List.mem_append_right
    exact List.mem_append_left _ (List.mem_cons_self ..)
  have hit : starved.hit?.isSome = true := by decide +kernel
  have silent : (starved.given.toOption.bind Verdict.reply).isNone = true := by decide +kernel
  have known : starved.uncached.reply.isSome = true := by decide +kernel
  obtain ⟨verdict, given, reply⟩ := transparent starved visited hit
  rw [given] at silent
  replace silent : verdict.reply = none := Option.isNone_iff_eq_none.mp silent
  rw [← reply, silent] at known
  cases known

end Sample

end Xcp.Engine
