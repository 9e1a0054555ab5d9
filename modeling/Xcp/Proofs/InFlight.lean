import Xcp.TrustFirewall.Limits

/-! What a refused call costs the others. The bucket of all callers is asked
before the caller's own limits are, and what it gave is not given back. -/

namespace Xcp.Limits.RateLimiter
open Transition TokenBucket

/-- Refused for a reason of the caller's own. -/
def PerCaller (decision : Decision) : Prop :=
  decision.allowed = false ∧ decision.limit ∈ ["rate", "concurrency", "body"]

def AtCapacity (decision : Decision) : Prop :=
  decision.limit = "global" ∧ decision.reason = "node is at capacity"

/-- What the bucket of all callers holds at a moment. -/
def shared (limiter : RateLimiter) (now : Rat) : Rat := limiter.globalBucket.refilled limiter.ceiling now

/-- A call that leaves the others what they would have had without it. -/
structure Harmless (limiter : RateLimiter) (call : Call) : Prop where
  shared : ∀ later, call.now ≤ later → (limiter.check call).1.shared later = limiter.shared later
  others : ∀ (events : List Event) (other : Call), AtCapacity ((run step (limiter.check call).1 events).check other).2 →
    AtCapacity ((run step limiter events).check other).2

/-- A call that is paid for from the bucket of all callers and then fails by its own limits. -/
structure PaidInVain (limiter : RateLimiter) (call : Call) : Prop where
  fits : call.bodyBytes ≤ call.allowance.maxBodyBytes
  paid : call.cost ≤ limiter.shared call.now
  room : limiter.globalInflight < limiter.ceiling.concurrency
  kept : (limiter.buckets.get? call.key).isSome ∨ limiter.busyCallers < limiter.maxTracked
  exceeds : call.allowance.concurrency ≤ (limiter.bucketFor call).inflight ∨
    (limiter.bucketFor call).refilled call.allowance call.now < call.cost

section Table

theorem sum_of_entries {buckets : Dict String Bucket} {front : List (String × Bucket)} {key : String} {b : Bucket}
    (last : buckets.entries = front ++ [(key, b)]) (idle : b.inflight = 0) :
    buckets.sum Bucket.busy = (front.map (fun entry => entry.2.busy)).sum := by
  simp [Dict.sum, Dict.values, last, Bucket.busy, idle, Function.comp_def]

theorem busy_le (front : List (String × Bucket)) : (front.map (fun entry => entry.2.busy)).sum ≤ front.length := by
  induction front with
  | nil => simp
  | cons entry rest ih =>
    have one : entry.2.busy ≤ 1 := by
      unfold Bucket.busy
      split <;> omega
    simp only [List.map_cons, List.sum_cons, List.length_cons]
    omega

theorem busy_all {front : List (String × Bucket)} (busy : ∀ entry ∈ front, 0 < entry.2.inflight) :
    (front.map (fun entry => entry.2.busy)).sum = front.length := by
  induction front with
  | nil => rfl
  | cons entry rest ih =>
    have here : entry.2.busy = 1 := if_pos (busy entry (List.mem_cons_self ..))
    have later := ih (fun other member => busy other (List.mem_cons_of_mem _ member))
    simp only [List.map_cons, List.sum_cons, List.length_cons]
    omega

/-- The latest caller, with nothing in flight yet, has to go when the callers with
requests in flight fill the table. -/
theorem evictLoop_last {maxTracked turns : Nat} {buckets : Dict String Bucket} {front : List (String × Bucket)}
    {key : String} {b : Bucket} (last : buckets.entries = front ++ [(key, b)]) (idle : b.inflight = 0)
    (enough : buckets.size ≤ turns) :
    (evictLoop maxTracked turns buckets).get? key = none ↔ maxTracked ≤ buckets.sum Bucket.busy := by
  induction turns generalizing buckets front with
  | zero => simp [Dict.size, last] at enough
  | succ turns ih =>
    have held : buckets.get? key = some b := Dict.mem_entries.mp (by simp [last])
    have size : buckets.size = front.length + 1 := by simp [Dict.size, last]
    have most := busy_le front
    rw [sum_of_entries last idle]
    unfold evictLoop
    split
    next large =>
      split
      next entry found =>
        have there := Dict.mem_entries.mp (List.mem_of_find?_eq_some found)
        have unused : entry.2.inflight = 0 := by simpa using List.find?_some found
        by_cases own : entry.1 = key
        · -- The others are all in flight, and the caller goes.
          have all : ∀ other ∈ front, 0 < other.2.inflight := by
            intro other member
            by_contra free
            have first : front.find? (fun entry => entry.2.inflight = 0) = some entry := by
              rw [last, List.find?_append] at found
              have hit : (front.find? (fun entry => entry.2.inflight = 0)).isSome := by
                rw [List.find?_isSome]
                exact ⟨other, member, by simpa using free⟩
              obtain ⟨chosen, here⟩ := Option.isSome_iff_exists.mp hit
              rw [here, Option.some_or] at found
              rw [here, found]
            have distinct := buckets.distinct
            rw [last, List.map_append, List.nodup_append] at distinct
            have twice := distinct.2.2 entry.1 (List.mem_map.mpr ⟨entry, List.mem_of_find?_eq_some first, rfl⟩) key (by simp)
            exact twice own
          have gone : (evictLoop maxTracked turns (buckets.remove entry.1)).get? key = none := by
            apply evictLoop_keeps (fun buckets => buckets.get? key = none)
            · intro buckets other _ _ _ absent
              rw [Dict.get?_remove, absent, ite_self]
            · rw [Dict.get?_remove, if_pos own.symm]
          have count := busy_all all
          simp only [gone, true_iff]
          omega
        · -- Another one goes, and as many are in flight as before.
          have after : (buckets.remove entry.1).entries = front.filter (fun other => other.1 ≠ entry.1) ++ [(key, b)] := by
            simp [Dict.remove, last, Ne.symm own]
          have smaller := Dict.size_remove there
          have same := Dict.sum_remove Bucket.busy buckets entry.1
          have nothing : entry.2.busy = 0 := by simp [Bucket.busy, unused]
          rw [Dict.part_of_some there, nothing, sum_of_entries last idle] at same
          rw [ih after (by omega)]
          omega
      next none =>
        have busy := List.find?_eq_none.mp none _ (Dict.mem_entries.mpr held)
        simp [idle] at busy
    next small =>
      simp only [held, reduceCtorEq, false_iff]
      omega

/-- A new caller finds no room when those in flight fill the table. -/
theorem dropped_iff (limiter : RateLimiter) (call : Call) : (limiter.tracked call).buckets.moveToEnd call.key = none ↔
    ¬ ((limiter.buckets.get? call.key).isSome ∨ limiter.busyCallers < limiter.maxTracked) := by
  rw [Dict.moveToEnd_eq_none]
  cases own : limiter.buckets.get? call.key with
  | some b => simp [tracked_of_some own, own]
  | none =>
    have idle := bucketFor_idle own
    have added := Dict.sum_set Bucket.busy limiter.buckets call.key (limiter.bucketFor call)
    have nothing : (limiter.bucketFor call).busy = 0 := by simp [Bucket.busy, idle]
    rw [Dict.part_of_none own, nothing, add_zero, add_zero] at added
    rw [tracked_of_none own, evictLoop_last (Dict.entries_set_of_none own _) idle (Dict.size_set_of_none own _).le, added]
    simp [busyCallers]

end Table

section Calls

/-- When the bucket of all callers refuses a call. -/
theorem atCapacity_iff (limiter : RateLimiter) (call : Call) : AtCapacity (limiter.check call).2 ↔
    call.bodyBytes ≤ call.allowance.maxBodyBytes ∧ limiter.shared call.now < call.cost := by
  have enough := limiter.globalBucket.take_taken call.cost limiter.ceiling call.now
  have outcome := limiter.check_outcome call
  generalize limiter.check call = result at outcome ⊢
  have passes (passed : limiter.Open call) : ¬ (call.bodyBytes ≤ call.allowance.maxBodyBytes ∧
      limiter.shared call.now < call.cost) := fun both => absurd (enough.mp passed.paid) (not_le.mpr both.2)
  cases outcome with
  | body reason large =>
    exact iff_of_false (by simp [AtCapacity, Call.refused]) (fun both => absurd large (not_lt.mpr both.1))
  | capacity retry fits short =>
    have lacks : limiter.shared call.now < call.cost := by
      by_contra holds
      rw [enough.mpr (not_lt.mp holds)] at short
      cases short
    exact iff_of_true ⟨rfl, rfl⟩ ⟨fits, lacks⟩
  | ceiling fits paid full =>
    have holds := enough.mp paid
    exact iff_of_false (by simp [AtCapacity, Call.refused]) (fun both => absurd holds (not_le.mpr both.2))
  | unavailable passed =>
    refine iff_of_false ?_ (passes passed)
    cases limiter.failClosed with
    | false => simp [Call.unavailable, AtCapacity]
    | true =>
      intro ⟨_, text⟩
      have words : "limiter unavailable: KeyError" = "node is at capacity" := text
      exact absurd words (by decide)
  | concurrency buckets reason passed => exact iff_of_false (by simp [AtCapacity, Call.refused]) (passes passed)
  | rate buckets reason retry passed => exact iff_of_false (by simp [AtCapacity, Call.refused]) (passes passed)
  | admitted buckets decision passed latest idle paid answer =>
    exact iff_of_false (by simp [AtCapacity, answer]) (passes passed)

/-- The calls that are refused for a reason of the caller's own. -/
theorem perCaller_iff (limiter : RateLimiter) (call : Call) : PerCaller (limiter.check call).2 ↔
    call.allowance.maxBodyBytes < call.bodyBytes ∨ PaidInVain limiter call := by
  have enough := limiter.globalBucket.take_taken call.cost limiter.ceiling call.now
  have own := (limiter.bucketFor call).take_taken call.cost call.allowance call.now
  have room := limiter.dropped_iff call
  have outcome := limiter.check_outcome call
  generalize limiter.check call = result at outcome ⊢
  cases outcome with
  | body reason large => exact iff_of_true ⟨rfl, by simp [Call.refused]⟩ (.inl large)
  | capacity retry fits short =>
    apply iff_of_false (by simp [PerCaller, Call.refused])
    rintro (large | vain)
    · exact absurd large (not_lt.mpr fits)
    · rw [enough.mpr vain.paid] at short
      cases short
  | ceiling fits paid full =>
    apply iff_of_false (by simp [PerCaller, Call.refused])
    rintro (large | vain)
    · exact absurd large (not_lt.mpr fits)
    · exact absurd vain.room (not_lt.mpr full)
  | unavailable passed dropped =>
    apply iff_of_false
    · cases limiter.failClosed <;> simp [PerCaller, Call.unavailable]
    · rintro (large | vain)
      · exact absurd large (not_lt.mpr passed.fits)
      · exact room.mp dropped vain.kept
  | concurrency buckets reason passed latest busy =>
    have kept := not_imp_comm.mp room.mpr (by simp [latest])
    exact iff_of_true ⟨rfl, by simp [Call.refused]⟩ (.inr ⟨passed.fits, enough.mp passed.paid, passed.room, kept, .inl busy⟩)
  | rate buckets reason retry passed latest idle short =>
    have kept := not_imp_comm.mp room.mpr (by simp [latest])
    have less : (limiter.bucketFor call).refilled call.allowance call.now < call.cost := by
      by_contra holds
      rw [own.mpr (not_lt.mp holds)] at short
      cases short
    exact iff_of_true ⟨rfl, by simp [Call.refused]⟩ (.inr ⟨passed.fits, enough.mp passed.paid, passed.room, kept, .inr less⟩)
  | admitted buckets decision passed latest idle paid answer =>
    apply iff_of_false (by simp [PerCaller, answer])
    rintro (large | vain)
    · exact absurd large (not_lt.mpr passed.fits)
    · rcases vain.exceeds with busy | less
      · exact absurd busy (not_le.mpr idle)
      · exact absurd (own.mp paid) (not_le.mpr less)

/-- What was paid in vain is missing from the bucket of all callers. -/
theorem PaidInVain.drains {limiter : RateLimiter} {call : Call} (vain : PaidInVain limiter call) :
    (limiter.check call).1.shared call.now = limiter.shared call.now - call.cost := by
  have bucket := limiter.check_globalBucket call
  rw [if_neg (not_lt.mpr vain.fits)] at bucket
  have left := limiter.globalBucket.level_take call.cost limiter.ceiling call.now
  rw [if_pos ((Bucket.take_taken _ _ _ _).mpr vain.paid), ← bucket] at left
  rw [shared, (limiter.check_frame call).2.2.1]
  exact left

/-- Limiters whose shared buckets hold the same refuse the same calls for the node. -/
structure Alike (limiter other : RateLimiter) : Prop where
  bucket : limiter.globalBucket = other.globalBucket
  ceiling : limiter.ceiling = other.ceiling

theorem Alike.step {limiter other : RateLimiter} (alike : Alike limiter other) (event : Event) :
    Alike (limiter.step event) (other.step event) := by
  cases event with
  | check call =>
    refine ⟨?_, ?_⟩
    · simp only [RateLimiter.step, check_globalBucket, alike.bucket, alike.ceiling]
    · simp only [RateLimiter.step, check_frame, alike.ceiling]
  | acquire key => exact ⟨alike.bucket, alike.ceiling⟩
  | release key => exact ⟨alike.bucket, alike.ceiling⟩

theorem Alike.run {limiter other : RateLimiter} (alike : Alike limiter other) (events : List Event) :
    Alike (Transition.run RateLimiter.step limiter events) (Transition.run RateLimiter.step other events) := by
  induction events generalizing limiter other with
  | nil => exact alike
  | cons event rest ih => exact ih (alike.step event)

theorem Alike.shared {limiter other : RateLimiter} (alike : Alike limiter other) (now : Rat) :
    limiter.shared now = other.shared now := by
  simp only [RateLimiter.shared, alike.bucket, alike.ceiling]

end Calls

/-- A call that is refused for a reason of its own costs the others nothing exactly
when it was not paid for in vain: when its body is too large, that is. -/
theorem refusal_harmless_iff (limiter : RateLimiter) (call : Call) :
    (PerCaller (limiter.check call).2 → Harmless limiter call) ↔ ¬ PaidInVain limiter call := by
  constructor
  · intro harmless vain
    have refused := (limiter.perCaller_iff call).mpr (.inr vain)
    have same := (harmless refused).shared call.now le_rfl
    have positive : (0 : Rat) < call.cost := Nat.cast_pos.mpr (costOf_pos _ _)
    rw [vain.drains] at same
    linarith
  · intro spared refused
    have large := ((limiter.perCaller_iff call).mp refused).resolve_right spared
    have bucket := limiter.check_globalBucket call
    rw [if_pos large] at bucket
    have alike : Alike (limiter.check call).1 limiter := ⟨bucket, (limiter.check_frame call).2.2.1⟩
    refine ⟨fun later _ => alike.shared later, ?_⟩
    intro events other full
    have after := alike.run events
    rw [atCapacity_iff] at full ⊢
    rwa [← after.shared]

/-- A caller that has spent its own ten units takes five more from the node, which
are then missing to the next one. -/
theorem refusal_harms :
    let limiter := run step (fresh 60 16 256 50000 true)
      [.check { agentKey := "x", now := 0 }, .check { agentKey := "x", now := 0 }]
    let call : Call := { agentKey := "x", now := 0 }
    let other : Call := { agentKey := "y", now := 0 }
    (PerCaller (limiter.check call).2 ∧ ¬ Harmless limiter call) ∧
      (limiter.check other).2.allowed = true ∧ AtCapacity ((limiter.check call).1.check other).2 := by
  intro limiter call other
  have refused : PerCaller (limiter.check call).2 := by
    refine ⟨by decide +kernel, ?_⟩
    decide +kernel
  have full : AtCapacity ((limiter.check call).1.check other).2 := ⟨by decide +kernel, by decide +kernel⟩
  have lets : (limiter.check other).2.allowed = true := by decide +kernel
  refine ⟨⟨refused, ?_⟩, lets, full⟩
  intro harmless
  have missing := (harmless.others [] other full).2
  exact absurd missing (by decide +kernel)

end Xcp.Limits.RateLimiter

/-! Requests in flight. They are counted for each caller and for all callers
together, and a caller that has one is never forgotten. -/

namespace Xcp.Limits.RateLimiter
open Transition

section Sums

theorem tracked_inflight (limiter : RateLimiter) (call : Call) :
    (limiter.tracked call).buckets.sum Bucket.inflight = limiter.buckets.sum Bucket.inflight := by
  cases own : limiter.buckets.get? call.key with
  | some b => rw [tracked_of_some own]
  | none =>
    have added := Dict.sum_set Bucket.inflight limiter.buckets call.key (limiter.bucketFor call)
    rw [Dict.part_of_none own, bucketFor_idle own] at added
    rw [tracked_of_none own]
    apply evictLoop_keeps (fun buckets => buckets.sum Bucket.inflight = limiter.buckets.sum Bucket.inflight)
    · intro buckets key b held idle same
      have removed := Dict.sum_remove Bucket.inflight buckets key
      rw [Dict.part_of_some held, idle] at removed
      omega
    · omega

theorem check_inflight (limiter : RateLimiter) (call : Call) :
    (limiter.check call).1.buckets.sum Bucket.inflight = limiter.buckets.sum Bucket.inflight := by
  have table := limiter.tracked_inflight call
  have moves (buckets : Dict String Bucket) (latest : (limiter.tracked call).buckets.moveToEnd call.key = some buckets) :
      buckets.sum Bucket.inflight = limiter.buckets.sum Bucket.inflight ∧
        (buckets.set call.key ((limiter.bucketFor call).take call.cost call.allowance call.now).1).sum Bucket.inflight =
          limiter.buckets.sum Bucket.inflight := by
    have moved := Dict.sum_moveToEnd Bucket.inflight latest
    have stored := Dict.sum_set Bucket.inflight buckets call.key
      ((limiter.bucketFor call).take call.cost call.allowance call.now).1
    rw [Dict.part_of_some (bucketFor_latest latest), Bucket.take_inflight] at stored
    omega
  have outcome := limiter.check_outcome call
  generalize limiter.check call = result at outcome ⊢
  cases outcome with
  | body => rfl
  | capacity => rfl
  | ceiling => rfl
  | unavailable => exact table
  | concurrency buckets reason passed latest => exact (moves buckets latest).1
  | rate buckets reason retry passed latest => exact (moves buckets latest).2
  | admitted buckets decision passed latest => exact (moves buckets latest).2

/-- A caller that is not in the table has nothing in flight. -/
theorem part_inflight (buckets : Dict String Bucket) (key : String) (burst : Nat) :
    buckets.part Bucket.inflight key = ((buckets.get? key).getD (Bucket.fresh burst)).inflight := by
  cases held : buckets.get? key <;> simp [Dict.part, held, Bucket.fresh]

end Sums

/-- The limiter beside the keys of the holds that are entered and not yet left.
A hold is known by its key alone. -/
abbrev Holding := RateLimiter × List String

def stepHolding (holding : Holding) (event : Event) : Holding :=
  (holding.1.step event,
    match event with
    | .check _ => holding.2
    | .acquire key => key :: holding.2
    | .release key => holding.2.erase key)

/-- A hold is left only after it was entered, and only once. -/
def Paired (holding : Holding) : Event → Prop
  | .release key => key ∈ holding.2
  | _ => True

/-- Both counters say how many holds are entered and not yet left. -/
structure Exact (holding : Holding) : Prop where
  callers : holding.1.globalInflight = holding.1.buckets.sum Bucket.inflight
  holds : holding.1.globalInflight = holding.2.length

structure Counted (holding : Holding) : Prop where
  exact : Exact holding
  caller : ∀ key, holding.1.buckets.part Bucket.inflight key = holding.2.count key

section Runs

theorem Counted.check {limiter : RateLimiter} {entered : List String} (counted : Counted (limiter, entered)) (call : Call) :
    Counted ((limiter.check call).1, entered) := by
  refine ⟨⟨?_, ?_⟩, ?_⟩
  · rw [(limiter.check_frame call).2.2.2, limiter.check_inflight call]
    exact counted.exact.callers
  · rw [(limiter.check_frame call).2.2.2]
    exact counted.exact.holds
  · intro key
    have before := counted.caller key
    have after := limiter.check_caller call key
    simp only [Dict.part] at before ⊢
    generalize (limiter.check call).1.buckets.get? key = entry at after
    generalize (limiter.check call).2.allowed = allowed at after
    cases after with
    | kept => exact before
    | forgotten _ idle =>
      rw [← before]
      cases held : limiter.buckets.get? key with
      | none => rfl
      | some b => simp [idle b held]
    | refused own =>
      rw [← before, own]
      cases held : limiter.buckets.get? call.key <;> simp [bucketFor, held, Bucket.fresh]
    | drawn _ own =>
      rw [← before, own]
      cases held : limiter.buckets.get? call.key <;> simp [bucketFor, held, Bucket.fresh]

theorem Counted.acquire {limiter : RateLimiter} {entered : List String} (counted : Counted (limiter, entered))
    (key : String) : Counted (limiter.acquire key, key :: entered) := by
  obtain ⟨⟨callers, holds⟩, each⟩ := counted
  simp only at callers holds
  let b := (limiter.buckets.get? key).getD (Bucket.fresh (allowance (Python.partition key '|').1).burst)
  have here : limiter.buckets.part Bucket.inflight key = b.inflight := part_inflight _ _ _
  have added := Dict.sum_set Bucket.inflight limiter.buckets key { b with inflight := b.inflight + 1 }
  refine ⟨⟨?_, ?_⟩, ?_⟩
  · change limiter.globalInflight + 1 = (limiter.buckets.set key { b with inflight := b.inflight + 1 }).sum Bucket.inflight
    rw [here] at added
    dsimp only at added
    omega
  · change limiter.globalInflight + 1 = entered.length + 1
    rw [holds]
  · intro other
    have before := each other
    change (limiter.buckets.set key { b with inflight := b.inflight + 1 }).part Bucket.inflight other = _
    by_cases own : other = key
    · rw [own] at before ⊢
      rw [Dict.part_of_some (by rw [Dict.get?_set, if_pos rfl]), List.count_cons_self, ← before, here]
    · rw [List.count_cons_of_ne (Ne.symm own), ← before]
      simp [Dict.part, own]

theorem Counted.release {limiter : RateLimiter} {entered : List String} (counted : Counted (limiter, entered))
    {key : String} (member : key ∈ entered) : Counted (limiter.release key, entered.erase key) := by
  obtain ⟨⟨callers, holds⟩, each⟩ := counted
  simp only at callers holds each
  have positive : 0 < entered.count key := List.count_pos_iff.mpr member
  have here := each key
  obtain ⟨b, held⟩ : ∃ b, limiter.buckets.get? key = some b := by
    cases absent : limiter.buckets.get? key with
    | none =>
      rw [Dict.part_of_none absent] at here
      omega
    | some b => exact ⟨b, rfl⟩
  rw [Dict.part_of_some held] at here
  have busy : 0 < b.inflight := by omega
  have released : limiter.release key =
      { limiter with buckets := limiter.buckets.set key { b with inflight := b.inflight - 1 }
                     globalInflight := limiter.globalInflight - 1 } := by
    simp [RateLimiter.release, held, busy]
  have lowered := Dict.sum_set Bucket.inflight limiter.buckets key { b with inflight := b.inflight - 1 }
  rw [Dict.part_of_some held] at lowered
  dsimp only at lowered
  rw [released]
  refine ⟨⟨?_, ?_⟩, ?_⟩
  · change limiter.globalInflight - 1 = Dict.sum Bucket.inflight (limiter.buckets.set key { b with inflight := b.inflight - 1 })
    omega
  · change limiter.globalInflight - 1 = (entered.erase key).length
    rw [List.length_erase_of_mem member, holds]
  · intro other
    have before := each other
    by_cases own : other = key
    · rw [own, Dict.part_of_some (by rw [Dict.get?_set, if_pos rfl]), List.count_erase_self, ← here]
    · rw [List.count_erase_of_ne own, ← before]
      simp [Dict.part, own]

theorem Counted.step {holding : Holding} {event : Event} (counted : Counted holding) (paired : Paired holding event) :
    Counted (stepHolding holding event) := by
  obtain ⟨limiter, entered⟩ := holding
  cases event with
  | check call => exact counted.check call
  | acquire key => exact counted.acquire key
  | release key => exact counted.release paired

/-- However checks, holds and evictions interleave, both counters are exact. -/
theorem inflight_exact (globalRatePerMin globalBurst globalConcurrency maxTracked : Nat) (failClosed : Bool)
    (events : List Event)
    (paired : Meets stepHolding Paired
      (fresh globalRatePerMin globalBurst globalConcurrency maxTracked failClosed, []) events) :
    Always stepHolding Exact (fresh globalRatePerMin globalBurst globalConcurrency maxTracked failClosed, []) events := by
  have start : Counted (fresh globalRatePerMin globalBurst globalConcurrency maxTracked failClosed, []) :=
    ⟨⟨rfl, rfl⟩, fun key => rfl⟩
  exact paired.always (fun _ _ counted paired => Counted.step counted paired) (fun _ counted => counted.exact) start

/-- Two holds, between which a call makes the table forget another caller. -/
theorem inflight_two : Always stepHolding Exact (fresh 120000 40000 256 1 true, [])
    [.acquire "|a", .check { agentKey := "b", now := 0 }, .acquire "|a", .check { agentKey := "a", now := 1 },
      .release "|a", .release "|a"] :=
  inflight_exact 120000 40000 256 1 true _ ⟨trivial, trivial, trivial, trivial,
    List.mem_cons_self .., List.mem_cons_self .., trivial⟩

end Runs

end Xcp.Limits.RateLimiter
