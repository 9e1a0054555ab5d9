import Xcp.TrustFirewall.Limits

/-! The rate of one caller. Its bucket pays for what it is let through with, as
long as the table keeps the bucket: a caller that was forgotten starts anew. -/

namespace Xcp.Limits
open Python

/-! ### Tiers and keys -/

theorem allowance_of_bar {tier : String} (barred : contains tier '|' = true) : allowance tier = anonymous := by
  unfold allowance
  cases found : allowances.lookup tier with
  | none => rfl
  | some a =>
    obtain ⟨before, after, split, _⟩ := List.lookup_eq_some_iff.mp found
    have names : ∀ entry ∈ allowances, contains entry.1 '|' = false := by decide
    have plain := names (tier, a) (by simp [split])
    rw [barred] at plain
    cases plain

theorem anonymous_le (tier : String) :
    anonymous.burst ≤ (allowance tier).burst ∧ anonymous.ratePerMin ≤ (allowance tier).ratePerMin := by
  unfold allowance
  cases found : allowances.lookup tier with
  | none => exact ⟨le_rfl, le_rfl⟩
  | some a =>
    obtain ⟨before, after, split, _⟩ := List.lookup_eq_some_iff.mp found
    have most : ∀ entry ∈ allowances, anonymous.burst ≤ entry.2.burst ∧ anonymous.ratePerMin ≤ entry.2.ratePerMin := by
      decide
    exact most (tier, a) (by simp [split])

theorem partition_keyOf {tier : String} (plain : contains tier '|' = false) (agentKey : String) :
    (partition (keyOf tier agentKey) '|').1 = tier := by
  have letters : ∀ letter ∈ tier.toList, decide (letter ≠ '|') = true := by
    intro letter member
    rw [decide_eq_true_eq]
    rintro rfl
    simp [contains, member] at plain
  simp only [partition, keyOf, String.toList_append]
  rw [List.append_assoc, List.takeWhile_append_of_pos letters]
  simp

/-- A call whose key is the caller's has the caller's tier, or an allowance that
is no larger. -/
def Narrow (tier agentKey : String) (call : Call) : Prop :=
  call.key = keyOf tier agentKey → call.tier = tier ∨ call.allowance = anonymous

theorem narrow_of_plain {tier : String} (plain : contains tier '|' = false) (agentKey : String) (call : Call) :
    Narrow tier agentKey call := by
  intro same
  cases barred : contains call.tier '|' with
  | true => exact .inr (allowance_of_bar barred)
  | false =>
    left
    rw [← partition_keyOf barred call.agentKey, ← partition_keyOf plain agentKey]
    exact congrArg (fun key => (partition key '|').1) same

namespace RateLimiter
open Transition TokenBucket

section Steps
variable (tier agentKey : String)

/-- The caller's bucket. One that is not in the table is as good as a new one. -/
def bucketOf (limiter : RateLimiter) : TokenBucket.Bucket Rat :=
  ((limiter.buckets.get? (keyOf tier agentKey)).getD (Bucket.fresh (allowance tier).burst)).toBucket

/-- The cost of a call of the caller that is let through. -/
def callerCost (limiter : RateLimiter) : Event → Rat
  | .check call =>
    if (call.tier = tier ∧ call.key = keyOf tier agentKey) ∧ (limiter.check call).2.allowed then call.cost else 0
  | _ => 0

/-- One for an event that drops the caller from the table. -/
def forgets (limiter : RateLimiter) (event : Event) : Rat :=
  if (limiter.buckets.get? (keyOf tier agentKey)).isSome ∧
      ((limiter.step event).buckets.get? (keyOf tier agentKey)).isNone then 1 else 0

/-- The caller's bucket pays for what it is let through with. -/
def CallerPaid : RateLimiter → Event → Prop :=
  Pays step (allowance tier).terms Event.time (bucketOf tier agentKey) (callerCost tier agentKey) (forgets tier agentKey)

structure Metered (limiter : RateLimiter) : Prop where
  closed : limiter.failClosed = true
  holds : 0 ≤ (bucketOf tier agentKey limiter).tokens

variable {tier agentKey}

theorem forgets_nonneg (limiter : RateLimiter) (event : Event) : 0 ≤ forgets tier agentKey limiter event := by
  unfold forgets
  split <;> norm_num

theorem bucketOf_of_none {limiter : RateLimiter} (absent : limiter.buckets.get? (keyOf tier agentKey) = none) (now : Rat) :
    level (allowance tier).terms (bucketOf tier agentKey limiter) now = (allowance tier).terms.capacity := by
  apply level_full
  simp [bucketOf, absent, Bucket.fresh, Allowance.terms]

/-- The bucket that a call finds for the key holds no more than the caller's. -/
theorem bucketFor_level (limiter : RateLimiter) {call : Call} (own : keyOf tier agentKey = call.key) (now : Rat) :
    level (allowance tier).terms (limiter.bucketFor call).toBucket now ≤
      level (allowance tier).terms (bucketOf tier agentKey limiter) now := by
  cases held : limiter.buckets.get? call.key with
  | none =>
    rw [bucketOf_of_none (by rw [own, held])]
    exact level_le now
  | some b => simp [bucketFor, bucketOf, own, held]

theorem bucketFor_nonneg {limiter : RateLimiter} {call : Call} (own : keyOf tier agentKey = call.key)
    (holds : 0 ≤ (bucketOf tier agentKey limiter).tokens) : 0 ≤ (limiter.bucketFor call).tokens := by
  cases held : limiter.buckets.get? call.key with
  | none => simp [bucketFor, held, Bucket.fresh]
  | some b => simpa [bucketFor, bucketOf, own, held] using holds

/-- What happens to a caller's bucket in a call that may be its own. -/
theorem metered_check {limiter : RateLimiter} (metered : Metered tier agentKey limiter) {call : Call}
    (narrow : Narrow tier agentKey call) :
    0 ≤ (bucketOf tier agentKey (limiter.check call).1).tokens ∧
      callerCost tier agentKey limiter (.check call) +
          level (allowance tier).terms (bucketOf tier agentKey (limiter.check call).1) call.now ≤
        level (allowance tier).terms (bucketOf tier agentKey limiter) call.now +
          forgets tier agentKey limiter (.check call) * (allowance tier).terms.capacity := by
  obtain ⟨closed, holds⟩ := metered
  have before : 0 ≤ level (allowance tier).terms (bucketOf tier agentKey limiter) call.now := level_nonneg holds _
  have thrown : 0 ≤ forgets tier agentKey limiter (.check call) * (allowance tier).terms.capacity :=
    mul_nonneg (forgets_nonneg limiter _) (allowance tier).terms.capacity_nonneg
  have unpaid : (keyOf tier agentKey = call.key → (limiter.check call).2.allowed = false) →
      callerCost tier agentKey limiter (.check call) = 0 := by
    intro apart
    apply if_neg
    intro ⟨⟨_, same⟩, allowed⟩
    rw [apart same.symm] at allowed
    cases allowed
  have after := limiter.check_caller call (keyOf tier agentKey)
  generalize found : (limiter.check call).1.buckets.get? (keyOf tier agentKey) = entry at after
  have now_at : bucketOf tier agentKey (limiter.check call).1 =
      (entry.getD (Bucket.fresh (allowance tier).burst)).toBucket := by rw [bucketOf, found]
  generalize answer : (limiter.check call).2.allowed = allowed at after
  cases after with
  | kept _ apart =>
    have same : bucketOf tier agentKey (limiter.check call).1 = bucketOf tier agentKey limiter := now_at
    rw [same, unpaid (fun own => answer.trans (apart own))]
    exact ⟨holds, by linarith⟩
  | forgotten _ idle answers =>
    have cost := unpaid (fun own => by rw [answer, answers own, closed]; rfl)
    have full := bucketOf_of_none found call.now
    refine ⟨by simp [now_at, Bucket.fresh], ?_⟩
    rw [cost, full]
    cases held : limiter.buckets.get? (keyOf tier agentKey) with
    | none =>
      rw [bucketOf_of_none held]
      linarith
    | some b =>
      have dropped : forgets tier agentKey limiter (.check call) = 1 := by
        simp [forgets, held, RateLimiter.step, found]
      rw [dropped]
      linarith
  | refused own =>
    have bucket : bucketOf tier agentKey (limiter.check call).1 = (limiter.bucketFor call).toBucket := now_at
    rw [bucket, unpaid (fun _ => answer)]
    have less := bucketFor_level limiter own call.now
    exact ⟨bucketFor_nonneg own holds, by linarith⟩
  | drawn _ own paid =>
    have bucket : bucketOf tier agentKey (limiter.check call).1 =
        ((limiter.bucketFor call).take call.cost call.allowance call.now).1.toBucket := now_at
    have less := bucketFor_level limiter own call.now
    have positive : (0 : Rat) ≤ call.cost := Nat.cast_nonneg _
    rw [bucket]
    refine ⟨Bucket.take_nonneg (bucketFor_nonneg own holds) _ _ _, ?_⟩
    by_cases mine : call.tier = tier
    · -- The draw is on the caller's own terms, and takes what the call costs.
      have terms : call.allowance = allowance tier := congrArg allowance mine
      rw [terms] at paid ⊢
      have cost : callerCost tier agentKey limiter (.check call) = if allowed then (call.cost : Rat) else 0 := by
        simp [callerCost, mine, own, answer]
      have pays := (limiter.bucketFor call).take_pays call.cost (allowance tier) call.now paid
      rw [cost]
      linarith
    · -- Another tier has the key, and what it draws is lost to the caller.
      have none : callerCost tier agentKey limiter (.check call) = 0 := by simp [callerCost, mine]
      have small : call.allowance = anonymous := (narrow own.symm).resolve_left mine
      obtain ⟨burst, rate⟩ := anonymous_le tier
      have capacity : anonymous.terms.capacity ≤ (allowance tier).terms.capacity := Nat.cast_le.mpr burst
      have refill : anonymous.terms.rate ≤ (allowance tier).terms.rate :=
        div_le_div_of_nonneg_right (Nat.cast_le.mpr rate) (by norm_num)
      have left : level (allowance tier).terms (draw anonymous.terms (limiter.bucketFor call).toBucket call.cost call.now).1
          call.now ≤ level (allowance tier).terms (limiter.bucketFor call).toBucket call.now :=
        level_draw_le capacity refill positive call.now
      rw [none, small, ((limiter.bucketFor call).take_draw call.cost anonymous call.now).1]
      linarith

theorem metered_acquire {limiter : RateLimiter} (metered : Metered tier agentKey limiter) (key : String) :
    Metered tier agentKey (limiter.acquire key) ∧ ∀ now,
      level (allowance tier).terms (bucketOf tier agentKey (limiter.acquire key)) now ≤
        level (allowance tier).terms (bucketOf tier agentKey limiter) now := by
  by_cases own : keyOf tier agentKey = key
  · cases held : limiter.buckets.get? key with
    | none =>
      have fresh : 0 ≤ (bucketOf tier agentKey (limiter.acquire key)).tokens := by
        simp [bucketOf, acquire, own, held, Bucket.fresh]
      refine ⟨⟨metered.closed, fresh⟩, fun now => ?_⟩
      have full := bucketOf_of_none (own ▸ held) now
      exact (level_le now).trans full.ge
    | some b =>
      have same : bucketOf tier agentKey (limiter.acquire key) = bucketOf tier agentKey limiter := by
        simp [bucketOf, acquire, own, held]
      exact ⟨⟨metered.closed, same ▸ metered.holds⟩, fun now => by rw [same]⟩
  · have same : bucketOf tier agentKey (limiter.acquire key) = bucketOf tier agentKey limiter := by
      simp [bucketOf, acquire, own]
    exact ⟨⟨metered.closed, same ▸ metered.holds⟩, fun now => by rw [same]⟩

theorem bucketOf_release (limiter : RateLimiter) (key : String) :
    bucketOf tier agentKey (limiter.release key) = bucketOf tier agentKey limiter := by
  unfold bucketOf release
  cases held : limiter.buckets.get? key with
  | none => rfl
  | some b =>
    by_cases busy : 0 < b.inflight
    · by_cases own : keyOf tier agentKey = key
      · simp [busy, own, held]
      · simp [busy, own]
    · simp [busy]

theorem Metered.step {limiter : RateLimiter} {event : Event} (metered : Metered tier agentKey limiter)
    (narrow : ∀ call, event = .check call → Narrow tier agentKey call) :
    Metered tier agentKey (limiter.step event) ∧ CallerPaid tier agentKey limiter event := by
  cases event with
  | check call =>
    obtain ⟨holds, paid⟩ := metered_check metered (narrow call rfl)
    refine ⟨⟨(limiter.check_frame call).1.trans metered.closed, holds⟩, ⟨nofun, ?_, fun now => level_nonneg holds now⟩⟩
    rintro now ⟨⟩
    exact paid
  | acquire key =>
    obtain ⟨kept, level⟩ := metered_acquire metered key
    exact ⟨kept, ⟨fun _ => level, nofun, fun now => level_nonneg kept.holds now⟩⟩
  | release key =>
    have same : bucketOf tier agentKey (limiter.release key) = bucketOf tier agentKey limiter := bucketOf_release limiter key
    have holds : 0 ≤ (bucketOf tier agentKey (limiter.release key)).tokens := by
      rw [same]
      exact metered.holds
    refine ⟨⟨metered.closed, holds⟩, ⟨fun _ now => ?_, nofun, fun now => level_nonneg holds now⟩⟩
    simp only [RateLimiter.step, same, le_refl]

end Steps

/-- One caller is let through with no more than its burst and what flows in, and
with its burst once more for each time it is forgotten. -/
theorem callerRate_bounded (globalRatePerMin globalBurst globalConcurrency maxTracked : Nat) (tier agentKey : String)
    (events : List Event)
    (apart : contains tier '|' = false ∨ ∀ call, .check call ∈ events → call.key = keyOf tier agentKey → call.tier = tier)
    (ordered : (events.filterMap Event.time).Pairwise (· ≤ ·)) (start length : Rat) (window : 0 ≤ length) :
    total step (within Event.time start (start + length) (callerCost tier agentKey))
        (fresh globalRatePerMin globalBurst globalConcurrency maxTracked true) events ≤
      (1 + total step (within Event.time start (start + length) (forgets tier agentKey))
          (fresh globalRatePerMin globalBurst globalConcurrency maxTracked true) events) * (allowance tier).burst +
        (allowance tier).refillPerSec * length := by
  let limiter := fresh globalRatePerMin globalBurst globalConcurrency maxTracked true
  have metered : Metered tier agentKey limiter := ⟨rfl, Nat.cast_nonneg _⟩
  have narrow : Meets step (fun _ event => ∀ call, event = .check call → Narrow tier agentKey call) limiter events := by
    apply Meets.of_forall
    rintro event member call rfl
    rcases apart with plain | apart
    · exact narrow_of_plain plain agentKey call
    · exact fun own => .inl (apart call member own)
  have paid : Meets step (CallerPaid tier agentKey) limiter events :=
    narrow.of_held (fun _ _ metered narrow => Metered.step metered narrow) metered
  have most := total_le start window paid (fun now => level_nonneg metered.holds now) ordered
  exact most

/-- A caller of a full table is forgotten while its bucket is empty. -/
theorem callerRate_forgotten :
    total step (within Event.time 0 (0 + 60) (callerCost "" "x")) (fresh 120000 40000 256 1 true)
        [.check { agentKey := "x", now := 0 }, .check { agentKey := "y", now := 1 }, .check { agentKey := "x", now := 2 }] ≤
      (1 + total step (within Event.time 0 (0 + 60) (forgets "" "x")) (fresh 120000 40000 256 1 true)
          [.check { agentKey := "x", now := 0 }, .check { agentKey := "y", now := 1 },
            .check { agentKey := "x", now := 2 }]) * (allowance "").burst + (allowance "").refillPerSec * 60 :=
  callerRate_bounded 120000 40000 256 1 "" "x" _ (.inl (by decide)) (by decide +kernel) 0 60 (by norm_num)

/-- What a caller may have without being forgotten. -/
def CallerRate (limiter : RateLimiter) : Prop :=
  ∀ (tier agentKey : String) (events : List Event), (events.filterMap Event.time).Pairwise (· ≤ ·) →
    ∀ start length : Rat, 0 ≤ length →
      total step (within Event.time start (start + length) (callerCost tier agentKey)) limiter events ≤
        (allowance tier).burst + (allowance tier).refillPerSec * length

def callsOf (agentKey : String) (count : Nat) : List Event :=
  List.replicate count (.check { agentKey := agentKey, method := "tools/call", now := 0 })

/-- A caller is forgotten when another one comes to a full table, and has its
burst again at once. A limiter that fails open does not ask its bucket at all
when the table has no room for it. -/
theorem callerRate_exceeded :
    ¬ CallerRate (fresh 120000 40000 256 1 true) ∧ ¬ CallerRate (fresh 120000 40000 256 0 false) := by
  constructor
  · intro bounded
    have most := bounded "" "x" (callsOf "x" 2 ++ callsOf "y" 1 ++ callsOf "x" 2) (by decide +kernel) 0 0 le_rfl
    exact absurd most (by decide +kernel)
  · intro bounded
    have most := bounded "" "x" (callsOf "x" 3) (by decide +kernel) 0 0 le_rfl
    exact absurd most (by decide +kernel)

end RateLimiter

end Xcp.Limits

/-! The rate of all callers together. Every call that is let through was paid for
from the bucket that they share, whatever else refuses calls or forgets callers. -/

namespace Xcp.Limits.RateLimiter
open Transition TokenBucket

/-- The cost of a call that is let through. -/
def admittedCost (limiter : RateLimiter) : Event → Rat
  | .check call => if (limiter.check call).2.allowed then call.cost else 0
  | _ => 0

/-- The bucket of all callers pays for what is let through. -/
def Paid (ceiling : Allowance) : RateLimiter → Event → Prop :=
  Pays step ceiling.terms Event.time (fun limiter => limiter.globalBucket.toBucket) admittedCost (fun _ _ => 0)

structure Ceiled (ceiling : Allowance) (limiter : RateLimiter) : Prop where
  ceiling : limiter.ceiling = ceiling
  holds : 0 ≤ limiter.globalBucket.tokens

section Runs
variable {ceiling : Allowance}

theorem Ceiled.step {limiter : RateLimiter} (ceiled : Ceiled ceiling limiter) (event : Event) :
    Ceiled ceiling (limiter.step event) ∧ Paid ceiling limiter event := by
  obtain ⟨rfl, holds⟩ := ceiled
  cases event with
  | check call =>
    have kept := (limiter.check_frame call).2.2.1
    have bucket := limiter.check_globalBucket call
    split at bucket
    next large =>
      have refused : (limiter.check call).2.allowed = false := by
        by_contra allowed
        have passed := limiter.open_of_allowed call (Bool.not_eq_false _ ▸ allowed)
        exact absurd large (not_lt.mpr passed.fits)
      refine ⟨⟨kept, bucket ▸ holds⟩, ⟨nofun, ?_, ?_⟩⟩
      · intro now _
        simp [admittedCost, refused, RateLimiter.step, bucket]
      · intro now
        exact level_nonneg (by simpa only [RateLimiter.step, bucket] using holds) now
    next fits =>
      have left : 0 ≤ (limiter.check call).1.globalBucket.tokens := by
        rw [bucket]
        exact Bucket.take_nonneg holds _ _ _
      refine ⟨⟨kept, left⟩, ⟨nofun, ?_, fun now => level_nonneg left now⟩⟩
      rintro now ⟨⟩
      simp only [RateLimiter.step, admittedCost, bucket, zero_mul, add_zero]
      exact limiter.globalBucket.take_pays _ _ _ (fun allowed => (limiter.open_of_allowed call allowed).paid)
  | acquire key => exact ⟨⟨rfl, holds⟩, ⟨fun _ _ => le_rfl, nofun, fun now => level_nonneg holds now⟩⟩
  | release key => exact ⟨⟨rfl, holds⟩, ⟨fun _ _ => le_rfl, nofun, fun now => level_nonneg holds now⟩⟩

/-- What all callers together are let through with in a window of time. -/
theorem globalRate_bounded (globalRatePerMin globalBurst globalConcurrency maxTracked : Nat) (failClosed : Bool)
    (events : List Event) (ordered : (events.filterMap Event.time).Pairwise (· ≤ ·)) (start length : Rat)
    (window : 0 ≤ length) :
    total step (within Event.time start (start + length) admittedCost)
        (fresh globalRatePerMin globalBurst globalConcurrency maxTracked failClosed) events ≤
      globalBurst + globalRatePerMin / 60 * length := by
  let limiter := fresh globalRatePerMin globalBurst globalConcurrency maxTracked failClosed
  have ceiled : Ceiled limiter.ceiling limiter := ⟨rfl, Nat.cast_nonneg _⟩
  have keeps : ∀ other event, Ceiled limiter.ceiling other →
      Ceiled limiter.ceiling (step other event) ∧ Paid limiter.ceiling other event :=
    fun _ event held => held.step event
  have meets := Meets.of_invariant keeps ceiled events
  have most := total_le start window meets (fun now => level_nonneg ceiled.holds now) ordered
  rw [total_eq_zero (within_zero _ _), add_zero, one_mul] at most
  exact most

/-- An hour of a small node, with a caller that is turned away. -/
theorem globalRate_hour :
    total step (within Event.time 0 (0 + 3600) admittedCost) (fresh 6 10 4 2 true)
        [.check { agentKey := "42001", tier := "A2xH2", now := 0 }, .acquire "A2xH2|42001",
          .check { agentKey := "7", method := "tools/list", now := 1 },
          .check { agentKey := "42001", tier := "A2xH2", scope := "t2t:chain", now := 5 }] ≤
      (10 : Nat) + (6 : Nat) / 60 * 3600 :=
  globalRate_bounded 6 10 4 2 true _ (by decide +kernel) 0 3600 (by norm_num)

end Runs

end Xcp.Limits.RateLimiter
