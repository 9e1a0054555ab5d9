import Xcp.Proofs.InFlight

/-! Whether it helps to wait as long as a refusal advises. What flows in meets the
deficit, but no bucket ever holds more than its burst. -/

namespace Xcp.Limits
open Python TokenBucket

section Waiting

theorem lt_truncate_add_one {value : Rat} (after : 0 ≤ value) : value < truncate value + 1 := by
  rw [truncate_eq_floor after]
  exact Int.lt_floor_add_one value

/-- A whole number of minutes is not so slow that the least rate takes its place. -/
theorem Allowance.refillPerSec_bounds {a : Allowance} (flows : 0 < a.ratePerMin) :
    0 < a.refillPerSec ∧ max a.refillPerSec (1 / 1000000000) = a.refillPerSec := by
  have least : (1 : Rat) ≤ a.ratePerMin := by exact_mod_cast flows
  have slow : (1 : Rat) / 60 ≤ a.refillPerSec := by
    unfold Allowance.refillPerSec
    linarith
  exact ⟨by linarith, max_eq_left (by linarith)⟩

theorem Bucket.take_refused {b : Bucket} {cost : Nat} {a : Allowance} {now : Rat} (short : (b.take cost a now).2.1 = false) :
    b.refilled a now < cost ∧ (b.take cost a now).1 = { b with tokens := b.refilled a now, updated := some now } ∧
    (b.take cost a now).2.2 =
      max 1 (truncate ((cost - b.refilled a now) / max a.refillPerSec (1 / 1000000000)) + 1) := by
  have lacks : ¬ (cost : Rat) ≤ b.refilled a now := by
    intro enough
    rw [(b.take_taken cost a now).mpr enough] at short
    cases short
  simp only [take, if_neg lacks]
  exact ⟨not_le.mp lacks, trivial, trivial⟩

/-- What a bucket that refused a cost holds later. -/
theorem Bucket.refilled_later {b : Bucket} {cost : Nat} {a : Allowance} {now later : Rat}
    (short : (b.take cost a now).2.1 = false) (ordered : now ≤ later) :
    (b.take cost a now).1.refilled a later = min (a.burst : Rat) (b.refilled a now + (later - now) * a.refillPerSec) := by
  rw [(Bucket.take_refused short).2.1, Bucket.refilled]
  simp only [Option.getD_some]
  rw [max_eq_right (sub_nonneg.mpr ordered)]

/-- Who waits as long as advised finds the cost in the bucket, if it can hold that
much and is filled at all. -/
theorem Bucket.advice_iff {b : Bucket} {cost : Nat} {a : Allowance} {now : Rat} (short : (b.take cost a now).2.1 = false) :
    (∀ later : Rat, now + (b.take cost a now).2.2 ≤ later → (cost : Rat) ≤ (b.take cost a now).1.refilled a later) ↔
      cost ≤ a.burst ∧ 0 < a.ratePerMin := by
  obtain ⟨lacks, _, wait⟩ := Bucket.take_refused short
  have atOnce : (1 : Int) ≤ (b.take cost a now).2.2 := by
    rw [wait]
    exact le_max_left _ _
  have positive : (1 : Rat) ≤ (b.take cost a now).2.2 := by exact_mod_cast atOnce
  constructor
  · intro honest
    have holds := honest _ le_rfl
    rw [Bucket.refilled_later short (by linarith)] at holds
    have least := holds.trans (min_le_left _ _)
    refine ⟨by exact_mod_cast least, ?_⟩
    by_contra still
    have none : a.refillPerSec = 0 := by simp [Allowance.refillPerSec, Nat.eq_zero_of_not_pos still]
    rw [none, mul_zero, add_zero] at holds
    exact absurd (holds.trans (min_le_right _ _)) (not_le.mpr lacks)
  · intro ⟨fits, flows⟩ later waited
    obtain ⟨rate, least⟩ := Allowance.refillPerSec_bounds flows
    have deficit : 0 < (cost - b.refilled a now) / a.refillPerSec := div_pos (by linarith) rate
    have long : (cost - b.refilled a now) / a.refillPerSec < (b.take cost a now).2.2 := by
      rw [wait, least]
      push_cast
      exact (lt_truncate_add_one deficit.le).trans_le (le_max_right _ _)
    rw [Bucket.refilled_later short (by linarith)]
    apply le_min
    · exact_mod_cast fits
    · have flowed : (cost - b.refilled a now) / a.refillPerSec ≤ later - now := by linarith
      rw [div_le_iff₀ rate] at flowed
      linarith

end Waiting

namespace RateLimiter

/-- The caller's rate lets a call through, whatever the other limits say. -/
def RateAdmits (limiter : RateLimiter) (call : Call) : Prop :=
  (call.cost : Rat) ≤ (limiter.bucketFor call).refilled call.allowance call.now

theorem RateAdmits.fits {limiter : RateLimiter} {call : Call} (admits : RateAdmits limiter call) :
    call.cost ≤ call.allowance.burst := by
  have least := le_trans admits (min_le_left _ _)
  exact_mod_cast least

/-- A later call of the same kind. -/
def again (call : Call) (later : Rat) : Call := { call with now := later }

/-- The state after a call that was refused for its rate. -/
structure RateRefused (limiter : RateLimiter) (call : Call) (left : RateLimiter) (decision : Decision) : Prop where
  short : ((limiter.bucketFor call).take call.cost call.allowance call.now).2.1 = false
  advice : decision.retryAfter = ((limiter.bucketFor call).take call.cost call.allowance call.now).2.2
  bucket : left.buckets.get? call.key = some ((limiter.bucketFor call).take call.cost call.allowance call.now).1

theorem check_of_open {limiter : RateLimiter} {call : Call} {buckets : Dict String Bucket} (passed : limiter.Open call)
    (latest : (limiter.tracked call).buckets.moveToEnd call.key = some buckets) :
    limiter.check call = checkCaller { limiter.tracked call with buckets := buckets } call (limiter.bucketFor call) := by
  rw [check, if_neg (not_lt.mpr passed.fits), checkLocked_open passed, latest]

theorem rate_refused {limiter : RateLimiter} {call : Call} (refused : (limiter.check call).2.limit = "rate") :
    RateRefused limiter call (limiter.check call).1 (limiter.check call).2 := by
  have outcome := limiter.check_outcome call
  have advice (buckets : Dict String Bucket) (passed : limiter.Open call)
      (latest : (limiter.tracked call).buckets.moveToEnd call.key = some buckets)
      (idle : (limiter.bucketFor call).inflight < call.allowance.concurrency)
      (short : ((limiter.bucketFor call).take call.cost call.allowance call.now).2.1 = false) :
      (limiter.check call).2.retryAfter = ((limiter.bucketFor call).take call.cost call.allowance call.now).2.2 := by
    simp [check_of_open passed latest, checkCaller, not_le.mpr idle, short, Call.refused]
  generalize limiter.check call = result at outcome refused advice ⊢
  cases outcome with
  | rate buckets reason retry passed latest idle short =>
    refine ⟨short, advice buckets passed latest idle short, ?_⟩
    simp [count]
  | unavailable passed dropped =>
    cases closed : limiter.failClosed <;> simp [Call.unavailable, closed] at refused
  | admitted buckets decision passed latest idle paid answer => simp [answer] at refused
  | _ => simp [Call.refused] at refused

theorem capacity_refused {limiter : RateLimiter} {call : Call} (refused : AtCapacity (limiter.check call).2) :
    (limiter.globalBucket.take call.cost limiter.ceiling call.now).2.1 = false ∧
    (limiter.check call).2.retryAfter = (limiter.globalBucket.take call.cost limiter.ceiling call.now).2.2 := by
  obtain ⟨fits, lacks⟩ := (limiter.atCapacity_iff call).mp refused
  have short : (limiter.globalBucket.take call.cost limiter.ceiling call.now).2.1 = false := by
    rw [Bool.eq_false_iff, ne_eq, Bucket.take_taken]
    exact not_le.mpr lacks
  refine ⟨short, ?_⟩
  simp [check, not_lt.mpr fits, checkLocked, short, Call.refused]

theorem allowance_cases (tier : String) :
    0 < (allowance tier).ratePerMin ∧ (allowance tier = anonymous ∨ 12 ≤ (allowance tier).burst) := by
  unfold allowance
  cases found : allowances.lookup tier with
  | none => exact ⟨by decide, .inl rfl⟩
  | some listed =>
    obtain ⟨before, after, split, _⟩ := List.lookup_eq_some_iff.mp found
    have every : ∀ entry ∈ allowances, 0 < entry.2.ratePerMin ∧ 12 ≤ entry.2.burst := by decide
    obtain ⟨flows, deep⟩ := every (tier, listed) (by simp [split])
    exact ⟨flows, .inr deep⟩

theorem costOf_cases (method scope : String) : costOf method scope = 12 ∨ costOf method scope ≤ 8 := by
  have listed : ∀ entry ∈ costs, entry.2 = 12 ∨ entry.2 ≤ 8 := by decide
  unfold costOf
  split
  · exact .inl rfl
  · split
    · exact .inr le_rfl
    · cases found : cost method with
      | none => exact .inr (by decide)
      | some units =>
        obtain ⟨before, after, split, _⟩ := List.lookup_eq_some_iff.mp found
        exact listed (method, units) (by simp [split])

/-- A chain costs more than the bucket of an anonymous caller ever holds, and nothing
else costs more than its caller's bucket. -/
theorem cost_le_burst_iff (call : Call) :
    call.cost ≤ call.allowance.burst ↔ ¬ (call.allowance = anonymous ∧ call.cost = 12) := by
  have cheap := costOf_cases call.method call.scope
  have deep := (allowance_cases call.tier).2
  change call.cost = 12 ∨ call.cost ≤ 8 at cheap
  change call.allowance = anonymous ∨ 12 ≤ call.allowance.burst at deep
  constructor
  · rintro fits ⟨bare, dear⟩
    rw [bare, dear] at fits
    exact absurd fits (by decide)
  · intro listed
    obtain bare | deep := deep
    · have less := cheap.resolve_left fun dear => listed ⟨bare, dear⟩
      rw [bare]
      exact less.trans (by decide)
    · omega

/-- Waiting as advised is enough for the limit that refused, exactly where that
limit can ever hold the cost of the call. -/
theorem advice_honest_iff (limiter : RateLimiter) (call : Call) :
    ((limiter.check call).2.limit = "rate" →
      ((∀ later : Rat, call.now + (limiter.check call).2.retryAfter ≤ later →
        RateAdmits (limiter.check call).1 (again call later)) ↔ ¬ (call.allowance = anonymous ∧ call.cost = 12))) ∧
    (AtCapacity (limiter.check call).2 →
      ((∀ later : Rat, call.now + (limiter.check call).2.retryAfter ≤ later →
        ¬ AtCapacity ((limiter.check call).1.check (again call later)).2) ↔
        call.cost ≤ limiter.ceiling.burst ∧ 0 < limiter.ceiling.ratePerMin)) := by
  constructor
  · intro refused
    obtain ⟨short, advice, bucket⟩ := rate_refused refused
    have same : (limiter.check call).1.bucketFor call =
        ((limiter.bucketFor call).take call.cost call.allowance call.now).1 := by
      rw [bucketFor, bucket, Option.getD_some]
    have flows : 0 < call.allowance.ratePerMin := (allowance_cases call.tier).1
    have exact := Bucket.advice_iff short
    rw [← cost_le_burst_iff, ← and_iff_left flows (a := call.cost ≤ call.allowance.burst), ← exact, ← advice, ← same]
    rfl
  · intro full
    obtain ⟨short, advice⟩ := capacity_refused full
    have fits := ((limiter.atCapacity_iff call).mp full).1
    have bucket := limiter.check_globalBucket call
    rw [if_neg (not_lt.mpr fits)] at bucket
    rw [← Bucket.advice_iff short, ← advice, ← bucket]
    apply forall₂_congr
    intro later _
    rw [atCapacity_iff, shared, (limiter.check_frame call).2.2.1, not_and, not_lt]
    exact forall_prop_of_true fits

/-- An anonymous caller has spent its units on two calls, and waits for the third. -/
theorem advice_followed :
    let limiter := Transition.run step (fresh 120000 40000 256 50000 true)
      [.check { agentKey := "x", now := 0 }, .check { agentKey := "x", now := 0 }]
    let call : Call := { agentKey := "x", now := 0 }
    ∀ later : Rat, call.now + (limiter.check call).2.retryAfter ≤ later →
      RateAdmits (limiter.check call).1 (again call later) := by
  intro limiter call
  exact ((advice_honest_iff limiter call).1 (by decide +kernel)).mpr (by decide +kernel)

/-- An anonymous caller is told to wait for seven seconds with a chain, which is
refused whenever it is asked for again. -/
theorem chain_never_admitted :
    let limiter := fresh 120000 40000 256 50000 true
    let call : Call := { agentKey := "x", scope := "t2t:chain", now := 0 }
    let left := (limiter.check call).1
    (¬ ((limiter.check call).2.limit = "rate" → ∀ later : Rat, call.now + (limiter.check call).2.retryAfter ≤ later →
      RateAdmits left (again call later))) ∧
    (limiter.check call).2.retryAfter = 7 ∧ (left.check (again call 7)).2.limit = "rate" ∧
    ∀ later : Rat, ¬ RateAdmits left (again call later) := by
  intro limiter call left
  have never : ∀ later : Rat, ¬ RateAdmits left (again call later) := by
    intro later holds
    have fits : call.cost ≤ call.allowance.burst := holds.fits
    exact absurd fits (by decide +kernel)
  refine ⟨?_, by decide +kernel, by decide +kernel, never⟩
  intro honest
  exact never _ (honest (by decide +kernel) _ le_rfl)

end RateLimiter

end Xcp.Limits
