import Mathlib.Algebra.Order.Ring.Defs
import Mathlib.Tactic.Linarith
import Mathlib.Tactic.Ring
import Xcp.Library.Transition

/-! Token buckets, and how much is drawn from one of them over a window of time.
What a bucket holds, with what flows in until the window ends, pays for every
draw; a bucket that is thrown away and made anew pays its capacity once more. -/

namespace TokenBucket
open Transition

variable {K : Type*} [CommRing K] [LinearOrder K] [IsStrictOrderedRing K]

/-- What a bucket holds at most, and how fast it fills. -/
structure Terms (K : Type*) [CommRing K] [LinearOrder K] where
  capacity : K
  rate : K
  capacity_nonneg : 0 ≤ capacity
  rate_nonneg : 0 ≤ rate

/-- A bucket takes its reference point from the first moment at which it is used. -/
structure Bucket (K : Type*) where
  tokens : K
  updated : Option K := none
deriving DecidableEq

section Levels
variable (terms : Terms K) (bucket : Bucket K)

/-- What the bucket holds at a moment. A clock that goes back drains nothing. -/
def level (now : K) : K :=
  min terms.capacity (bucket.tokens + max 0 (now - bucket.updated.getD now) * terms.rate)

def draw (cost now : K) : Bucket K × Bool :=
  let tokens := level terms bucket now
  if cost ≤ tokens then (⟨tokens - cost, some now⟩, true) else (⟨tokens, some now⟩, false)

variable {terms bucket}

omit [IsStrictOrderedRing K] in
theorem level_le (now : K) : level terms bucket now ≤ terms.capacity := min_le_left _ _

theorem level_nonneg (holds : 0 ≤ bucket.tokens) (now : K) : 0 ≤ level terms bucket now := by
  have flows : 0 ≤ max 0 (now - bucket.updated.getD now) * terms.rate :=
    mul_nonneg (le_max_left _ _) terms.rate_nonneg
  exact le_min terms.capacity_nonneg (add_nonneg holds flows)

theorem level_full (full : terms.capacity ≤ bucket.tokens) (now : K) : level terms bucket now = terms.capacity := by
  have flows : 0 ≤ max 0 (now - bucket.updated.getD now) * terms.rate :=
    mul_nonneg (le_max_left _ _) terms.rate_nonneg
  apply min_eq_left
  linarith

omit [IsStrictOrderedRing K] in
@[simp] theorem level_updated (tokens now : K) : level terms ⟨tokens, some now⟩ now = min terms.capacity tokens := by
  simp [level]

theorem level_mono {less : Terms K} (smaller : less.capacity ≤ terms.capacity) (slower : less.rate ≤ terms.rate)
    (now : K) : level less bucket now ≤ level terms bucket now := by
  have flows := mul_le_mul_of_nonneg_left slower (le_max_left 0 (now - bucket.updated.getD now))
  exact min_le_min smaller (by linarith)

/-- No more flows in than the rate allows. -/
theorem level_later (terms : Terms K) (bucket : Bucket K) {now later : K} (ordered : now ≤ later) :
    level terms bucket later ≤ level terms bucket now + (later - now) * terms.rate := by
  have flows : 0 ≤ (later - now) * terms.rate := mul_nonneg (sub_nonneg.mpr ordered) terms.rate_nonneg
  have elapsed : max 0 (later - bucket.updated.getD later) ≤ max 0 (now - bucket.updated.getD now) + (later - now) := by
    have passed : (0 : K) ≤ max 0 (now - bucket.updated.getD now) := le_max_left _ _
    have since : now - bucket.updated.getD now ≤ max 0 (now - bucket.updated.getD now) := le_max_right _ _
    apply max_le (by linarith)
    cases used : bucket.updated with
    | none => simpa [used] using add_nonneg passed (sub_nonneg.mpr ordered)
    | some moment =>
      simp only [used, Option.getD_some] at since ⊢
      linarith
  have grown := mul_le_mul_of_nonneg_right elapsed terms.rate_nonneg
  rw [add_mul] at grown
  rw [level, level, ← min_add_add_right]
  apply min_le_min
  · linarith
  · linarith

omit [IsStrictOrderedRing K] in
theorem draw_of_le {cost now : K} (enough : cost ≤ level terms bucket now) :
    draw terms bucket cost now = (⟨level terms bucket now - cost, some now⟩, true) := if_pos enough

omit [IsStrictOrderedRing K] in
theorem draw_of_lt {cost now : K} (short : level terms bucket now < cost) :
    draw terms bucket cost now = (⟨level terms bucket now, some now⟩, false) := if_neg (not_le.mpr short)

/-- A draw takes its cost from the level, and a refused one takes nothing. -/
theorem level_draw {cost : K} (positive : 0 ≤ cost) (now : K) :
    level terms (draw terms bucket cost now).1 now =
      level terms bucket now - if (draw terms bucket cost now).2 then cost else 0 := by
  have most : level terms bucket now ≤ terms.capacity := level_le now
  rcases le_or_gt cost (level terms bucket now) with enough | short
  · rw [draw_of_le enough, level_updated]
    exact min_eq_right (by linarith)
  · rw [draw_of_lt short, level_updated]
    simp [most]

/-- A draw on narrower terms leaves no more than there was. -/
theorem level_draw_le {less : Terms K} (smaller : less.capacity ≤ terms.capacity) (slower : less.rate ≤ terms.rate)
    {cost : K} (positive : 0 ≤ cost) (now : K) :
    level terms (draw less bucket cost now).1 now ≤ level terms bucket now := by
  have narrow : level less bucket now ≤ level terms bucket now := level_mono smaller slower now
  apply le_trans _ narrow
  rcases le_or_gt cost (level less bucket now) with enough | short
  · rw [draw_of_le enough, level_updated]
    exact (min_le_right _ _).trans (sub_le_self _ positive)
  · rw [draw_of_lt short, level_updated]
    exact min_le_right _ _

theorem draw_nonneg (holds : 0 ≤ bucket.tokens) (cost now : K) : 0 ≤ (draw terms bucket cost now).1.tokens := by
  rcases le_or_gt cost (level terms bucket now) with enough | short
  · rw [draw_of_le enough]
    exact sub_nonneg.mpr enough
  · rw [draw_of_lt short]
    exact level_nonneg holds now

end Levels

/-! ### Windows -/

section Windows
variable {σ ε : Type*} (step : σ → ε → σ) (terms : Terms K) (time : ε → Option K) (bucket : σ → Bucket K)

/-- The weight of an event that falls into the window. -/
def within (start finish : K) (weight : σ → ε → K) (state : σ) (event : ε) : K :=
  match time event with
  | some now => if start ≤ now ∧ now ≤ finish then weight state event else 0
  | none => 0

/-- A step is paid for from the bucket, but for the buckets that it throws away. -/
structure Pays (charge drops : σ → ε → K) (state : σ) (event : ε) : Prop where
  idle : time event = none → ∀ now, level terms (bucket (step state event)) now ≤ level terms (bucket state) now
  paid : ∀ now, time event = some now → charge state event + level terms (bucket (step state event)) now ≤
    level terms (bucket state) now + drops state event * terms.capacity
  holds : ∀ now, 0 ≤ level terms (bucket (step state event)) now

/-- What is still to be had from a bucket until the window ends, given the last
moment at which anything happened. -/
def reserve (start finish : K) (clock : Option K) (bucket : Bucket K) : K :=
  match clock with
  | none => terms.capacity + (finish - start) * terms.rate
  | some now =>
    if now < start then terms.capacity + (finish - start) * terms.rate
    else if now ≤ finish then level terms bucket now + (finish - now) * terms.rate
    else 0

variable {step terms time bucket} {start finish : K} {charge drops : σ → ε → K} {state : σ} {event : ε}

theorem whole_nonneg (terms : Terms K) (window : start ≤ finish) : 0 ≤ terms.capacity + (finish - start) * terms.rate :=
  add_nonneg terms.capacity_nonneg (mul_nonneg (sub_nonneg.mpr window) terms.rate_nonneg)

theorem reserve_nonneg {held : Bucket K} (window : start ≤ finish) (holds : ∀ now, 0 ≤ level terms held now)
    (clock : Option K) : 0 ≤ reserve terms start finish clock held := by
  have whole := whole_nonneg terms window
  unfold reserve
  split
  · exact whole
  next now =>
    split_ifs with early inside
    · exact whole
    · exact add_nonneg (holds now) (mul_nonneg (sub_nonneg.mpr inside) terms.rate_nonneg)
    · exact le_rfl

/-- At a moment in the window what is left is the level, and what flows in. -/
theorem level_add_le_reserve (terms : Terms K) (held : Bucket K) {clock : Option K} {now : K} (later : ∀ moment ∈ clock, moment ≤ now)
    (after : start ≤ now) (before : now ≤ finish) :
    level terms held now + (finish - now) * terms.rate ≤ reserve terms start finish clock held := by
  have most : level terms held now ≤ terms.capacity := level_le now
  have less := mul_le_mul_of_nonneg_right (sub_le_sub_left after finish) terms.rate_nonneg
  unfold reserve
  split
  · linarith
  next moment =>
    have ordered : moment ≤ now := later moment rfl
    have flowed := level_later terms held ordered
    have parts : (now - moment) * terms.rate + (finish - now) * terms.rate = (finish - moment) * terms.rate := by ring
    split_ifs with early inside
    · linarith
    · linarith
    · exact absurd (ordered.trans before) inside

theorem reserve_step {clock : Option K} {now : K} (window : start ≤ finish) (timed : time event = some now)
    (later : ∀ moment ∈ clock, moment ≤ now) (holds : ∀ now, 0 ≤ level terms (bucket state) now)
    (pays : Pays step terms time bucket charge drops state event) :
    within time start finish charge state event + reserve terms start finish (some now) (bucket (step state event)) ≤
      reserve terms start finish clock (bucket state) + within time start finish drops state event * terms.capacity := by
  have left := reserve_nonneg window holds clock
  simp only [within, timed, reserve.eq_2]
  by_cases early : now < start
  · have same : reserve terms start finish clock (bucket state) = terms.capacity + (finish - start) * terms.rate := by
      unfold reserve
      split
      · rfl
      next moment => exact if_pos ((later moment rfl).trans_lt early)
    have outside : ¬ (start ≤ now ∧ now ≤ finish) := fun inside => absurd inside.1 (not_le.mpr early)
    simp [early, outside, same]
  · by_cases inside : now ≤ finish
    · have held := level_add_le_reserve terms (bucket state) later (not_lt.mp early) inside
      have paid := pays.paid now timed
      simp only [early, inside, not_lt.mp early, and_self, if_true, if_false]
      linarith
    · simp [early, inside, left]

theorem reserve_idle (start finish : K) (clock : Option K) (untimed : time event = none)
    (pays : Pays step terms time bucket charge drops state event) :
    reserve terms start finish clock (bucket (step state event)) ≤ reserve terms start finish clock (bucket state) := by
  unfold reserve
  split
  · exact le_rfl
  next moment =>
    have kept := pays.idle untimed moment
    split_ifs
    · exact le_rfl
    · linarith
    · exact le_rfl

theorem total_le_reserve {events : List ε} (start finish : K) (clock : Option K) (window : start ≤ finish)
    (meets : Meets step (Pays step terms time bucket charge drops) state events)
    (holds : ∀ now, 0 ≤ level terms (bucket state) now) (ordered : (events.filterMap time).Pairwise (· ≤ ·))
    (later : ∀ moment ∈ clock, ∀ now ∈ events.filterMap time, moment ≤ now) :
    total step (within time start finish charge) state events ≤ reserve terms start finish clock (bucket state) +
      total step (within time start finish drops) state events * terms.capacity := by
  induction events generalizing state clock with
  | nil => simpa [total] using reserve_nonneg window holds clock
  | cons event rest ih =>
    obtain ⟨pays, meets⟩ := meets
    rw [total, total, add_mul]
    cases timed : time event with
    | none =>
      rw [List.filterMap_cons_none timed] at ordered later
      have tail := ih clock meets pays.holds ordered later
      have kept := reserve_idle start finish clock timed pays
      simp only [within, timed, zero_mul, zero_add] at tail ⊢
      linarith
    | some now =>
      rw [List.filterMap_cons_some timed] at ordered later
      obtain ⟨first, ordered⟩ := List.pairwise_cons.mp ordered
      have clocked : ∀ moment ∈ some now, ∀ other ∈ rest.filterMap time, moment ≤ other := by
        rintro moment ⟨⟩
        exact first
      have tail := ih (some now) meets pays.holds ordered clocked
      have step := reserve_step window timed (fun moment member => later moment member now (List.mem_cons_self ..)) holds pays
      linarith

/-- Over a window no more is drawn than the capacity and what flows in, and the
capacity once more for every bucket that was thrown away. -/
theorem total_le {events : List ε} (start : K) {length : K} (window : 0 ≤ length)
    (meets : Meets step (Pays step terms time bucket charge drops) state events)
    (holds : ∀ now, 0 ≤ level terms (bucket state) now) (ordered : (events.filterMap time).Pairwise (· ≤ ·)) :
    total step (within time start (start + length) charge) state events ≤
      (1 + total step (within time start (start + length) drops) state events) * terms.capacity + terms.rate * length := by
  have most := total_le_reserve start (start + length) none (le_add_of_nonneg_right window) meets holds ordered (by simp)
  rw [reserve, add_sub_cancel_left] at most
  linarith

omit [IsStrictOrderedRing K] in
theorem within_zero (start finish : K) (state : σ) (event : ε) :
    within time start finish (fun _ _ => 0) state event = 0 := by
  unfold within
  split
  · exact ite_self 0
  · rfl

end Windows

end TokenBucket
