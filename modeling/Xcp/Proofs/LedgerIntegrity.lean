import Xcp.Proofs.RoutingLedger

/-! What the books say of the receipts behind them. No route is billed twice, and
a commitment counts and adds up what its epoch holds, as long as nothing is filed
under it later and it closes over one currency. -/

namespace Xcp.Transport
open Checked Python Eth Transition

/-- Each route id stands in at most one receipt, and the claimed routes are those
of the receipts. -/
structure BilledOnce (ledger : RoutingLedger) : Prop where
  within : ∀ epoch, ((ledger.held epoch).map TransportReceipt.routeId).Nodup
  across : ∀ epoch epoch' receipt receipt', receipt ∈ ledger.held epoch → receipt' ∈ ledger.held epoch' →
    receipt.routeId = receipt'.routeId → epoch = epoch'
  claimed : ∀ routeId, routeId ∈ ledger.claimedRoutes ↔ ∃ epoch, ∃ receipt ∈ ledger.held epoch, receipt.routeId = routeId

def OneCurrency (receipts : List TransportReceipt) : Prop :=
  ∀ receipt ∈ receipts, ∀ other ∈ receipts, receipt.currency = other.currency

theorem BilledOnce.file {ledger : RoutingLedger} {receipt : TransportReceipt} (once : BilledOnce ledger)
    (unclaimed : receipt.routeId ∉ ledger.claimedRoutes) (epoch : Int) : BilledOnce (ledger.file receipt epoch) where
  within := by
    intro other
    rw [held_file]
    split
    next =>
      rw [List.map_append, List.nodup_append]
      refine ⟨once.within epoch, by simp, ?_⟩
      intro old memberOld new memberNew same
      obtain ⟨held, member, rfl⟩ := List.mem_map.mp memberOld
      obtain rfl : new = receipt.routeId := by simpa using memberNew
      exact unclaimed ((once.claimed _).mpr ⟨epoch, held, member, same⟩)
    next => exact once.within other
  across := by
    intro first second old new memberOld memberNew same
    have claimed := fun epoch receipt member => (once.claimed _).mpr ⟨epoch, receipt, member, rfl⟩
    rcases (mem_held_file ledger receipt epoch).mp memberOld with oldBefore | ⟨rfl, rfl⟩
    · rcases (mem_held_file ledger receipt epoch).mp memberNew with newBefore | ⟨rfl, rfl⟩
      · exact once.across first second old new oldBefore newBefore same
      · exact absurd (same ▸ claimed first old oldBefore) unclaimed
    · rcases (mem_held_file ledger receipt first).mp memberNew with newBefore | ⟨rfl, rfl⟩
      · exact absurd (same ▸ claimed second new newBefore) unclaimed
      · rfl
  claimed := by
    intro routeId
    simp only [RoutingLedger.file, List.mem_append, List.mem_singleton, once.claimed]
    refine ⟨?_, ?_⟩
    · rintro (⟨other, held, member, rfl⟩ | rfl)
      · exact ⟨other, held, (mem_held_file ledger receipt epoch).mpr (.inl member), rfl⟩
      · exact ⟨epoch, _, (mem_held_file ledger receipt epoch).mpr (.inr ⟨rfl, rfl⟩), rfl⟩
    · rintro ⟨other, held, member, rfl⟩
      rcases (mem_held_file ledger receipt epoch).mp member with before | ⟨rfl, rfl⟩
      · exact .inl ⟨other, held, before, rfl⟩
      · exact .inr rfl

theorem billedOnce_fresh (nodeId : String) (chainId : Int) : BilledOnce { nodeId, chainId } where
  within := by simp [RoutingLedger.held, Dict.get?, Dict.look]
  across := by simp [RoutingLedger.held, Dict.get?, Dict.look]
  claimed := by simp [RoutingLedger.held, Dict.get?, Dict.look]

section Ledger
variable [Host] [Packages]

theorem Stepped.billedOnce {ledger after : RoutingLedger} {made : Call} (stepped : Stepped ledger made after)
    (once : BilledOnce ledger) : BilledOnce after := by
  cases stepped with
  | kept => exact once
  | recorded accepts => exact once.file accepts.unclaimed _
  | committed => exact ⟨once.within, once.across, once.claimed⟩

/-- The figures of a commitment are those of the receipts held for its epoch. -/
structure Tallies (ledger : RoutingLedger) (epoch bucket : Int) (commitment : EpochCommitment) : Prop where
  root : merkleRoot (ledger.leaves epoch) = .ok commitment.root
  total : commitment.totalMinor = ((ledger.held epoch).map TransportReceipt.priceMinor).sum
  count : commitment.routeCount = bucketCount (ledger.held epoch).length bucket
  currency : ∀ receipt ∈ ledger.held epoch, receipt.currency = commitment.currency

/-- The commitment was made by this run, and closed its epoch with that bucket. -/
def ClosedBy (start : RoutingLedger) (calls : List Call) (epoch bucket : Int) (commitment : EpochCommitment) : Prop :=
  ∃ past later, calls = past ++ .commit epoch bucket :: later ∧
    (run step start past).committed.get? epoch = none ∧
    (step (run step start past) (.commit epoch bucket)).committed.get? epoch = some commitment

/-- No accepted receipt is filed under an epoch that is closed already, and an
epoch is closed over one currency. -/
def Orderly (ledger : RoutingLedger) : Call → Prop
  | .record receipt clock => Accepts ledger receipt → ledger.committed.get? (filedUnder receipt clock) = none
  | .commit epoch _ => ledger.committed.get? epoch = none → OneCurrency (ledger.held epoch)

theorem commit_tallies {ledger after : RoutingLedger} {epoch bucket : Int} {commitment : EpochCommitment}
    (done : ledger.commit epoch bucket = .ok (after, commitment)) (one : OneCurrency (ledger.held epoch)) :
    Tallies ledger epoch bucket commitment := by
  unfold RoutingLedger.commit at done
  split at done
  · cases done
  next first rest held =>
    split at done
    · cases done
    · simp only [bind_eq_ok, pure_eq_ok, Prod.mk.injEq] at done
      obtain ⟨root, built, -, rfl⟩ := done
      refine ⟨built, by rw [held], by rw [held], ?_⟩
      intro receipt member
      exact one receipt member first (by rw [held]; exact List.mem_cons_self)

/-- A commitment over two currencies adds up what is not one sum of money. -/
theorem commit_mixed_not_tallies {ledger after : RoutingLedger} {epoch bucket : Int} {commitment : EpochCommitment}
    (done : ledger.commit epoch bucket = .ok (after, commitment)) (mixed : ¬ OneCurrency (ledger.held epoch))
    (any : Int) : ¬ Tallies after epoch any commitment := by
  intro tallies
  obtain ⟨-, rfl⟩ := commit_closes done
  apply mixed
  intro receipt member other member'
  exact (tallies.currency receipt member).trans (tallies.currency other member').symm

theorem Tallies.of_held {ledger after : RoutingLedger} {epoch bucket : Int} {commitment : EpochCommitment}
    (tallies : Tallies ledger epoch bucket commitment) (same : after.held epoch = ledger.held epoch) :
    Tallies after epoch bucket commitment := by
  obtain ⟨root, total, count, currency⟩ := tallies
  refine ⟨?_, ?_, ?_, ?_⟩
  · rwa [RoutingLedger.leaves, same]
  · rwa [same]
  · rwa [same]
  · rwa [same]

theorem ClosedBy.later {start : RoutingLedger} {calls : List Call} {epoch bucket : Int} {commitment : EpochCommitment}
    (closed : ClosedBy start calls epoch bucket commitment) (made : Call) :
    ClosedBy start (calls ++ [made]) epoch bucket commitment := by
  obtain ⟨past, later, rfl, before, after⟩ := closed
  exact ⟨past, later ++ [made], by simp, before, after⟩

/-- Every commitment tallies with what is held now. -/
def Integral (start : RoutingLedger) (calls : List Call) (ledger : RoutingLedger) : Prop :=
  ∀ epoch commitment, ledger.committed.get? epoch = some commitment →
    ∃ bucket, ClosedBy start calls epoch bucket commitment ∧ Tallies ledger epoch bucket commitment

theorem record_integral {start ledger : RoutingLedger} {past : List Call} {receipt : TransportReceipt} {clock : Int}
    (held : Integral start past ledger) (orderly : Orderly ledger (.record receipt clock)) :
    Integral start (past ++ [.record receipt clock]) (ledger.record receipt clock).1 := by
  intro epoch commitment found
  have stepped := record_stepped ledger receipt clock
  generalize (ledger.record receipt clock).1 = after at stepped found ⊢
  cases stepped with
  | kept =>
    obtain ⟨bucket, closed, tallies⟩ := held epoch commitment found
    exact ⟨bucket, closed.later _, tallies⟩
  | recorded accepts =>
    obtain ⟨bucket, closed, tallies⟩ := held epoch commitment found
    have open_ : ledger.committed.get? (filedUnder receipt clock) = none := orderly accepts
    have elsewhere : epoch ≠ filedUnder receipt clock := by
      rintro rfl
      have closed : ledger.committed.get? (filedUnder receipt clock) = some commitment := found
      rw [open_] at closed
      cases closed
    refine ⟨bucket, closed.later _, tallies.of_held ?_⟩
    rw [held_file, if_neg elsewhere]

theorem commit_integral {start ledger : RoutingLedger} {past : List Call} {epoch bucket : Int}
    (reached : run step start past = ledger) (held : Integral start past ledger)
    (orderly : Orderly ledger (.commit epoch bucket)) :
    Integral start (past ++ [.commit epoch bucket]) (step ledger (.commit epoch bucket)) := by
  intro other found committed
  have before : ∀ found, ledger.committed.get? other = some found →
      ∃ bucket', ClosedBy start (past ++ [.commit epoch bucket]) other bucket' found ∧ Tallies ledger other bucket' found := by
    intro found committed
    obtain ⟨bucket', closed, tallies⟩ := held other found committed
    exact ⟨bucket', closed.later _, tallies⟩
  have same : step ledger (.commit epoch bucket) = settle ledger (Prod.fst <$> ledger.commit epoch bucket) := rfl
  rcases settle_fst_cases ledger (ledger.commit epoch bucket) with ⟨after, commitment, done, settled⟩ | kept
  · rw [same, settled] at committed ⊢
    obtain ⟨closes, rfl⟩ := commit_closes done
    rcases Dict.get?_set_eq_some committed with ⟨rfl, rfl⟩ | earlier
    · refine ⟨bucket, ⟨past, [], rfl, ?_, ?_⟩, ?_⟩
      · rw [reached]
        exact closes.uncommitted
      · rw [reached, same, settled]
        exact committed
      · exact (commit_tallies done (orderly closes.uncommitted)).of_held rfl
    · obtain ⟨bucket', closed, tallies⟩ := before found earlier
      exact ⟨bucket', closed, tallies.of_held rfl⟩
  · rw [same, kept] at committed ⊢
    exact before found committed

/-- What a run owes its commitments, as long as it is orderly. -/
def OrderlyIntegral (start : RoutingLedger) (calls : List Call) (ledger : RoutingLedger) : Prop :=
  Meets step Orderly start calls → Integral start calls ledger

theorem step_orderlyIntegral (start : RoutingLedger) (past : List Call) (made : Call)
    (held : OrderlyIntegral start past (run step start past)) :
    OrderlyIntegral start (past ++ [made]) (step (run step start past) made) := by
  intro orderly
  obtain ⟨earlier, now, _⟩ := Meets.append.mp orderly
  cases made with
  | record => exact record_integral (held earlier) now
  | commit => exact commit_integral rfl (held earlier) now

/-- On every run each route id is billed once and the claimed routes are the
recorded ones; on every orderly run the commitments tally with their receipts. -/
theorem ledger_integrity (nodeId : String) (chainId : Int) (calls : List Call) :
    BilledOnce (run step { nodeId, chainId } calls) ∧
    (Meets step Orderly { nodeId, chainId } calls →
      Integral { nodeId, chainId } calls (run step { nodeId, chainId } calls)) := by
  refine ⟨?_, ?_⟩
  · exact run_invariant (fun ledger made => (step_stepped ledger made).billedOnce) (billedOnce_fresh nodeId chainId) calls
  · have initial : OrderlyIntegral { nodeId, chainId } [] { nodeId, chainId } := by
      intro _ epoch commitment found
      cases found
    exact run_history initial (step_orderlyIntegral _) calls

end Ledger

/-! ### Receipts without an epoch -/

section Undated

attribute [local instance] routesHost routesPackages

/-- A receipt joins an epoch after its total was published. -/
theorem undated_not_integral :
    ¬ Integral { nodeId := "0x07" } (undatedCalls ++ [undatedLater])
      (run step { nodeId := "0x07" } (undatedCalls ++ [undatedLater])) := by
  intro integral
  obtain ⟨bucket, -, tallies⟩ := integral 2 _ rfl
  have total : (5 : Int) = [5, 5].sum := tallies.total
  cases total

theorem ledger_integrity_dated :
    ∃ commitment bucket, (run step { nodeId := "0x07" } datedCalls).committed.get? 1 = some commitment ∧
      Tallies (run step { nodeId := "0x07" } datedCalls) 1 bucket commitment := by
  have orderly : Meets step Orderly { nodeId := "0x07" } datedCalls := by
    refine ⟨fun _ => rfl, ?_, trivial⟩
    intro _ receipt member other member'
    rw [List.mem_singleton.mp member, List.mem_singleton.mp member']
  obtain ⟨bucket, -, tallies⟩ := (ledger_integrity "0x07" 8453 datedCalls).2 orderly 1 _ rfl
  exact ⟨_, bucket, rfl, tallies⟩

end Undated

end Xcp.Transport
