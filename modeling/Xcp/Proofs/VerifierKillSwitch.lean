import Xcp.Verifier.Sessions

/-! The kill switch of the verifier. In memory a revoked footprint can only be
served by an object whose flag is up; on chain the contract has the last word. -/

namespace Xcp.Verifier
open Checked Python Http Transition

variable {config : Config} {state : State} {footprint : String}

/-! ### Flags that are up stay up -/

theorem isRevoked_allocate {binding : Binding} {object : Nat} (up : state.isRevoked object = true) :
    (state.allocate binding).isRevoked object = true := by
  unfold State.isRevoked at up ⊢
  cases held : state.objects[object]? with
  | none =>
    rw [held] at up
    cases up
  | some found =>
    have inside : object < state.objects.length := (List.getElem?_eq_some_iff.mp held).1
    rw [held] at up
    simp only [State.allocate, List.getElem?_append_left inside, held]
    exact up

theorem isRevoked_setRevoked {object other : Nat} (up : state.isRevoked other = true) :
    (state.setRevoked object).isRevoked other = true := by
  unfold State.isRevoked at up ⊢
  cases held : state.objects[other]? with
  | none =>
    rw [held] at up
    cases up
  | some found =>
    rw [held] at up
    simp only [State.setRevoked, List.getElem?_modify, held]
    split
    next => rfl
    next => exact up

theorem setRevoked_isRevoked {object : Nat} (inside : object < state.objects.length) :
    (state.setRevoked object).isRevoked object = true := by
  simp [State.isRevoked, State.setRevoked, inside]

/-- The footprint is recorded as revoked, and what the cache holds for it has
its flag up. -/
structure Killed (footprint : String) (state : State) : Prop where
  recorded : state.revoked (.str footprint) = true
  cached : ∀ expiry object, state.cache (.str footprint) = some (expiry, object) → state.isRevoked object = true

theorem Killed.allocate (killed : Killed footprint state) (binding : Binding) :
    Killed footprint (state.allocate binding) :=
  ⟨killed.recorded, fun expiry object held => isRevoked_allocate (killed.cached expiry object held)⟩

theorem Killed.setRevoked (killed : Killed footprint state) (object : Nat) :
    Killed footprint (state.setRevoked object) :=
  ⟨killed.recorded, fun expiry other held => isRevoked_setRevoked (killed.cached expiry other held)⟩

theorem Killed.invalidate (killed : Killed footprint state) (key : Json) : Killed footprint (invalidate state key) := by
  refine ⟨killed.recorded, ?_⟩
  intro expiry object held
  simp only [Verifier.invalidate, Function.update_apply] at held
  split at held
  next => cases held
  next => exact killed.cached expiry object held

theorem Killed.bind (killed : Killed footprint state) (key : Json) (binding : Binding) :
    Killed footprint (bind state key binding) := by
  have allocated := killed.allocate binding
  exact ⟨allocated.recorded, allocated.cached⟩

theorem Killed.revoke (killed : Killed footprint state) (key : Json) : Killed footprint (revoke state key) := by
  have recorded : Killed footprint { state with revoked := Function.update state.revoked key true } := by
    refine ⟨?_, killed.cached⟩
    change Function.update state.revoked key true (.str footprint) = true
    rw [Function.update_apply]
    split
    next => rfl
    next => exact killed.recorded
  cases held : state.mem key with
  | none =>
    simp only [Verifier.revoke, held]
    exact recorded
  | some object =>
    simp only [Verifier.revoke, held]
    exact recorded.setRevoked object

/-! ### Lookups -/

/-- A lookup for the footprint finds nothing, or an object whose flag is up. -/
def Refused (footprint : String) (key : Json) (state : State) (found : Option Nat) : Prop :=
  key = .str footprint → ∀ object, found = some object → state.isRevoked object = true

/-- The contract, asked for the footprint in a check of it, does not confirm it. -/
def Unconfirmed (config : Config) (footprint : String) : Request → Prop
  | .verify body _ chain => config.onChain = true → body.get "footprint" (.str "") = .ok (.str footprint) →
    ∀ bytes answer, chainFootprint (.str footprint) = .ok bytes → chain bytes = some answer → answer.valid = false
  | _ => True

theorem verifySession_killed (chain : Chain) (clock : Clock) (key : Json) (killed : Killed footprint state)
    (unconfirmed : config.onChain = true → key = .str footprint → ∀ bytes answer,
      chainFootprint (.str footprint) = .ok bytes → chain bytes = some answer → answer.valid = false) :
    Killed footprint (verifySession config state chain clock key).1 ∧
    Refused footprint key (verifySession config state chain clock key).1
      (verifySession config state chain clock key).2 := by
  unfold verifySession
  split
  next onChain =>
    cases read : readChain config chain clock key with
    | error =>
      refine ⟨killed, ?_⟩
      rintro _ _ ⟨⟩
    | ok binding =>
      refine ⟨killed.allocate binding, ?_⟩
      rintro rfl object found
      obtain rfl : state.objects.length = object := by simpa using found
      -- the flag of an object read from the chain is the negated answer
      have denied : binding.revoked = true := by
        simp only [readChain, bind_eq_ok] at read
        obtain ⟨bytes, asked, read⟩ := read
        split at read
        next => cases read
        next answer answered =>
          obtain rfl := (pure_eq_ok _ _).mp read
          simp [unconfirmed onChain rfl bytes answer asked answered]
      simp [State.isRevoked, State.allocate, denied]
  next =>
    cases held : state.mem key with
    | none =>
      refine ⟨killed, ?_⟩
      rintro _ _ ⟨⟩
    | some object =>
      refine ⟨?_, ?_⟩
      · dsimp only
        split
        · exact killed.setRevoked object
        · exact killed
      · rintro rfl other found
        obtain rfl : object = other := by simpa using found
        simp only [killed.recorded, if_true]
        exact setRevoked_isRevoked (state.allocated _ _ held)

theorem cached_killed {clock : Clock} (killed : Killed footprint state) :
    cached state clock (.str footprint) = none := by
  unfold cached
  cases held : state.cache (.str footprint) with
  | none => rfl
  | some entry =>
    have up := killed.cached entry.1 entry.2 held
    simp [up]

theorem cachedVerify_killed (chain : Chain) (clock : Clock) (key : Json) (killed : Killed footprint state)
    (unconfirmed : config.onChain = true → key = .str footprint → ∀ bytes answer,
      chainFootprint (.str footprint) = .ok bytes → chain bytes = some answer → answer.valid = false) :
    Killed footprint (cachedVerify config state chain clock key).1 ∧
    Refused footprint key (cachedVerify config state chain clock key).1
      (cachedVerify config state chain clock key).2 := by
  unfold cachedVerify
  cases hit : cached state clock key with
  | some object =>
    refine ⟨killed, ?_⟩
    rintro rfl
    rw [cached_killed killed] at hit
    cases hit
  | none =>
    obtain ⟨kept, refused⟩ := verifySession_killed chain clock key killed unconfirmed
    cases session : verifySession config state chain clock key with
    | mk after found =>
      rw [session] at kept refused
      cases found with
      | none => exact ⟨kept, refused⟩
      | some object =>
        refine ⟨⟨kept.recorded, ?_⟩, refused⟩
        intro expiry other held
        simp only [Function.update_apply] at held
        split at held
        next same =>
          cases held
          exact refused same.symm object rfl
        next => exact kept.cached expiry other held

/-! ### Requests -/

/-- A check of the footprint is answered with `valid = false`. -/
def AnswersInvalid (config : Config) (footprint : String) (state : State) : Request → Prop
  | .verify body clock chain => body.get "footprint" (.str "") = .ok (.str footprint) →
    (handle config state (.verify body clock chain)).2.body.get "valid" = .ok (.bool false)
  | _ => True

theorem isRevoked_object {object : Nat} {binding : Binding} (held : state.objects[object]? = some binding) :
    state.isRevoked object = binding.revoked := by
  simp [State.isRevoked, held]

theorem verify_killed {chain : Chain} {clock : Clock} {body : Json} (killed : Killed footprint state)
    (unconfirmed : Unconfirmed config footprint (.verify body clock chain)) :
    Killed footprint (serve state (verify config state chain clock body)).1 ∧
    (body.get "footprint" (.str "") = .ok (.str footprint) →
      (serve state (verify config state chain clock body)).2.body.get "valid" = .ok (.bool false)) := by
  dsimp only [Unconfirmed] at unconfirmed
  unfold verify
  cases given : body.get "footprint" (.str "") with
  | error exception => exact ⟨killed, fun same => nomatch same⟩
  | ok value =>
    rw [given] at unconfirmed
    simp only [attempt_ok, ok_bind]
    by_cases present : value.truthy = true
    · simp only [require_true _ present, ok_bind]
      cases keyed : value.key with
      | error exception =>
        refine ⟨killed, fun same => ?_⟩
        cases same
        cases keyed
      | ok key =>
        have named : key = .str footprint ↔ value = .str footprint := by
          rw [← Json.key_eq_str value, keyed, Except.ok.injEq]
        obtain ⟨kept, refused⟩ := cachedVerify_killed chain clock key killed
          (fun onChain same => unconfirmed onChain (by rw [named.mp same]))
        simp only [attempt_ok, ok_bind]
        split
        next binding found =>
          refine ⟨kept, fun same => ?_⟩
          obtain ⟨object, session, held⟩ := Option.bind_eq_some_iff.mp found
          have up := refused (named.mpr (by simpa using same)) object session
          rw [isRevoked_object held] at up
          change (binding.toJson clock).get "valid" = _
          simp [Binding.toJson, Binding.isValid, Json.get, Json.find?, up]
        next => exact ⟨kept, fun _ => rfl⟩
    · simp only [require, present]
      exact ⟨killed, fun _ => rfl⟩

theorem adminBind_killed {clock : Clock} {body : Json} (killed : Killed footprint state) :
    Killed footprint (serve state (adminBind state clock body)).1 := by
  rcases serve_cases state (adminBind state clock body) with ⟨answer, done, same⟩ | same
  · rw [same]
    simp only [adminBind, bind_eq_ok, pure_eq_ok] at done
    obtain ⟨_, _, _, _, _, _, _, _, _, _, _, _, rfl⟩ := done
    exact (killed.bind _ _).invalidate _
  · rwa [same]

theorem step_killed {request : Request} (killed : Killed footprint state)
    (unconfirmed : Unconfirmed config footprint request) :
    Killed footprint (step config state request) ∧ AnswersInvalid config footprint state request := by
  cases request with
  | verify body clock chain => exact verify_killed killed unconfirmed
  | adminRevoke other => exact ⟨(killed.revoke _).invalidate _, trivial⟩
  | adminBind body clock => exact ⟨adminBind_killed killed, trivial⟩

theorem adminRevoke_kills (state : State) (footprint : String) : Killed footprint (adminRevoke state footprint).1 := by
  refine ⟨?_, ?_⟩
  · unfold adminRevoke revoke
    dsimp only
    split
    · exact Function.update_self _ _ _
    · exact Function.update_self _ _ _
  · intro expiry object held
    simp [adminRevoke, invalidate] at held

/-- After a revocation every check of the footprint is answered with
`valid = false` as long as the contract, where there is one, does not confirm it. -/
theorem revoked_answersInvalid (config : Config) (state : State) (footprint : String) (requests : List Request)
    (denied : ∀ request ∈ requests, Unconfirmed config footprint request) :
    Meets (step config) (AnswersInvalid config footprint) (adminRevoke state footprint).1 requests := by
  have start := adminRevoke_kills state footprint
  exact (Meets.of_forall denied).of_held (fun _ _ => step_killed) start

/-! ### The two modes -/

def noon : Clock := ⟨1000, 1000, 1000⟩

def asks (chain : Chain) : Request := .verify (.dict [("footprint", .str "0xab")]) noon chain

theorem unconfirmed_inMemory (footprint : String) (request : Request) :
    Unconfirmed { onChain := false } footprint request := by
  cases request with
  | verify => exact fun onChain => nomatch onChain
  | adminRevoke => trivial
  | adminBind => trivial

/-- In memory a footprint stays revoked when it is bound again. -/
theorem revoked_answersInvalid_inMemory :
    Meets (step { onChain := false }) (AnswersInvalid { onChain := false } "0xab") (adminRevoke {} "0xab").1
      [.adminBind (.dict [("footprint", .str "0xab")]) noon, asks (fun _ => none)] :=
  revoked_answersInvalid _ _ _ _ (fun request _ => unconfirmed_inMemory "0xab" request)

/-- On chain nobody looks at what was revoked here. -/
theorem revoked_valid_onChain :
    ¬ Meets (step { onChain := true }) (AnswersInvalid { onChain := true } "0xab") (adminRevoke {} "0xab").1
      [asks (fun _ => some ⟨true, 7, [], []⟩)] := by
  rintro ⟨answers, -⟩
  have answer := answers rfl
  revert answer
  decide

end Xcp.Verifier
