import Xcp.Proofs.NodeIdentityBinding

/-! Who changes a bound session of the first gateway in JavaScript. Three endpoints
write to its table, and two of them ask for nothing. -/

namespace Xcp.GatewayTs
open JavaScript
open Gateway (HttpRequest)
open Node (Request World)
open Transition

def httpRequest : Request → HttpRequest
  | .sessionOpen request | .sessionClose request | .adminRevoke request | .governed request => request

variable [Unicode] [Engine] (adminToken : String)

/-- The request is the administrator's, or has the verified identity of the session. -/
def Authorized (bindings : Bindings) (event : World × Request) (key : String) : Prop :=
  adminOk adminToken (httpRequest event.2) = true ∨
    ∃ identity, parseIdentity bindings event.1.now (Node.header (httpRequest event.2) "xcp-agent-identity") = .ok identity ∧
      Unicode.toLowerCase identity.footprint = key

/-- A session that is bound stays as it is, unless someone who may changes it. -/
def KeepsOwners (process : Option Bindings) (event : World × Request) : Prop :=
  ∀ bindings after key binding, process = some bindings → step adminToken process event = some after →
    Live bindings event.1.now key binding → after key ≠ some binding → Authorized adminToken bindings event key

/-- Another session is opened in the place of one, or it is closed. -/
def Displaces (event : World × Request) (key : String) (binding : Binding) : Prop :=
  match event with
  | (world, .sessionOpen request) =>
    ∃ opening, accepts world request = some opening ∧ Unicode.toLowerCase opening.footprint = key ∧
      opening.binding world.now ≠ binding
  | (_, .sessionClose request) => negotiates request = true ∧ namedKey request = some key
  | _ => False

/-- Who opens or closes a session that is bound already may do so. -/
def OwnSession (process : Option Bindings) (event : World × Request) : Prop :=
  ∀ bindings key binding, process = some bindings → Live bindings event.1.now key binding →
    Displaces event key binding → Authorized adminToken bindings event key

variable {adminToken} {bindings after : Bindings} {event : World × Request} {key : String} {binding : Binding}

/-- What changes an entry is a write to its key. -/
theorem changed_written (done : handle adminToken bindings event = some after) (stored : bindings key = some binding)
    (changed : after key ≠ some binding) :
    ∃ write, written adminToken event = some write ∧ write.key = key ∧ write.entry bindings event.1.now ≠ some binding := by
  rw [handle_eq done] at changed
  cases wrote : written adminToken event with
  | none =>
    rw [wrote] at changed
    exact absurd stored changed
  | some write =>
    simp only [wrote] at changed
    by_cases here : key = write.key
    · subst here
      rw [Function.update_self] at changed
      exact ⟨write, rfl, rfl, changed⟩
    · rw [Function.update_of_ne here] at changed
      exact absurd stored changed

/-- An entry that changes is displaced, or the request is the administrator's. -/
theorem displaced_or_admin {write : Write} (wrote : written adminToken event = some write) (here : write.key = key)
    (other : write.entry bindings event.1.now ≠ some binding) :
    Displaces event key binding ∨ adminOk adminToken (httpRequest event.2) = true := by
  obtain ⟨world, request⟩ := event
  cases request with
  | sessionOpen request =>
    rw [written, Option.map_eq_some_iff] at wrote
    obtain ⟨opening, accepted, rfl⟩ := wrote
    rw [Write.key] at here
    rw [Write.entry, ne_eq, Option.some.injEq] at other
    exact .inl ⟨opening, accepted, here, other⟩
  | sessionClose request =>
    rw [written, Option.ite_none_right_eq_some, Option.map_eq_some_iff] at wrote
    obtain ⟨shared, named, read, rfl⟩ := wrote
    obtain rfl : named = key := here
    exact .inl ⟨shared, read⟩
  | adminRevoke request =>
    rw [written, Option.ite_none_right_eq_some, Bool.and_eq_true] at wrote
    exact .inr wrote.1.2
  | governed request => cases wrote

/-- A displaced entry changes. -/
theorem Displaces.changes (displaces : Displaces event key binding) (live : Live bindings event.1.now key binding) :
    ∃ after, handle adminToken bindings event = some after ∧ after key ≠ some binding := by
  obtain ⟨world, request⟩ := event
  cases request with
  | sessionOpen request =>
    obtain ⟨opening, accepted, rfl, other⟩ := displaces
    refine ⟨_, handle_of_accepts accepted, ?_⟩
    rw [bind, Function.update_self]
    exact fun same => other (Option.some.inj same)
  | sessionClose request =>
    obtain ⟨shared, named⟩ := displaces
    have done : handle adminToken bindings (world, .sessionClose request) = some (revoke bindings key) := by
      rw [handle, negotiated_of shared, sessionClose, named]
      rfl
    refine ⟨_, done, fun same => ?_⟩
    rw [revoke, Function.update_self, live.stored] at same
    have standing := live.standing
    rw [← Option.some.inj same] at standing
    cases standing
  | adminRevoke request => exact displaces.elim
  | governed request => exact displaces.elim

theorem keepsOwners_iff (process : Option Bindings) (event : World × Request) :
    KeepsOwners adminToken process event ↔ OwnSession adminToken process event := by
  constructor
  · intro keeps bindings key binding running live displaces
    obtain ⟨after, done, changed⟩ := displaces.changes live
    subst running
    exact keeps bindings after key binding rfl done live changed
  · intro own bindings after key binding running done live changed
    subst running
    obtain ⟨write, wrote, here, other⟩ := changed_written done live.stored changed
    obtain displaces | admin := displaced_or_admin wrote here other
    · exact own bindings key binding rfl live displaces
    · exact .inl admin

variable (adminToken)

/-- In every run, bound sessions are changed by their holders and the administrator alone
exactly where no one else opens or closes them. -/
theorem table_ownership_iff (process : Option Bindings) (events : List (World × Request)) :
    Meets (step adminToken) (KeepsOwners adminToken) process events ↔
      Meets (step adminToken) (OwnSession adminToken) process events := by
  constructor
  · intro meets
    exact meets.mono (fun process event keeps => (keepsOwners_iff process event).mp keeps)
  · intro meets
    exact meets.mono (fun process event own => (keepsOwners_iff process event).mpr own)

end Xcp.GatewayTs

/-! ### Runs -/

namespace Xcp.GatewayTs
open JavaScript
open Gateway (HttpRequest)
open Node (Request World)
open NodeIdentity
open Python (Json)
open Transition

def closeRequest : HttpRequest where
  client := "198.51.100.9"
  bodyBytes := 90
  body := .ok (.dict [("footprint", .str someFootprint)])

abbrev closeEvent : World × Request := (someWorld, .sessionClose closeRequest)

theorem closeRequest_named : namedKey closeRequest = some someFootprint := by
  have text : Node.footprintOf ((Node.parseBody bodyCap closeRequest).getD (.dict [])) = some someFootprint := by
    have filled : (Value.string someFootprint).truthy = true := by decide
    change ((Value.string someFootprint).orElse (.string "")).toText = some someFootprint
    rw [Value.orElse, if_pos filled]
    rfl
  rw [namedKey, text, Option.map_eq_map, Option.map_some, someFootprint_lower]

/-- Anyone closes anyone's session. -/
theorem stranger_closes :
    ¬ Meets (step "") (KeepsOwners "") (some (fun _ => none)) [openEvent 7, closeEvent] := by
  intro meets
  have present : (ofJson (.int 7)).truthy = true := by decide
  obtain ⟨bindings, binding, reached, live, -⟩ := gatewayTs_run present
  have keeps : KeepsOwners "" (run (step "") (some (fun _ => none)) [openEvent 7]) closeEvent := meets.2.1
  rw [reached, keepsOwners_iff] at keeps
  have displaces : Displaces closeEvent someFootprint binding := ⟨negotiates_of_silent rfl, closeRequest_named⟩
  obtain admin | ⟨identity, parsed, -⟩ := keeps bindings someFootprint binding rfl live displaces
  · revert admin
    decide
  · have silent : Node.header (httpRequest closeEvent.2) "xcp-agent-identity" = "" := rfl
    rw [silent, parseIdentity, if_pos rfl] at parsed
    cases parsed

end Xcp.GatewayTs
