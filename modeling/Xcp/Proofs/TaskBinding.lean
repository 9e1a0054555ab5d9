import Xcp.Proofs.DelegationRevocation

/-! Which task an admitted ticket authorises. A task that is absent is not
compared, and a relayed task is compared as what stands in for it. -/

namespace Xcp.Gateway
open Checked Python Http Eth Delegation

/-- The two endpoints that redeem a ticket. -/
inductive TicketEndpoint where
  | accept | relay
deriving DecidableEq, Repr

def TicketEndpoint.enabled (node : Node) : TicketEndpoint → Bool
  | .accept => node.a2aAccept
  | .relay => node.toolRelay

def TicketEndpoint.compared (task : Json) : TicketEndpoint → Json
  | .accept => task
  | .relay => task.orElse (.dict [])

section Binding
variable [Host] [Packages]

/-- What an endpoint decides on the ticket and the task of a request. -/
structure Judged (endpoint : TicketEndpoint) (node : Node) (network : Network) (tables : Tables) (request : HttpRequest)
    (ticket : Ticket) (task : Json) (decision : Admission) : Prop where
  enabled : endpoint.enabled node = true
  body : ∃ body, request.bodyOrEmpty = .ok body ∧ readTicket body = .ok ticket ∧ body.get "task" = .ok task
  decided : ∃ federation, tables.federation = some federation ∧
    decideTicket node network federation ticket (endpoint.compared task) = .ok decision

variable {node : Node} {network : Network} {tables : Tables} {request : HttpRequest}

theorem a2aAccept_judged {response : Response} (done : a2aAccept node network tables request = .ok response) :
    ∃ ticket task decision, Judged .accept node network tables request ticket task decision ∧
      decision.admitted = true := by
  unfold a2aAccept at done
  simp only [bind_eq_ok, require_eq_ok] at done
  obtain ⟨_, enabled, done⟩ := done
  cases configured : tables.federation with
  | none => simp [configured] at done
  | some federation =>
    simp only [configured, bind_eq_ok, attempt_eq_ok, mapError_eq_ok, require_eq_ok, pure_eq_ok] at done
    obtain ⟨_, _, body, read, ticket, parsed, task, given, decision, decided, _, admitted, _⟩ := done
    exact ⟨ticket, task, decision, ⟨enabled, ⟨body, read, parsed, given⟩, federation, configured, decided⟩, admitted⟩

theorem admitRelay_judged {relay : Relay} (done : admitRelay node network tables request = .ok relay) :
    ∃ ticket task decision, Judged .relay node network tables request ticket task decision ∧
      decision.admitted = true := by
  unfold admitRelay at done
  simp only [bind_eq_ok, require_eq_ok] at done
  obtain ⟨_, enabled, done⟩ := done
  cases configured : tables.federation with
  | none => simp [configured] at done
  | some federation =>
    simp only [configured, bind_eq_ok, attempt_eq_ok, mapError_eq_ok, require_eq_ok] at done
    obtain ⟨_, _, body, read, task, given, ticket, parsed, decision, decided, _, _, _, _, _, admitted, _⟩ := done
    exact ⟨ticket, task, decision, ⟨enabled, ⟨body, read, parsed, given⟩, federation, configured, decided⟩, admitted⟩

theorem admitTicket_task {ticket : Ticket} {destination : Destination} {task : Json} {decision : Admission}
    (done : admitTicket ticket destination task = .ok decision) (admitted : decision.admitted = true) :
    task ≠ .null → ticket.task = .str (taskDigest task) := by
  simp only [admitTicket, bind_eq_ok, pure_eq_ok, Prod.exists] at done
  obtain ⟨_, _, _, _, _, _, _, _, _, _, _, _, _, _, _, _, rfl⟩ := done
  intro given
  by_contra other
  simp [given, Ne.symm other, problemIf] at admitted

theorem taskDigest_null : taskDigest .null = taskDigest (.dict []) := rfl

omit [Host] [Packages] in
theorem orElse_ne_null (task : Json) : task.orElse (.dict []) ≠ .null := by
  unfold Json.orElse
  split
  next given =>
    rintro rfl
    cases given
  next => simp

/-- Where the task of the body is compared, or is none and the ticket is for
the empty task. -/
def Compares (endpoint : TicketEndpoint) (ticket : Ticket) (task : Json) : Prop :=
  match endpoint with
  | .accept => task ≠ .null ∨ ticket.task = .str (taskDigest (.dict []))
  | .relay => task.truthy = true ∨ taskDigest task = taskDigest (.dict [])

/-- An admitted ticket is for the task of the body exactly where the endpoint
compares that task. -/
theorem admitted_task_iff {endpoint : TicketEndpoint} {ticket : Ticket} {task : Json} {decision : Admission}
    (judged : Judged endpoint node network tables request ticket task decision) (admitted : decision.admitted = true) :
    ticket.task = .str (taskDigest task) ↔ Compares endpoint ticket task := by
  obtain ⟨federation, _, decided⟩ := judged.decided
  simp only [decideTicket, bind_eq_ok] at decided
  obtain ⟨isPeer, _, inCluster, _, done⟩ := decided
  have compared := admitTicket_task done admitted
  cases endpoint with
  | accept =>
    by_cases absent : task = .null
    · subst absent
      simp [Compares, taskDigest_null]
    · exact iff_of_true (compared absent) (.inl absent)
  | relay =>
    have bound : ticket.task = .str (taskDigest (task.orElse (.dict []))) := compared (orElse_ne_null task)
    by_cases given : task.truthy = true
    · have same : task.orElse (.dict []) = task := by simp [Json.orElse, given]
      rw [same] at bound
      exact iff_of_true bound (.inl given)
    · have empty : task.orElse (.dict []) = .dict [] := by simp [Json.orElse, given]
      rw [bound, empty]
      simp [Compares, given, eq_comm]

end Binding

/-! ### A ticket for no task -/

section Unbound

local instance unboundHost : Host := comebackHost

local instance unboundPackages : Packages := comebackPackages

theorem delegation_admitted : ∃ response, a2aAccept acceptingNode internet acquainted delegation = .ok response :=
  delegation_accepted rfl ⟨rfl, rfl⟩ (by decide +kernel)

theorem delegation_read : (delegation.bodyOrEmpty >>= readTicket).toOption.any (fun ticket => ticket.task = .str "") = true := by
  decide +kernel

theorem delegation_judged :
    ∃ ticket decision, Judged .accept acceptingNode internet acquainted delegation ticket .null decision ∧
      decision.admitted = true ∧ ticket.task = .str "" := by
  obtain ⟨response, done⟩ := delegation_admitted
  obtain ⟨ticket, task, decision, judged, admitted⟩ := a2aAccept_judged done
  obtain ⟨body, read, parsed, given⟩ := judged.body
  have named := delegation_read
  rw [read, ok_bind, parsed] at named
  cases read
  cases given
  exact ⟨ticket, decision, judged, admitted, of_decide_eq_true named⟩

theorem admitted_task_of_delegation :
    ∃ ticket decision, Judged .accept acceptingNode internet acquainted delegation ticket .null decision ∧
      (ticket.task = .str (taskDigest .null) ↔ Compares .accept ticket .null) := by
  obtain ⟨ticket, decision, judged, admitted, _⟩ := delegation_judged
  exact ⟨ticket, decision, judged, admitted_task_iff judged admitted⟩

/-- A delegation without a task is admitted on a ticket for none. -/
theorem task_unbound :
    ∃ ticket decision, Judged .accept acceptingNode internet acquainted delegation ticket .null decision ∧
      decision.admitted = true ∧ ticket.task ≠ .str (taskDigest .null) := by
  obtain ⟨ticket, decision, judged, admitted, named⟩ := delegation_judged
  refine ⟨ticket, decision, judged, admitted, ?_⟩
  rw [named]
  decide

end Unbound

end Xcp.Gateway
