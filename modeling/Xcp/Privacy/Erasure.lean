import Xcp.Privacy.Retention
import Xcp.Privacy.Shredding

/-! The request of a subject to be erased, and the report of what was done. -/

namespace Xcp.Privacy
open Cipher Checked Eth Python

structure Retained where
  dataClass : String
  reason : String
  basis : String
  erasedAutomaticallyAt : Int
deriving DecidableEq, Repr

structure ErasureReport where
  subject : String
  requestedAt : Int
  erased : List String := []
  retained : List Retained := []
  keyDestroyed : Bool := false
  notes : List String := []
deriving DecidableEq, Repr

section Erasing
variable [Host]

/-- What is reported of one class that is held for the subject. -/
def ErasureReport.enter (report : ErasureReport) (held : String × Int) : ErasureReport :=
  match classify held.1 with
  | .error _ =>
    { report with
      notes := report.notes ++ [s!"unknown class {Host.repr (.str held.1)} — erased rather than kept"]
      erased := report.erased ++ [held.1] }
  | .ok dataClass =>
    if !dataClass.containsPersonalData then report
    else
      match erasable held.1 with
      | .ok (false, reason) =>
        { report with
          retained := report.retained ++ [{
            dataClass := held.1, reason, basis := dataClass.basis.value
            erasedAutomaticallyAt := held.2 + dataClass.retentionSeconds }] }
      | _ => { report with erased := report.erased ++ [held.1] }

/-- What is held if nobody says so: every class of personal data. -/
def inventoryOf (held : Option (List (String × Int))) (now : Int) : List (String × Int) :=
  held.getD ((classes.filter DataClass.containsPersonalData).map (fun dataClass => (dataClass.id, now)))

/-- The report, and the ring afterwards. The key is destroyed only where nothing has to be kept. -/
def erase (ring : KeyRing) (subject : String) (held : Option (List (String × Int))) (now : Option Int) (clock : Int) :
    ErasureReport × KeyRing :=
  let now := (now.filter (· ≠ 0)).getD clock
  let report := (inventoryOf held now).foldl ErasureReport.enter { subject, requestedAt := now }
  -- `must_keep` is set where a class is retained
  if report.retained = [] then
    let (existed, ring) := ring.destroy subject (some now) clock
    ({ report with
        keyDestroyed := existed
        notes := report.notes ++ ["subject key destroyed; encrypted content is now " ++
          "unreadable, and every chain containing it still verifies"] }, ring)
  else
    ({ report with
        notes := report.notes ++ ["subject key RETAINED because a class above must remain " ++
          "readable under a legal obligation; it is destroyed when the last such class expires"] }, ring)

/-- What is asked of a ring, erasures among it. -/
inductive Operation where
  | ask (request : Request)
  | erase (subject : String) (held : Option (List (String × Int))) (now : Option Int) (clock : Int)

variable [Aead] [Packages]

def Operation.after (operation : Operation) (ring : KeyRing) : KeyRing :=
  match operation with
  | .ask request => request.after ring
  | .erase subject held now clock => (Privacy.erase ring subject held now clock).2

def KeyRing.operate (ring : KeyRing) (operations : List Operation) : KeyRing :=
  operations.foldl (fun ring operation => operation.after ring) ring

end Erasing

end Xcp.Privacy
