import Xcp.Library.PythonText

/-! What is held, for how long, and on what basis. Each class of data says
whether its subject can demand that it is erased. -/

namespace Xcp.Privacy
open Checked Python

def day : Int := 86400

def year : Int := 365 * day

/-- More than six calendar months of logs. -/
def aiActLogFloor : Int := 190 * day

inductive Basis where
  | contract | legalObligation | legitimateInterest | consent
deriving DecidableEq, Repr

def Basis.value : Basis → String
  | contract => "contract"
  | legalObligation => "legal_obligation"
  | legitimateInterest => "legitimate_interest"
  | consent => "consent"

structure DataClass where
  id : String
  basis : Basis
  retentionSeconds : Int
  erasableOnRequest : Bool
  containsPersonalData : Bool := true
  note : String := ""
deriving DecidableEq, Repr

def DataClass.retentionDays (dataClass : DataClass) : Int := dataClass.retentionSeconds.fdiv day

/-- `now or int(time.time())`. -/
def timeOf (now : Option Int) (clock : Int) : Int := (now.filter (· ≠ 0)).getD clock

/-- Without a retention, a record is kept until it is erased explicitly. -/
def DataClass.expired (dataClass : DataClass) (createdAt : Int) (now : Option Int) (clock : Int) : Bool :=
  if dataClass.retentionSeconds ≤ 0 then false else createdAt + dataClass.retentionSeconds < timeOf now clock

/-- Every class of data that an operator is made to hold. -/
def classes : List DataClass :=
  [{ id := "session_binding", basis := .contract, retentionSeconds := 7 * day, erasableOnRequest := true
     note := "Already capped at 7 days by the protocol; expires on its own." },
    { id := "entitlements", basis := .contract, retentionSeconds := day, erasableOnRequest := true
      note := "The most directly identifying data in the system. Held only for " ++
        "the life of the mandate it narrows — never persisted to an audit record." },
    { id := "call_chain", basis := .contract, retentionSeconds := 90 * day, erasableOnRequest := true
      note := "A behavioural profile of the principal. Payloads are shredded on " ++
        "request; the chain keeps verifying because it commits to ciphertext, not plaintext." },
    { id := "security_audit", basis := .legitimateInterest, retentionSeconds := aiActLogFloor, erasableOnRequest := false
      note := "Meets the EU AI Act six-month log floor (Art. 19 / Art. 26(6)), " ++
        "which 180 days does not: six calendar months can run to 184 days. " ++
        "Retained against abuse and incident investigation. Art. 17(1)(c) " ++
        "allows an objection to be overridden by compelling legitimate " ++
        "grounds, but the window is bounded and short." },
    { id := "settlement_receipt", basis := .legalObligation, retentionSeconds := 7 * year, erasableOnRequest := false
      note := "A settled financial record. Art. 17(3)(b) and (e): erasure does " ++
        "not apply where retention is required by law or needed to defend " ++
        "a legal claim. Tax and AML retention commonly runs 6-7 years; " ++
        "confirm your own jurisdiction. Erased automatically when the obligation lapses." },
    { id := "unsettled_receipt", basis := .contract, retentionSeconds := 90 * day, erasableOnRequest := true
      note := "No financial obligation attaches, so the Art. 17(3) exemption " ++
        "does not apply and these are erasable on request." },
    { id := "telemetry", basis := .legitimateInterest, retentionSeconds := 30 * day, erasableOnRequest := true
      note := "Telemetry is a data-EXPORT path, and exporting to a third-party " ++
        "vendor is a new processor and usually an international transfer. " ++
        "Scrubbed by default: identifiers are pseudonymised per process, " ++
        "scope names are reduced to their family, and tool arguments and " ++
        "result payloads are never recorded at any detail level. " ++
        "XCP_OTEL_DETAIL=full raises this and should only be used with a self-hosted collector." },
    { id := "node_record", basis := .legitimateInterest, retentionSeconds := 0, erasableOnRequest := true
      note := "Organisational rather than personal in most cases, but a " ++
        "sole-trader operator is an individual. Erasable by de-peering." },
    { id := "catalog", basis := .legitimateInterest, retentionSeconds := 0, erasableOnRequest := true, containsPersonalData := false
      note := "Public technical metadata. Listed so the data map is complete." },
    { id := "credential", basis := .contract, retentionSeconds := 0, erasableOnRequest := true
      note := "Never stored by XCP. Held in the operator's secret backend, or " ++
        "sealed so the gateway cannot read it. Listed because an auditor " ++
        "will ask, and the answer is 'we do not hold these'." }]

/-- `CLASSES.get(class_id)`. -/
def classOf (classId : String) : Option DataClass := classes.find? (fun dataClass => dataClass.id = classId)

def classify [Host] (classId : String) : Raises DataClass :=
  match classOf classId with
  | some dataClass => .ok dataClass
  | none =>
    raise (.package "RetentionError") (s!"unknown data class {Host.repr (.str classId)}. Every stored field must belong to " ++
      "a declared class; if a new one does not fit, reconsider collecting it.")

/-- Whether a subject can demand erasure of a class today, and why. -/
def erasable [Host] (classId : String) : Raises (Bool × String) := do
  let dataClass ← classify classId
  if !dataClass.containsPersonalData then return (true, "contains no personal data")
  if dataClass.erasableOnRequest then return (true, s!"erasable on request (basis: {dataClass.basis.value})")
  return (false, s!"retained under {dataClass.basis.value} for {dataClass.retentionDays} days " ++
    s!"({dataClass.retentionDays.fdiv 365} years); erased automatically when the obligation lapses. {dataClass.note}")

/-- The records, by class and time of creation, that outlived their retention or are of no known class. -/
def dueForExpiry [Host] (records : List (String × Int)) (now : Option Int) (clock : Int) : List (String × Int) :=
  records.filter (fun record =>
    match classify record.1 with
    | .error _ => true
    | .ok dataClass => dataClass.expired record.2 now clock)

end Xcp.Privacy
