import Xcp.Privacy.Erasure
import Xcp.Proofs.ShreddedKeys

/-! What an erasure report calls erased, and whether it still can be read. A
subject has one key, which is kept where one of its classes has to be kept. -/

namespace Xcp.Privacy
open Cipher Checked Eth Python

/-! ### Two kinds of classes -/

/-- A class of personal data that is not erased on request. -/
def mustKeep (classId : String) : Bool :=
  (classOf classId).any (fun dataClass => dataClass.containsPersonalData && !dataClass.erasableOnRequest)

/-- A class that nobody declared, or one of personal data that is erased on request. -/
def isErased (classId : String) : Bool :=
  (classOf classId).all (fun dataClass => dataClass.containsPersonalData && dataClass.erasableOnRequest)

section Reports
variable [Host]

theorem enter_report (report : ErasureReport) (held : String × Int) :
    (report.enter held).erased = report.erased ++ (if isErased held.1 then [held.1] else []) ∧
      ((report.enter held).retained = [] ↔ report.retained = [] ∧ mustKeep held.1 = false) := by
  cases known : classOf held.1 with
  | none => simp [ErasureReport.enter, classify, known, raise, isErased, mustKeep]
  | some dataClass =>
    cases personal : dataClass.containsPersonalData with
    | false => simp [ErasureReport.enter, classify, known, personal, isErased, mustKeep]
    | true =>
      cases onRequest : dataClass.erasableOnRequest with
      | false => simp [ErasureReport.enter, erasable, classify, known, personal, onRequest, isErased, mustKeep, bind, Except.bind, pure, Except.pure]
      | true => simp [ErasureReport.enter, erasable, classify, known, personal, onRequest, isErased, mustKeep, bind, Except.bind, pure, Except.pure]

theorem foldl_report (inventory : List (String × Int)) (report : ErasureReport) :
    (inventory.foldl ErasureReport.enter report).erased =
        report.erased ++ (inventory.map Prod.fst).filter (fun classId => isErased classId) ∧
      ((inventory.foldl ErasureReport.enter report).retained = [] ↔
        report.retained = [] ∧ ∀ entry ∈ inventory, mustKeep entry.1 = false) := by
  induction inventory generalizing report with
  | nil => simp
  | cons entry rest ih =>
    obtain ⟨erased, retained⟩ := enter_report report entry
    obtain ⟨erased', retained'⟩ := ih (report.enter entry)
    constructor
    · rw [List.foldl_cons, erased', erased, List.map_cons, List.filter_cons]
      split <;> simp
    · rw [List.foldl_cons, retained', retained, List.forall_mem_cons, and_assoc]

/-- The key is destroyed where nothing has to be kept; otherwise the ring stays as it is. -/
theorem erase_cases (ring : KeyRing) (subject : String) (held : Option (List (String × Int))) (now : Option Int) (clock : Int) :
    let inventory := inventoryOf held ((now.filter (· ≠ 0)).getD clock)
    (erase ring subject held now clock).1.erased = (inventory.map Prod.fst).filter (fun classId => isErased classId) ∧
      (((∀ entry ∈ inventory, mustKeep entry.1 = false) ∧
          ∃ at_, (erase ring subject held now clock).2 = (ring.destroy subject at_ clock).2) ∨
        ((∃ entry ∈ inventory, mustKeep entry.1 = true) ∧ (erase ring subject held now clock).2 = ring)) := by
  intro inventory
  obtain ⟨erased, retained⟩ := foldl_report inventory { subject, requestedAt := (now.filter (· ≠ 0)).getD clock }
  simp only [List.nil_append, true_and] at erased retained
  simp only [erase]
  by_cases nothing : ∀ entry ∈ inventory, mustKeep entry.1 = false
  · rw [if_pos (retained.mpr nothing)]
    exact ⟨erased, .inl ⟨nothing, _, rfl⟩⟩
  · rw [if_neg (fun empty => nothing (retained.mp empty))]
    push Not at nothing
    obtain ⟨entry, member, kept⟩ := nothing
    exact ⟨erased, .inr ⟨⟨entry, member, by simpa using kept⟩, rfl⟩⟩

section Reading
variable [Aead] [Packages]

theorem isShredded_operate {ring : KeyRing} {subject : String} (shredded : ring.isShredded subject = true)
    (operations : List Operation) : (ring.operate operations).isShredded subject = true := by
  induction operations generalizing ring with
  | nil => exact shredded
  | cons operation rest ih =>
    apply ih
    cases operation with
    | ask request => exact isShredded_after shredded request
    | erase other held now clock =>
      -- an erasure destroys a key or does nothing to the ring
      obtain ⟨_, ⟨_, at_, destroyed⟩ | ⟨_, same⟩⟩ := erase_cases ring other held now clock
      · simp only [Operation.after, destroyed]
        exact isShredded_after shredded (.destroy other at_ clock)
      · simp only [Operation.after, same]
        exact shredded

variable [JsonDecoder]

/-- As long as its key was not destroyed, a subject has a payload of any class that is read. -/
theorem readable_payload (ideal : IdealAead) (reads : ReadsBack) {ring : KeyRing} {subject : String}
    (kept : ring.isShredded subject = false) (dataClass : String) :
    ∃ later sealed value, sealed.subject = subject ∧ sealed.dataClass = dataClass ∧
      unseal_ (ring.operate later) sealed = .ok value := by
  have unshredded : ring.shredded.get? subject = none := by simpa [KeyRing.isShredded] using kept
  obtain ⟨key, held⟩ : ∃ key, (ring.run [.keyFor subject (some patientKey)]).view subject = (some key, none) := by
    change ∃ key, (ring.keyFor subject (some patientKey)).2.view subject = (some key, none)
    rw [view_keyFor]
    cases found : ring.keys.get? subject with
    | none => exact ⟨patientKey, by simp [KeyRing.view, found, unshredded]⟩
    | some key => exact ⟨key, by simp [KeyRing.view, found, unshredded]⟩
  obtain ⟨keys, shredded⟩ := Prod.ext_iff.mp held
  let raw := utf8 (Json.dict []).canonical
  let ct := Aead.encrypt key.bytes patientDraw.nonce raw (utf8 subject)
  let sealed : SealedPayload := {
    subject, nonce := Base64.encodeStandard patientDraw.nonce, ciphertext := Base64.encodeStandard ct
    commitment := digest ct, createdAt := 0, dataClass }
  have written : (Json.dict []).canonicalBytes = .ok raw := rfl
  have empty : ({} : Dict String Int).get? subject = none := rfl
  have seals : Seals { keys := ({} : Dict String Key).set subject key } subject (.dict []) patientDraw sealed key raw := {
    held := by simp [KeyRing.keyFor, empty]
    written
    bytes := canonicalBytes_bytes written
    owner := rfl
    nonce := rfl
    ciphertext := rfl
    commitment := rfl }
  have opened := seals.unseal ideal keys shredded
  have read : JsonDecoder.loads raw = .ok (.dict (byName [])) := reads [] List.nodup_nil (List.forall_mem_nil _)
  exact ⟨[.ask (.keyFor subject (some patientKey))], sealed, .dict (byName []), rfl, rfl, opened.trans read⟩

/-- What a report calls erased is never read again where no class has to be kept, or none is called erased, or the
key of the subject was destroyed before. In every other case it is. -/
theorem erased_unreadable_iff (ideal : IdealAead) (reads : ReadsBack) (ring : KeyRing) (subject : String)
    (held : Option (List (String × Int))) (now : Option Int) (clock : Int) :
    let inventory := inventoryOf held ((now.filter (· ≠ 0)).getD clock)
    let report := (erase ring subject held now clock).1
    let after := (erase ring subject held now clock).2
    ((∀ later sealed, sealed.subject = subject → sealed.dataClass ∈ report.erased →
        ∀ value, unseal_ (after.operate later) sealed ≠ .ok value) ↔
      ((∀ entry ∈ inventory, mustKeep entry.1 = false) ∨ (∀ entry ∈ inventory, isErased entry.1 = false) ∨
        ring.isShredded subject = true)) ∧
    ∀ sealed value, sealed.subject = subject → sealed.dataClass ∈ report.erased → unseal_ ring sealed = .ok value →
      ((∀ later value, unseal_ (after.operate later) sealed ≠ .ok value) ↔ ∀ entry ∈ inventory, mustKeep entry.1 = false) := by
  intro inventory report after
  obtain ⟨listed, outcome⟩ := erase_cases ring subject held now clock
  have destroyed (nothing : ∀ entry ∈ inventory, mustKeep entry.1 = false) : after.isShredded subject = true := by
    rcases outcome with ⟨_, at_, gone⟩ | ⟨⟨entry, member, kept⟩, _⟩
    · simp only [after, gone]
      exact (erased_destroy ring subject at_ clock).shredded
    · rw [nothing entry member] at kept
      cases kept
  have untouched (kept : ¬ ∀ entry ∈ inventory, mustKeep entry.1 = false) : after = ring := by
    rcases outcome with ⟨nothing, _⟩ | ⟨_, same⟩
    · exact absurd nothing kept
    · exact same
  constructor
  · constructor
    · intro unreadable
      by_contra spared
      rw [not_or, not_or, Bool.not_eq_true] at spared
      obtain ⟨kept, some, unshredded⟩ := spared
      push Not at some
      obtain ⟨entry, member, called⟩ := some
      obtain ⟨later, sealed, value, owner, dataClass, opened⟩ := readable_payload ideal reads unshredded entry.1
      apply unreadable later sealed owner ?_ value
      · rw [untouched kept, opened]
      · have erased : report.erased = (inventory.map Prod.fst).filter (fun classId => isErased classId) := listed
        rw [dataClass, erased]
        exact List.mem_filter.mpr ⟨List.mem_map_of_mem member, by simpa using called⟩
    · rintro (nothing | none | shredded) later sealed rfl called value
      · exact unseal_of_isShredded (isShredded_operate (destroyed nothing) later) value
      · have erased : report.erased = (inventory.map Prod.fst).filter (fun classId => isErased classId) := listed
        rw [erased, List.mem_filter] at called
        obtain ⟨entry, member, same⟩ := List.mem_map.mp called.1
        rw [← same, none entry member] at called
        cases called.2
      · have still : after.isShredded sealed.subject = true := by
          rcases outcome with ⟨nothing, _⟩ | ⟨_, same⟩
          · exact destroyed nothing
          · rw [show after = ring from same, shredded]
        exact unseal_of_isShredded (isShredded_operate still later) value
  · intro sealed value owner called opened
    constructor
    · intro unreadable
      by_contra kept
      apply unreadable [] value
      rw [untouched kept]
      exact opened
    · intro nothing later value
      exact unseal_of_isShredded (isShredded_operate (owner ▸ destroyed nothing) later) value

end Reading

end Reports

section Sample
local instance erasedHost : Host := asciiHost []
local instance erasedAead : Aead := patientAead
local instance erasedPackages : Packages := tablePackages patientHashes []
local instance erasedDecoder : JsonDecoder := flatDecoder

/-- The ring that sealed a payload. -/
def patientRing : KeyRing := (seal_ {} "sub_a" patient "call_chain" none 1700000000 patientDraw).2

def patientInventory : List (String × Int) := [("call_chain", 1700000000), ("settlement_receipt", 1700000000)]

theorem patient_report : (erase patientRing "sub_a" (some patientInventory) none 1700000100).1.erased = ["call_chain"] := by
  obtain ⟨listed, _⟩ := erase_cases patientRing "sub_a" (some patientInventory) none 1700000100
  rw [listed]
  decide +kernel

theorem patient_read {sealed : SealedPayload}
    (done : (seal_ {} "sub_a" patient "call_chain" none 1700000000 patientDraw).1 = .ok sealed) :
    unseal_ patientRing sealed = .ok patient := by
  obtain ⟨key, raw, seals, _⟩ := seal_seals done
  obtain rfl : patientKey = key := Except.ok.inj seals.held
  have written : patient.canonicalBytes = .ok (utf8 patient.canonical) := rfl
  obtain rfl := Except.ok.inj (written.symm.trans seals.written)
  have flat : ∀ member ∈ [("patient", Json.str "P0")], member.2.isFlat = true := by simp [Json.isFlat]
  have read := flatDecoder_readsBack [("patient", .str "P0")] (by simp) flat
  exact (seals.unseal patientAead_ideal rfl rfl).trans read

/-- A payload of a class that the report calls erased is read after the erasure. -/
theorem erased_payload_is_read : ∃ sealed, (seal_ {} "sub_a" patient "call_chain" none 1700000000 patientDraw).1 = .ok sealed ∧
    sealed.subject = "sub_a" ∧
    sealed.dataClass ∈ (erase patientRing "sub_a" (some patientInventory) none 1700000100).1.erased ∧
    unseal_ (erase patientRing "sub_a" (some patientInventory) none 1700000100).2 sealed = .ok patient := by
  obtain ⟨sealed, done⟩ := patient_sealed
  obtain ⟨_, _, seals, dataClass⟩ := seal_seals done
  obtain ⟨_, ⟨nothing, _⟩ | ⟨_, same⟩⟩ := erase_cases patientRing "sub_a" (some patientInventory) none 1700000100
  · have kept : mustKeep "settlement_receipt" = false := nothing ("settlement_receipt", 1700000000) (by simp [inventoryOf, patientInventory])
    exact absurd kept (by decide +kernel)
  · refine ⟨sealed, done, seals.owner, ?_, ?_⟩
    · rw [patient_report, dataClass]
      exact List.mem_singleton.mpr rfl
    · rw [same]
      exact patient_read done

theorem unreadable_if_nothing_is_kept :
    (erase patientRing "sub_a" (some [("call_chain", 1700000000)]) none 1700000100).1.erased = ["call_chain"] ∧
      ∀ later sealed, sealed.subject = "sub_a" →
        sealed.dataClass ∈ (erase patientRing "sub_a" (some [("call_chain", 1700000000)]) none 1700000100).1.erased →
        ∀ value, unseal_ ((erase patientRing "sub_a" (some [("call_chain", 1700000000)]) none 1700000100).2.operate later) sealed ≠
          .ok value := by
  constructor
  · decide +kernel
  · apply (erased_unreadable_iff patientAead_ideal flatDecoder_readsBack patientRing "sub_a" (some [("call_chain", 1700000000)]) none
      1700000100).1.mpr
    left
    decide +kernel

end Sample

end Xcp.Privacy
