import Xcp.Proofs.ErasureReports

/-! How long an erasure report keeps what it retains. Whether a record is kept is
decided by its class alone; whether it is due, by its age. -/

namespace Xcp.Privacy
open Checked Python

/-! ### The classes that are kept -/

/-- A record of a class of personal data that is not erased on request. -/
structure IsKept (classId : String) (dataClass : DataClass) : Prop where
  known : classOf classId = some dataClass
  personal : dataClass.containsPersonalData = true
  lasting : dataClass.erasableOnRequest = false

theorem mem_classes {classId : String} {dataClass : DataClass} (known : classOf classId = some dataClass) :
    dataClass ∈ classes ∧ dataClass.id = classId :=
  ⟨List.mem_of_find?_eq_some known, by simpa using List.find?_some known⟩

/-- Only two classes are kept, each for its own time. -/
theorem IsKept.cases {classId : String} {dataClass : DataClass} (kept : IsKept classId dataClass) :
    classId = "security_audit" ∧ dataClass.retentionSeconds = 190 * day ∨
      classId = "settlement_receipt" ∧ dataClass.retentionSeconds = 7 * year := by
  obtain ⟨member, named⟩ := mem_classes kept.known
  have personal := kept.personal
  have lasting := kept.lasting
  subst named
  simp only [classes, List.mem_cons, List.not_mem_nil, or_false] at member
  rcases member with rfl | rfl | rfl | rfl | rfl | rfl | rfl | rfl | rfl | rfl
  all_goals first
    | exact absurd lasting (by decide)
    | exact .inl ⟨rfl, rfl⟩
    | exact .inr ⟨rfl, rfl⟩

theorem audit_kept : ∃ dataClass, IsKept "security_audit" dataClass ∧ dataClass.retentionSeconds = 190 * day :=
  ⟨_, ⟨rfl, rfl, rfl⟩, rfl⟩

theorem settlement_kept : ∃ dataClass, IsKept "settlement_receipt" dataClass ∧ dataClass.retentionSeconds = 7 * year :=
  ⟨_, ⟨rfl, rfl, rfl⟩, rfl⟩

theorem IsKept.retained {classId : String} {dataClass : DataClass} (kept : IsKept classId dataClass) :
    0 < dataClass.retentionSeconds := by
  rcases kept.cases with ⟨_, long⟩ | ⟨_, long⟩
  all_goals
    rw [long]
    decide

/-! ### What a report retains -/

section Reports
variable [Host]

/-- An entry is what a report says of a record that is kept. -/
structure Keeps (record : String × Int) (entry : Retained) : Prop where
  named : entry.dataClass = record.1
  reasoned : erasable record.1 = .ok (false, entry.reason)
  ends : ∃ dataClass, IsKept record.1 dataClass ∧ entry.basis = dataClass.basis.value ∧
    entry.erasedAutomaticallyAt = record.2 + dataClass.retentionSeconds

theorem erasable_of_kept {classId : String} {dataClass : DataClass} (kept : IsKept classId dataClass) :
    ∃ reason, erasable classId = .ok (false, reason) := by
  simp [erasable, classify, kept.known, kept.personal, kept.lasting, bind, Except.bind, pure, Except.pure]

theorem retained_enter_of_kept (report : ErasureReport) {record : String × Int} {dataClass : DataClass} {reason : String}
    (kept : IsKept record.1 dataClass) (reasoned : erasable record.1 = .ok (false, reason)) :
    (report.enter record).retained = report.retained ++ [{
      dataClass := record.1, reason, basis := dataClass.basis.value
      erasedAutomaticallyAt := record.2 + dataClass.retentionSeconds }] := by
  simp [ErasureReport.enter, classify, kept.known, kept.personal, reasoned]

theorem retained_enter_of_not_kept (report : ErasureReport) {record : String × Int}
    (other : ¬ ∃ dataClass, IsKept record.1 dataClass) : (report.enter record).retained = report.retained := by
  cases known : classOf record.1 with
  | none => simp [ErasureReport.enter, classify, known, raise]
  | some dataClass =>
    cases personal : dataClass.containsPersonalData with
    | false => simp [ErasureReport.enter, classify, known, personal]
    | true =>
      have onRequest : dataClass.erasableOnRequest = true := by
        by_contra lasting
        exact other ⟨dataClass, known, personal, by simpa using lasting⟩
      simp [ErasureReport.enter, erasable, classify, known, personal, onRequest, bind, Except.bind, pure, Except.pure]

theorem mem_retained_enter (report : ErasureReport) (record : String × Int) (entry : Retained) :
    entry ∈ (report.enter record).retained ↔ entry ∈ report.retained ∨ Keeps record entry := by
  by_cases kept : ∃ dataClass, IsKept record.1 dataClass
  · obtain ⟨dataClass, kept⟩ := kept
    obtain ⟨reason, reasoned⟩ := erasable_of_kept kept
    rw [retained_enter_of_kept report kept reasoned, List.mem_append, List.mem_singleton]
    apply or_congr Iff.rfl
    constructor
    · intro same
      rw [same]
      exact ⟨rfl, reasoned, dataClass, kept, rfl, rfl⟩
    · intro keeps
      obtain ⟨other, also, basis, ends⟩ := keeps.ends
      obtain rfl : other = dataClass := Option.some.inj (also.known.symm.trans kept.known)
      obtain rfl : entry.reason = reason := by simpa using keeps.reasoned.symm.trans reasoned
      obtain ⟨_, _, _, _⟩ := entry
      simpa using ⟨keeps.named, basis, ends⟩
  · rw [retained_enter_of_not_kept report kept, or_iff_left]
    intro keeps
    exact kept ⟨_, keeps.ends.choose_spec.1⟩

theorem mem_retained_foldl (inventory : List (String × Int)) (report : ErasureReport) (entry : Retained) :
    entry ∈ (inventory.foldl ErasureReport.enter report).retained ↔
      entry ∈ report.retained ∨ ∃ record ∈ inventory, Keeps record entry := by
  induction inventory generalizing report with
  | nil => simp
  | cons record rest ih =>
    simp only [List.foldl_cons, ih, mem_retained_enter, List.exists_mem_cons_iff, or_assoc]

/-- What is retained is what an erasure was told of and that is kept, whatever its age. -/
theorem mem_retained_erase (ring : KeyRing) (subject : String) (held : Option (List (String × Int))) (now : Option Int)
    (clock : Int) (entry : Retained) :
    entry ∈ (erase ring subject held now clock).1.retained ↔
      ∃ record ∈ inventoryOf held (timeOf now clock), Keeps record entry := by
  have listed := mem_retained_foldl (inventoryOf held (timeOf now clock))
    { subject, requestedAt := timeOf now clock } entry
  rw [← or_iff_right (b := ∃ record ∈ inventoryOf held (timeOf now clock), Keeps record entry) List.not_mem_nil, ← listed]
  unfold erase
  dsimp only
  split <;> rfl

/-! ### When it ends -/

/-- A report says of a record that it is retained. -/
def ErasureReport.Retains (report : ErasureReport) (record : String × Int) : Prop :=
  ∃ entry ∈ report.retained, ∃ dataClass, classOf record.1 = some dataClass ∧
    entry.dataClass = record.1 ∧ entry.erasedAutomaticallyAt = record.2 + dataClass.retentionSeconds

/-- The records of the two classes that are kept are younger than 190 days, or 7 years. -/
def Lasting (records : List (String × Int)) (time : Int) : Prop :=
  ∀ record ∈ records, (record.1 = "security_audit" → time < record.2 + 190 * day) ∧
    (record.1 = "settlement_receipt" → time < record.2 + 7 * year)

theorem Keeps.lasts {record : String × Int} {entry : Retained} {records : List (String × Int)} {time : Int}
    (keeps : Keeps record entry) (member : record ∈ records) (lasting : Lasting records time) :
    time < entry.erasedAutomaticallyAt := by
  obtain ⟨dataClass, kept, _, ends⟩ := keeps.ends
  rw [ends]
  rcases kept.cases with ⟨named, long⟩ | ⟨named, long⟩
  · rw [long]
    exact (lasting record member).1 named
  · rw [long]
    exact (lasting record member).2 named

theorem keeps_of_kept {record : String × Int} {dataClass : DataClass} (kept : IsKept record.1 dataClass) :
    ∃ entry, Keeps record entry ∧ entry.erasedAutomaticallyAt = record.2 + dataClass.retentionSeconds := by
  obtain ⟨reason, reasoned⟩ := erasable_of_kept kept
  exact ⟨⟨record.1, reason, dataClass.basis.value, record.2 + dataClass.retentionSeconds⟩,
    ⟨rfl, reasoned, dataClass, kept, rfl, rfl⟩, rfl⟩

omit [Host] in
/-- Nothing of the default inventory is older than the request. -/
theorem inventoryOf_none {time : Int} {record : String × Int} (member : record ∈ inventoryOf none time) : record.2 = time := by
  obtain ⟨dataClass, _, rfl⟩ := List.mem_map.mp member
  rfl

theorem mem_dueForExpiry {records : List (String × Int)} {record : String × Int} {dataClass : DataClass} {now : Option Int}
    {clock : Int} (due : record ∈ dueForExpiry records now clock) (known : classOf record.1 = some dataClass) :
    record.2 + dataClass.retentionSeconds < timeOf now clock := by
  have expired := (List.mem_filter.mp due).2
  simp only [classify, known, DataClass.expired] at expired
  split at expired
  next => cases expired
  next => simpa using expired

/-- A record that is kept is retained until its class ends. -/
theorem lasts_of_future {ring : KeyRing} {subject : String} {held : Option (List (String × Int))} {now : Option Int} {clock : Int}
    (future : ∀ entry ∈ (erase ring subject held now clock).1.retained, timeOf now clock < entry.erasedAutomaticallyAt)
    {record : String × Int} (told : record ∈ held.getD []) {dataClass : DataClass} (kept : IsKept record.1 dataClass) :
    timeOf now clock < record.2 + dataClass.retentionSeconds := by
  obtain ⟨entry, keeps, ends⟩ := keeps_of_kept kept
  have listed : record ∈ inventoryOf held (timeOf now clock) := by
    cases held with
    | none => cases told
    | some records => exact told
  rw [← ends]
  exact future entry ((mem_retained_erase ring subject held now clock entry).mpr ⟨record, listed, keeps⟩)

theorem future_of_lasting (ring : KeyRing) (subject : String) {held : Option (List (String × Int))} {now : Option Int} {clock : Int}
    (lasting : Lasting (held.getD []) (timeOf now clock)) :
    ∀ entry ∈ (erase ring subject held now clock).1.retained, timeOf now clock < entry.erasedAutomaticallyAt := by
  intro entry member
  obtain ⟨record, listed, keeps⟩ := (mem_retained_erase ring subject held now clock entry).mp member
  cases held with
  | some records => exact keeps.lasts listed lasting
  | none =>
    obtain ⟨dataClass, kept, _, ends⟩ := keeps.ends
    rw [ends, inventoryOf_none listed]
    exact Int.lt_add_of_pos_right _ kept.retained

/-- Nothing is retained past its end exactly if no record that an erasure was told of is too old for its class. -/
theorem retained_until_due_iff (ring : KeyRing) (subject : String) (held : Option (List (String × Int))) (now : Option Int)
    (clock : Int) :
    ((∀ entry ∈ (erase ring subject held now clock).1.retained, timeOf now clock < entry.erasedAutomaticallyAt) ∧
        ∀ record ∈ dueForExpiry (inventoryOf held (timeOf now clock)) now clock,
          ¬ (erase ring subject held now clock).1.Retains record) ↔
      Lasting (held.getD []) (timeOf now clock) := by
  constructor
  · intro ⟨future, _⟩ record told
    constructor
    · intro named
      obtain ⟨dataClass, kept, long⟩ := audit_kept
      rw [← long]
      exact lasts_of_future future told (named ▸ kept)
    · intro named
      obtain ⟨dataClass, kept, long⟩ := settlement_kept
      rw [← long]
      exact lasts_of_future future told (named ▸ kept)
  · intro lasting
    have future := future_of_lasting ring subject lasting
    refine ⟨future, ?_⟩
    intro record due ⟨entry, member, dataClass, known, _, ends⟩
    have late := mem_dueForExpiry due known
    have early := future entry member
    omega

end Reports

/-- An audit record that is 200 days old is due for expiry, and still it is retained, until ten days ago. -/
theorem late_audit_retained :
    let host := asciiHost []
    let report := (@erase host {} "sub_a" (some [("security_audit", 0)]) (some (200 * day)) 0).1
    ("security_audit", 0) ∈ @dueForExpiry host [("security_audit", 0)] (some (200 * day)) 0 ∧
      report.Retains ("security_audit", 0) ∧
      ¬ ∀ entry ∈ report.retained, timeOf (some (200 * day)) 0 < entry.erasedAutomaticallyAt := by
  refine ⟨by decide, ⟨_, List.mem_singleton_self _, _, rfl, rfl, rfl⟩, by decide⟩

end Xcp.Privacy
