import Xcp.Connectors.Catalog
import Xcp.Library.Ideal
import Xcp.Library.Transition

/-! Whether the curated class of a host is the one the firewall is told. The
hosts of an ingested document are compared with what is curated when it arrives;
what is curated later is compared with nothing. -/

namespace Xcp.Connectors
open Checked Firewall Python Rounds Transition

section Precedence
variable [Host]

/-- What a curated entry states of a host. -/
structure States (entry : ConnectorEntry) (host : String) (klass : ServerClass) : Prop where
  place : hostOf entry.endpointUrl = .ok host
  named : host ≠ ""
  word : classOfName entry.trustClass = .ok klass

/-- The URL and the class of every entry can be read. -/
def Readable (curated : List ConnectorEntry) : Prop :=
  ∀ entry ∈ curated, ∃ host, hostOf entry.endpointUrl = .ok host ∧ (host ≠ "" → ∃ klass, classOfName entry.trustClass = .ok klass)

/-- Some ingested entry is an endpoint of the host. -/
def Listed (ingested : List IngestedEntry) (host : String) : Prop :=
  ∃ entry ∈ ingested, entry.kind = .routable ∧ entry.host = .ok host ∧ host ≠ ""

/-- What curated entries state is not contradicted, neither by one of them nor by an ingested entry. -/
structure Undisputed (curated : List ConnectorEntry) (ingested : List IngestedEntry) : Prop where
  agree : ∀ first ∈ curated, ∀ second ∈ curated, ∀ host klass other,
    States first host klass → States second host other → klass = other
  unlisted : ∀ entry ∈ curated, ∀ host klass, States entry host klass → klass ≠ .unknown → ¬ Listed ingested host

/-- Every curated host has the class that is stated of it, and no other host is raised above unknown. -/
structure Precedence (curated : List ConnectorEntry) (before after : TrustFirewall) : Prop where
  stated : ∀ entry ∈ curated, ∀ host, hostOf entry.endpointUrl = .ok host → host ≠ "" →
    classOfName entry.trustClass = .ok (after.classOf host)
  crawled : ∀ host, (∀ entry ∈ curated, hostOf entry.endpointUrl ≠ .ok (lower host)) →
    after.classOf host = .unknown ∨ after.classOf host = before.classOf host

/-- Whatever firewall is told, what is curated wins. -/
def CuratedWins (catalog : GlobalCatalog) : Prop :=
  ∀ firewall count, (catalog.applyToFirewall firewall).2 = .ok count →
    Precedence catalog.curated firewall (catalog.applyToFirewall firewall).1

/-- Curated entries arrive before an ingested document lists their hosts, or state no more than is assumed of these. -/
def InTime (catalog : GlobalCatalog) : CatalogCall → Prop
  | .loadCurated (.ok entries) => Readable entries → Undisputed entries catalog.ingested.values
  | _ => True

theorem lower_hostOf {url host : String} (read : hostOf url = .ok host) : lower host = host := by
  simp only [hostOf, bind_eq_ok, pure_eq_ok] at read
  obtain ⟨parsed, _, rfl⟩ := read
  exact lower_lower _

/-! ### What a loop tells a firewall

A round of either loop sets the class of one host, or of none. -/

def tell (told : TrustFirewall × Int) : Option (String × ServerClass) → TrustFirewall × Int
  | some (host, klass) => (told.1.classify host klass, told.2 + 1)
  | none => told

theorem classOf_classify (firewall : TrustFirewall) (named host : String) (klass : ServerClass) :
    (firewall.classify named klass).classOf host = if lower host = lower named then klass else firewall.classOf host := by
  simp only [TrustFirewall.classify, TrustFirewall.classOf, Dict.get?_set]
  split <;> rfl

/-- A host has the class that an item of the loop told of it, or the one from before where none did. -/
inductive Told {α : Type} (writes : α → Raises (Option (String × ServerClass))) (items : List α) (before after : TrustFirewall)
    (host : String) : Prop
  | told (item : α) (listed : item ∈ items) (named : String) (same : lower host = lower named)
      (write : writes item = .ok (some (named, after.classOf host)))
  | kept (silent : ∀ item ∈ items, ∀ named klass, writes item = .ok (some (named, klass)) → lower host ≠ lower named)
      (unchanged : after.classOf host = before.classOf host)

section Telling
variable {α : Type} {round : TrustFirewall × Int → α → Raises (TrustFirewall × Int)}
  {writes : α → Raises (Option (String × ServerClass))}
  (tells : ∀ told item, round told item = (writes item).map (tell told))

include tells

theorem told_of_each {items : List α} {told : TrustFirewall × Int} (held : (each round told items).2 = .ok ()) (host : String) :
    Told writes items told.1 (each round told items).1.1 host := by
  induction items generalizing told with
  | nil => exact .kept (fun item listed => nomatch listed) rfl
  | cons item rest ih =>
    obtain ⟨next, first, loop⟩ := first_of_each held
    rw [loop] at held ⊢
    rw [tells] at first
    obtain ⟨write, wrote, rfl⟩ := (map_eq_ok (tell told) (writes item) next).mp first
    cases ih held with
    | told later listed named same written => exact .told later (List.mem_cons_of_mem item listed) named same written
    | kept silent unchanged =>
      by_cases toldNow : ∃ named klass, write = some (named, klass) ∧ lower host = lower named
      · obtain ⟨named, klass, rfl, same⟩ := toldNow
        have changed : (tell told (some (named, klass))).1.classOf host = klass := by
          rw [tell, classOf_classify, if_pos same]
        refine .told item (List.mem_cons_self ..) named same ?_
        rw [unchanged, changed]
        exact wrote
      · apply Told.kept
        · intro other listed named klass written same
          cases listed with
          | head =>
            rw [wrote] at written
            exact toldNow ⟨named, klass, Except.ok.inj written, same⟩
          | tail _ later => exact silent other later named klass written same
        · rw [unchanged]
          cases write with
          | none => rfl
          | some write =>
            have other : ¬ lower host = lower write.1 := fun same => toldNow ⟨write.1, write.2, rfl, same⟩
            rw [tell, classOf_classify, if_neg other]

theorem reads_of_each {items : List α} {told : TrustFirewall × Int} (held : (each round told items).2 = .ok ()) :
    ∀ item ∈ items, ∃ write, writes item = .ok write := by
  induction items generalizing told with
  | nil => exact fun item listed => nomatch listed
  | cons first rest ih =>
    obtain ⟨next, done, loop⟩ := first_of_each held
    rw [loop] at held
    rw [tells] at done
    obtain ⟨write, wrote, _⟩ := (map_eq_ok (tell told) (writes first) next).mp done
    intro item listed
    cases listed with
    | head => exact ⟨write, wrote⟩
    | tail _ later => exact ih held item later

theorem each_told_ok {items : List α} (reads : ∀ item ∈ items, ∃ write, writes item = .ok write) (told : TrustFirewall × Int) :
    (each round told items).2 = .ok () := by
  apply each_ok
  intro told item listed
  obtain ⟨write, wrote⟩ := reads item listed
  exact ⟨tell told write, by rw [tells, wrote]; rfl⟩

end Telling

/-! ### The two loops -/

def curatedWrite (entry : ConnectorEntry) : Raises (Option (String × ServerClass)) := do
  let host ← hostOf entry.endpointUrl
  if host = "" then return none
  else do
    let klass ← classOfName entry.trustClass
    return some (host, klass)

def ingestedWrite (entry : IngestedEntry) : Raises (Option (String × ServerClass)) := do
  if entry.kind ≠ .routable then return none
  else do
    let host ← entry.host
    return if host = "" then none else some (host, .unknown)

theorem curatedRound_tells (told : TrustFirewall × Int) (entry : ConnectorEntry) :
    GlobalCatalog.curatedRound told entry = (curatedWrite entry).map (tell told) := by
  unfold GlobalCatalog.curatedRound curatedWrite
  cases hostOf entry.endpointUrl with
  | error exception => rfl
  | ok host =>
    simp only [ok_bind]
    split
    next => rfl
    next => cases classOfName entry.trustClass <;> rfl

theorem ingestedRound_tells (told : TrustFirewall × Int) (entry : IngestedEntry) :
    GlobalCatalog.ingestedRound told entry = (ingestedWrite entry).map (tell told) := by
  unfold GlobalCatalog.ingestedRound ingestedWrite
  by_cases lead : entry.kind ≠ .routable
  · simp only [lead, if_true, not_false_eq_true, ne_eq]
    rfl
  · simp only [lead, if_false]
    cases entry.host with
    | error exception => rfl
    | ok host =>
      simp only [ok_bind]
      by_cases unnamed : host = ""
      · rw [if_pos unnamed, if_pos unnamed]
        rfl
      · rw [if_neg unnamed, if_neg unnamed]
        rfl

theorem curatedWrite_eq_some {entry : ConnectorEntry} {host : String} {klass : ServerClass} :
    curatedWrite entry = .ok (some (host, klass)) ↔ States entry host klass := by
  simp only [curatedWrite, bind_eq_ok]
  constructor
  · intro writes
    obtain ⟨place, read, wrote⟩ := writes
    by_cases unnamed : place = ""
    · simp [unnamed] at wrote
    · simp only [unnamed, if_false, bind_eq_ok, pure_eq_ok, Option.some.injEq, Prod.mk.injEq] at wrote
      obtain ⟨class_, word, rfl, rfl⟩ := wrote
      exact ⟨read, unnamed, word⟩
  · intro states
    refine ⟨host, states.place, ?_⟩
    simp only [states.named, if_false, bind_eq_ok, pure_eq_ok]
    exact ⟨klass, states.word, rfl⟩

theorem ingestedWrite_eq_some {entry : IngestedEntry} {host : String} {klass : ServerClass} :
    ingestedWrite entry = .ok (some (host, klass)) ↔
      entry.kind = .routable ∧ entry.host = .ok host ∧ host ≠ "" ∧ klass = .unknown := by
  by_cases lead : entry.kind ≠ .routable
  · simp [ingestedWrite, lead]
  · have routable : entry.kind = .routable := not_not.mp lead
    rw [ingestedWrite, if_neg lead, bind_eq_ok]
    simp only [pure_eq_ok]
    constructor
    · intro writes
      obtain ⟨place, read, wrote⟩ := writes
      by_cases unnamed : place = ""
      · simp [unnamed] at wrote
      · simp only [unnamed, if_false, Option.some.injEq, Prod.mk.injEq] at wrote
        obtain ⟨rfl, rfl⟩ := wrote
        exact ⟨routable, read, unnamed, rfl⟩
    · intro states
      obtain ⟨_, read, named, isUnknown⟩ := states
      exact ⟨host, read, by simp [named, isUnknown]⟩

/-- What can be read is what a round of the first loop can do. -/
theorem readable_iff {curated : List ConnectorEntry} :
    Readable curated ↔ ∀ entry ∈ curated, ∃ write, curatedWrite entry = .ok write := by
  refine forall₂_congr (fun entry listed => ?_)
  simp only [curatedWrite, bind_eq_ok]
  constructor
  · intro reads
    obtain ⟨host, read, word⟩ := reads
    by_cases unnamed : host = ""
    · exact ⟨none, host, read, by simp [unnamed]⟩
    · obtain ⟨klass, known⟩ := word unnamed
      exact ⟨some (host, klass), host, read, by simp [unnamed, known]⟩
  · intro runs
    obtain ⟨write, host, read, wrote⟩ := runs
    refine ⟨host, read, fun named => ?_⟩
    simp only [named, if_false, bind_eq_ok] at wrote
    obtain ⟨klass, known, _⟩ := wrote
    exact ⟨klass, known⟩

/-! ### What the firewall is told -/

theorem applied_of_ok {catalog : GlobalCatalog} {firewall : TrustFirewall} {count : Int}
    (held : (catalog.applyToFirewall firewall).2 = .ok count) :
    ∃ middle, each GlobalCatalog.curatedRound (firewall, 0) catalog.curated = (middle, .ok ()) ∧
      (each GlobalCatalog.ingestedRound middle catalog.ingested.values).2 = .ok () ∧
      (catalog.applyToFirewall firewall).1 = (each GlobalCatalog.ingestedRound middle catalog.ingested.values).1.1 := by
  unfold GlobalCatalog.applyToFirewall at held ⊢
  split at held
  next => cases held
  next middle done loop =>
    refine ⟨middle, loop, ?_, rfl⟩
    obtain ⟨finished, ended, _⟩ := (map_eq_ok _ _ count).mp held
    exact ended

/-- All that is curated and all that is ingested can be read, so the firewall is told of all of it. -/
theorem applied_of_reads {catalog : GlobalCatalog} (readable : Readable catalog.curated)
    (placed : ∀ entry ∈ catalog.ingested.values, ∃ host, entry.host = .ok host) (firewall : TrustFirewall) :
    ∃ count, (catalog.applyToFirewall firewall).2 = .ok count := by
  have first := each_told_ok curatedRound_tells (readable_iff.mp readable) (firewall, 0)
  unfold GlobalCatalog.applyToFirewall
  split
  next middle exception loop =>
    rw [loop] at first
    cases first
  next middle done loop =>
    have reads : ∀ entry ∈ catalog.ingested.values, ∃ write, ingestedWrite entry = .ok write := by
      intro entry listed
      obtain ⟨host, read⟩ := placed entry listed
      unfold ingestedWrite
      by_cases lead : entry.kind ≠ .routable
      · exact ⟨none, by rw [if_pos lead]; rfl⟩
      · exact ⟨_, by rw [if_neg lead, read]; rfl⟩
    have second := each_told_ok ingestedRound_tells reads middle
    exact ⟨_, congrArg (Except.map _) second⟩

theorem precedence_of_undisputed {catalog : GlobalCatalog} (undisputed : Undisputed catalog.curated catalog.ingested.values)
    {firewall : TrustFirewall} {count : Int} (held : (catalog.applyToFirewall firewall).2 = .ok count) :
    Precedence catalog.curated firewall (catalog.applyToFirewall firewall).1 := by
  obtain ⟨middle, loop, ended, after⟩ := applied_of_ok held
  have finished : (each GlobalCatalog.curatedRound (firewall, 0) catalog.curated).2 = .ok () := by rw [loop]
  have first := told_of_each curatedRound_tells finished
  have readable := reads_of_each curatedRound_tells finished
  have second := told_of_each ingestedRound_tells ended
  rw [loop] at first
  rw [after]
  constructor
  · intro entry listed host read named
    obtain ⟨place, hosted, word⟩ := readable_iff.mpr readable entry listed
    cases read.symm.trans hosted
    obtain ⟨klass, known⟩ := word named
    have states : States entry host klass := ⟨read, named, known⟩
    have told : middle.1.classOf host = klass := by
      cases first host with
      | told item member other same write =>
        have stated := curatedWrite_eq_some.mp write
        rw [lower_hostOf read, lower_hostOf stated.place] at same
        exact undisputed.agree item member entry listed host _ klass (same ▸ stated) states
      | kept silent _ => exact absurd rfl (silent entry listed host klass (curatedWrite_eq_some.mpr states))
    cases second host with
    | told item member other same write =>
      obtain ⟨routable, hosts, place, lowest⟩ := ingestedWrite_eq_some.mp write
      rw [lower_hostOf read, lower_hostOf hosts] at same
      rw [known, lowest]
      by_contra above
      have higher : klass ≠ .unknown := fun isUnknown => above (congrArg Except.ok isUnknown)
      exact undisputed.unlisted entry listed host klass states higher ⟨item, member, routable, same ▸ hosts, named⟩
    | kept _ unchanged => rw [known, unchanged, told]
  · intro host crawled
    cases second host with
    | told item member other same write => exact .inl (ingestedWrite_eq_some.mp write).2.2.2
    | kept _ unchanged =>
      rw [unchanged]
      cases first host with
      | told item member other same write =>
        have stated := curatedWrite_eq_some.mp write
        rw [lower_hostOf stated.place] at same
        exact absurd (same ▸ stated.place) (crawled item member)
      | kept _ before => exact .inr before

/-- A contradiction shows as soon as the firewall is told. -/
theorem undisputed_of_wins {catalog : GlobalCatalog} (readable : Readable catalog.curated)
    (placed : ∀ entry ∈ catalog.ingested.values, ∃ host, entry.host = .ok host) (wins : CuratedWins catalog) :
    Undisputed catalog.curated catalog.ingested.values := by
  obtain ⟨count, held⟩ := applied_of_reads readable placed {}
  have stated := (wins {} count held).stated
  constructor
  · intro first listed second member host klass other states matched
    have one := stated first listed host states.place states.named
    have two := stated second member host matched.place matched.named
    rw [states.word] at one
    rw [matched.word] at two
    exact Except.ok.inj (one.trans two.symm)
  · intro entry listed host klass states above ⟨item, member, routable, hosts, named⟩
    obtain ⟨middle, _, ended, after⟩ := applied_of_ok held
    have one := stated entry listed host states.place states.named
    rw [states.word, after] at one
    cases told_of_each ingestedRound_tells ended host with
    | told other _ _ _ write =>
      apply above
      rw [Except.ok.inj one]
      exact (ingestedWrite_eq_some.mp write).2.2.2
    | kept silent _ =>
      exact silent item member host .unknown (ingestedWrite_eq_some.mpr ⟨routable, hosts, named, rfl⟩) rfl

/-! ### What is gathered -/

/-- An entry whose host can be read, and is none of some hosts if agents are sent there. -/
def Fits (hosts : List String) (entry : IngestedEntry) : Prop :=
  ∃ host, entry.host = .ok host ∧ (entry.kind = .routable → host ∉ hosts)

/-- A round keeps what was gathered, or tries to add an entry that fits. -/
def Grows (hosts : List String) (before after : Gathered) : Prop :=
  after = before ∨ ∃ key entry, Fits hosts entry ∧ after = gather before key entry

theorem snapshotRound_grows {hosts : List String} {before after : Gathered} {server : Json}
    (held : snapshotRound hosts before server = .ok after) : Grows hosts before after := by
  simp only [snapshotRound, bind_eq_ok] at held
  obtain ⟨kind, _, endpoint, _, curated, checked, held⟩ := held
  by_cases shadows : curated = true
  · rw [if_pos shadows] at held
    exact .inl (Except.ok.inj held).symm
  · simp only [if_neg shadows, bind_eq_ok, pure_eq_ok] at held
    obtain ⟨id, _, install, _, tools, _, _, _, apiBase, _, specUrl, _, operations, _, _, _, host, read, rfl⟩ := held
    refine .inr ⟨_, _, ⟨host, read, fun routable => ?_⟩, rfl⟩
    rw [Bool.not_eq_true] at shadows
    subst shadows
    have compared := (andThen_eq_false _ _).mp checked (decide_eq_true routable)
    obtain ⟨place, hosted, absent⟩ := (map_eq_ok _ _ _).mp compared
    cases read.symm.trans hosted
    simpa using absent

theorem acceptable_fits {hosts : List String} {entry : IngestedEntry} (accepted : acceptable hosts entry = .ok true)
    {host : String} (read : entry.host = .ok host) : entry.kind = .routable → host ∉ hosts := by
  intro routable
  simp only [acceptable, routable] at accepted
  by_cases insecure : (!startsWith entry.endpointUrl "https://") = true
  · rw [if_pos insecure] at accepted
    cases accepted
  · simp only [if_neg insecure, bind_eq_ok, pure_eq_ok] at accepted
    obtain ⟨place, hosted, absent⟩ := accepted
    cases read.symm.trans hosted
    simp only [Bool.and_eq_true, Bool.not_eq_true'] at absent
    simpa using absent.2

theorem ingestRound_grows {hosts : List String} {before after : Gathered} {entry : IngestedEntry}
    (held : ingestRound hosts before entry = .ok after) : Grows hosts before after := by
  simp only [ingestRound, bind_eq_ok] at held
  obtain ⟨accepted, check, held⟩ := held
  by_cases accepts : accepted = true
  · subst accepts
    simp only [if_true, bind_eq_ok, pure_eq_ok] at held
    obtain ⟨host, read, rfl⟩ := held
    refine .inr ⟨_, { entry with trustClass := "unknown", verificationStatus := "unconfirmed" }, ?_, rfl⟩
    exact ⟨host, read, acceptable_fits check read⟩
  · rw [if_neg accepts] at held
    exact .inl (Except.ok.inj held).symm

/-- What holds of a catalog between calls: the hosts of what is ingested can be read, and what can be read of the curated
entries is undisputed. -/
structure Orderly (curated : List ConnectorEntry) (ingested : Dict String IngestedEntry) : Prop where
  placed : ∀ entry ∈ ingested.values, ∃ host, entry.host = .ok host
  undisputed : Readable curated → Undisputed curated ingested.values

theorem curatedHosts_mem {curated : List ConnectorEntry} {hosts : List String} (read : curatedHosts curated = .ok hosts)
    {entry : ConnectorEntry} (listed : entry ∈ curated) {host : String} (place : hostOf entry.endpointUrl = .ok host) :
    host ∈ hosts := by
  obtain ⟨other, member, here⟩ := result_of_mapM read listed
  cases here.symm.trans place
  exact member

omit [Host] in
theorem mem_gather {gathered : Gathered} {key : String} {fresh entry : IngestedEntry}
    (listed : entry ∈ (gather gathered key fresh).1.values) : entry = fresh ∨ entry ∈ gathered.1.values := by
  unfold gather at listed
  split at listed
  next => exact .inr listed
  next =>
    obtain ⟨place, found⟩ := Dict.mem_values.mp listed
    cases Dict.get?_set_eq_some found with
    | inl here => exact .inl here.2
    | inr there => exact .inr (Dict.mem_values.mpr ⟨place, there⟩)

theorem orderly_grows {curated : List ConnectorEntry} {hosts : List String} (known : curatedHosts curated = .ok hosts)
    {before after : Gathered} (grows : Grows hosts before after) (orderly : Orderly curated before.1) :
    Orderly curated after.1 := by
  obtain rfl | ⟨key, fresh, ⟨host, read, fits⟩, rfl⟩ := grows
  · exact orderly
  constructor
  · intro entry listed
    cases mem_gather listed with
    | inl isFresh => exact ⟨host, isFresh ▸ read⟩
    | inr old => exact orderly.placed entry old
  · intro readable
    have undisputed := orderly.undisputed readable
    refine ⟨undisputed.agree, ?_⟩
    intro entry listed place klass states above ⟨item, member, routable, hosted, named⟩
    cases mem_gather member with
    | inl isFresh =>
      subst isFresh
      cases read.symm.trans hosted
      exact fits routable (curatedHosts_mem known listed states.place)
    | inr old => exact undisputed.unlisted entry listed place klass states above ⟨item, old, routable, hosted, named⟩

theorem orderly_gatherAll {α : Type} {catalog : GlobalCatalog} {hosts : List String}
    (known : curatedHosts catalog.curated = .ok hosts) {round : Gathered → α → Raises Gathered}
    (grows : ∀ before item after, round before item = .ok after → Grows hosts before after) (items : List α)
    (orderly : Orderly catalog.curated catalog.ingested) :
    Orderly (catalog.gatherAll round items).1.curated (catalog.gatherAll round items).1.ingested := by
  have keeps : ∀ before item after, item ∈ items → Orderly catalog.curated before.1 → round before item = .ok after →
      Orderly catalog.curated after.1 := by
    intro before item after _ held done
    exact orderly_grows known (grows before item after done) held
  exact each_invariant keeps orderly

/-! ### Calls in any order -/

theorem orderly_loadSnapshot {catalog : GlobalCatalog} (orderly : Orderly catalog.curated catalog.ingested)
    (file : Option String) : Orderly (catalog.loadSnapshot file).1.curated (catalog.loadSnapshot file).1.ingested := by
  unfold GlobalCatalog.loadSnapshot
  cases file with
  | none => exact orderly
  | some text =>
    dsimp only
    split
    next => exact orderly
    next hosts servers read =>
      simp only [GlobalCatalog.readSnapshot, bind_eq_ok, pure_eq_ok, Prod.mk.injEq] at read
      obtain ⟨_, _, _, known, _, _, _, _, rfl, _⟩ := read
      exact orderly_gatherAll known (fun before item after => snapshotRound_grows) servers orderly

theorem orderly_ingest {catalog : GlobalCatalog} (orderly : Orderly catalog.curated catalog.ingested) (source : Source)
    (document : Json) : Orderly (catalog.ingest source document).1.curated (catalog.ingest source document).1.ingested := by
  unfold GlobalCatalog.ingest
  split
  next => exact orderly
  next =>
    split
    next => exact orderly
    next =>
      split
      next => exact orderly
      next hosts entries read =>
        have known : curatedHosts catalog.curated = .ok hosts := by
          simp only [GlobalCatalog.readDocument, bind_eq_ok] at read
          obtain ⟨_, _, read⟩ := read
          split at read
          next => cases read
          next =>
            simp only [bind_eq_ok, pure_eq_ok, Prod.mk.injEq] at read
            obtain ⟨_, known, _, _, rfl, _⟩ := read
            exact known
        exact orderly_gatherAll known (fun before item after => ingestRound_grows) entries orderly

theorem orderly_call {catalog : GlobalCatalog} (orderly : Orderly catalog.curated catalog.ingested) {call : CatalogCall}
    (inTime : InTime catalog call) : Orderly (catalog.call call).curated (catalog.call call).ingested := by
  cases call with
  | loadSnapshot file => exact orderly_loadSnapshot orderly file
  | loadCurated files =>
    cases files with
    | error exception => exact orderly
    | ok entries => exact ⟨orderly.placed, inTime⟩
  | ingest source document => exact orderly_ingest orderly source document

theorem wins_of_orderly {catalog : GlobalCatalog} (orderly : Orderly catalog.curated catalog.ingested) :
    CuratedWins catalog := by
  intro firewall count held
  obtain ⟨middle, loop, _, _⟩ := applied_of_ok held
  have finished : (each GlobalCatalog.curatedRound (firewall, 0) catalog.curated).2 = .ok () := by rw [loop]
  have readable := readable_iff.mpr (reads_of_each curatedRound_tells finished)
  exact precedence_of_undisputed (orderly.undisputed readable) held

/-- What is curated too late loses to what was ingested before. -/
theorem late_loses {catalog : GlobalCatalog} (orderly : Orderly catalog.curated catalog.ingested) {call : CatalogCall}
    (late : ¬ InTime catalog call) : ¬ CuratedWins (catalog.call call) := by
  intro wins
  cases call with
  | loadSnapshot file => exact late trivial
  | ingest source document => exact late trivial
  | loadCurated files =>
    cases files with
    | error exception => exact late trivial
    | ok entries =>
      apply late
      intro readable
      exact @undisputed_of_wins _ { catalog with curated := entries } readable orderly.placed wins

/-- In any order of calls, what is curated wins throughout exactly when each load of it comes in time. -/
theorem curated_wins_iff (calls : List CatalogCall) :
    Always GlobalCatalog.call CuratedWins {} calls ↔ Meets GlobalCatalog.call InTime {} calls := by
  have start : Orderly [] {} := by
    constructor
    · intro entry listed
      cases listed
    · intro _
      exact ⟨fun first listed => (nomatch listed), fun entry listed => (nomatch listed)⟩
  have keeps : ∀ (catalog : GlobalCatalog) call, Orderly catalog.curated catalog.ingested → InTime catalog call →
      Orderly (catalog.call call).curated (catalog.call call).ingested := by
    intro catalog call orderly inTime
    exact orderly_call orderly inTime
  exact always_iff_meets keeps (fun catalog orderly => wins_of_orderly orderly)
    (fun catalog call orderly late => late_loses orderly late) start

end Precedence

section Sample

local instance crawledHost : Host := asciiHost []

/-- A crawled list that names the endpoint of a curated host. -/
def crawledList : Json := .dict [("servers", .list [.dict [("name", .str "stripe-impostor"),
  ("remotes", .list [.dict [("url", .str "https://mcp.stripe.com/mcp")]])]])]

def aggregator : Source := { id := "agg", kind := .aggregator, url := "https://agg.example/list" }

def curatedStripe : List ConnectorEntry := [{ id := "stripe", endpointUrl := "https://mcp.stripe.com", trustClass := "probed" }]

/-- The curated files are loaded after a document was ingested. -/
def lateCalls : List CatalogCall := [.ingest aggregator crawledList, .loadCurated (.ok curatedStripe)]

def lateCatalog : GlobalCatalog := run GlobalCatalog.call {} lateCalls

theorem curated_stripe_is_lowered : lateCatalog.curated = curatedStripe ∧
    ((lateCatalog.applyToFirewall {}).2.toOption = some 2) ∧
    (lateCatalog.applyToFirewall {}).1.classOf "mcp.stripe.com" = .unknown := by
  decide +kernel

/-- The list is ingested first, and the firewall is told that the curated host is unknown. -/
theorem crawled_wins : ¬ ∀ calls, Always GlobalCatalog.call CuratedWins {} calls := by
  intro always
  have last : CuratedWins lateCatalog := (always lateCalls).2.2
  obtain ⟨same, told, lowered⟩ := curated_stripe_is_lowered
  have precedence := last {} 2 (toOption_eq_some.mp told)
  have listed : ∃ entry ∈ lateCatalog.curated, entry.endpointUrl = "https://mcp.stripe.com" ∧ entry.trustClass = "probed" := by
    rw [same]
    exact ⟨_, List.mem_cons_self .., rfl, rfl⟩
  obtain ⟨entry, member, place, word⟩ := listed
  have stated := precedence.stated entry member "mcp.stripe.com" (by rw [place]; decide +kernel) (by decide)
  rw [word, lowered] at stated
  cases stated

end Sample

end Xcp.Connectors
