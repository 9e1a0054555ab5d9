import Xcp.Connectors.Sources
import Xcp.Library.Checked
import Xcp.TrustFirewall.Firewall

/-! What a node knows of servers: the curated ones, which somebody checked, and
the ingested ones, which somebody only listed. The firewall is told of both. -/

namespace Xcp.Connectors
open Checked Firewall Python Rounds

/-- An entry of the curated files. -/
structure ConnectorEntry where
  id : String
  endpointUrl : String
  trustClass : String := "unknown"
deriving DecidableEq, Repr

structure GlobalCatalog where
  curated : List ConnectorEntry := []
  /-- By host, or what stands for it, and id. -/
  ingested : Dict String IngestedEntry := {}

def classOfName (name : String) : Raises ServerClass :=
  if name = "unknown" then .ok .unknown
  else if name = "probed" then .ok .probed
  else if name = "attested" then .ok .attested
  else if name = "contracted" then .ok .contracted
  else raise .keyError s!"'{name}'"

section Loading
variable [Host]

/-! ### What was gathered so far

The entries, and how many of them are new. -/

abbrev Gathered := Dict String IngestedEntry × Int

/-- The first that is not empty. -/
def orText (first second : String) : String := if first = "" then second else first

/-- The first entry with a key stays. -/
def gather (gathered : Gathered) (key : String) (entry : IngestedEntry) : Gathered :=
  if (gathered.1.get? key).isSome then gathered else (gathered.1.set key entry, gathered.2 + 1)

def curatedHosts (curated : List ConnectorEntry) : Raises (List String) := curated.mapM (fun entry => hostOf entry.endpointUrl)

def snapshotRound (hosts : List String) (gathered : Gathered) (server : Json) : Raises Gathered := do
  let kind ← server.get "kind" (.str "installable")
  let kind := EndpointKind.read kind.toStr
  let endpoint ← server.get "endpoint" (.str "")
  let url := (endpoint.orElse (.str "")).toStr
  let curated ← andThen (kind = .routable) (hosts.contains <$> hostOf url)
  if curated then return gathered
  else do
    let id ← server.get "id" (.str "")
    let install ← server.get "install" (.str "")
    let tools ← server.get "tools"
    let _ ← (tools.orElse (.list [])).toList
    let apiBase ← server.get "apiBase" (.str "")
    let specUrl ← server.get "specUrl" (.str "")
    let operations ← server.get "operations" (.int 0)
    let _ ← (operations.orElse (.int 0)).toInt
    let entry : IngestedEntry := {
      id := id.toStr, endpointUrl := url, kind, installRef := install.toStr, apiBase := apiBase.toStr
      specUrl := specUrl.toStr }
    let host ← entry.host
    return gather gathered s!"{orText host (orText entry.installRef entry.specUrl)}|{entry.id}" entry

/-- A lead of its kind that can be followed, and that is not curated. -/
def acceptable (hosts : List String) (entry : IngestedEntry) : Raises Bool :=
  match entry.kind with
  | .routable =>
    if !startsWith entry.endpointUrl "https://" then .ok false
    else do
      let host ← entry.host
      -- What is curated wins over what was crawled.
      return host ≠ "" && !hosts.contains host
  | .wrappable => .ok (entry.specUrl ≠ "" && entry.apiBase ≠ "")
  | .installable => .ok (entry.installRef ≠ "")

def ingestRound (hosts : List String) (gathered : Gathered) (entry : IngestedEntry) : Raises Gathered := do
  if ← acceptable hosts entry then
    let host ← entry.host
    -- Trust is set here, never by the document.
    return gather gathered s!"{orText host entry.installRef}|{entry.id}"
      { entry with trustClass := "unknown", verificationStatus := "unconfirmed" }
  else return gathered

namespace GlobalCatalog

/-- What the rounds of a loop gather; what they gathered before one of them failed is kept. -/
def gatherAll {α : Type} (catalog : GlobalCatalog) (round : Gathered → α → Raises Gathered) (items : List α) :
    GlobalCatalog × Raises Int :=
  let (gathered, outcome) := each round (catalog.ingested, 0) items
  ({ catalog with ingested := gathered.1 }, outcome.map (fun _ => gathered.2))

/-- What of a snapshot is read before any of it is gathered: the curated hosts and the servers. -/
def readSnapshot (catalog : GlobalCatalog) (text : String) : Raises (List String × List Json) := do
  let document ← Host.loads text
  let hosts ← curatedHosts catalog.curated
  let servers ← document.get "servers" (.list [])
  let servers ← servers.toList
  return (hosts, servers)

/-- `file` is the text of the snapshot, if there is one. -/
def loadSnapshot (catalog : GlobalCatalog) (file : Option String) : GlobalCatalog × Raises Int :=
  match file with
  | none => (catalog, .ok 0)
  | some text =>
    match catalog.readSnapshot text with
    | .error exception => (catalog, .error exception)
    | .ok (hosts, servers) => catalog.gatherAll (snapshotRound hosts) servers

/-- `files` is what `load_catalog` makes of the curated files. -/
def loadCurated (catalog : GlobalCatalog) (files : Raises (List ConnectorEntry)) : GlobalCatalog × Raises Int :=
  match files with
  | .ok entries => ({ catalog with curated := entries }, .ok entries.length)
  | .error exception => (catalog, .error exception)

/-- A document that is a string is JSON that was not read yet. -/
def decoded : Json → Raises Json
  | .str text => Host.loads text
  | document => .ok document

/-- What is read of a document before any of it is gathered: the curated hosts and the entries. -/
def readDocument (catalog : GlobalCatalog) (source : Source) (document : Json) : Raises (List String × List IngestedEntry) := do
  let document ← decoded document
  match normalise? source.kind with
  | none => raise (.package "IngestError") "no normaliser for source kind SourceKind.MANUAL"
  | some normalise => do
    let hosts ← curatedHosts catalog.curated
    let entries ← normalise document
    return (hosts, entries)

def ingest (catalog : GlobalCatalog) (source : Source) (document : Json) : GlobalCatalog × Raises Int :=
  if source.validate ≠ [] then (catalog, raise (.package "IngestError") (joinWith "; " source.validate))
  else if !source.enabled then (catalog, .ok 0)
  else
    match catalog.readDocument source document with
    | .error exception => (catalog, .error exception)
    | .ok (hosts, entries) => catalog.gatherAll (ingestRound hosts) entries

/-! ### The firewall -/

def curatedRound (told : TrustFirewall × Int) (entry : ConnectorEntry) : Raises (TrustFirewall × Int) := do
  let host ← hostOf entry.endpointUrl
  if host = "" then return told
  else do
    let klass ← classOfName entry.trustClass
    return (told.1.classify host klass, told.2 + 1)

def ingestedRound (told : TrustFirewall × Int) (entry : IngestedEntry) : Raises (TrustFirewall × Int) := do
  -- There is nothing to classify for a package.
  if entry.kind ≠ .routable then return told
  else do
    let host ← entry.host
    if host = "" then return told
    else return (told.1.classify host .unknown, told.2 + 1)

/-- The firewall, and how many classes were set. -/
def applyToFirewall (catalog : GlobalCatalog) (firewall : TrustFirewall) : TrustFirewall × Raises Int :=
  match each curatedRound (firewall, 0) catalog.curated with
  | (told, .error exception) => (told.1, .error exception)
  | (told, .ok _) =>
    let (told, outcome) := each ingestedRound told catalog.ingested.values
    (told.1, outcome.map (fun _ => told.2))

end GlobalCatalog

/-! ### Calls -/

inductive CatalogCall where
  | loadSnapshot (file : Option String)
  | loadCurated (files : Raises (List ConnectorEntry))
  | ingest (source : Source) (document : Json)

/-- The catalog after a call, whether it raised or not. -/
def GlobalCatalog.call (catalog : GlobalCatalog) : CatalogCall → GlobalCatalog
  | .loadSnapshot file => (catalog.loadSnapshot file).1
  | .loadCurated files => (catalog.loadCurated files).1
  | .ingest source document => (catalog.ingest source document).1

end Loading

end Xcp.Connectors
