import Xcp.Library.Strip
import Xcp.Library.Runs
import Xcp.Library.Url

/-! Where discovered servers come from, and what is kept of the documents of
each kind of source: who is listed, and where. -/

namespace Xcp.Connectors
open Checked Python

def maxEntriesPerSource : Nat := 50000

inductive EndpointKind where
  /-- A remote endpoint that an agent can connect to today. -/
  | routable
  /-- An API that needs a generated server in front of it. -/
  | wrappable
  /-- A package that somebody has to run first. -/
  | installable
deriving DecidableEq, Repr

/-- `EndpointKind(text)`, and an installable one for every other text. -/
def EndpointKind.read (text : String) : EndpointKind :=
  if text = "routable" then .routable else if text = "wrappable" then .wrappable else .installable

inductive SourceKind where
  | official | ard | aggregator | peer | scan | repoIndex | manual
deriving DecidableEq, Repr

structure Source where
  id : String
  kind : SourceKind
  url : String := ""
  enabled : Bool := true
  /-- No document of the source can claim more. -/
  maxTrust : String := "unknown"

def Source.validate (source : Source) : List String :=
  problemIf (source.id = "") "source needs an id" ++
    problemIf (source.kind ≠ .scan && !startsWith source.url "https://") s!"{source.id}: source url must be https" ++
    problemIf (source.maxTrust ≠ "unknown" && source.kind ≠ .manual)
      s!"{source.id}: only the curated catalog may exceed 'unknown'"

/-- A server that somebody lists. -/
structure IngestedEntry where
  id : String
  endpointUrl : String
  kind : EndpointKind := .routable
  /-- A repository or a package. -/
  installRef : String := ""
  apiBase : String := ""
  specUrl : String := ""
  verificationStatus : String := "unconfirmed"
  trustClass : String := "unknown"
deriving DecidableEq, Repr

section Reading
variable [Host]

/-- The host of a URL in small letters, empty where it names none. -/
def hostOf (url : String) : Raises String := do
  let parsed ← urlparse url
  return lower parsed.hostname

def IngestedEntry.host (entry : IngestedEntry) : Raises String := hostOf entry.endpointUrl

def isSlugLetter (letter : Char) : Bool := letter.isLower || letter.isDigit || ['.', '_', '-'].contains letter

def slug (text : String) : String :=
  let letters := squeeze (fun letter => !isSlugLetter letter) '-' false (lower (strip text)).toList
  String.ofList (stripBy (· = '-') letters)

/-- A field that is an `https` URL. Only a string is written so that it begins like one. -/
def httpsUrl? (entry : Json) (field : String) : Raises (Option String) := do
  match ← entry.get field (.str "") with
  | .str text => return if startsWith text "https://" then some text else none
  | _ => return none

/-- `value[:count]` of a value that is then walked. -/
def walkFirst (value : Json) (count : Nat) : Raises (List Json) := do
  let first ← value.takeFirst count
  first.toList

/-- `[str(t) for t in (entry.get("tags") or [])]`, of which nothing is kept here but that it fails. -/
def readTags (entry : Json) : Raises Unit := do
  let tags ← entry.get "tags"
  let _ ← (tags.orElse (.list [])).toList
  return ()

/-! ### The official registry, and what copies its shape -/

/-- The first remote of a server that is an `https` URL. -/
def remoteUrl? : List Json → Raises (Option String)
  | [] => .ok none
  | remote :: rest => do
    if remote.isDict then
      match ← httpsUrl? remote "url" with
      | some url => return some url
      | none => remoteUrl? rest
    else remoteUrl? rest

/-- Servers that only run locally are not listed. -/
def registryEntry? (server : Json) : Raises (Option IngestedEntry) := do
  if !server.isDict then return none
  else do
    let remotes ← server.get "remotes"
    let remotes ← (remotes.orElse (.list [])).toList
    match ← remoteUrl? remotes with
    | none => return none
    | some url => do
      let name ← server.get "name" (.str "")
      let name := if name.toStr = "" then url else name.toStr
      let repository ← server.get "repository"
      let _ ← (repository.orElse (.dict [])).get "url" (.str "")
      return some { id := slug name, endpointUrl := url }

def normaliseMcpRegistry (document : Json) : Raises (List IngestedEntry) := do
  let items := match document with
    | .dict members => (Json.find? members "servers").getD document
    | other => other
  let servers ← walkFirst (items.orElse (.list [])) maxEntriesPerSource
  let entries ← servers.mapM registryEntry?
  return entries.filterMap id

/-! ### The catalog of a domain -/

def ardEntry? (entry : Json) : Raises (Option IngestedEntry) := do
  match ← httpsUrl? entry "url" with
  | none => return none
  | some url => do
    let trust ← entry.get "trust"
    let _ ← (trust.orElse (.dict [])).get "auth" (.str "unknown")
    let id ← entry.get "id"
    let name ← entry.get "name"
    let _ ← readTags entry
    return some { id := slug ((id.orElse name).orElse (.str url)).toStr, endpointUrl := url }

def normaliseArdCatalog (document : Json) : Raises (List IngestedEntry) := do
  let entries ← if document.isDict then document.get "entries" (.list []) else .ok (.list [])
  let publisher ← (document.orElse (.dict [])).get "publisher"
  let _ ← (publisher.orElse (.dict [])).get "domain" (.str "")
  let listed ← walkFirst entries maxEntriesPerSource
  let entries ← listed.mapM ardEntry?
  return entries.filterMap id

/-! ### The catalog of another node -/

def peerEntry? (entry : Json) : Raises (Option IngestedEntry) := do
  match ← httpsUrl? entry "endpoint" with
  | none => return none
  | some url => do
    let id ← entry.get "id"
    let _ ← readTags entry
    return some { id := slug (id.orElse (.str url)).toStr, endpointUrl := url }

def normalisePeerCatalog (document : Json) : Raises (List IngestedEntry) := do
  let connectors ← (document.orElse (.dict [])).get "connectors" (.list [])
  let listed ← walkFirst connectors maxEntriesPerSource
  let entries ← listed.mapM peerEntry?
  return entries.filterMap id

/-! ### An index of repositories -/

/-- `^\s*[-*]\s+(.*)$` -/
def bullet? (line : String) : Option (List Char) :=
  match line.toList.dropWhile isSpace with
  | mark :: space :: rest =>
    let body := rest.dropWhile isSpace
    let first := body.takeWhile (· ≠ '\n')
    if (mark = '-' || mark = '*') && isSpace space && body.length ≤ first.length + 1 then some first else none
  | _ => none

def isAsciiAlnum (letter : Char) : Bool := letter.isAlpha || letter.isDigit

def isRepoLetter (letter : Char) : Bool := isAsciiAlnum letter || ['_', '.', '-'].contains letter

/-- The owner and the name of a repository whose address begins here. -/
def repoAt? (letters : List Char) : Option (String × String) :=
  let start := "https://github.com/".toList
  let rest := letters.drop start.length
  let owner := rest.takeWhile isRepoLetter
  let name := (rest.drop (owner.length + 1)).takeWhile isRepoLetter
  if start.isPrefixOf letters && !owner.isEmpty && (rest.drop owner.length).head? = some '/' && !name.isEmpty then
    some (String.ofList owner, String.ofList name)
  else none

def isWord (letter : Char) : Bool := Host.isAlnum letter || letter = '_'

/-- `mcp` or `sse` where a word ends, somewhere in the path. -/
def namesServer (path after : List Char) : Bool :=
  path.tails.any (fun tail =>
    (["mcp", "sse"].any (fun word => word.toList.isPrefixOf tail)) && !((tail.drop 3 ++ after).head?.any isWord))

/-- A remote endpoint that begins here. -/
def remoteAt? (letters : List Char) : Option String :=
  let start := "https://".toList
  let rest := letters.drop start.length
  let excluded := ["github.com", "glama.ai", "raw."].any (fun host => host.toList.isPrefixOf rest)
  let host := rest.takeWhile (fun letter => letter.isLower || letter.isDigit || ['-', '.'].contains letter)
  let labels := host.splitOn '.'
  let after := rest.drop host.length
  let path := (after.drop 1).takeWhile (fun letter => isAsciiAlnum letter || ['.', '_', '~', '/', '-'].contains letter)
  if start.isPrefixOf letters && !excluded && 2 ≤ labels.length && labels.all (fun label => !label.isEmpty) &&
      after.head? = some '/' && namesServer path ((after.drop 1).drop path.length) then
    some (String.ofList (start ++ host ++ '/' :: path))
  else none

/-- A command between two backticks that installs something. -/
def installAt? (letters : List Char) : Option String :=
  let tick := Char.ofNat 96
  let inner := (letters.drop 1).takeWhile (· ≠ tick)
  let closed := ((letters.drop 1).drop inner.length).head? = some tick
  let commands := ["npx", "uvx", "pipx", "pip install", "docker run"]
  if letters.head? = some tick && closed && commands.any (fun command => command.toList.isPrefixOf inner &&
      command.length + 2 ≤ inner.length && inner.length ≤ command.length + 80) then
    some (String.ofList inner)
  else none

def indexLine (server : Json) : Raises String := do
  let repo ← server.get "repo"
  let repository ← server.get "repository"
  let name ← server.get "name" (.str "")
  let description ← server.get "description" (.str "")
  let link := ((repo.orElse repository).orElse (.str "")).toStr
  return s!"- [{name.toStr}]({link}) - {description.toStr}"

def indexLines (document : Json) : Raises (List String) := do
  match document with
  | .str text => return splitlines [] text.toList
  | other => do
    let items ← if other.isList then .ok other else (other.orElse (.dict [])).get "servers" (.list [])
    let servers ← items.toList
    servers.mapM indexLine

/-- A line whose repository was not seen before; with a remote endpoint it is routable. -/
def indexEntry? (seen : List String) (line : String) : Option (String × IngestedEntry) := do
  let body ← bullet? line
  let (owner, name) ← body.tails.findSome? repoAt?
  let repo := s!"{owner}/{name}"
  if seen.contains (lower repo) then none
  else
    let endpoint := (body.tails.findSome? remoteAt?).getD ""
    some (lower repo, {
      id := slug repo, endpointUrl := endpoint
      kind := if endpoint = "" then .installable else .routable
      installRef := (body.tails.findSome? installAt?).getD s!"https://github.com/{repo}" })

def indexEntries (seen : List String) : List String → List IngestedEntry
  | [] => []
  | line :: rest =>
    match indexEntry? seen line with
    | some (repo, entry) => entry :: indexEntries (repo :: seen) rest
    | none => indexEntries seen rest

def normaliseRepoIndex (document : Json) : Raises (List IngestedEntry) := do
  let lines ← indexLines document
  return (indexEntries [] (lines.take (maxEntriesPerSource * 4))).take maxEntriesPerSource

/-- How the documents of a source are read; the curated catalog is not read from documents. -/
def normalise? : SourceKind → Option (Json → Raises (List IngestedEntry))
  | .official | .aggregator | .scan => some normaliseMcpRegistry
  | .ard => some normaliseArdCatalog
  | .peer => some normalisePeerCatalog
  | .repoIndex => some normaliseRepoIndex
  | .manual => none

end Reading

end Xcp.Connectors
