import Xcp.Connectors.Sources
import Xcp.Connectors.WrapTemplate
import Xcp.Library.Dict
import Xcp.Library.Display
import Xcp.Library.Templates

/-! An API that an OpenAPI document describes, and the text of a server in front
of it. What such a document says may be of any type, and much of it is passed on
as it is. -/

namespace Xcp.Connectors
open Checked Python

def httpMethods : List String := ["get", "post", "put", "patch", "delete"]

/-- Methods that need an opt-in. -/
def destructiveMethods : List String := ["delete"]

/-- Whose credential a wrapper uses upstream. -/
inductive CredentialSource where
  | operator | session | sealed | none
deriving DecidableEq, Repr

def CredentialSource.value : CredentialSource → String
  | operator => "operator"
  | session => "session"
  | sealed => "sealed"
  | none => "none"

def CredentialSource.ofValue? (value : String) : Option CredentialSource :=
  [operator, session, sealed, none].find? (fun source => source.value = value)

def wrapError {α : Type} (text : String) : Raises α := raise (.package "WrapError") text

/-- An operation of an API, as a tool. -/
structure Operation where
  operationId : String
  method : String
  path : String
  summary : Json
  /-- Dicts, of the path and of the operation. -/
  parameters : List Json
  hasBody : Bool
  bodyRequired : Bool
  destructive : Bool

def Operation.toolName (operation : Operation) : String := operation.operationId

/-- What a tool takes. The names are what the document gives as names. -/
structure InputSchema where
  /-- Each with its name, by what a dict knows that by. -/
  properties : Dict Json (Json × Json) := {}
  required : List Json := []

structure WrapSpec where
  id : String
  title : Json
  baseUrl : String
  version : String := ""
  description : Json := .str ""
  docsUrl : Json := .str ""
  /-- `none`, `bearer`, `basic`, `apiKey` or `oauth2`. -/
  authScheme : String := "none"
  authLocation : Json := .str ""
  authName : Json := .str ""
  credentialSource : CredentialSource := .operator
  operations : List Operation := []

/-- A server that never holds the credential has no reference to it. -/
def WrapSpec.secretRef (spec : WrapSpec) : String :=
  if spec.credentialSource = .session ∨ spec.credentialSource = .none then ""
  else s!"vault://env/apis/{spec.id}#credential"

section Model
variable [Host]

/-- `str(value)`, and what an f-string writes. -/
def written (value : Json) : Raises String :=
  if value.printable then .ok value.toStr
  else raise .valueError ("Exceeds the limit (4300 digits) for integer string conversion; " ++
    "use sys.set_int_max_str_digits() to increase the limit")

def members (value : Json) : Raises (List (String × Json)) :=
  match value with
  | .dict members => .ok members
  | other => other.noAttribute "items"

/-- `[p for p in (value or []) if isinstance(p, dict)]`. -/
def dicts (value : Json) : Raises (List Json) := do
  let items ← (value.orElse (.list [])).toList
  return items.filter Json.isDict

/-! ### What a tool takes -/

/-- A name that was there keeps its place and how it was written first. -/
def InputSchema.put (schema : InputSchema) (name property : Json) : Raises InputSchema := do
  let key ← name.key
  let first := ((schema.properties.get? key).map Prod.fst).getD name
  return { schema with properties := schema.properties.set key (first, property) }

def InputSchema.require (schema : InputSchema) (required : Bool) (name : Json) : InputSchema :=
  if required then { schema with required := schema.required ++ [name] } else schema

def parameterRound (schema : InputSchema) (parameter : Json) : Raises InputSchema := do
  let name ← parameter.get "name"
  if !name.truthy then return schema
  else do
    let declared ← parameter.get "schema"
    let type ← (declared.orElse (.dict [("type", .str "string")])).get "type" (.str "string")
    let described ← parameter.get "description"
    let place ← parameter.get "in" (.str "query")
    let text ← if described.truthy then .ok described else (fun place => .str (place ++ " parameter")) <$> written place
    let description ← text.takeFirst 180
    let schema ← schema.put name (.dict [("type", type), ("description", description)])
    let required ← parameter.get "required"
    return schema.require required.truthy name

def Operation.inputSchema (operation : Operation) : Raises InputSchema := do
  let schema ← operation.parameters.foldlM parameterRound {}
  if operation.hasBody then do
    let body := Json.dict [("type", .str "object"), ("description", .str "JSON request body")]
    let schema ← schema.put (.str "body") body
    return schema.require operation.bodyRequired (.str "body")
  else return schema

/-! ### Names -/

/-- `_slug`. -/
def idSlug (value : Json) : Raises String := do
  let text ← (value.orElse (.str "")).lower
  return String.ofList (stripBy (· = '-') (squeeze (fun letter => !isSlugLetter letter) '-' false text.toList))

/-- `re.sub(r"[^...]+", "_", text).strip("_")`. -/
def underscored (keeps : Char → Bool) (text : String) : String :=
  String.ofList (stripBy (· = '_') (squeeze (fun letter => !keeps letter) '_' false text.toList))

/-- A name for a tool that has none from its document. -/
def pathId (method path : String) : String := cut (method ++ "_" ++ underscored isAsciiAlnum path) 64

def safeId (raw : Json) (method path : String) : Raises String :=
  if !raw.truthy then .ok (pathId method path)
  else
    match raw with
    | .str text =>
      let name := underscored (fun letter => isAsciiAlnum letter || letter = '_') text
      .ok (if name = "" then pathId method path else cut name 64)
    | other => raise .typeError s!"expected string or bytes-like object, got '{other.typeName}'"

/-! ### Reading a document -/

/-- The first `https` URL of a server. -/
def serverUrl : List Json → Raises String
  | [] => .ok ""
  | server :: rest => do
    let url ← (server.orElse (.dict [])).get "url" (.str "")
    let text ← written url
    if startsWith text "https://" then return rstrip text '/' else serverUrl rest

/-- Where Swagger 2.0 says that the API is. -/
def swaggerUrl (document : Json) : Raises String := do
  let host ← document.get "host"
  let schemes ← document.get "schemes"
  let scheme ← (schemes.orElse (.list [.str "https"])).atIndex 0
  if host.truthy && scheme = .str "https" then do
    let hostText ← written host
    let path ← document.get "basePath" (.str "")
    let pathText ← written path
    return rstrip ("https://" ++ hostText ++ pathText) '/'
  else return ""

def baseUrlOf (document : Json) : Raises String := do
  let servers ← document.get "servers"
  let listed ← (servers.orElse (.list [])).toList
  let base ← serverUrl listed
  let base ← if base = "" then swaggerUrl document else .ok base
  if base = "" then wrapError "no https server URL in the spec — nothing to reach" else return base

/-- How an API is authenticated to, and where an API key goes. -/
structure Auth where
  scheme : String := "none"
  location : Json := .str ""
  name : Json := .str ""

/-- The first scheme of a kind that is known. -/
def authRounds : List (String × Json) → Raises Auth
  | [] => .ok {}
  | (_, declared) :: rest => do
    let type ← (declared.orElse (.dict [])).get "type" (.str "")
    if type = .str "http" then do
      let scheme ← declared.get "scheme"
      return { scheme := if scheme = .str "bearer" then "bearer" else "basic" }
    else if type = .str "apiKey" then do
      let location ← declared.get "in" (.str "header")
      let name ← declared.get "name" (.str "")
      return { scheme := "apiKey", location, name }
    else if type = .str "oauth2" ∨ type = .str "openIdConnect" then return { scheme := "oauth2" }
    else authRounds rest

def authOf (document : Json) : Raises Auth := do
  let components ← document.get "components"
  let schemes ← (components.orElse (.dict [])).get "securitySchemes"
  let declared ← members (schemes.orElse (.dict []))
  authRounds declared

/-- What a caller of `parse_openapi` decides. -/
structure ParseOptions where
  apiId : String := ""
  docsUrl : String := ""
  includeDestructive : Bool := false
  maxOperations : Int := 400
  credentialSource : CredentialSource := .operator

def readOperation (path method : String) (shared : List Json) (operation : Json) : Raises Operation := do
  let listed ← operation.get "parameters"
  let own ← dicts listed
  let declared ← operation.get "requestBody"
  let body := declared.orElse (.dict [])
  let raw ← operation.get "operationId" (.str "")
  let operationId ← safeId raw method path
  let summary ← operation.get "summary"
  let description ← operation.get "description"
  let summary ← ((summary.orElse description).orElse (.str "")).takeFirst 180
  let required ← body.get "required"
  return {
    operationId, method, path, summary, parameters := shared ++ own, hasBody := body.truthy
    bodyRequired := required.truthy, destructive := destructiveMethods.contains method }

/-- The limit counts what was read before. -/
def methodRounds (options : ParseOptions) (path : String) (item : Json) (shared : List Json) :
    List String → List Operation → Raises (List Operation)
  | [], read => .ok read
  | method :: rest, read => do
    let operation ← item.get method
    let refused := destructiveMethods.contains method && !options.includeDestructive
    if !operation.isDict || refused then methodRounds options path item shared rest read
    else do
      let operation ← readOperation path method shared operation
      let read := read ++ [operation]
      if options.maxOperations ≤ read.length then return read else methodRounds options path item shared rest read

def pathRounds (options : ParseOptions) : List (String × Json) → List Operation → Raises (List Operation)
  | [], read => .ok read
  | (path, item) :: rest, read =>
    if !item.isDict then pathRounds options rest read
    else do
      let listed ← item.get "parameters"
      let shared ← dicts listed
      let read ← methodRounds options path item shared httpMethods read
      if options.maxOperations ≤ read.length then return read else pathRounds options rest read

/-- A name that was seen before gets a number. -/
def numberRepeated (seen : Dict String Nat) : List Operation → List Operation
  | [] => []
  | operation :: rest =>
    let name := operation.operationId
    match seen.get? name with
    | some count =>
      { operation with operationId := s!"{name}_{count + 1}" } :: numberRepeated (seen.set name (count + 1)) rest
    | none => operation :: numberRepeated (seen.set name 0) rest

def idOf (info : Json) (options : ParseOptions) : Raises String :=
  if options.apiId = "" then info.get "title" (.str "api") >>= idSlug else .ok options.apiId

def docsUrlOf (info : Json) (options : ParseOptions) : Raises Json :=
  if options.docsUrl = "" then do
    let contact ← info.get "contact"
    (contact.orElse (.dict [])).get "url" (.str "")
  else .ok (.str options.docsUrl)

def parseOpenapi (document : Json) (options : ParseOptions) : Raises WrapSpec := do
  if !document.isDict then wrapError "spec is not a mapping"
  else do
    let keys ← members document
    if (Json.find? keys "openapi").isNone && (Json.find? keys "swagger").isNone then
      wrapError "not an OpenAPI/Swagger document"
    else do
      let declared ← document.get "info"
      let info := declared.orElse (.dict [])
      let baseUrl ← baseUrlOf document
      let auth ← authOf document
      let listed ← document.get "paths"
      let paths ← members (listed.orElse (.dict []))
      let read ← pathRounds options paths []
      if read = [] then wrapError "no usable operations found"
      else do
        let id ← idOf info options
        let title ← info.get "title" (.str "API")
        let stated ← info.get "version" (.str "")
        let version ← written stated
        let described ← info.get "description"
        let description ← (described.orElse (.str "")).takeFirst 400
        let docsUrl ← docsUrlOf info options
        return {
          id, title, baseUrl, version, description, docsUrl, authScheme := auth.scheme
          authLocation := auth.location, authName := auth.name
          credentialSource := if auth.scheme = "none" then .none else options.credentialSource
          operations := numberRepeated {} read }

/-! ### The table of tools -/

structure Tool where
  method : String
  path : String
  summary : Json
  schema : InputSchema

def Operation.tool (operation : Operation) : Raises Tool := do
  let summary := operation.summary.orElse (.str (upper operation.method ++ " " ++ operation.path))
  let schema ← operation.inputSchema
  return { method := operation.method, path := operation.path, summary, schema }

/-- Of two operations with one name, the later one stands. -/
def WrapSpec.tools (spec : WrapSpec) : Raises (Dict String Tool) :=
  spec.operations.foldlM (fun tools operation => tools.set operation.toolName <$> operation.tool) {}

def namedBy? (property : Json × Json) : Option (String × Json) :=
  match property.1 with
  | .str name => some (name, property.2)
  | _ => none

def numberedBy? (property : Json × Json) : Option (Double × Json × Json) :=
  property.1.number?.map (fun number => (number, property))

/-- How `json.dumps` writes a name that is no string. -/
def nameText : Json → Raises String
  | .str name => .ok name
  | .null => .ok "null"
  | .bool value => .ok (if value then "true" else "false")
  | .int value => written (.int value)
  | .float value => .ok value.dumps
  | other => raise .typeError s!"keys must be str, int, float, bool or None, not {other.typeName}"

/-- Properties in the order of their names, which are strings or numbers but not both. -/
def writtenProperties (properties : List (Json × Json)) : Raises (List (String × Json)) :=
  match properties.mapM namedBy?, properties.mapM numberedBy? with
  | some named, _ => .ok (byName named)
  | none, some numbered =>
    (numbered.insertionSort (fun first second => !second.1.lt first.1)).mapM (fun (_, name, property) =>
      (fun text => (text, property)) <$> nameText name)
  | none, none => raise .typeError "'<' not supported between instances of 'str' and 'int'"

/-- A tool as `sort_keys=True` orders it. -/
def Tool.written (tool : Tool) : Raises Json := do
  let properties ← writtenProperties tool.schema.properties.values
  let schema := Json.dict [
    ("properties", .dict (properties.map (fun property => (property.1, property.2.sorted)))),
    ("required", (Json.list tool.schema.required).sorted), ("type", .str "object")]
  return .dict [("method", .str tool.method), ("path", .str tool.path), ("schema", schema), ("summary", tool.summary.sorted)]

def toolNames (tools : Dict String Tool) : List (String × Tool) :=
  tools.entries.insertionSort (fun first second => first.1 ≤ second.1)

/-- `json.dumps(tools, indent=4, sort_keys=True)`. -/
def dumpTools (tools : Dict String Tool) : Raises String := do
  let entries ← (toolNames tools).mapM (fun entry => Prod.mk entry.1 <$> entry.2.written)
  let value := Json.dict entries
  if value.printable then return Written.pretty 0 value
  else raise .valueError ("Exceeds the limit (4300 digits) for integer string conversion; " ++
    "use sys.set_int_max_str_digits() to increase the limit")

/-! ### Generating -/

/-- Whose credential the text says that the wrapper uses. -/
def sourceOf (spec : WrapSpec) (credentialSource : String) : Raises CredentialSource :=
  if credentialSource = "" then .ok spec.credentialSource
  else
    match CredentialSource.ofValue? credentialSource with
    | some source => .ok source
    | none => wrapError (s!"unknown credential_source {Host.repr (.str credentialSource)} — an unrecognised mode must " ++
      "never silently default to somebody else's key")

/-- `text.replace(old, new)`, of letters. -/
def replaceLetter (text : String) (old new : Char) : String :=
  String.ofList (text.toList.map (fun letter => if letter = old then new else letter))

def moduleOf (spec : WrapSpec) (moduleName : String) : Raises String :=
  if moduleName = "" then (fun name => "mcp_" ++ replaceLetter name '-' '_') <$> idSlug (.str spec.id) else .ok moduleName

def fieldsOf (spec : WrapSpec) (moduleName credentialSource : String) : Raises Fields := do
  let tools ← spec.tools
  let source ← sourceOf spec credentialSource
  let title ← spec.title.asStr "replace"
  let module ← moduleOf spec moduleName
  let toolsLiteral ← dumpTools tools
  let authLocation ← written spec.authLocation
  let authName ← written spec.authName
  let docsUrl ← written (spec.docsUrl.orElse (.str "-"))
  return {
    title := replaceLetter title '"' '\'', baseUrl := spec.baseUrl, authScheme := spec.authScheme, authLocation, authName
    secretRef := spec.secretRef, credentialSource := source.value, version := if spec.version = "" then "0" else spec.version
    docsUrl, nOps := spec.operations.length, module, toolsLiteral }

def generate (spec : WrapSpec) (moduleName credentialSource : String) : Raises String :=
  Fields.text <$> fieldsOf spec moduleName credentialSource

/-! ### Calling

What a generated server sends upstream when one of its tools is called: the path of
the tool with the arguments that it names put in, and the others as parameters. -/

/-- `text.replace(old, new)`. -/
def replaceText (text old new : String) : String := String.ofList (Replace.replace old.toList new.toList text.toList)

/-- An argument as a path names it. -/
def tokenOf (name : String) : String := "\x7b" ++ name ++ "\x7d"

/-- What the arguments have made of the path, and those that it does not name. -/
structure Sending where
  path : String
  query : Dict String Json := {}

def argumentRound (sending : Sending) (argument : String × Json) : Raises Sending := do
  let (name, value) := argument
  if containsText sending.path (tokenOf name) then
    let text ← written value
    return { sending with path := replaceText sending.path (tokenOf name) text }
  else return { sending with query := sending.query.set name value }

structure UpstreamRequest where
  method : String
  url : String
  params : Option (Dict String Json)
  json : Json

/-- The argument `body` is the body; a path does not name it. -/
def Tool.upstream (tool : Tool) (baseUrl : String) (arguments : Dict String Json) : Raises UpstreamRequest := do
  let body := (arguments.get? "body").getD .null
  let sending ← (arguments.remove "body").entries.foldlM argumentRound { path := tool.path }
  return {
    method := upper tool.method, url := baseUrl ++ sending.path
    params := if sending.query.entries.isEmpty then none else some sending.query, json := body }

end Model

end Xcp.Connectors
