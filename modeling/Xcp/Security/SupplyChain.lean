import Xcp.Library.Dict
import Xcp.Library.Loads

/-! Tools that are pinned by the digest of their manifest, and manifests that
publishers sign. -/

namespace Xcp.Security
open Checked Eth Python

def supplyChainError {α : Type} (text : String) : Raises α := raise (.package "SupplyChainError") text

/-! ### The canonical manifest -/

mutual
/-- `first < second`. -/
def less : Json → Json → Raises Bool
  | .str first, .str second => .ok (first < second)
  | .list first, .list second => lessItems first second
  | first, second => first.lt second
termination_by structural first => first

def lessItems : List Json → List Json → Raises Bool
  | [], others => .ok (!others.isEmpty)
  | _ :: _, [] => .ok false
  | first :: rest, second :: others => if first.same second then lessItems rest others else less first second
termination_by structural first => first
end

/-- A tool as it is declared: the members of an object. -/
abbrev Tool := List (String × Json)

def Tool.get (tool : Tool) (name : String) (default : Json) : Json := (Json.find? tool name).getD default

/-- The name of a tool, and what is hashed of it. -/
def normalized (tool : Tool) : Json × Json :=
  (tool.get "name" (.str ""),
    .dict [("name", tool.get "name" (.str "")), ("description", tool.get "description" (.str "")),
      ("inputSchema", tool.get "inputSchema" (.dict []))])

/-- Behind those that are not greater, so that equal names keep their order. -/
def insertByName (entry : Json × Json) : List (Json × Json) → Raises (List (Json × Json))
  | [] => .ok [entry]
  | other :: rest => do
    if ← less entry.1 other.1 then return entry :: other :: rest
    return other :: (← insertByName entry rest)

variable [Host]

def canonicalManifest (tools : List Tool) : Raises (List Nat) := do
  let sorted ← (tools.map normalized).foldlM (fun sorted entry => insertByName entry sorted) []
  (Json.list (sorted.map Prod.snd)).canonicalBytes

variable [Packages]

def manifestDigest (tools : List Tool) : Raises String := digest <$> canonicalManifest tools

/-- A description of the tools of a server, to be signed and pinned. -/
structure ToolManifest where
  server : String
  tools : List Tool
  version : String := "1"
  /-- The address of the signer. -/
  publisher : String := ""
  signature : String := ""
deriving DecidableEq

omit [Host] in
def manifestTypedData (server version digest : String) (chainId : Int) : TypedData where
  domain := "XCPSupplyChain"
  primaryType := "ToolManifest"
  fields := [("server", "string"), ("version", "string"), ("digest", "string")]
  chainId := .int chainId
  message := .dict [("server", .str server), ("version", .str version), ("digest", .str digest)]

/-! ### The verifier -/

structure SupplyChainVerifier where
  trustedPublishers : List String := []
  pins : Dict String String := {}

namespace SupplyChainVerifier

def pin (verifier : SupplyChainVerifier) (server digest : String) : SupplyChainVerifier :=
  { verifier with pins := verifier.pins.set server (lower digest) }

def pinManifest (verifier : SupplyChainVerifier) (manifest : ToolManifest) : Raises SupplyChainVerifier := do
  let digest ← manifestDigest manifest.tools
  return verifier.pin manifest.server digest

/-- `text[:14]`. -/
def first14 (text : String) : String := String.ofList (text.toList.take 14)

def verifyServer (verifier : SupplyChainVerifier) (server : String) (liveTools : List Tool) : Raises String := do
  let live ← lower <$> manifestDigest liveTools
  match verifier.pins.get? server with
  | none => supplyChainError s!"server '{server}' has no approved manifest (shadow/unknown)"
  | some pinned =>
    if live ≠ pinned then
      supplyChainError (s!"manifest mismatch for '{server}': live {first14 live}… != " ++
        s!"approved {first14 pinned}… (possible rug pull or schema poisoning)")
    return live

/-- Who signed a manifest, as the package recovers it. -/
def recovered (manifest : ToolManifest) (chainId : Int) : Raises String := do
  let digest ← manifestDigest manifest.tools
  let signable ← Packages.encode (manifestTypedData manifest.server manifest.version digest chainId)
  Packages.recover signable (.given (.str manifest.signature))

def verifySignature (verifier : SupplyChainVerifier) (manifest : ToolManifest) (chainId : Int) : Raises Bool := do
  if manifest.signature = "" ∨ manifest.publisher = "" then return false
  let recovered ← recovered manifest chainId
  if lower recovered ≠ lower manifest.publisher then return false
  return verifier.trustedPublishers.isEmpty || (verifier.trustedPublishers.map lower).contains (lower recovered)

def verifyFull (verifier : SupplyChainVerifier) (server : String) (liveTools : List Tool) (manifest : ToolManifest)
    (chainId : Int) : Raises Unit := do
  let _ ← verifier.verifyServer server liveTools
  if !(← verifier.verifySignature manifest chainId) then
    supplyChainError s!"manifest signature invalid or publisher not trusted for '{server}'"

end SupplyChainVerifier

end Xcp.Security
