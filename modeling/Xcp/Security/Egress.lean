import Xcp.Library.Url

/-! The egress guard: which of the addresses that a caller named may be fetched. -/

namespace Xcp.Egress
open Checked Python

def egressDenied {α : Type} (text : String) : Raises α := raise (.package "EgressDenied") text

def isEgressDenied (exception : Exception) : Bool := exception.kind = .package "EgressDenied"

structure Policy where
  allowHttp : Bool := false
  allowPrivate : Bool := false
  /-- Private ranges that the operator declared. -/
  privateNetworks : List Ip.Network := []
deriving DecidableEq, Repr

/-- Routable ranges that are never a peer. -/
def extraDeny : List Ip.Network :=
  [Ip.net4 169 254 0 0 16, Ip.net6 [0xfe80] 10, Ip.net4 100 64 0 0 10, Ip.net4 192 0 0 0 24,
   Ip.net6 [0, 0, 0, 0, 0, 0xffff] 96]

/-- Addresses that no declaration can admit again. -/
def neverPermitted (address : Ip.Address) : Bool :=
  address.isLoopback || address.isLinkLocal || address.isMulticast || address.isReserved || address.isUnspecified ||
    address.among extraDeny

def addressPermitted (policy : Policy) (ip : String) : Bool :=
  match Ip.address? ip with
  | none => false
  | some address =>
    !neverPermitted address &&
      (!address.isPrivate || policy.allowPrivate || address.among policy.privateNetworks)

variable [Host]

def checkAddresses (policy : Policy) (resolve : String → Raises (List String)) (host : String) : Raises Unit :=
  if policy.allowPrivate then .ok ()
  else do
    let addresses ← resolve host
    if addresses.all (addressPermitted policy) then return ()
    else egressDenied "host does not resolve to a permitted address"

/-- What a URL may look like before anything is resolved. -/
def checkForm (policy : Policy) (url : Url) : Raises Unit := do
  let refuse (condition : Bool) (text : String) : Raises Unit :=
    require (condition = false) (⟨.package "EgressDenied", text⟩ : Exception)
  let _ ← refuse (url.scheme ≠ "https" && url.scheme ≠ "http") "unsupported scheme"
  let _ ← refuse (url.scheme = "http" && !policy.allowHttp) ("plain HTTP is refused; a private federation still " ++
    "requires TLS. Set XCP_ALLOW_INSECURE_PEERS=1 for local development only")
  let _ ← refuse (url.hostname = "") "no host in URL"
  let _ ← refuse (url.username ≠ "" || url.password ≠ "") "credentials in URL are refused"
  let port ← url.port
  refuse (port = some 0) "invalid port"

/-- Refuse a URL that may not be fetched. The hosts of a name decide, not the name. -/
def checkUrl (policy : Policy) (resolve : String → Raises (List String)) (text : String) : Raises Unit :=
  match urlparse text with
  | .error _ => egressDenied "malformed URL"
  | .ok url => do
    let _ ← checkForm policy url
    checkAddresses policy resolve url.hostname

end Xcp.Egress
