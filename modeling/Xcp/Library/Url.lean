import Xcp.Library.Ip
import Xcp.Library.Python

/-! URLs as Python's `urllib.parse` takes them apart. -/

namespace Python

structure Url where
  scheme : String
  netloc : String
deriving DecidableEq, Repr

def isHexLetter (letter : Char) : Bool := (hexValue? letter).isSome

/-- `v`, hex digits, a dot, and letters none of which ends the line. -/
def isIpFuture (letters : List Char) : Bool :=
  match letters with
  | 'v' :: rest =>
    let version := rest.takeWhile isHexLetter
    let tail := rest.drop version.length
    !version.isEmpty && tail.head? = some '.' && 2 ≤ tail.length && !tail.contains '\n'
  | _ => false

def checkBracketedHost (host : String) : Raises Unit :=
  if startsWith host "v" then
    if isIpFuture host.toList then .ok () else raise .valueError "IPvFuture address is invalid"
  else match Ip.address? host with
  | some (.v6 _) => .ok ()
  | some (.v4 _) => raise .valueError "An IPv4 address cannot be in brackets"
  | none => raise .valueError s!"'{host}' does not appear to be an IPv4 or IPv6 address"

def checkBrackets (netloc : String) : Raises Unit :=
  if contains netloc '[' != contains netloc ']' then raise .valueError "Invalid IPv6 URL"
  else if contains netloc '[' then checkBracketedHost (partition (partition netloc '[').2.2 ']').1
  else .ok ()

/-- Letters whose normal form would move the ends of the network location. -/
def checkNetloc [Host] (netloc : String) : Raises Unit :=
  if netloc = "" || isAscii netloc then .ok ()
  else
    let plain := String.ofList (netloc.toList.filter (fun letter => !contains "@:#?" letter))
    let normal := Host.nfkc plain
    if plain ≠ normal && "/?#@:".toList.any (contains normal ·) then
      raise .valueError s!"netloc '{netloc}' contains invalid characters under NFKC normalization"
    else .ok ()

def isSchemeLetter (letter : Char) : Bool := letter.toNat < 128 && (letter.isAlphanum || "+-.".toList.contains letter)

def splitScheme [Host] (text : String) : String × String :=
  let (scheme, found, rest) := partition text ':'
  let first := text.toList.head?
  if found && first.any (fun letter => letter.toNat < 128 && letter.isAlpha) && scheme.toList.all isSchemeLetter then
    (lower scheme, rest)
  else ("", text)

def urlparse [Host] (text : String) : Raises Url := do
  let trimmed := text.toList.dropWhile (·.toNat ≤ 32)
  let cleaned := trimmed.filter (fun letter => !contains "\t\r\n" letter)
  let (scheme, rest) := splitScheme (String.ofList cleaned)
  if startsWith rest "//" then do
    let netloc := String.ofList ((rest.toList.drop 2).takeWhile (fun letter => !contains "/?#" letter))
    let _ ← checkBrackets netloc
    let _ ← checkNetloc netloc
    return { scheme, netloc }
  else return { scheme, netloc := "" }

namespace Url

def hostInfo (url : Url) : String × String :=
  let info := (rpartition url.netloc '@').2.2
  let (_, bracket, bracketed) := partition info '['
  if bracket then
    let (host, _, after) := partition bracketed ']'
    (host, (partition after ':').2.2)
  else
    let (host, _, port) := partition info ':'
    (host, port)

/-- Small letters, but for the zone of a scoped address; empty for none. -/
def hostname [Host] (url : Url) : String :=
  let (host, zoned, zone) := partition url.hostInfo.1 '%'
  if zoned then lower host ++ "%" ++ zone else lower host

def username (url : Url) : String :=
  let (info, found, _) := rpartition url.netloc '@'
  if found then (partition info ':').1 else ""

def password (url : Url) : String :=
  let (info, found, _) := rpartition url.netloc '@'
  if found then (partition info ':').2.2 else ""

def port (url : Url) : Raises (Option Nat) :=
  let written := url.hostInfo.2
  if written = "" then .ok none
  else if isDigit written && isAscii written then do
    let value ← intOfText written
    if 0 ≤ value ∧ value ≤ 65535 then return some value.toNat
    else raise .valueError "Port out of range 0-65535"
  else raise .valueError s!"Port could not be cast to integer value as '{written}'"

end Url

end Python

/-! Request handlers. A handler stops with the response of the first check that
fails, and with 500 when something it calls raises. -/

namespace Http
open Checked Python

structure Response where
  body : Json
  status : Nat := 200
deriving DecidableEq

def serverError : Response := { body := .str "Internal Server Error", status := 500 }

def errorResponse (text : String) (status : Nat) : Response := { body := .dict [("error", .str text)], status }

abbrev Handler := Except Response

def attempt {α : Type} (result : Raises α) : Handler α := result.mapError (fun _ => serverError)

@[simp] theorem attempt_eq_ok {α : Type} (result : Raises α) (value : α) :
    attempt result = .ok value ↔ result = .ok value :=
  mapError_eq_ok ..

@[simp] theorem attempt_ok {α : Type} (value : α) : attempt (.ok value) = .ok value := rfl

def serve {σ : Type} (state : σ) : Handler (σ × Response) → σ × Response
  | .ok answer => answer
  | .error response => (state, response)

/-- The end of a handler that has written already. -/
def reply : Handler Response → Response
  | .ok response => response
  | .error response => response

@[simp] theorem serve_ok {σ : Type} (state : σ) (answer : σ × Response) : serve state (.ok answer) = answer := rfl

@[simp] theorem serve_error {σ : Type} (state : σ) (response : Response) :
    serve state (.error response) = (state, response) := rfl

theorem serve_cases {σ : Type} (state : σ) (result : Handler (σ × Response)) :
    (∃ answer, result = .ok answer ∧ serve state result = answer) ∨ (serve state result).1 = state := by
  cases result with
  | ok answer => exact .inl ⟨answer, rfl, rfl⟩
  | error exception => exact .inr rfl

end Http
