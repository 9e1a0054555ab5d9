import Mathlib.Data.List.Sort
import Xcp.Library.JavaScript
import Xcp.Library.PythonText

/-! Wire versions: which one this implementation agrees on with a caller. A
caller that it has no version in common with is refused, never guessed about. -/

namespace Xcp.Version
open Checked Python

def supported : List String := ["0.1", "0.2"]

def current : String := "0.2"

def minimum : String := "0.1"

/-- What the package raises is a `VersionError`. -/
def versionError {α : Type} (text : String) : Raises α := raise (.package "VersionError") text

def isVersionError (exception : Exception) : Bool := exception.kind = .package "VersionError"

def key (version : String) : Raises (List Int) :=
  match (splitOn (partition (strip version) '-').1 '.').mapM intOfText with
  | .ok numbers => .ok numbers
  | .error _ => versionError s!"malformed version '{version}'"

def parseAccept (header : String) : List String := ((splitOn header ',').map strip).filter (· ≠ "")

/-- The first of the versions with the greatest key. -/
def greatest (first : String) (rest : List String) : Raises String :=
  rest.foldlM (fun best version => do
    let known ← key best
    let found ← key version
    return if known < found then version else best) first

/-- `sorted(values)` of values that can be members of a set and are true. -/
def sorted (values : List Json) : Raises (List Json) :=
  match values.mapM (fun value => value.asStr "") with
  | .ok texts => .ok ((texts.insertionSort (fun first second => first ≤ second)).map Json.str)
  | .error _ =>
    match values.mapM Json.number? with
    | some _ => .ok (values.insertionSort (fun first second =>
        ((first.number?.getD .nan).le (second.number?.getD .nan) : Bool) = true))
    | none => raise .typeError "'<' not supported between instances of 'str' and 'int'"

def common (values : List Json) : List String :=
  values.filterMap (fun value =>
    match value with
    | .str version => if supported.contains version then some version else none
    | _ => none)

def noCommonVersion [Host] (accepts : List Json) : Raises String := do
  let asked ← sorted accepts
  versionError (s!"no common protocol version: caller accepts {Host.repr (.list asked)}, " ++
    s!"this implementation supports {Host.repr (.list (supported.map Json.str))}")

/-- The highest version that both sides accept. A caller that says nothing gets
the oldest one. -/
def negotiate [Host] (clientAccepts : List Json) : Raises String :=
  match clientAccepts.filter Json.truthy with
  | [] => .ok minimum
  | accepts => do
    -- looking a value up in the set of supported versions may raise
    let _ ← accepts.mapM Json.key
    match common accepts with
    | [] => noCommonVersion accepts
    | first :: rest => greatest first rest

/-- Whether federating with a peer is possible at all, and a note. -/
def compatibleWith [Host] (versions : List Json) : Raises (Bool × String) :=
  match negotiate versions with
  | .ok version => do
    let agreed ← key version
    let preferred ← key current
    let note := if agreed < preferred then s!"agreed {version}; this build prefers {current}" else s!"agreed {version}"
    return (true, note)
  | .error exception => if isVersionError exception then .ok (false, exception.text) else .error exception

section Tests
local instance : Host := asciiHost []

example : negotiate [.str "9.9", .str "0.1", .str "0.2"] = .ok "0.2" := by decide
example : (negotiate [.str "9.9"]).toOption = none := by decide

end Tests

end Xcp.Version

/-! Version negotiation in the two gateways that are written in JavaScript. -/

namespace Xcp.GatewayTs
open JavaScript
open Python (splitOn)

def protocolVersions : List String := ["0.1", "0.2"]

/-- Refusals are values with a reason. A caller that says nothing gets the oldest
version. -/
def negotiate (acceptHeader : String) : Except String String :=
  let accepts := ((splitOn acceptHeader ',').map trim).filter (· ≠ "")
  if accepts = [] then .ok (protocolVersions.headD "")
  else
    let common := accepts.filter protocolVersions.contains
    if common = [] then
      .error ("no common protocol version: caller accepts " ++ stringify accepts ++ ", this implementation supports " ++
        stringify protocolVersions)
    else .ok ((sortTexts common).getLastD "")

end Xcp.GatewayTs

namespace Xcp.ImplNode
open JavaScript
open Python (splitOn)

def protocolVersions : List String := ["0.1", "0.2"]

/-- A refusal has no reason here. -/
def negotiate (header : String) : Option String :=
  let accept := ((splitOn header ',').map trim).filter (· ≠ "")
  if accept = [] then some (protocolVersions.headD "")
  else
    let common := accept.filter protocolVersions.contains
    if common = [] then none else some ((sortTexts common).getLastD "")

example : negotiate "9.9, 0.2 ,0.1" = some "0.2" := by decide

end Xcp.ImplNode
