import Xcp.Engine.Cascade
import Xcp.Library.Ideal
import Xcp.Library.Delimited

/-! When a call that takes a command is rated critical. The rules look for words in
the features and the first that finds one answers; a rule for lists comes before
the rule for commands, and the features are cut off. -/

namespace Xcp.Engine
open Checked Python Tokens

/-! ### Words in the features -/

section Requests
variable [Host]

/-- The tokens of a request, before the features are cut off. -/
def Request.tokens (request : Request) : List String :=
  tokenIf "srv" request.server ++ tokenIf "tool" request.tool ++ tokenIf "mth" request.method ++ tokenIf "scp" request.scope ++
    tokenIf "tier" request.tier ++ argumentTokens request.arguments

def commandNames : List String := ["cmd", "command", "script", "shell", "exec"]

/-- A call of a tool, with an argument that is named like a command and is a string. -/
structure CommandCall where
  server : String
  tool : String
  tier : String
  members : List (String × Json)
  name : String
  text : String
  named : name ∈ commandNames
  given : Json.find? members name = some (.str text)

def CommandCall.request (call : CommandCall) : Request where
  server := call.server
  tool := call.tool
  method := "tools/call"
  scope := "mcp:tools/" ++ call.tool
  arguments := .dict call.members
  tier := call.tier

end Requests

section Sample
local instance callHost : Host := decimalHost []

end Sample

end Xcp.Engine
