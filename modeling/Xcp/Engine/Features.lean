import Xcp.Library.Eth
import Xcp.Library.Runs
import Xcp.Library.Sha256

/-! A request turned into the input of a classifier. Names are folded, and of
each value only its type and its shape are left. -/

namespace Xcp.Engine
open Python

def maxChars : Nat := 2048

def maxDepth : Nat := 4

def maxKeys : Nat := 64

def lenBuckets : List Nat := [0, 8, 32, 128, 512, 2048]

def bucket (count : Nat) : Nat := (lenBuckets.reverse.find? (· ≤ count)).getD 0

/-! ### Names -/

/-- What may be in a feature. -/
def isFeature (letter : Char) : Bool :=
  letter.isLower || letter.isDigit || ['_', ':', '.', '/', '-', '='].contains letter

def norm [Host] (text : String) : String :=
  let digits := squeeze (fun letter => (decimal? letter).isSome) '#' false (lower text).toList
  cut (String.ofList (squeeze (fun letter => !isFeature letter) '_' false digits)) 64

/-! ### Shapes -/

/-- A letter that `[a-z]` matches where case is ignored; four of them are not ASCII. -/
def isLatin (letter : Char) : Bool := letter.isAlpha || [0x130, 0x131, 0x17f, 0x212a].contains letter.toNat

def isUrl (text : String) : Bool :=
  match text.toList with
  | [] => false
  | first :: rest =>
    let after := rest.dropWhile (fun letter => isLatin letter || letter.isDigit || ['+', '.', '-'].contains letter)
    isLatin first && "://".toList.isPrefixOf after

def isPath (text : String) : Bool :=
  startsWith text "/" || startsWith text "../" ||
    match text.toList with
    | drive :: ':' :: '\\' :: _ => isLatin drive
    | _ => false

/-- `text.strip().lstrip("+-").replace(".", "", 1).isdigit()`. -/
def isNumeric (text : String) : Bool :=
  let unsigned := (strip text).toList.dropWhile (fun letter => letter = '+' || letter = '-')
  isDigit (String.ofList (unsigned.erase '.'))

/-- What a string looks like, if it looks like something. -/
inductive Hint where
  | url | path | numeric
deriving DecidableEq, Repr

def Hint.token : Hint → String
  | url => "url"
  | path => "path"
  | numeric => "numeric_str"

def hint? (text : String) : Option Hint :=
  if isUrl text then some .url
  else if isPath text then some .path
  else if isNumeric text then some .numeric
  else none

/-! ### Features -/

/-- The keys of an object that are walked. -/
def walked (members : List (String × Json)) : List String :=
  ((members.map Prod.fst).insertionSort (· ≤ ·)).take maxKeys

section Extracting
variable [Host]

/-- The tokens for a value, of which `left` more levels are walked: `MAX_DEPTH - depth`. -/
def valueFeature (left : Nat) (key : String) (value : Json) : List String :=
  let k := norm key
  match value with
  | .null => [s!"{k}:null"]
  | .bool _ => [s!"{k}:bool"]
  | .int _ | .float _ => [s!"{k}:num"]
  | .str text =>
    [s!"{k}:str", s!"{k}:len={bucket text.length}"] ++ ((hint? text).map (fun hint => s!"{k}:{hint.token}")).toList
  | .list items =>
    [s!"{k}:list", s!"{k}:n={bucket items.length}"] ++
      match left, items with
      | left + 1, first :: _ => valueFeature left s!"{key}[]" first
      | _, _ => []
  | .dict members =>
    [s!"{k}:obj", s!"{k}:n={bucket members.length}"] ++
      match left with
      | left + 1 =>
        (walked members).flatMap (fun sub => ((Json.find? members sub).map (valueFeature left s!"{key}.{sub}")).getD [])
      | 0 => []
termination_by structural left

def tokenIf (mark text : String) : List String := if text = "" then [] else [s!"{mark}:{norm text}"]

/-- `arguments or {}`. -/
def argumentsOf (arguments : Json) : Json := if arguments.truthy then arguments else .dict []

def argumentTokens (arguments : Json) : List String :=
  match argumentsOf arguments with
  | .dict members =>
    s!"args:n={bucket members.length}" ::
      (walked members).flatMap (fun key => ((Json.find? members key).map (valueFeature (maxDepth - 1) key)).getD [])
  | _ => ["args:malformed"]

/-- The features of a request, of which a model sees nothing else. -/
def extract (server tool method scope : String) (arguments : Json) (tier : String) : String :=
  let toks := tokenIf "srv" server ++ tokenIf "tool" tool ++ tokenIf "mth" method ++ tokenIf "scp" scope ++
    tokenIf "tier" tier ++ argumentTokens arguments
  cut (joinWith " " toks) maxChars

end Extracting

/-- A local key for a request and the questions that are asked of it. -/
def cacheKey (features : String) (questionIds : List String) : String :=
  toHex (Sha256.sha256 (Eth.utf8 features ++ 0 :: Eth.utf8 (joinWith (String.singleton (Char.ofNat 0)) questionIds)))

end Xcp.Engine
