import Xcp.Library.Paths
import Xcp.Library.PythonText
import Xcp.Library.Regex
import Xcp.Library.Url

/-! References to secrets, which hold addresses and never a secret, and the vault
that resolves them. What the vault opens while it does is kept beside its answer. -/

namespace Xcp.Refs
open Checked Paths Python Regex

def vaultError {α : Type} (text : String) : Raises α := raise (.package "VaultError") text

/-- Where a secret is kept. -/
inductive Backend where
  | env | file | hashicorp | aws | azure | gcp | k8s | onePassword | custom
deriving DecidableEq, Repr

namespace Backend

def all : List Backend := [env, file, hashicorp, aws, azure, gcp, k8s, onePassword, custom]

def value : Backend → String
  | env => "env"
  | file => "file"
  | hashicorp => "hashicorp"
  | aws => "aws"
  | azure => "azure"
  | gcp => "gcp"
  | k8s => "k8s"
  | onePassword => "1password"
  | custom => "custom"

def name : Backend → String
  | onePassword => "ONEPASSWORD"
  | backend => upperAscii backend.value

/-- `Backend(value)`, where there is one. -/
def ofValue? (value : String) : Option Backend := all.find? (·.value = value)

end Backend

/-! ### Texts that look like a secret -/

/-- At least so many letters of a kind. -/
def atLeast (count : Nat) (pattern : Pattern) : Pattern := sequence (List.replicate count pattern ++ [.many pattern])

def isAsciiAlnum (letter : Char) : Bool := letter.isAlphanum

def asciiAlnum : Pattern := .letter isAsciiAlnum

def alnumOr (letters : String) : Pattern := .letter (fun letter => isAsciiAlnum letter || contains letters letter)

def secretShapes : List Pattern :=
  [sequence [.boundary, literal "ghp_", atLeast 20 asciiAlnum],
    sequence [.boundary, literal "github_pat_", atLeast 20 (alnumOr "_")],
    sequence [.boundary, literal "xox", oneOf "baprs", literal "-", atLeast 10 (alnumOr "-")],
    sequence [.boundary, literal "sk-", atLeast 20 asciiAlnum],
    sequence [.boundary, literal "AKIA", sequence (List.replicate 16 (.letter (fun letter => letter.isDigit || letter.isUpper))),
      .boundary],
    sequence [.boundary, literal "AIza", atLeast 30 (alnumOr "_-")],
    sequence [literal "-----BEGIN ", anyOf .empty [literal "RSA ", literal "EC ", literal "OPENSSH "],
      literal "PRIVATE KEY-----"],
    sequence [.boundary, literal "eyJ", atLeast 10 (alnumOr "_-"), literal ".", atLeast 10 (alnumOr "_-"), literal "."]]

section References
variable [Host]

def isWordLetter (letter : Char) : Bool := Host.isAlnum letter || letter = '_'

def looksLikeASecret (text : String) : Bool := secretShapes.any (·.search isWordLetter text)

/-! ### References -/

structure SecretRef where
  backend : Backend
  path : String
  key : String := ""
  required : Bool := true
  description : String := ""
  pointed : path ≠ ""
  unshaped : looksLikeASecret path = false ∧ looksLikeASecret key = false

/-- `SecretRef(...)`, with the checks of `__post_init__`. -/
def secretRef (backend : Backend) (path : String) (key : String := "") (required : Bool := true) (description : String := "") :
    Raises SecretRef :=
  if pointed : path = "" then vaultError "a secret reference needs a path"
  else if unshaped : looksLikeASecret path = false ∧ looksLikeASecret key = false then
    .ok { backend, path, key, required, description, pointed, unshaped }
  else vaultError ("this looks like a literal credential, not a path. " ++
    "SecretRef holds addresses only — put the value in your secret backend.")

namespace SecretRef

def uri (ref : SecretRef) : String :=
  let frag := if ref.key ≠ "" then "#" ++ ref.key else ""
  s!"vault://{ref.backend.value}/{ref.path}{frag}"

end SecretRef

/-- What comes after the scheme and the network location of a URL. -/
def afterNetloc (text : String) : String :=
  let trimmed := text.toList.dropWhile (·.toNat ≤ 32)
  let cleaned := trimmed.filter (fun letter => !contains "\t\r\n" letter)
  let rest := (splitScheme (String.ofList cleaned)).2
  if startsWith rest "//" then String.ofList ((rest.toList.drop 2).dropWhile (fun letter => !contains "/?#" letter)) else rest

/-- The path and the fragment of a URL whose scheme knows no parameters. -/
def pathAndFragment (text : String) : String × String :=
  let (front, _, fragment) := partition (afterNetloc text) '#'
  ((partition front '?').1, fragment)

/-- `text.lstrip("/")`. -/
def lstripSlash (text : String) : String := String.ofList (text.toList.dropWhile (· = '/'))

def SecretRef.parse (uri : String) (required : Bool := true) (description : String := "") : Raises SecretRef := do
  let url ← urlparse uri
  if url.scheme ≠ "vault" then vaultError s!"expected a vault:// reference, got {Host.repr (.str uri)}"
  match Backend.ofValue? url.netloc with
  | none => vaultError s!"unknown backend {Host.repr (.str url.netloc)}"
  | some backend => secretRef backend (lstripSlash (pathAndFragment uri).1) (pathAndFragment uri).2 required description

/-! ### Resolution -/

structure VaultConfig where
  hashicorpAddr : String := ""
  azureVaultUrl : String := ""
  envPrefix : String := "XCP_SECRET_"
  fileRoot : String := ""
deriving DecidableEq, Repr

def VaultConfig.validate (config : VaultConfig) : List String :=
  problemIf (config.fileRoot ≠ "" && !isAbs config.fileRoot) "file_root must be an absolute path outside the repository" ++
    problemIf (config.hashicorpAddr ≠ "" && !startsWith config.hashicorpAddr "https://") "hashicorp_addr must be https" ++
    problemIf (config.azureVaultUrl ≠ "" && !startsWith config.azureVaultUrl "https://") "azure_vault_url must be https"

/-- The machine that a vault runs on. -/
structure Machine where
  environ : String → Option String
  isFile : String → Bool
  /-- What is in a file that is opened, as UTF-8. -/
  read : String → Raises String

/-- A resolved credential. -/
structure Secret where
  value : Json
  ref : SecretRef

/-- A vault of a configuration without problems. -/
structure Vault where
  config : VaultConfig
  /-- By backend, what was registered for it: a function of path and key. -/
  resolvers : Backend → Option (String → String → Raises Json)
  valid : config.validate = []

/-- `Vault(config)`. -/
def newVault (config : VaultConfig) : Raises Vault :=
  if valid : config.validate = [] then .ok { config, resolvers := fun _ => none, valid }
  else vaultError (joinWith "; " config.validate)

/-- `re.sub(r"[^A-Za-z0-9]+", "_", text)`. -/
def underscored : (inRun : Bool) → List Char → List Char
  | _, [] => []
  | inRun, letter :: rest =>
    if isAsciiAlnum letter then letter :: underscored false rest
    else if inRun then underscored true rest
    else '_' :: underscored true rest

/-- A `JSONDecodeError`, which is what `json.loads` raises but for a number that has
too many digits. -/
def isDecodeError (exception : Exception) : Bool :=
  exception.kind = .valueError && !startsWith exception.text "Exceeds the limit"

namespace Vault

def envName (vault : Vault) (ref : SecretRef) : String :=
  let tail := if ref.key ≠ "" then s!"{ref.path}_{ref.key}" else ref.path
  vault.config.envPrefix ++ Host.upper (String.ofList (underscored false tail.toList))

def fromEnv (vault : Vault) (machine : Machine) (ref : SecretRef) : Json :=
  match machine.environ (vault.envName ref) with
  | some value => .str value
  | none => .null

/-- The value in a file that holds one, or several by their keys. -/
def fileValue (data key : String) : Raises Json :=
  if key = "" then .ok (.str (strip data))
  else match Host.loads data with
    | .ok value => value.get key
    | .error exception => if isDecodeError exception then .ok (.str (strip data)) else .error exception

/-- What was opened, and the value. -/
def fromFile (vault : Vault) (machine : Machine) (ref : SecretRef) : List String × Raises Json :=
  if vault.config.fileRoot = "" then ([], vaultError "file backend needs VaultConfig.file_root")
  else
    let p := join vault.config.fileRoot ref.path
    if machine.isFile p then ([p], machine.read p >>= (fileValue · ref.key)) else ([], .ok .null)

/-- The value of a reference, wherever it is kept. -/
def lookup (vault : Vault) (machine : Machine) (ref : SecretRef) : List String × Raises Json :=
  match vault.resolvers ref.backend with
  | some resolver => ([], resolver ref.path ref.key)
  | none =>
    match ref.backend with
    | .env => ([], .ok (vault.fromEnv machine ref))
    | .file => vault.fromFile machine ref
    | backend => ([], vaultError (s!"no resolver registered for {backend.value}. Call vault.register_resolver(Backend." ++
        s!"{backend.name}, fn) — see vault/README.md for the client call for each provider."))

def resolve (vault : Vault) (machine : Machine) (ref : SecretRef) : List String × Raises Secret :=
  let (opened, found) := vault.lookup machine ref
  (opened, do
    let value ← found
    if value = .null || value = .str "" then
      if ref.required then raise (.package "SecretNotFound") s!"{ref.uri} is required but not set"
      else return { value := .str "", ref }
    else return { value, ref })

end Vault

end References

end Xcp.Refs
