import Xcp.Library.Ideal
import Xcp.Library.Runs
import Xcp.Vault.Refs

/-! Where the files lie that a vault opens for its references. Nothing is looked for
in a path before it is joined to the root, so it lies outside where the path
climbs out or is absolute. -/

namespace Xcp.Refs
open Checked Paths Python

section Resolution
variable [Host]

/-! ### Vaults and references -/

omit [Host] in
theorem Vault.root_abs (vault : Vault) (rooted : vault.config.fileRoot ≠ "") : isAbs vault.config.fileRoot = true := by
  have checked := vault.valid
  simp only [VaultConfig.validate, List.append_eq_nil_iff, problemIf_eq_nil] at checked
  simpa [rooted] using checked.1.1

theorem secretRef_eq_ok {backend : Backend} {path key description : String} {required : Bool} {ref : SecretRef}
    (made : secretRef backend path key required description = .ok ref) : ref.backend = backend ∧ ref.path = path := by
  unfold secretRef at made
  split at made
  · cases made
  split at made
  · obtain rfl := Except.ok.inj made
    exact ⟨rfl, rfl⟩
  · cases made

omit [Host] in
theorem lstripSlash_relative (text : String) : isAbs (lstripSlash text) = false := by
  rw [isAbs, startsWith, lstripSlash, String.toList_ofList]
  cases kept : text.toList.dropWhile (· = '/') with
  | nil => rfl
  | cons letter rest =>
    have first : letter ≠ '/' := by
      have stopped := List.head?_dropWhile_not (fun letter => decide (letter = '/')) text.toList
      rw [kept] at stopped
      simpa using stopped
    simpa [List.isPrefixOf] using Ne.symm first

/-- What is parsed does not name its root. -/
theorem SecretRef.parse_relative {uri description : String} {required : Bool} {ref : SecretRef}
    (parsed : SecretRef.parse uri required description = .ok ref) : isAbs ref.path = false := by
  simp only [SecretRef.parse, bind_eq_ok] at parsed
  obtain ⟨url, _, parsed⟩ := parsed
  split at parsed
  · cases parsed
  cases named : Backend.ofValue? url.netloc with
  | none =>
    rw [named] at parsed
    cases parsed
  | some backend =>
    rw [named] at parsed
    rw [(secretRef_eq_ok parsed).2]
    exact lstripSlash_relative _

/-! ### What is opened -/

namespace Vault

/-- Nothing is registered for files, there is a root, and the joined path is a file. -/
structure Opens (vault : Vault) (machine : Machine) (ref : SecretRef) : Prop where
  unregistered : vault.resolvers ref.backend = none
  file : ref.backend = .file
  rooted : vault.config.fileRoot ≠ ""
  found : machine.isFile (join vault.config.fileRoot ref.path) = true

theorem mem_opened {vault : Vault} {machine : Machine} {ref : SecretRef} {path : String} :
    path ∈ (vault.resolve machine ref).1 ↔ vault.Opens machine ref ∧ path = join vault.config.fileRoot ref.path := by
  have opened : (vault.resolve machine ref).1 = (vault.lookup machine ref).1 := rfl
  have unopened (closed : (vault.lookup machine ref).1 = []) (none : ¬ vault.Opens machine ref) :
      path ∈ (vault.resolve machine ref).1 ↔ vault.Opens machine ref ∧ path = join vault.config.fileRoot ref.path := by
    simp [opened, closed, none]
  by_cases registered : vault.resolvers ref.backend = none
  · by_cases file : ref.backend = .file
    · have looked : vault.lookup machine ref = vault.fromFile machine ref := by
        rw [lookup, registered, file]
      by_cases rooted : vault.config.fileRoot = ""
      · refine unopened ?_ (fun opens => opens.rooted rooted)
        rw [looked, fromFile, if_pos rooted]
      by_cases found : machine.isFile (join vault.config.fileRoot ref.path) = true
      · have opens : vault.Opens machine ref := ⟨registered, file, rooted, found⟩
        rw [opened, looked, fromFile, if_neg rooted]
        simp only [found, if_true, List.mem_singleton, opens, true_and]
      · refine unopened ?_ (fun opens => found opens.found)
        rw [looked, fromFile, if_neg rooted]
        simp only [found, Bool.false_eq_true, if_false]
    · refine unopened ?_ (fun opens => file opens.file)
      rw [lookup, registered]
      cases other : ref.backend with
      | file => exact absurd other file
      | _ => rfl
  · refine unopened ?_ (fun opens => registered opens.unregistered)
    obtain ⟨resolver, known⟩ := Option.ne_none_iff_exists'.mp registered
    rw [lookup, known]

/-- A vault reads outside its root exactly where it opens a file for a reference that
does not stay under the root. -/
theorem resolve_reads_inside_iff (vault : Vault) (machine : Machine) (ref : SecretRef) :
    (∀ path ∈ (vault.resolve machine ref).1, Inside vault.config.fileRoot path) ↔
      (vault.Opens machine ref → StaysUnder vault.config.fileRoot ref.path) := by
  simp only [mem_opened]
  constructor
  · intro inside opens
    rw [← inside_join_iff (vault.root_abs opens.rooted)]
    exact inside _ ⟨opens, rfl⟩
  · rintro stays path ⟨opens, rfl⟩
    rw [inside_join_iff (vault.root_abs opens.rooted)]
    exact stays opens

/-- A reference that is parsed and does not climb above where it starts is read inside
the root. -/
theorem parsed_reads_inside {vault : Vault} {machine : Machine} {ref : SecretRef} {uri description path : String}
    {required : Bool} (parsed : SecretRef.parse uri required description = .ok ref) (level : (course ref.path).climbs = 0)
    (opened : path ∈ (vault.resolve machine ref).1) : Inside vault.config.fileRoot path := by
  obtain ⟨opens, rfl⟩ := mem_opened.mp opened
  rw [inside_join_iff (vault.root_abs opens.rooted)]
  exact staysUnder_of_level (SecretRef.parse_relative parsed) level

end Vault

end Resolution

/-! ### A reference that climbs out -/

def siteVault : Vault where
  config := { fileRoot := "/srv/secrets" }
  resolvers := fun _ => none
  valid := by decide

/-- A machine with one file, which is beside the root. -/
def siteMachine : Machine where
  environ := fun _ => none
  isFile := (· = "/srv/secrets/../outside/token")
  read := fun _ => .ok "hunter2"

section Sample
local instance siteHost : Host := asciiHost []

def outsideRef : SecretRef where
  backend := .file
  path := "../outside/token"
  pointed := by decide
  unshaped := by decide

theorem outsideRef_leaves : ¬ StaysUnder siteVault.config.fileRoot outsideRef.path := by
  have root : (course "/srv/secrets").names = ["srv", "secrets"] := by decide
  have climbed : course "../outside/token" = { climbs := 1, names := ["outside", "token"] } := by decide
  have relative : ¬ isAbs "../outside/token" = true := by decide
  change ¬ StaysUnder "/srv/secrets" "../outside/token"
  rw [StaysUnder, if_neg relative, root, climbed]
  decide

theorem parsed_reference_escapes : ∃ ref path, SecretRef.parse "vault://file/../outside/token" = .ok ref ∧
    ref.backend = .file ∧ siteVault.resolve siteMachine ref = ([path], .ok { value := .str "hunter2", ref }) ∧
    path = "/srv/secrets/../outside/token" ∧ ¬ Inside siteVault.config.fileRoot path := by
  have outside : ¬ Inside siteVault.config.fileRoot (join siteVault.config.fileRoot outsideRef.path) := by
    rw [inside_join_iff (by decide)]
    exact outsideRef_leaves
  exact ⟨outsideRef, _, rfl, rfl, rfl, rfl, outside⟩

end Sample

end Xcp.Refs

/-! References and the texts they are known by: the URL that is printed and parsed
again, where nothing is escaped, and the name of a variable, where all that is
neither letter nor digit is one and the same. -/

namespace Xcp.Refs
open Checked Eth Python

/-- The case of ASCII letters does not depend on the tables of the interpreter. -/
def UppersAscii [Host] : Prop := ∀ text, isAscii text = true → upper text = upperAscii text

theorem drop_takeWhile {α : Type} (accepts : α → Bool) (letters : List α) :
    letters.drop (letters.takeWhile accepts).length = letters.dropWhile accepts := by
  induction letters with
  | nil => rfl
  | cons letter rest ih =>
    cases here : accepts letter with
    | true => simpa [here] using ih
    | false => simp [here]

/-! ### The URL of a reference -/

/-- What is left of a URL without the letters that a parser takes out. -/
def cleaned (letters : List Char) : List Char := letters.filter (fun letter => !contains "\t\r\n" letter)

/-- What a parser takes for the path. -/
def pathLetters (letters : List Char) : List Char := (letters.takeWhile (· ≠ '#')).takeWhile (· ≠ '?')

def fragmentLetters (letters : List Char) : List Char := (letters.dropWhile (· ≠ '#')).drop 1

/-- A letter that a parser neither takes out nor looks at, nor ends a network location at. -/
def isPlain (letter : Char) : Bool :=
  !contains "\t\r\n" letter && !contains "/?#[]" letter && letter.toNat < 128

theorem value_plain (backend : Backend) : backend.value.toList.all isPlain = true := by
  cases backend <;> decide +kernel

theorem ofValue_value (backend : Backend) : Backend.ofValue? backend.value = some backend := by
  cases backend <;> decide

section Parsing
variable [Host]

/-- The text of a reference with any path and fragment. -/
def vaultUrl (backend : Backend) (rest : List Char) : String :=
  String.ofList ('v' :: 'a' :: 'u' :: 'l' :: 't' :: ':' :: '/' :: '/' :: (backend.value.toList ++ '/' :: rest))

theorem splitScheme_vault (ascii : LowersAscii) (rest : List Char) :
    splitScheme (String.ofList ('v' :: 'a' :: 'u' :: 'l' :: 't' :: ':' :: rest)) = ("vault", String.ofList rest) := by
  have scheme : lower "vault" = "vault" := (ascii "vault" (by decide)).trans (by decide)
  have parts : partition (String.ofList ('v' :: 'a' :: 'u' :: 'l' :: 't' :: ':' :: rest)) ':' =
      ("vault", true, String.ofList rest) := by
    rw [partition, String.toList_ofList]
    rfl
  have valid : ("vault".toList.all isSchemeLetter) = true := by decide
  rw [splitScheme, parts, String.toList_ofList]
  simp only [valid, scheme, Bool.and_true, Bool.true_and]
  rfl

omit [Host] in
theorem cleaned_vaultUrl (backend : Backend) (rest : List Char) :
    cleaned ((vaultUrl backend rest).toList.dropWhile (·.toNat ≤ 32)) =
      'v' :: 'a' :: 'u' :: 'l' :: 't' :: ':' :: '/' :: '/' :: (backend.value.toList ++ '/' :: cleaned rest) := by
  have name : cleaned backend.value.toList = backend.value.toList := by
    rw [cleaned, List.filter_eq_self]
    intro letter member
    have plain := List.all_eq_true.mp (value_plain backend) letter member
    simp only [isPlain, Bool.and_eq_true] at plain
    exact plain.1.1
  have trimmed : (vaultUrl backend rest).toList.dropWhile (·.toNat ≤ 32) = (vaultUrl backend rest).toList := by
    rw [vaultUrl, String.toList_ofList]
    rfl
  have front : cleaned ['v', 'a', 'u', 'l', 't', ':', '/', '/'] = ['v', 'a', 'u', 'l', 't', ':', '/', '/'] := by decide +kernel
  have slash : cleaned ['/'] = ['/'] := by decide +kernel
  have split (first second : List Char) : cleaned (first ++ second) = cleaned first ++ cleaned second := List.filter_append ..
  rw [trimmed, vaultUrl, String.toList_ofList]
  calc
    cleaned (['v', 'a', 'u', 'l', 't', ':', '/', '/'] ++ (backend.value.toList ++ (['/'] ++ rest))) = _ := by
      rw [split, split, split, front, name, slash]
      rfl

/-- What is behind the scheme. -/
def behindScheme (backend : Backend) (rest : List Char) : List Char :=
  '/' :: '/' :: (backend.value.toList ++ '/' :: cleaned rest)

theorem split_vaultUrl (ascii : LowersAscii) (backend : Backend) (rest : List Char) :
    splitScheme (String.ofList (((vaultUrl backend rest).toList.dropWhile (·.toNat ≤ 32)).filter
      (fun letter => !contains "\t\r\n" letter))) = ("vault", String.ofList (behindScheme backend rest)) := by
  have clean := cleaned_vaultUrl backend rest
  unfold cleaned at clean
  rw [clean]
  exact splitScheme_vault ascii _

omit [Host] in
theorem startsWith_behindScheme (backend : Backend) (rest : List Char) :
    startsWith (String.ofList (behindScheme backend rest)) "//" = true := by
  simp [startsWith, behindScheme, List.isPrefixOf]

omit [Host] in
theorem value_within (backend : Backend) : ∀ letter ∈ backend.value.toList, contains "/?#" letter = false := by
  intro letter member
  have plain := List.all_eq_true.mp (value_plain backend) letter member
  simp [isPlain, contains] at plain ⊢
  tauto

omit [Host] in
theorem netloc_takeWhile (backend : Backend) (rest : List Char) :
    (backend.value.toList ++ '/' :: rest).takeWhile (fun letter => !contains "/?#" letter) = backend.value.toList := by
  have stop : contains "/?#" '/' = true := by decide
  rw [List.takeWhile_append_of_pos]
  · simp [stop]
  · intro letter member
    simp [value_within backend letter member]

omit [Host] in
theorem netloc_dropWhile (backend : Backend) (rest : List Char) :
    (backend.value.toList ++ '/' :: rest).dropWhile (fun letter => !contains "/?#" letter) = '/' :: rest := by
  have stop : contains "/?#" '/' = true := by decide
  rw [List.dropWhile_append_of_pos]
  · simp [stop]
  · intro letter member
    simp [value_within backend letter member]

theorem netloc_checks (backend : Backend) : checkBrackets backend.value = .ok () ∧ checkNetloc backend.value = .ok () := by
  have opened : contains backend.value '[' = false ∧ contains backend.value ']' = false ∧ isAscii backend.value = true := by
    cases backend <;> decide +kernel
  simp [checkBrackets, checkNetloc, opened]

theorem urlparse_vaultUrl (ascii : LowersAscii) (backend : Backend) (rest : List Char) :
    urlparse (vaultUrl backend rest) = .ok { scheme := "vault", netloc := backend.value } := by
  have checks := netloc_checks backend
  have located : ((behindScheme backend rest).drop 2).takeWhile (fun letter => !contains "/?#" letter) = backend.value.toList :=
    netloc_takeWhile backend (cleaned rest)
  rw [urlparse]
  dsimp only
  rw [split_vaultUrl ascii, startsWith_behindScheme]
  simp only [if_true, String.toList_ofList, located, String.ofList_toList, checks, ok_bind]
  rfl

/-- What is parsed of a reference, from the letters that a parser leaves. -/
theorem parse_vaultUrl (ascii : LowersAscii) (backend : Backend) (rest : List Char) (required : Bool) (description : String) :
    SecretRef.parse (vaultUrl backend rest) required description =
      secretRef backend (String.ofList ((pathLetters ('/' :: cleaned rest)).dropWhile (· = '/')))
        (String.ofList (fragmentLetters ('/' :: cleaned rest))) required description := by
  have behind : afterNetloc (vaultUrl backend rest) = String.ofList ('/' :: cleaned rest) := by
    have located : ((behindScheme backend rest).drop 2).dropWhile (fun letter => !contains "/?#" letter) = '/' :: cleaned rest :=
      netloc_dropWhile backend (cleaned rest)
    rw [afterNetloc, split_vaultUrl ascii, startsWith_behindScheme, if_pos rfl, String.toList_ofList, located]
  have path : lstripSlash (pathAndFragment (vaultUrl backend rest)).1 =
      String.ofList ((pathLetters ('/' :: cleaned rest)).dropWhile (· = '/')) := by
    simp only [lstripSlash, pathAndFragment, behind, partition, String.toList_ofList, pathLetters]
  have fragment : (pathAndFragment (vaultUrl backend rest)).2 = String.ofList (fragmentLetters ('/' :: cleaned rest)) := by
    simp only [pathAndFragment, behind, partition, String.toList_ofList, fragmentLetters, drop_takeWhile]
  rw [SecretRef.parse, urlparse_vaultUrl ascii, ok_bind, if_neg (by simp), ofValue_value, path, fragment]

/-! ### There and back -/

/-- What a reference writes behind its backend. -/
def tailLetters (ref : SecretRef) : List Char :=
  ref.path.toList ++ if ref.key = "" then [] else '#' :: ref.key.toList

theorem uri_eq (ref : SecretRef) : ref.uri = vaultUrl ref.backend (tailLetters ref) := by
  apply String.toList_inj.mp
  have text (text : String) : toString text = text := rfl
  by_cases keyless : ref.key = ""
  · simp [SecretRef.uri, vaultUrl, tailLetters, keyless, text]
  · simp [SecretRef.uri, vaultUrl, tailLetters, keyless, text]

/-- The text of a reference leads back to its backend, its path and its key. -/
def RoundTrips (ref : SecretRef) : Prop :=
  ∃ parsed, SecretRef.parse ref.uri = .ok parsed ∧ parsed.backend = ref.backend ∧ parsed.path = ref.path ∧ parsed.key = ref.key

/-- Nothing in the path or the key means anything in a URL, or is taken out of it. -/
structure Plain (ref : SecretRef) : Prop where
  relative : ∀ letter ∈ ref.path.toList.head?, letter ≠ '/'
  path : ∀ letter ∈ ref.path.toList, contains "\t\r\n" letter = false ∧ letter ≠ '#' ∧ letter ≠ '?'
  key : ∀ letter ∈ ref.key.toList, contains "\t\r\n" letter = false

theorem secretRef_of_ref (ref : SecretRef) (required : Bool) (description : String) :
    ∃ parsed, secretRef ref.backend ref.path ref.key required description = .ok parsed ∧
      parsed.backend = ref.backend ∧ parsed.path = ref.path ∧ parsed.key = ref.key := by
  rw [secretRef, dif_neg ref.pointed, dif_pos ref.unshaped]
  exact ⟨_, rfl, rfl, rfl, rfl⟩

theorem secretRef_key {backend : Backend} {path key description : String} {required : Bool} {ref : SecretRef}
    (made : secretRef backend path key required description = .ok ref) : ref.key = key := by
  unfold secretRef at made
  split at made
  · cases made
  split at made
  · obtain rfl := Except.ok.inj made
    rfl
  · cases made

theorem roundTrips_iff_letters (ascii : LowersAscii) (ref : SecretRef) :
    RoundTrips ref ↔ (pathLetters ('/' :: cleaned (tailLetters ref))).dropWhile (· = '/') = ref.path.toList ∧
      fragmentLetters ('/' :: cleaned (tailLetters ref)) = ref.key.toList := by
  rw [RoundTrips, uri_eq, parse_vaultUrl ascii]
  constructor
  · intro ⟨parsed, made, _, path, key⟩
    rw [(secretRef_eq_ok made).2] at path
    rw [secretRef_key made] at key
    exact ⟨by rw [← path, String.toList_ofList], by rw [← key, String.toList_ofList]⟩
  · intro ⟨path, key⟩
    rw [path, key, String.ofList_toList, String.ofList_toList]
    exact secretRef_of_ref ref true ""

omit [Host] in
theorem mem_pathLetters {letters : List Char} {letter : Char}
    (member : letter ∈ (pathLetters ('/' :: cleaned letters)).dropWhile (· = '/')) :
    letter ≠ '#' ∧ letter ≠ '?' ∧ (letter = '/' ∨ letter ∈ cleaned letters) := by
  have kept := (List.dropWhile_suffix _).subset member
  have before := (List.takeWhile_prefix _).subset kept
  have all := (List.takeWhile_prefix _).subset before
  exact ⟨by simpa using List.mem_takeWhile_imp before, by simpa using List.mem_takeWhile_imp kept, List.mem_cons.mp all⟩

theorem Plain.cleaned {ref : SecretRef} (plain : Plain ref) : Refs.cleaned (tailLetters ref) = tailLetters ref := by
  rw [Refs.cleaned, List.filter_eq_self]
  intro letter member
  rw [Bool.not_eq_true']
  rcases List.mem_append.mp member with path | key
  · exact (plain.path letter path).1
  · split at key
    next => cases key
    next =>
      rcases List.mem_cons.mp key with rfl | key
      · decide
      · exact plain.key letter key

/-- The first hash is where the key begins. -/
theorem Plain.parted {ref : SecretRef} (plain : Plain ref) :
    ('/' :: tailLetters ref).takeWhile (· ≠ '#') = '/' :: ref.path.toList ∧
      (('/' :: tailLetters ref).dropWhile (· ≠ '#')).drop 1 = ref.key.toList := by
  have path : ∀ letter ∈ '/' :: ref.path.toList, decide (letter ≠ '#') = true := by
    rw [List.forall_mem_cons]
    refine ⟨by decide, ?_⟩
    intro letter member
    simpa using (plain.path letter member).2.1
  have split : '/' :: tailLetters ref = ('/' :: ref.path.toList) ++ if ref.key = "" then [] else '#' :: ref.key.toList := rfl
  rw [split, List.takeWhile_append_of_pos path, List.dropWhile_append_of_pos path]
  by_cases keyless : ref.key = ""
  · simp [keyless]
  · simp [keyless]

/-- A reference finds its way back exactly if its path and its key are plain. -/
theorem roundTrips_iff (ascii : LowersAscii) (ref : SecretRef) : RoundTrips ref ↔ Plain ref := by
  rw [roundTrips_iff_letters ascii]
  constructor
  · intro ⟨path, key⟩
    refine ⟨?_, ?_, ?_⟩
    · intro letter first
      have stopped := List.head?_dropWhile_not (fun letter => decide (letter = '/')) (pathLetters ('/' :: cleaned (tailLetters ref)))
      rw [path, Option.mem_def.mp first] at stopped
      simpa using stopped
    · intro letter member
      have found := mem_pathLetters (path ▸ member)
      refine ⟨?_, found.1, found.2.1⟩
      rcases found.2.2 with rfl | kept
      · decide
      · simpa using (List.mem_filter.mp kept).2
    · intro letter member
      rw [← key, fragmentLetters] at member
      have kept := (List.dropWhile_suffix _).subset (List.mem_of_mem_drop member)
      rcases List.mem_cons.mp kept with rfl | kept
      · decide
      · simpa using (List.mem_filter.mp kept).2
  · intro plain
    rw [plain.cleaned]
    obtain ⟨before, behind⟩ := plain.parted
    have query : ('/' :: ref.path.toList).takeWhile (· ≠ '?') = '/' :: ref.path.toList := by
      rw [List.takeWhile_eq_self_iff, List.forall_mem_cons]
      refine ⟨by decide, ?_⟩
      intro letter member
      simpa using (plain.path letter member).2.2
    have first : ref.path.toList.dropWhile (· = '/') = ref.path.toList := by
      rw [List.dropWhile_eq_self_iff]
      intro some
      simpa using plain.relative ref.path.toList[0] (by rw [List.head?_eq_getElem?, List.getElem?_eq_getElem some]; rfl)
    constructor
    · rw [pathLetters, before, query]
      simpa using first
    · rw [fragmentLetters, behind]

end Parsing

/-! ### The variable of a reference -/

/-- What a variable's name has one underscore for. -/
def isGap (letter : Char) : Bool := !isAsciiAlnum letter

theorem underscored_eq (inside : Bool) (letters : List Char) : underscored inside letters = squeeze isGap '_' inside letters := by
  induction letters generalizing inside with
  | nil => rfl
  | cons letter rest ih =>
    cases plain : isAsciiAlnum letter with
    | true => simp [underscored, squeeze, isGap, plain, ih]
    | false =>
      cases inside <;> simp [underscored, squeeze, isGap, plain, ih]

theorem small_letter {letter : Char} (small : 97 ≤ letter.toNat ∧ letter.toNat ≤ 122) :
    isGap letter = false ∧ isGap (upperLetter letter) = false := by
  have codes : ∀ code < 123, 97 ≤ code → isGap (Char.ofNat code) = false ∧ isGap (Char.ofNat (code - 32)) = false := by decide
  have known := codes letter.toNat (by omega) small.1
  rw [Char.ofNat_toNat] at known
  rw [upperLetter, if_pos small]
  exact known

theorem isGap_upperLetter (letter : Char) : isGap (upperLetter letter) = isGap letter := by
  by_cases small : 97 ≤ letter.toNat ∧ letter.toNat ≤ 122
  · rw [(small_letter small).1, (small_letter small).2]
  · rw [upperLetter, if_neg small]

theorem map_squeeze (inside : Bool) (letters : List Char) :
    (squeeze isGap '_' inside letters).map upperLetter = squeeze isGap '_' inside (letters.map upperLetter) := by
  induction letters generalizing inside with
  | nil => rfl
  | cons letter rest ih =>
    have mark : upperLetter '_' = '_' := by decide
    cases gap : isGap letter with
    | true => cases inside <;> simp [squeeze, isGap_upperLetter, gap, ih, mark]
    | false => simp [squeeze, isGap_upperLetter, gap, ih]

theorem begins_upper (letters : List Char) : begins isGap (letters.map upperLetter) = begins isGap letters := by
  simp [begins, List.head?_map, Option.any_map, isGap_upperLetter]

theorem ends_upper (letters : List Char) : ends isGap (letters.map upperLetter) = ends isGap letters := by
  simp [ends, List.getLast?_map, Option.any_map, isGap_upperLetter]

theorem mem_squeeze {inside : Bool} {letters : List Char} {letter : Char} (member : letter ∈ squeeze isGap '_' inside letters) :
    letter = '_' ∨ isGap letter = false := by
  induction letters generalizing inside with
  | nil => cases member
  | cons first rest ih =>
    rw [squeeze] at member
    split at member
    next =>
      rcases List.mem_append.mp member with mark | later
      · split at mark
        next => cases mark
        next => exact .inl (List.mem_singleton.mp mark)
      · exact ih later
    next apart =>
      rcases List.mem_cons.mp member with rfl | later
      · exact .inr (by simpa using apart)
      · exact ih later

theorem ascii_of_not_gap {letter : Char} (plain : isGap letter = false) : letter.toNat < 128 := by
  simp only [isGap, isAsciiAlnum, Char.isAlphanum, Char.isAlpha, Char.isUpper, Char.isLower, Char.isDigit, Bool.not_eq_false',
    Bool.or_eq_true, Bool.and_eq_true, decide_eq_true_eq] at plain
  have code : letter.val.toNat = letter.toNat := rfl
  simp only [ge_iff_le, UInt32.le_iff_toNat_le, code] at plain
  rcases plain with (⟨_, high⟩ | ⟨_, high⟩) | ⟨_, high⟩
  all_goals
    refine lt_of_le_of_lt high ?_
    decide

theorem isAscii_squeeze (letters : List Char) : isAscii (String.ofList (squeeze isGap '_' false letters)) = true := by
  rw [isAscii, String.toList_ofList, List.all_eq_true]
  intro letter member
  rw [decide_eq_true_eq]
  rcases mem_squeeze member with rfl | plain
  · decide
  · exact ascii_of_not_gap plain

/-- The ASCII letters and digits of a text between the other letters, in capitals. -/
def words (text : String) : List (List Char) := spans isGap (text.toList.map upperLetter)

section Naming
variable [Host]

/-- The path and the key, as a variable is named after them. -/
def namedAfter (ref : SecretRef) : List Char := ref.path.toList ++ if ref.key = "" then [] else '_' :: ref.key.toList

/-- What is last in the name of a variable. -/
def lastText (ref : SecretRef) : String := if ref.key = "" then ref.path else ref.key

/-- The references have the same words, up to case, and gaps at the same ends. -/
structure SpeltAlike (first second : SecretRef) : Prop where
  words : words first.path ++ words first.key = words second.path ++ words second.key
  begins : begins isGap first.path.toList = begins isGap second.path.toList
  ends : ends isGap (lastText first).toList = ends isGap (lastText second).toList

theorem spans_namedAfter (ref : SecretRef) :
    spans isGap ((namedAfter ref).map upperLetter) = words ref.path ++ words ref.key := by
  have gap : isGap (upperLetter '_') = true := by decide
  by_cases keyless : ref.key = ""
  · simp [namedAfter, words, keyless, spans]
  · rw [namedAfter, if_neg keyless, List.map_append, List.map_cons, spans_append_cons gap]
    rfl

theorem ends_namedAfter (ref : SecretRef) :
    begins isGap (namedAfter ref) = begins isGap ref.path.toList ∧ ends isGap (namedAfter ref) = ends isGap (lastText ref).toList := by
  have pathed : ref.path.toList ≠ [] := fun empty => ref.pointed (String.toList_eq_nil_iff.mp empty)
  refine ⟨begins_append pathed _, ?_⟩
  by_cases keyless : ref.key = ""
  · simp [namedAfter, lastText, keyless]
  · have keyed : ref.key.toList ≠ [] := fun empty => keyless (String.toList_eq_nil_iff.mp empty)
    have split : namedAfter ref = (ref.path.toList ++ ['_']) ++ ref.key.toList := by simp [namedAfter, keyless]
    rw [split, ends_append _ keyed, lastText, if_neg keyless]

theorem envName_eq (uppers : UppersAscii) (vault : Vault) (ref : SecretRef) :
    vault.envName ref = vault.config.envPrefix ++
      String.ofList (squeeze isGap '_' false ((namedAfter ref).map upperLetter)) := by
  have text (text : String) : toString text = text := rfl
  have tail : (if ref.key ≠ "" then s!"{ref.path}_{ref.key}" else ref.path).toList = namedAfter ref := by
    by_cases keyless : ref.key = ""
    · simp [namedAfter, keyless]
    · simp [namedAfter, keyless, text]
  rw [Vault.envName, tail, underscored_eq, uppers _ (isAscii_squeeze _), upperAscii, String.toList_ofList, map_squeeze]

/-- Two references are looked up under one name exactly if they are spelt alike. -/
theorem envName_inj (uppers : UppersAscii) (vault : Vault) (first second : SecretRef) :
    vault.envName first = vault.envName second ↔ SpeltAlike first second := by
  have gap : isGap '_' = true := by decide
  obtain ⟨begun, ended⟩ := ends_namedAfter first
  obtain ⟨began, finished⟩ := ends_namedAfter second
  rw [envName_eq uppers, envName_eq uppers, String.append_right_inj, String.ofList_inj, squeeze_inj gap, spans_namedAfter,
    spans_namedAfter, begins_upper, begins_upper, ends_upper, ends_upper, begun, began, ended, finished]
  constructor
  · intro ⟨words, begins, ends⟩
    exact ⟨words, begins, ends⟩
  · intro alike
    exact ⟨alike.words, alike.begins, alike.ends⟩

/-- References find their way back exactly if they are plain, and name variables apart exactly if they are not spelt alike. -/
theorem references_faithful_iff (lowers : LowersAscii) (uppers : UppersAscii) :
    (∀ ref, RoundTrips ref ↔ Plain ref) ∧
      ∀ (vault : Vault) (first second : SecretRef), first.backend = .env → second.backend = .env →
        (((first.path, first.key) ≠ (second.path, second.key) → vault.envName first ≠ vault.envName second) ↔
          ((first.path, first.key) ≠ (second.path, second.key) → ¬ SpeltAlike first second)) := by
  refine ⟨roundTrips_iff lowers, ?_⟩
  intro vault first second _ _
  rw [ne_eq (vault.envName first), envName_inj uppers]

end Naming

/-! ### References at hand -/

theorem asciiHost_uppersAscii (documents : List (String × Json)) : @UppersAscii (asciiHost documents) := by
  intro text _
  rfl

section Sample
local instance plainHost : Host := asciiHost []

/-- A reference to the variable of a tenant. -/
def tenantRef (path key : String) (pointed : path ≠ "") (unshaped : looksLikeASecret path = false ∧ looksLikeASecret key = false) :
    SecretRef where
  backend := .env
  path
  key
  pointed
  unshaped

def acmeRef : SecretRef := tenantRef "acme" "eu_token" (by decide) (by decide)

def acmeEuRef : SecretRef := tenantRef "acme-eu" "token" (by decide) (by decide)

def rootedRef : SecretRef := tenantRef "/acme" "token" (by decide) (by decide)

theorem acme_faithful : RoundTrips acmeRef ∧ siteVault.envName acmeRef ≠ siteVault.envName rootedRef := by
  have faithful := references_faithful_iff (asciiHost_lowersAscii []) (asciiHost_uppersAscii [])
  refine ⟨(faithful.1 acmeRef).mpr ⟨?_, ?_, ?_⟩, ?_⟩
  · intro letter first
    obtain rfl : 'a' = letter := Option.some.inj first
    decide
  · intro letter member
    have listed : "acme".toList.all (fun letter => contains "\t\r\n" letter = false ∧ letter ≠ '#' ∧ letter ≠ '?') = true := by decide
    simpa using List.all_eq_true.mp listed letter member
  · intro letter member
    have listed : "eu_token".toList.all (fun letter => contains "\t\r\n" letter = false) = true := by decide
    simpa using List.all_eq_true.mp listed letter member
  · refine (faithful.2 siteVault acmeRef rootedRef rfl rfl).mpr ?_ (by decide)
    intro _ alike
    exact absurd alike.begins (by decide)

/-- A path loses the slash it begins with, and two tenants have one variable. -/
theorem acme_confused : ¬ RoundTrips rootedRef ∧
    (acmeRef.path, acmeRef.key) ≠ (acmeEuRef.path, acmeEuRef.key) ∧ siteVault.envName acmeRef = siteVault.envName acmeEuRef := by
  refine ⟨?_, by decide, ?_⟩
  · rw [roundTrips_iff (asciiHost_lowersAscii [])]
    intro plain
    exact plain.relative '/' rfl rfl
  · rw [envName_inj (asciiHost_uppersAscii [])]
    exact ⟨by decide, by decide, by decide⟩

end Sample

end Xcp.Refs
