import Xcp.Connectors.Wrap

/-! The text of a generated server says what its specification says just where
the document's strings stand for themselves in it: nothing is escaped on the way
into the source, and JSON is not always Python. -/

namespace Xcp.Connectors
open Checked Python Written

/-! ### What the text should say -/

section Meaning
variable [Host] (named : List Char → Option Nat)

/-- The parts of a text that are literals; the rest of it is code that every text has. -/
structure Wrapper where
  heading : List Char
  strings : List (List Nat)
  tools : Literal

/-- A text as Python reads it. -/
def readWrapper (letters : List Char) : Option Wrapper := do
  let (heading, rest) ← readBlock named letters
  let (strings, rest) ← readStrings named Fields.stringCodes rest
  let rest ← rest.dropPrefix? Fields.tableCode.toList
  let (tools, rest) ← readValue named maxBrackets rest
  if rest = (unlines Fields.handlerLines).toList then some { heading, strings, tools } else none

/-- The strings that a text should have, with a title that is marked. -/
def WrapSpec.strings? (spec : WrapSpec) (source : String) : Option (List String) :=
  match spec.authLocation, spec.authName, spec.title with
  | .str location, .str name, .str title =>
    some [spec.baseUrl, spec.authScheme, location, name, spec.secretRef, source, title ++ " (MCP)", spec.version]
  | _, _, _ => none

def Tool.json? (tool : Tool) : Option Json :=
  (tool.schema.properties.values.mapM namedBy?).map (fun properties => .dict [
    ("method", .str tool.method), ("path", .str tool.path), ("summary", tool.summary),
    ("schema", .dict [("type", .str "object"), ("properties", .dict properties), ("required", .list tool.schema.required)])])

/-- The tools as a document, if their parameters have strings as names. -/
def WrapSpec.table? (spec : WrapSpec) : Option Json := do
  let tools ← spec.tools.toOption
  let entries ← tools.entries.mapM (fun entry => entry.2.json?.map (Prod.mk entry.1))
  return .dict entries

/-- The literals of a text are what the specification says. -/
structure Says (spec : WrapSpec) (fields : Fields) (wrapper : Wrapper) : Prop where
  heading : wrapper.heading = fields.heading.toList
  strings : ∃ expected, spec.strings? fields.credentialSource = some expected ∧ wrapper.strings = expected.map points
  tools : ∃ table meant, spec.table? = some table ∧ meant.sorted = table.sorted ∧ Denotes wrapper.tools meant

/-- The text is the code that every text has, with literals that are what the specification says. -/
def Faithful (spec : WrapSpec) (moduleName credentialSource text : String) : Prop :=
  ∃ fields wrapper, fieldsOf spec moduleName credentialSource = .ok fields ∧ readWrapper named text.toList = some wrapper ∧
    Says spec fields wrapper

/-- A value that is a text which stands for itself. -/
def IsVerbatim (value : Json) : Prop := ∃ text, value = .str text ∧ verbatim text.toList = true

/-- What a document puts into the text stands for itself there. -/
structure Embeds (spec : WrapSpec) (moduleName : String) : Prop where
  baseUrl : verbatim spec.baseUrl.toList = true
  authLocation : IsVerbatim spec.authLocation
  authName : IsVerbatim spec.authName
  secretRef : verbatim spec.secretRef.toList = true
  title : ∃ title, spec.title = .str title ∧ verbatim (title ++ " (MCP)").toList = true
  version : spec.version ≠ "" ∧ verbatim spec.version.toList = true
  docs : inert named ((spec.docsUrl.orElse (.str "-")).toStr.toList ++ ['\n']) = true
  module : ∃ module, moduleOf spec moduleName = .ok module ∧ inert named (module.toList ++ [':']) = true
  tools : ∃ table, spec.table? = some table ∧ writable maxBrackets table = true

end Meaning

/-! ### The table of tools -/

section Table

/-- Entries that all have a view are their views, each behind its name. -/
theorem mapM_views {α β : Type} [Inhabited β] {view : α → Option β} {entries : List (String × α)} {viewed : List (String × β)}
    (each : entries.mapM (fun entry => (view entry.2).map (Prod.mk entry.1)) = some viewed) :
    viewed = entries.map (fun entry => (entry.1, (view entry.2).getD default)) ∧
      ∀ entry ∈ entries, view entry.2 = some ((view entry.2).getD default) := by
  induction entries generalizing viewed with
  | nil =>
    cases each
    exact ⟨rfl, fun _ member => (List.not_mem_nil member).elim⟩
  | cons entry rest ih =>
    rw [List.mapM_cons] at each
    obtain ⟨first, here, more⟩ := Option.bind_eq_some_iff.mp each
    obtain ⟨others, later, whole⟩ := Option.bind_eq_some_iff.mp more
    obtain ⟨value, seen, rfl⟩ := Option.map_eq_some_iff.mp here
    obtain ⟨rfl, known⟩ := ih later
    cases Option.some.inj whole
    rw [List.map_cons, List.forall_mem_cons, seen]
    exact ⟨rfl, rfl, known⟩

theorem mapM_named_ok {α β : Type} (change : α → Raises β) (result : α → β) {entries : List (String × α)}
    (each : ∀ entry ∈ entries, change entry.2 = .ok (result entry.2)) :
    entries.mapM (fun entry => Prod.mk entry.1 <$> change entry.2) =
      .ok (entries.map (fun entry => (entry.1, result entry.2))) := by
  apply mapM_ok
  intro entry member
  rw [each entry member]
  rfl

theorem sorted_tool (method path : String) (summary type : Json) (properties : List (String × Json)) (required : List Json) :
    (Json.dict [("method", .str method), ("path", .str path), ("summary", summary),
      ("schema", .dict [("type", type), ("properties", .dict properties), ("required", .list required)])]).sorted =
      .dict [("method", .str method), ("path", .str path),
        ("schema", .dict [
          ("properties", .dict ((byName properties).map (fun property => (property.1, property.2.sorted)))),
          ("required", (Json.list required).sorted), ("type", type.sorted)]),
        ("summary", summary.sorted)] := by
  have outer (a b c d : Json) : byName [("method", a), ("path", b), ("summary", c), ("schema", d)] =
      [("method", a), ("path", b), ("schema", d), ("summary", c)] := by
    simp [byName]
  have inner (a b c : Json) : byName [("type", a), ("properties", b), ("required", c)] =
      [("properties", b), ("required", c), ("type", a)] := by
    simp [byName]
  rw [sorted_dict, outer]
  simp only [List.map_cons, List.map_nil]
  rw [sorted_dict, inner]
  simp only [List.map_cons, List.map_nil]
  rw [sorted_dict]
  rfl

variable [Host]

theorem written_of_json {tool : Tool} {json : Json} (found : tool.json? = some json) : tool.written = .ok json.sorted := by
  obtain ⟨named, strings, rfl⟩ := Option.map_eq_some_iff.mp found
  have properties : writtenProperties tool.schema.properties.values = .ok (byName named) := by
    rw [writtenProperties, strings]
  rw [Tool.written, properties, sorted_tool]
  rfl

/-- The tools of a table whose parameters have strings as names are written as the table is. -/
theorem dumpTools_of_table {spec : WrapSpec} {tools : Dict String Tool} {table : Json} (listed : spec.tools = .ok tools)
    (found : spec.table? = some table) {text : String} (dumped : dumpTools tools = .ok text) : text = pretty 0 table.sorted := by
  rw [WrapSpec.table?, listed, Option.bind_eq_bind, Except.toOption, Option.bind_some] at found
  obtain ⟨entries, each, whole⟩ := Option.bind_eq_some_iff.mp found
  cases Option.some.inj whole
  obtain ⟨rfl, known⟩ := mapM_views each
  have view (entry : String × Tool) (member : entry ∈ toolNames tools) :
      entry.2.written = .ok (entry.2.json?.getD default).sorted :=
    written_of_json (known entry ((List.mem_insertionSort _).mp member))
  have wrote := mapM_named_ok Tool.written (fun tool => (tool.json?.getD default).sorted) view
  have sorted : (Json.dict (tools.entries.map (fun entry => (entry.1, entry.2.json?.getD default)))).sorted =
      .dict ((toolNames tools).map (fun entry => (entry.1, (entry.2.json?.getD default).sorted))) := by
    rw [sorted_dict, byName, insertionSort_map_snd (fun tool : Tool => tool.json?.getD default), List.map_map]
    rfl
  rw [dumpTools, wrote, ok_bind] at dumped
  dsimp only at dumped
  split at dumped
  next =>
    rw [sorted]
    exact ((pure_eq_ok _ _).mp dumped).symm
  next => cases dumped

end Table

/-! ### The heading -/

section Heading
variable {named : List Char → Option Nat}

/-- The strings of a text stand for themselves. -/
def PlainStrings (fields : Fields) : Prop := ∀ text ∈ fields.strings, verbatim text.toList = true

theorem value_verbatim (source : CredentialSource) : verbatim source.value.toList = true := by
  cases source <;> decide

theorem title_line {title : String} (plain : verbatim (title ++ " (MCP)").toList = true) (rest : List Char) :
    inert named ((title ++ " — MCP server generated from an OpenAPI specification.").toList ++ rest) =
      inert named ("— MCP server generated from an OpenAPI specification.".toList ++ rest) := by
  have blank : verbatim (title.toList ++ [' ']) = true := by
    rw [String.toList_append] at plain
    exact verbatim_of_append (by decide) plain
  have split : (title ++ " — MCP server generated from an OpenAPI specification.").toList ++ rest =
      title.toList ++ [' '] ++ ("— MCP server generated from an OpenAPI specification.".toList ++ rest) := by
    simp
  rw [split, inert_verbatim_append blank]

/-- A line that is filled in once ends as what is filled in. -/
theorem filled_line {before : String} (plain : verbatim before.toList = true) (text : String) :
    inert named ((before ++ text).toList ++ ['\n']) = inert named (text.toList ++ ['\n']) := by
  rw [String.toList_append, List.append_assoc, inert_verbatim_append plain]

theorem plain_line {text : String} (plain : verbatim text.toList = true) : inert named (text.toList ++ ['\n']) = true := by
  rw [inert_verbatim_append plain]
  rfl

theorem module_line (module : String) :
    inert named (("    uvicorn " ++ module ++ ":app --port 9100").toList ++ ['\n']) =
      inert named (module.toList ++ [':'] ++ ("app --port 9100".toList ++ ['\n'])) := by
  have before : verbatim "    uvicorn ".toList = true := by
    rw [String.toList_ofList]
    decide
  have split : ("    uvicorn " ++ module ++ ":app --port 9100").toList ++ ['\n'] =
      "    uvicorn ".toList ++ (module.toList ++ [':'] ++ ("app --port 9100".toList ++ ['\n'])) := by
    simp
  rw [split, inert_verbatim_append before]

/-- Where the strings stand for themselves, the heading is inert just where its other two parts are. -/
theorem heading_inert_iff {fields : Fields} (plain : PlainStrings fields) :
    inert named fields.heading.toList = true ↔
      inert named (fields.docsUrl.toList ++ ['\n']) = true ∧ inert named (fields.module.toList ++ [':']) = true := by
  have upstream : verbatim "  upstream : ".toList = true := by
    rw [String.toList_ofList]
    decide
  have auth : verbatim "  auth     : ".toList = true := by
    rw [String.toList_ofList]
    decide
  have credential : verbatim "  (credential: ".toList = true := by
    rw [String.toList_ofList]
    decide
  have tools : verbatim "  tools    : ".toList = true := by
    rw [String.toList_ofList]
    decide
  have docsBefore : verbatim "  docs     : ".toList = true := by
    rw [String.toList_ofList]
    decide
  have handling : verbatim "Credential handling is ".toList = true := by
    rw [String.toList_ofList]
    decide
  have resolved : verbatim "  operator  resolved at runtime from ".toList = true := by
    rw [String.toList_ofList]
    decide
  have scheme : verbatim fields.authScheme.toList = true := plain _ (by simp [Fields.strings])
  have source : verbatim fields.credentialSource.toList = true := plain _ (by simp [Fields.strings])
  rw [Fields.heading, inert_unlines]
  constructor
  · intro quiet
    have docs := quiet ("  docs     : " ++ fields.docsUrl) (by simp [Fields.headingLines])
    have module := quiet ("    uvicorn " ++ fields.module ++ ":app --port 9100") (by simp [Fields.headingLines])
    rw [filled_line docsBefore] at docs
    rw [module_line] at module
    exact ⟨docs, inert_of_append rfl module⟩
  · intro ⟨docs, module⟩
    simp only [Fields.headingLines, List.forall_mem_cons]
    refine ⟨rfl, ?title, rfl, ?_, ?_, rfl, ?upstream, ?auth, ?tools, ?docs, rfl, ?handling, ?resolved, ?_, ?_, ?_, ?_, rfl, ?_, ?_,
      ?module, rfl, ?_, ?_, ?none⟩
    case title =>
      rw [title_line (plain _ (by simp [Fields.strings]))]
      exact inert_line _ (by decide +kernel)
    case upstream =>
      rw [filled_line upstream]
      exact plain_line (plain _ (by simp [Fields.strings]))
    case auth =>
      simp only [String.toList_append, List.append_assoc]
      rw [inert_verbatim_append auth, inert_verbatim_append scheme, inert_verbatim_append credential, inert_verbatim_append source]
      rfl
    case tools =>
      rw [filled_line tools]
      exact plain_line (verbatim_nat fields.nOps)
    case docs =>
      rw [filled_line docsBefore]
      exact docs
    case handling =>
      simp only [String.toList_append, List.append_assoc]
      rw [inert_verbatim_append handling, inert_verbatim_append source]
      rfl
    case resolved =>
      rw [filled_line resolved]
      exact plain_line (plain _ (by simp [Fields.strings]))
    case module =>
      rw [module_line, inert_append (by decide) module]
      exact inert_line _ (by decide +kernel)
    case none =>
      intro line member
      cases member
    all_goals exact inert_line _ (by decide +kernel)

end Heading

/-! ### The text -/

section Text

theorem toList_text (fields : Fields) :
    fields.text.toList = '"' :: '"' :: '"' :: (fields.heading.toList ++ '"' :: '"' :: '"' ::
      ((withStrings (Fields.stringCodes.zip fields.strings)).toList ++
        (Fields.tableCode.toList ++ (fields.toolsLiteral.toList ++ (unlines Fields.handlerLines).toList)))) := by
  simp [Fields.text]

theorem heading_last (fields : Fields) : ∃ text, fields.heading.toList = text ++ ['\n'] := unlines_last (List.cons_ne_nil _ _)

theorem tableCode_begins : ∃ tail, Fields.tableCode.toList = ')' :: '\n' :: tail := ⟨_, String.toList_ofList⟩

theorem strings_closed (fields : Fields) (rest : List Char) :
    Closed (Fields.stringCodes.zip fields.strings) (Fields.tableCode.toList ++ rest) := by
  obtain ⟨tail, table⟩ := tableCode_begins
  obtain ⟨setupTail, setup⟩ : ∃ tail, (unlines Fields.setupLines ++ "app = FastAPI(title=").toList = '\n' :: tail := by
    have begins : (unlines Fields.setupLines).toList = '\n' :: (unlines Fields.setupLines.tail).toList := unlines_blank rfl
    rw [String.toList_append, begins]
    exact ⟨_, List.cons_append⟩
  have title : (fields.title ++ " (MCP)").toList = fields.title.toList ++ " (MCP".toList ++ [')'] := by simp
  refine ⟨?scheme, ?location, ?name, ?secret, ?source, ?app, ?version, ?table, trivial⟩
  case scheme => exact follows_code (String.toList_ofList) _ _ _ _
  case location => exact follows_code (String.toList_ofList) _ _ _ _
  case name => exact follows_code (String.toList_ofList) _ _ _ _
  case secret => exact follows_code (String.toList_ofList) _ _ _ _
  case source => exact follows_code (String.toList_ofList) _ _ _ _
  case app => exact follows_code setup _ _ _ _
  case version =>
    rw [title]
    have mark : ((withStrings [(", version=", fields.version)]).toList ++ (Fields.tableCode.toList ++ rest)).head? = some ',' :=
      code_head String.toList_ofList _ _ _
    exact follows_last (by decide) (fun quote => absurd (mark.symm.trans quote) (by decide))
  case table =>
    rw [table]
    exact follows_closed_line _ _

theorem handlers_end : Ends (unlines Fields.handlerLines).toList := by
  have begins : (unlines Fields.handlerLines).toList = '\n' :: (unlines Fields.handlerLines.tail).toList := unlines_blank rfl
  rw [begins]
  intro letter member
  cases member
  exact ⟨rfl, by decide⟩

end Text

/-! ### What is filled in -/

section Fill
variable [Host]

theorem written_eq_ok {value : Json} {text : String} (wrote : written value = .ok text) : value.toStr = text := by
  unfold written at wrote
  split at wrote
  · exact Except.ok.inj wrote
  · cases wrote

omit [Host] in
theorem asStr_eq_ok {value : Json} {method text : String} (found : value.asStr method = .ok text) : value = .str text := by
  cases value with
  | str written => exact congrArg Json.str (Except.ok.inj found)
  | _ => cases found

/-- What `fieldsOf` takes from a specification. -/
structure Fills (spec : WrapSpec) (moduleName credentialSource : String) (fields : Fields) : Prop where
  title : ∃ title, spec.title = .str title ∧ fields.title = replaceLetter title '"' '\''
  baseUrl : fields.baseUrl = spec.baseUrl
  authScheme : fields.authScheme = spec.authScheme
  authLocation : fields.authLocation = spec.authLocation.toStr
  authName : fields.authName = spec.authName.toStr
  secretRef : fields.secretRef = spec.secretRef
  source : ∃ source, sourceOf spec credentialSource = .ok source ∧ fields.credentialSource = source.value
  version : fields.version = if spec.version = "" then "0" else spec.version
  docsUrl : fields.docsUrl = (spec.docsUrl.orElse (.str "-")).toStr
  module : moduleOf spec moduleName = .ok fields.module
  tools : ∃ tools, spec.tools = .ok tools ∧ dumpTools tools = .ok fields.toolsLiteral

theorem fills_of_fieldsOf {spec : WrapSpec} {moduleName credentialSource : String} {fields : Fields}
    (filled : fieldsOf spec moduleName credentialSource = .ok fields) : Fills spec moduleName credentialSource fields := by
  simp only [fieldsOf, bind_eq_ok, pure_eq_ok] at filled
  obtain ⟨tools, listed, source, chosen, title, titled, module, moduled, literal, dumped, location, located, name, authNamed, docs,
    documented, rfl⟩ := filled
  exact {
    title := ⟨title, asStr_eq_ok titled, rfl⟩
    baseUrl := rfl
    authScheme := rfl
    authLocation := (written_eq_ok located).symm
    authName := (written_eq_ok authNamed).symm
    secretRef := rfl
    source := ⟨source, chosen, rfl⟩
    version := rfl
    docsUrl := (written_eq_ok documented).symm
    module := moduled
    tools := ⟨tools, listed, dumped⟩ }

omit [Host] in
theorem strings?_eq_some {spec : WrapSpec} {source : String} {expected : List String}
    (found : spec.strings? source = some expected) : ∃ location name title,
      spec.authLocation = .str location ∧ spec.authName = .str name ∧ spec.title = .str title ∧
      expected = [spec.baseUrl, spec.authScheme, location, name, spec.secretRef, source, title ++ " (MCP)", spec.version] := by
  unfold WrapSpec.strings? at found
  split at found
  next location name title located authNamed titled => exact ⟨location, name, title, located, authNamed, titled, (Option.some.inj found).symm⟩
  next => cases found

end Fill

theorem replaceLetter_of_absent {text : String} {old new : Char} (absent : old ∉ text.toList) : replaceLetter text old new = text := by
  have each : ∀ letter ∈ text.toList, (if letter = old then new else letter) = letter := by
    intro letter member
    apply if_neg
    rintro rfl
    exact absent member
  rw [replaceLetter, List.map_congr_left each, List.map_id', String.ofList_toList]

theorem replaceLetter_length (text : String) (old new : Char) : (replaceLetter text old new).toList.length = text.toList.length := by
  rw [replaceLetter, String.toList_ofList, List.length_map]

theorem points_inj {first second : String} (same : points first = points second) : first = second := by
  have inj : Function.Injective Char.toNat := fun _ _ => Char.toNat_inj.mp
  exact String.toList_inj.mp (List.map_injective_iff.mpr inj same)

theorem map_points_inj {first second : List String} (same : first.map points = second.map points) : first = second :=
  List.map_injective_iff.mpr (fun _ _ => points_inj) same

/-! ### Reading what was filled in -/

section Reading
variable [Host] {named : List Char → Option Nat} {spec : WrapSpec} {moduleName credentialSource : String} {fields : Fields}

theorem readWrapper_eq_some {letters : List Char} {wrapper : Wrapper} (read : readWrapper named letters = some wrapper) :
    ∃ code table tools, readBlock named letters = some (wrapper.heading, code) ∧
      readStrings named Fields.stringCodes code = some (wrapper.strings, table) ∧
      table.dropPrefix? Fields.tableCode.toList = some tools ∧
      readValue named maxBrackets tools = some (wrapper.tools, (unlines Fields.handlerLines).toList) := by
  simp only [readWrapper, Option.bind_eq_bind, Option.bind_eq_some_iff] at read
  obtain ⟨⟨heading, code⟩, block, ⟨strings, table⟩, lines, tools, marked, ⟨literal, rest⟩, value, whole⟩ := read
  split at whole
  next same =>
    cases Option.some.inj whole
    exact ⟨code, table, tools, block, lines, marked, same ▸ value⟩
  next => cases whole

theorem readWrapper_of_parts {letters heading code table tools : List Char} {strings : List (List Nat)} {literal : Literal}
    (block : readBlock named letters = some (heading, code))
    (lines : readStrings named Fields.stringCodes code = some (strings, table))
    (marked : table.dropPrefix? Fields.tableCode.toList = some tools)
    (value : readValue named maxBrackets tools = some (literal, (unlines Fields.handlerLines).toList)) :
    readWrapper named letters = some { heading, strings, tools := literal } := by
  refine Option.bind_eq_some_iff.mpr ⟨(heading, code), block, ?_⟩
  refine Option.bind_eq_some_iff.mpr ⟨(strings, table), lines, ?_⟩
  refine Option.bind_eq_some_iff.mpr ⟨tools, marked, ?_⟩
  exact Option.bind_eq_some_iff.mpr ⟨(literal, _), value, if_pos rfl⟩

theorem readTools (numerals : Numerals) (value : Json) :
    readValue named maxBrackets ((pretty 0 value).toList ++ (unlines Fields.handlerLines).toList) =
      (literal units maxBrackets value).map (fun read => (read, (unlines Fields.handlerLines).toList)) :=
  (pretty_prints numerals value 0 maxBrackets).reads _ handlers_end

omit [Host] in
theorem length_points (text : String) : (points text).length = text.toList.length := length_codes _

/-- What is read is as long as what was filled in, apart from a version that was left out. -/
theorem expected_fits (fills : Fills spec moduleName credentialSource fields) {expected : List String}
    (found : spec.strings? fields.credentialSource = some expected) :
    List.Forall₂ (fun text pair => text.length = pair.2.toList.length ∨ verbatim pair.2.toList = true)
      (expected.map points) (Fields.stringCodes.zip fields.strings) := by
  obtain ⟨location, name, title, located, authNamed, titled, rfl⟩ := strings?_eq_some found
  obtain ⟨title', titled', replaced⟩ := fills.title
  have same : title = title' := Json.str.inj (titled.symm.trans titled')
  have locationText : fields.authLocation = location := by rw [fills.authLocation, located]; rfl
  have nameText : fields.authName = name := by rw [fills.authName, authNamed]; rfl
  refine .cons (.inl ?_) (.cons (.inl ?_) (.cons (.inl ?_) (.cons (.inl ?_) (.cons (.inl ?_) (.cons (.inl ?_) (.cons (.inl ?_)
    (.cons ?_ .nil)))))))
  · rw [length_points, fills.baseUrl]
  · rw [length_points, fills.authScheme]
  · rw [length_points, locationText]
  · rw [length_points, nameText]
  · rw [length_points, fills.secretRef]
  · rw [length_points]
  · rw [length_points, String.toList_append, String.toList_append, List.length_append, List.length_append, replaced,
      replaceLetter_length, same]
  · rw [fills.version]
    split
    · exact .inr (by decide)
    · exact .inl (length_points spec.version)

/-- Where the strings of the specification are read, they were filled in as they are and stand for themselves. -/
theorem strings_of_read (fills : Fills spec moduleName credentialSource fields) {expected : List String}
    (found : spec.strings? fields.credentialSource = some expected) {rest after : List Char}
    (read : readStrings named Fields.stringCodes
      ((withStrings (Fields.stringCodes.zip fields.strings)).toList ++ (Fields.tableCode.toList ++ rest)) =
        some (expected.map points, after)) :
    fields.strings = expected ∧ PlainStrings fields ∧ after = Fields.tableCode.toList ++ rest := by
  have codes : (Fields.stringCodes.zip fields.strings).map Prod.fst = Fields.stringCodes := rfl
  have texts : (Fields.stringCodes.zip fields.strings).map Prod.snd = fields.strings := rfl
  rw [← codes] at read
  obtain ⟨plain, same, rfl⟩ := readStrings_inv (strings_closed fields rest) (expected_fits fills found) read
  refine ⟨?_, ?_, rfl⟩
  · rw [← texts]
    apply map_points_inj
    rw [same, List.map_map]
    rfl
  · intro text member
    rw [← texts] at member
    obtain ⟨pair, inside, rfl⟩ := List.mem_map.mp member
    exact plain pair inside

/-- A text that says what the specification says has all of it standing for itself. -/
theorem embeds_of_faithful (numerals : Numerals) {text : String} (generated : generate spec moduleName credentialSource = .ok text)
    (faithful : Faithful named spec moduleName credentialSource text) : Embeds named spec moduleName := by
  obtain ⟨fields, wrapper, filled, read, told⟩ := faithful
  have fills := fills_of_fieldsOf filled
  have whole : text = fields.text := by
    rw [generate, filled] at generated
    exact (Except.ok.inj generated).symm
  obtain ⟨code, table, tools, block, lines, marked, value⟩ := readWrapper_eq_some read
  obtain ⟨expected, found, strings⟩ := told.strings
  obtain ⟨last, ended⟩ := heading_last fields
  -- The heading ends where it should, and so do the strings after it.
  rw [whole, toList_text, told.heading, ended] at block
  obtain ⟨quiet, rfl⟩ := inert_of_readBlock rfl block
  rw [← ended] at quiet
  rw [strings] at lines
  obtain ⟨same, plain, rfl⟩ := strings_of_read fills found lines
  obtain ⟨docs, module⟩ := (heading_inert_iff plain).mp quiet
  rw [List.dropPrefix?_append_of_beq _ (beq_self_eq_true _)] at marked
  obtain rfl := Option.some.inj marked
  -- The table is what was printed, and it denotes what it should.
  obtain ⟨json, meant, tabled, sorted, denotes⟩ := told.tools
  obtain ⟨listed, toolsOk, dumped⟩ := fills.tools
  rw [dumpTools_of_table toolsOk tabled dumped, readTools numerals] at value
  obtain ⟨literal, printed, pair⟩ := Option.map_eq_some_iff.mp value
  obtain ⟨rfl, _⟩ := Prod.mk.inj pair
  have writes := (denotes_iff printed).mp ⟨meant, sorted, denotes⟩
  obtain ⟨location, name, title, located, authNamed, titled, rfl⟩ := strings?_eq_some found
  have each : ∀ text ∈ [spec.baseUrl, spec.authScheme, location, name, spec.secretRef, fields.credentialSource,
      title ++ " (MCP)", spec.version], verbatim text.toList = true := by
    rw [← same]
    exact plain
  have version : spec.version ≠ "" := by
    intro empty
    have filledVersion : fields.version = spec.version := by
      simp only [Fields.strings, List.cons.injEq] at same
      exact same.2.2.2.2.2.2.2.1
    rw [fills.version, if_pos empty, empty] at filledVersion
    exact absurd filledVersion (by decide)
  exact {
    baseUrl := each _ (by simp)
    authLocation := ⟨location, located, each _ (by simp)⟩
    authName := ⟨name, authNamed, each _ (by simp)⟩
    secretRef := each _ (by simp)
    title := ⟨title, titled, each _ (by simp)⟩
    version := ⟨version, each _ (by simp)⟩
    docs := fills.docsUrl ▸ docs
    module := ⟨fields.module, fills.module, module⟩
    tools := ⟨json, tabled, writes⟩ }

/-- What stands for itself is filled in as it is. -/
theorem strings_of_embeds (fills : Fills spec moduleName credentialSource fields) (embeds : Embeds named spec moduleName)
    (scheme : verbatim spec.authScheme.toList = true) :
    spec.strings? fields.credentialSource = some fields.strings ∧ PlainStrings fields := by
  obtain ⟨location, located, locationPlain⟩ := embeds.authLocation
  obtain ⟨name, authNamed, namePlain⟩ := embeds.authName
  obtain ⟨title, titled, titlePlain⟩ := embeds.title
  obtain ⟨version, versionPlain⟩ := embeds.version
  obtain ⟨source, _, chosen⟩ := fills.source
  obtain ⟨title', titled', replaced⟩ := fills.title
  have noQuote : '"' ∉ title.toList := by
    intro inside
    apply verbatim_noQuote titlePlain
    rw [String.toList_append, List.mem_append]
    exact .inl inside
  have sameTitle : fields.title = title := by
    rw [replaced, Json.str.inj (titled'.symm.trans titled), replaceLetter_of_absent noQuote]
  have sameLocation : fields.authLocation = location := by rw [fills.authLocation, located]; rfl
  have sameName : fields.authName = name := by rw [fills.authName, authNamed]; rfl
  have sameVersion : fields.version = spec.version := by rw [fills.version, if_neg version]
  have strings : fields.strings = [spec.baseUrl, spec.authScheme, location, name, spec.secretRef, fields.credentialSource,
      title ++ " (MCP)", spec.version] := by
    rw [Fields.strings, fills.baseUrl, fills.authScheme, sameLocation, sameName, fills.secretRef, sameTitle, sameVersion]
  constructor
  · rw [strings, WrapSpec.strings?, located, authNamed, titled]
  · intro text member
    rw [strings] at member
    simp only [List.mem_cons, List.not_mem_nil, or_false] at member
    rcases member with rfl | rfl | rfl | rfl | rfl | rfl | rfl | rfl
    · exact embeds.baseUrl
    · exact scheme
    · exact locationPlain
    · exact namePlain
    · exact embeds.secretRef
    · exact chosen ▸ value_verbatim source
    · exact titlePlain
    · exact versionPlain

omit [Host] in
theorem strings_read (plain : PlainStrings fields) (rest : List Char) :
    readStrings named Fields.stringCodes
      ((withStrings (Fields.stringCodes.zip fields.strings)).toList ++ (Fields.tableCode.toList ++ rest)) =
        some (fields.strings.map points, Fields.tableCode.toList ++ rest) := by
  have codes : (Fields.stringCodes.zip fields.strings).map Prod.fst = Fields.stringCodes := rfl
  have texts : (Fields.stringCodes.zip fields.strings).map Prod.snd = fields.strings := rfl
  have each : (Fields.stringCodes.zip fields.strings).map (fun pair => points pair.2) = fields.strings.map points := by
    rw [← texts, List.map_map]
    rfl
  have read := @readStrings_verbatim named _ _ (strings_closed fields rest)
    (fun pair member => plain pair.2 (List.of_mem_zip member).2)
  rw [codes, each] at read
  exact read

theorem faithful_of_embeds (numerals : Numerals) {text : String} (generated : generate spec moduleName credentialSource = .ok text)
    (scheme : verbatim spec.authScheme.toList = true) (embeds : Embeds named spec moduleName) :
    Faithful named spec moduleName credentialSource text := by
  obtain ⟨fields, filled, rfl⟩ := (map_eq_ok _ _ _).mp generated
  have fills := fills_of_fieldsOf filled
  obtain ⟨found, plain⟩ := strings_of_embeds fills embeds scheme
  obtain ⟨module, moduled, modulePlain⟩ := embeds.module
  obtain ⟨json, tabled, writes⟩ := embeds.tools
  obtain ⟨listed, toolsOk, dumped⟩ := fills.tools
  obtain ⟨last, ended⟩ := heading_last fields
  have sameModule : module = fields.module := Except.ok.inj (moduled.symm.trans fills.module)
  have quiet : inert named (last ++ ['\n']) = true := by
    rw [← ended]
    apply (heading_inert_iff plain).mpr
    exact ⟨fills.docsUrl ▸ embeds.docs, sameModule ▸ modulePlain⟩
  obtain ⟨literal, printed, _⟩ := literal_of_writable json.sorted maxBrackets (writable_sorted json maxBrackets ▸ writes)
  have value : readValue named maxBrackets (fields.toolsLiteral.toList ++ (unlines Fields.handlerLines).toList) =
      some (literal, (unlines Fields.handlerLines).toList) := by
    have read := @readTools _ named numerals json.sorted
    rw [printed, ← dumpTools_of_table toolsOk tabled dumped] at read
    exact read
  have marked (rest : List Char) : (Fields.tableCode.toList ++ rest).dropPrefix? Fields.tableCode.toList = some rest :=
    List.dropPrefix?_append_of_beq _ (beq_self_eq_true _)
  have block (rest : List Char) : readBlock named ('"' :: '"' :: '"' :: (fields.heading.toList ++ '"' :: '"' :: '"' :: rest)) =
      some (fields.heading.toList, rest) := by
    rw [ended]
    exact readBlock_inert (by decide) quiet rest
  have read := readWrapper_of_parts (block _) (strings_read plain _) (marked _) value
  rw [← toList_text] at read
  refine ⟨fields, _, filled, read, ⟨rfl, ⟨fields.strings, found, rfl⟩, ?_⟩⟩
  obtain ⟨meant, sorted, denotes⟩ := (denotes_iff printed).mpr writes
  exact ⟨json, meant, tabled, sorted, denotes⟩

omit [Host] in
/-- The schemes that are known are words. -/
theorem authRounds_scheme {declared : List (String × Json)} {auth : Auth} (read : authRounds declared = .ok auth) :
    auth.scheme ∈ ["none", "bearer", "basic", "apiKey", "oauth2"] := by
  induction declared with
  | nil =>
    cases Except.ok.inj read
    exact List.mem_cons_self ..
  | cons first rest ih =>
    obtain ⟨name, value⟩ := first
    rw [authRounds, bind_eq_ok] at read
    obtain ⟨type, _, read⟩ := read
    by_cases http : type = .str "http"
    · rw [if_pos http, bind_eq_ok] at read
      obtain ⟨scheme, _, same⟩ := read
      cases (pure_eq_ok _ _).mp same
      dsimp only
      split <;> simp
    by_cases key : type = .str "apiKey"
    · rw [if_neg http, if_pos key, bind_eq_ok] at read
      obtain ⟨location, _, read⟩ := read
      obtain ⟨name, _, same⟩ := (bind_eq_ok _ _ _).mp read
      cases (pure_eq_ok _ _).mp same
      simp
    by_cases other : type = .str "oauth2" ∨ type = .str "openIdConnect"
    · rw [if_neg http, if_neg key, if_pos other] at read
      cases (pure_eq_ok _ _).mp read
      simp
    · rw [if_neg http, if_neg key, if_neg other] at read
      exact ih read

theorem parsed_scheme {document : Json} {options : ParseOptions} (parsed : parseOpenapi document options = .ok spec) :
    verbatim spec.authScheme.toList = true := by
  have known : spec.authScheme ∈ ["none", "bearer", "basic", "apiKey", "oauth2"] := by
    unfold parseOpenapi at parsed
    split at parsed
    next => cases parsed
    next =>
      obtain ⟨keys, _, parsed⟩ := (bind_eq_ok _ _ _).mp parsed
      split at parsed
      next => cases parsed
      next =>
        obtain ⟨info, _, parsed⟩ := (bind_eq_ok _ _ _).mp parsed
        obtain ⟨base, _, parsed⟩ := (bind_eq_ok _ _ _).mp parsed
        obtain ⟨auth, found, parsed⟩ := (bind_eq_ok _ _ _).mp parsed
        obtain ⟨listed, _, parsed⟩ := (bind_eq_ok _ _ _).mp parsed
        obtain ⟨paths, _, parsed⟩ := (bind_eq_ok _ _ _).mp parsed
        obtain ⟨read, _, parsed⟩ := (bind_eq_ok _ _ _).mp parsed
        split at parsed
        next => cases parsed
        next =>
          simp only [bind_eq_ok, pure_eq_ok] at parsed
          obtain ⟨id, _, title, _, stated, _, version, _, described, _, description, _, docsUrl, _, rfl⟩ := parsed
          simp only [authOf, bind_eq_ok] at found
          obtain ⟨_, _, _, _, declared, _, rounds⟩ := found
          exact authRounds_scheme rounds
  have words : ∀ word ∈ ["none", "bearer", "basic", "apiKey", "oauth2"], verbatim word.toList = true := by decide
  exact words _ known

/-- What is generated from a document says what its specification says just where all of that stands for itself in the text. -/
theorem generated_faithful_iff (numerals : Numerals) {document : Json} {options : ParseOptions} {text : String}
    (parsed : parseOpenapi document options = .ok spec) (generated : generate spec moduleName credentialSource = .ok text) :
    Faithful named spec moduleName credentialSource text ↔ Embeds named spec moduleName :=
  ⟨embeds_of_faithful numerals generated, faithful_of_embeds numerals generated (parsed_scheme parsed)⟩

end Reading

section Sample

local instance petsHost : Host := decimalHost []

/-- An API with one operation at a URL. -/
def petsDocument (url : String) : Json := .dict [
  ("openapi", .str "3.1.0"), ("info", .dict [("title", .str "Pets"), ("version", .str "1")]),
  ("servers", .list [.dict [("url", .str url)]]),
  ("paths", .dict [("/pets", .dict [("get", .dict [
    ("operationId", .str "listPets"),
    ("parameters", .list [.dict [("name", .str "limit"), ("schema", .dict [("type", .str "integer")])]])])])])]

def petsSpec (url : String) : WrapSpec where
  id := "pets"
  title := .str "Pets"
  baseUrl := url
  version := "1"
  credentialSource := .none
  operations := [{
    operationId := "listPets", method := "get", path := "/pets", summary := .str ""
    parameters := [.dict [("name", .str "limit"), ("schema", .dict [("type", .str "integer")])]]
    hasBody := false, bodyRequired := false, destructive := false }]

def petsUrl : String := "https://pets.example/v1"

theorem pets_embed (named : List Char → Option Nat) : Embeds named (petsSpec petsUrl) "" where
  baseUrl := by decide
  authLocation := ⟨"", rfl, rfl⟩
  authName := ⟨"", rfl, rfl⟩
  secretRef := rfl
  title := ⟨"Pets", rfl, by decide⟩
  version := ⟨by decide, by decide⟩
  docs := rfl
  module := ⟨"mcp_pets", rfl, rfl⟩
  tools := by
    apply (Option.any_eq_true _ _).mp
    decide +kernel

theorem pets_are_faithful : ∃ text, generate (petsSpec petsUrl) "" "" = .ok text ∧
    Faithful (fun _ => none) (petsSpec petsUrl) "" "" text := by
  have parsed : parseOpenapi (petsDocument petsUrl) {} = .ok (petsSpec petsUrl) := rfl
  obtain ⟨text, generated⟩ : ∃ text, generate (petsSpec petsUrl) "" "" = .ok text := by
    apply ok_of_isSome
    decide +kernel
  exact ⟨text, generated, (generated_faithful_iff (decimalHost_numerals []) parsed generated).mpr (pets_embed _)⟩

/-- A URL that closes the string it is written into and goes on as code. -/
def codeUrl : String := "https://pets.example/\"\nimport os; os.system(\"id\")\nX = \"v1"

/-- The URL is taken from the document as it is, and the text runs what is in it. -/
theorem url_becomes_code : ∃ document spec text, parseOpenapi document {} = .ok spec ∧ generate spec "" "" = .ok text ∧
    ∀ named, ¬ Faithful named spec "" "" text := by
  have parsed : parseOpenapi (petsDocument codeUrl) {} = .ok (petsSpec codeUrl) := rfl
  obtain ⟨text, generated⟩ : ∃ text, generate (petsSpec codeUrl) "" "" = .ok text := by
    apply ok_of_isSome
    decide +kernel
  refine ⟨_, _, text, parsed, generated, ?_⟩
  intro named faithful
  have plain := (embeds_of_faithful (decimalHost_numerals []) generated faithful).baseUrl
  have quote : verbatim codeUrl.toList = false := by decide
  rw [show (petsSpec codeUrl).baseUrl = codeUrl from rfl, quote] at plain
  cases plain

end Sample

end Xcp.Connectors
