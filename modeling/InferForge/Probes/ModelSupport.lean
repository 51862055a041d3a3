import InferForge.Validators.Scan
import InferForge.Py.Template
import InferForge.Py.Ordered
import InferForge.Py.Split
import InferForge.Py.Loads

/-! What will run an architecture: the installed stack first, then vLLM main, then open pull requests. -/
namespace InferForge
open Py ResultValidation Effect

namespace ModelScan

/-! ## Patterns -/

/-- What a pattern captures where the codes start, and how many of them it takes; the code before
them is the first argument. -/
abbrev Pattern := Option CodePoint → List CodePoint → Option (Text × Nat)

def findFrom (pattern : Pattern) : Option CodePoint → Nat → List CodePoint → List Text
  | _, _, [] => []
  | _, skip + 1, c :: rest => findFrom pattern (some c) skip rest
  | before, 0, c :: rest =>
      match pattern before (c :: rest) with
      | some (found, width) => found :: findFrom pattern (some c) (width - 1) rest
      | none => findFrom pattern (some c) 0 rest

/-- `pattern.findall(text)`. -/
def findall (pattern : Pattern) (t : Text) : List Text := findFrom pattern none 0 t.codes

/-- The codes after a literal. -/
def after (literal : Text) (codes : List CodePoint) : Option (List CodePoint) :=
  if literal.codes.isPrefixOf codes then some (codes.drop literal.codes.length) else none

def registerCall : Pattern := fun _ codes => do
  let opened ← after "register_model(" codes
  let quoted ← after "\"" (opened.dropWhile Text.isSpace)
  let name := quoted.takeWhile Text.isWord
  let closed ← after "\"" (quoted.dropWhile Text.isWord)
  if name.isEmpty then none else some (⟨name⟩, codes.length - closed.length)

/-- `HARD_IMPORT`, at the start of a line. -/
def hardImport : Pattern := fun before codes => do
  let started := before.all (· = 10)
  let line := codes.dropWhile Text.isSpace
  let keyword ← (after "from" line).or (after "import" line)
  let module := keyword.dropWhile Text.isSpace
  let name := module.takeWhile Text.isWord
  let letter := name.head?.any fun c => !(48 ≤ c.val && c.val ≤ 57)
  if started && module.length < keyword.length && letter then
    some (⟨name⟩, codes.length - (module.dropWhile Text.isWord).length)
  else none

/-- A character of a lower-case name. -/
def isLower (c : CodePoint) : Bool := (97 ≤ c.val && c.val ≤ 122) || c.val == 95

/-- `CUSTOM_OP_CALL`, where no word goes on. -/
def customOpCall (wordChar : CodePoint → Bool) : Pattern := fun before codes => do
  let op ← after "ops." codes
  let name := op.takeWhile fun c => isLower c || (48 ≤ c.val && c.val ≤ 57)
  let called ← after "(" (op.drop name.length)
  if !before.any wordChar && name.head?.any isLower then some (⟨name⟩, codes.length - called.length) else none

/-! ## Surroundings -/

/-- An entry of the model registry. -/
structure Entry where
  /-- `module_name or ""`. -/
  moduleName : Text
  /-- The origin of the module's spec, empty if there is none, or what `find_spec` raises. -/
  origin : Except Text Text
  /-- The module of the model class, or what loading the class raises. -/
  modelClass : Except Text Text

/-- The installed stack. -/
structure Runtime where
  /-- `vllm.__version__`. -/
  version : Text
  /-- The source of the plugin's `register_model`. -/
  registerSource : Text
  supported : List Text
  models : Text → Option Entry
  listdir : Text → Except Exn (List Text)
  isdir : Text → Bool
  /-- The readable Python files below a directory. -/
  sources : Text → List Text
  /-- What importing a module raises. -/
  importError : Text → Option Text
  /-- The registered operators of `torch.ops._C`, if there is such a namespace. -/
  customOps : Option (Text → Bool)
  /-- Word characters, beyond ASCII too. -/
  wordChar : CodePoint → Bool

/-- What the upstream sites answer: a status, or 0 for none, and a body. -/
structure Upstream where
  fetch : Text → Nat × Text
  /-- What `json.loads` says about a text that is no document. -/
  decodeError : Text → Text
  /-- What it raises that is no `JSONDecodeError`: a `RecursionError`, or the `ValueError` of an integer
  with more than 4300 digits. -/
  escapes : Text → Option Exn
  floats : FloatText

def mainRegistryUrl : Text :=
  "https://raw.githubusercontent.com/vllm-project/vllm/main/vllm/model_executor/models/registry.py"

def prSearchUrl (arch : Text) : Text :=
  "https://api.github.com/search/issues?q=repo:vllm-project/vllm+is:pr+is:open+in:title+" ++ arch

def backendDirs : List Text := ["nvidia", "amd", "cuda", "rocm", "xpu", "cpu", "tpu", "hpu", "neuron"]

/-- `UNINTERESTING`: modules that every implementation imports. -/
def uninteresting : List Text :=
  ["torch", "vllm", "typing", "collections", "dataclasses", "math", "os", "sys", "functools", "itertools",
    "enum", "abc", "copy", "json", "re", "warnings", "logging", "numpy", "transformers", "einops", "regex"]

def dirname (path : Text) : Text :=
  let head := (path.codes.reverse.dropWhile (· ≠ 47)).reverse
  if head.all (· = 47) then ⟨head⟩ else ⟨(head.reverse.dropWhile (· = 47)).reverse⟩

/-- `os.path.join`. -/
def joinPath (base name : Text) : Text :=
  if name.startsWith "/" then name
  else if base.isEmpty || base.codes.getLast? = some 47 then base ++ name
  else base ++ "/" ++ name

/-! ## The installed stack -/

section Installed
variable (runtime : Runtime)

def kunlunOot : List Text := sortedSet (findall registerCall runtime.registerSource)

def installedState (arch : Text) : Dict :=
  [("vllm_version", .str runtime.version), ("kunlun_oot_archs", .arr ((kunlunOot runtime).map .str)),
    ("in_kunlun_oot", .bool (arch ∈ kunlunOot runtime)), ("in_installed_vllm", .bool (arch ∈ runtime.supported)),
    ("installed_arch_count", .int runtime.supported.length)]

/-- Imports that do not import here, and custom operators that are not registered here. -/
structure Missing where
  modules : List (Text × Text)
  ops : List Text

def Missing.toJson (missing : Missing) : Json :=
  .obj [("unimportable_modules", .arr (missing.modules.map fun (name, raised) =>
      .obj [("module", .str name), ("error", .str raised)])),
    ("unregistered_custom_ops", .arr (missing.ops.map .str))]

def Missing.isEmpty (missing : Missing) : Bool := missing.modules.isEmpty && missing.ops.isEmpty

def missingDependencies (sources : List Text) : Missing :=
  let joined := Text.join "\n" sources
  { modules := (sortedSet (findall hardImport joined)).filterMap fun name =>
      if name ∈ uninteresting || name.startsWith "_" then none
      else (runtime.importError name).map fun raised => (name, raised)
    ops :=
      match runtime.customOps with
      | none => []
      | some registered =>
          (sortedSet (findall (customOpCall runtime.wordChar) joined)).filter fun name => !registered name }

/-- The backend directories of a package. -/
def siblings (packageDir : Text) (names : List Text) : List Text :=
  (names.filter fun name => name ∈ backendDirs && runtime.isdir (joinPath packageDir name)).mergeSort
    fun a b => Json.codesLe a.codes b.codes

/-- The sources of all backends, which are read when none of them can be selected. -/
def siblingSources (packageDir : Text) (names : List Text) : List Text :=
  ((siblings runtime packageDir names).filter (· ≠ ("common" : Text))).flatMap fun name =>
    runtime.sources (joinPath packageDir name)

/-- The backend that a module's name shows. -/
def selectedVariant (module : Text) : Option Text :=
  ((module.codes.splitOn 46).map Text.mk).find? (· ∈ backendDirs)

def scanDirs (packageDir : Text) (names : List Text) (selected : Option Text) : List Text :=
  (match selected with
    | some name => joinPath packageDir name
    | none => packageDir) ::
  if ("common" : Text) ∈ names then [joinPath packageDir "common"] else []

/-- The dependencies that the selected backend misses. -/
def selectedMissing (packageDir : Text) (names : List Text) (module : Text) : Missing :=
  missingDependencies runtime
    ((scanDirs packageDir names (selectedVariant module)).flatMap runtime.sources)

/-- What the inspection of several backends adds. -/
def selection (packageDir : Text) (names : List Text) : Except Text Text → Dict
  | .error raised =>
      [("selection_error", .str raised), ("selected_variant", .str "UNRESOLVED"),
        ("variant_hard_dependencies",
          (missingDependencies runtime (siblingSources runtime packageDir names)).toJson),
        ("variant_is_runnable_here", .bool false)]
  | .ok module =>
      let missing := selectedMissing runtime packageDir names module
      [("selected_variant", ((selectedVariant module).map Json.str).getD .null),
        ("scanned", .arr ((scanDirs packageDir names (selectedVariant module)).map .str)),
        ("variant_hard_dependencies", missing.toJson), ("variant_is_runnable_here", .bool missing.isEmpty)]

/-- What the inspection of a package adds. -/
def packageState (packageDir : Text) (names : List Text) (modelClass : Except Text Text) : Dict :=
  let present := siblings runtime packageDir names
  let result : Dict :=
    [("backend_variants_present", .arr (present.map .str)), ("vendored_per_backend", .bool (1 < present.length))]
  if present.length < 2 then result else result.append (selection runtime packageDir names modelClass)

/-- The end of an inspection that found nothing to look at. -/
def lookupError (message : Text) : Dict :=
  [("lookup_error", .str message), ("vendored_per_backend", .str "UNKNOWN")]

def backendVariant (arch : Text) : Except Exn Dict :=
  let inspected : Dict := [("inspected", .bool true)]
  match runtime.models arch with
  | none => .ok (inspected.append (lookupError "not in ModelRegistry.models"))
  | some entry =>
      let result := inspected.append [("registry_module", .str entry.moduleName)]
      match entry.origin with
      | .error raised => .ok (result.append (lookupError raised))
      | .ok origin =>
          if origin.isEmpty then .ok (result.append (lookupError "no file origin"))
          else do
            let names ← runtime.listdir (dirname origin)
            return result.append (packageState runtime (dirname origin) names entry.modelClass)

end Installed

/-! ## Upstream -/

section Upstream
variable (upstream : Upstream)

def lookupState (found : Bool) : Text := if found then "FOUND" else "NOT_FOUND"

def upstreamState (arch : Text) : Dict :=
  let (status, body) := upstream.fetch mainRegistryUrl
  if status ≠ 200 then
    [("main_lookup", .str "UNKNOWN"),
      ("detail", .str (mainRegistryUrl ++ " -> " ++ Text.ofNat status ++ " " ++ body.upTo 200))]
  else
    [("main_lookup", .str (lookupState (body.holds arch))),
      ("detail", .str (Text.ofNat body.codes.length ++ " bytes"))]

/-- What is kept of a search hit. -/
def pullRequest (item : Json) : Except Exn Json := do
  return .obj [("number", ← item.field "number"), ("title", ← item.field "title"), ("url", ← item.field "html_url")]

def pullRequestState (arch : Text) : Except Exn Dict :=
  let (status, body) := upstream.fetch (prSearchUrl arch)
  if status ≠ 200 then
    .ok [("pr_lookup", .str "UNKNOWN"),
      ("detail", .str ("search -> " ++ Text.ofNat status ++ " " ++ body.upTo 200))]
  else
    match upstream.escapes body, loads upstream.floats body.codes with
    | some e, _ => .error e
    | none, none => .ok [("pr_lookup", .str "UNKNOWN"), ("detail", .str (upstream.decodeError body))]
    | none, some payload => do
        let found := (← payload.get "items").getD (.arr [])
        let items ← (← found.elements).mapM pullRequest
        return [("pr_lookup", .str (lookupState !items.isEmpty)), ("pull_requests", .arr items)]

end Upstream

/-! ## The verdict -/

/-- `result["verdict"]` and `result["meaning"]`. -/
def conclude (result : Dict) (verdict meaning : Text) : Dict :=
  result.append [("verdict", .str verdict), ("meaning", .str meaning)]

section Classify
variable (runtime : Runtime) (upstream : Upstream)

/-- The end of `classify` for an architecture that vLLM knows. -/
def concludeInstalled (result variant : Dict) : Dict :=
  let result := result.append [("backend_variant", .obj variant)]
  if (Dict.getD variant "vendored_per_backend" .null).isTrue &&
      (Dict.getD variant "variant_is_runnable_here" .null).isFalse then
    conclude result "UPSTREAM_VENDORED_VARIANT"
      ("the architecture resolves, but upstream ships it once per accelerator and the " ++
        "variant selected here was written for other hardware: its hard dependencies are " ++
        "listed and are missing, so this is adaptation work, not a ready implementation")
  else
    conclude result "UPSTREAM_GENERIC"
      ("the installed vLLM implementation is used; the absence of a Kunlun OOT model is " ++
        "not a gap, so a runtime failure points at an operator or backend, not at networking")

/-- The end of `classify` after both upstream lookups. -/
def concludeUpstream (result : Dict) : Dict :=
  let main := Dict.getD result "main_lookup" .null
  let pr := Dict.getD result "pr_lookup" .null
  if pr.eq (.str "FOUND") then
    conclude result "PR_PENDING" "an open upstream pull request adds it: wait for merge or cherry-pick"
  else if main.eq (.str "UNKNOWN") || pr.eq (.str "UNKNOWN") then
    conclude result "UNKNOWN_UPSTREAM" "upstream could not be reached; absence cannot be concluded"
  else conclude result "ABSENT" "no implementation anywhere: a model file has to be written"

def installedResult (arch : Text) : Dict := ("architecture", .str arch) :: installedState runtime arch

def classify (arch : Text) : Except Exn Dict := do
  let result := installedResult runtime arch
  if arch ∈ kunlunOot runtime then
    return conclude result "KUNLUN_OOT" "a Kunlun-specific implementation is registered and will be used"
  else if arch ∈ runtime.supported then
    return concludeInstalled result (← backendVariant runtime arch)
  else
    let result := result.append (upstreamState upstream arch)
    if (Dict.getD result "main_lookup" .null).eq (.str "FOUND") then
      return conclude result "MAIN_ONLY" "merged upstream but not in the installed version: upgrade or cherry-pick"
    else return concludeUpstream (Dict.merge result (← pullRequestState upstream arch))

end Classify

/-! ## When the verdicts are truthful -/

/-- The text declares the name, in either kind of quotes. -/
def Declared (body arch : Text) : Prop :=
  body.holds ("\"" ++ arch ++ "\"") = true ∨ body.holds ("'" ++ arch ++ "'") = true

/-- Both upstream lookups completed, and neither found the name. -/
structure NotFound (upstream : Upstream) (arch : Text) : Prop where
  main : (upstream.fetch mainRegistryUrl).1 = 200
  undeclared : (upstream.fetch mainRegistryUrl).2.holds arch = false
  search : (upstream.fetch (prSearchUrl arch)).1 = 200
  hits : ∃ fields, loads upstream.floats (upstream.fetch (prSearchUrl arch)).2.codes = some (.obj fields) ∧
    (Dict.getD fields "items" (.arr [])).elements = .ok []

/-- A scan of one architecture in a Pod. -/
def card (proxy pod : Text) (model : Json) (entry : Dict) : Dict :=
  [("state", .str "SCAN_READY"), ("proxy", .str proxy), ("results", .arr [.obj entry]),
    ("scanned_in", .str pod), ("model", model)]

/-- A result that the validator accepts, whose verdict says no more than the lookups found. -/
structure Truthful (host : Host) (upstream : Upstream) (arch : Text) (entry : Dict) : Prop where
  accepted : ∀ proxy pod model acceptance, pod.isEmpty = false →
    validateSupportCard host (card proxy pod model entry) [("acceptance", .obj acceptance)] = .ok []
  declared : Dict.getD entry "verdict" .null = .str "MAIN_ONLY" → Declared (upstream.fetch mainRegistryUrl).2 arch
  missed : Dict.getD entry "verdict" .null = .str "ABSENT" → NotFound upstream arch

/-- A search response that reports a list of objects. -/
def Searchable (payload : Json) : Prop :=
  ∃ fields items, payload = .obj fields ∧ (Dict.getD fields "items" (.arr [])).elements = .ok items ∧
    ∀ item ∈ items, item.isDict = true

/-- A search response that is no document, or reports a list of objects. -/
structure Readable (upstream : Upstream) (body : Text) : Prop where
  decoded : upstream.escapes body = none
  searchable : ∀ payload, loads upstream.floats body.codes = some payload → Searchable payload

/-- The package of an installed model names the backend whose dependencies are missing. -/
def VariantSound (runtime : Runtime) (arch : Text) : Prop :=
  ∀ entry origin, runtime.models arch = some entry → entry.origin = .ok origin → origin.isEmpty = false →
    ∃ names, runtime.listdir (dirname origin) = .ok names ∧
      (2 ≤ (siblings runtime (dirname origin) names).length →
        match entry.modelClass with
        | .error _ => (missingDependencies runtime (siblingSources runtime (dirname origin) names)).isEmpty = false
        | .ok module => (selectedVariant module).isSome = true ∨
            (selectedMissing runtime (dirname origin) names module).isEmpty = true)

/-- The upstream registry does not mention the name unquoted only, and the search is readable. -/
structure UpstreamSound (upstream : Upstream) (arch : Text) : Prop where
  quoted : (upstream.fetch mainRegistryUrl).1 = 200 → (upstream.fetch mainRegistryUrl).2.holds arch = true →
    Declared (upstream.fetch mainRegistryUrl).2 arch
  readable : ¬((upstream.fetch mainRegistryUrl).1 = 200 ∧ (upstream.fetch mainRegistryUrl).2.holds arch = true) →
    (upstream.fetch (prSearchUrl arch)).1 = 200 → Readable upstream (upstream.fetch (prSearchUrl arch)).2

def Sound (runtime : Runtime) (upstream : Upstream) (arch : Text) : Prop :=
  arch ∉ kunlunOot runtime →
    (arch ∈ runtime.supported → VariantSound runtime arch) ∧ (arch ∉ runtime.supported → UpstreamSound upstream arch)

section Verdicts
variable {host : Host} {runtime : Runtime} {upstream : Upstream} {arch name : Text} {entry : Dict}

theorem card_accepted (listed : (Dict.getD entry "kunlun_oot_archs" .null).isList = true) :
    (∀ proxy pod model acceptance, pod.isEmpty = false →
      validateSupportCard host (card proxy pod model entry) [("acceptance", .obj acceptance)] = .ok []) ↔
    entryErrors host entry = .ok [] := by
  constructor
  · intro accepted
    obtain ⟨entries, same, _, each⟩ := validateSupportCard_nil (accepted "" "pod" .null [] rfl)
    have results : Dict.getD (card "" "pod" .null entry) "results" .null = .arr [.obj entry] := rfl
    rw [results, Json.arr.injEq] at same
    cases entries with
    | nil => cases same
    | cons first rest =>
      obtain rfl := Json.obj.inj (List.cons.inj same).1
      exact each entry List.mem_cons_self
  · intro checked proxy pod model acceptance filled
    have state : (Dict.getD (card proxy pod model entry) "state" .null).eq (.str "SCAN_READY") = true := rfl
    have named : (Dict.getD (card proxy pod model entry) "scanned_in" .null).truthy = !pod.isEmpty := rfl
    have results : (Dict.getD (card proxy pod model entry) "results" .null).or (.arr []) = .arr [.obj entry] := rfl
    have terms : subsection (.obj [("acceptance", .obj acceptance)]) "acceptance" = .ok acceptance :=
      subsection_obj rfl
    have evidence : evidenceErrors host acceptance [.obj entry] = .ok [] := by
      unfold evidenceErrors
      split
      · have none : registryErrors host entry = [] := errorIf_iff_nil.mpr (by rw [listed]; rfl)
        simp [asMapping, none]
      · rfl
    have each : eachErrors (entryErrors host) [.obj entry] = .ok [] := by
      simp [eachErrors, asMapping, checked]
    simp only [validateSupportCard, state, named, results, Json.elements, each, terms, evidence, ok_bind, filled]
    rfl

theorem truthful_iff (concluded : Concluded entry arch name) (known : name ∈ verdicts) :
    Truthful host upstream arch entry ↔
      (name = "MAIN_ONLY" → Declared (upstream.fetch mainRegistryUrl).2 arch) ∧
      (name = "ABSENT" → NotFound upstream arch ∧ absentErrors host arch entry = []) ∧
      (name = "PR_PENDING" → (Dict.getD entry "pull_requests" .null).truthy = true) ∧
      (name = "KUNLUN_OOT" → (Dict.getD entry "in_kunlun_oot" .null).truthy = true) ∧
      (name = "UPSTREAM_GENERIC" → genericErrors host arch entry = .ok []) ∧
      (name = "UPSTREAM_VENDORED_VARIANT" → vendoredErrors arch entry = .ok []) := by
  have judged := concluded.judged
  constructor
  · rintro ⟨accepted, declared, missed⟩
    rw [card_accepted concluded.listed, entryErrors_iff concluded known] at accepted
    rw [judged, Json.str.injEq] at declared missed
    obtain ⟨absent, rest⟩ := accepted
    exact ⟨declared, fun here => ⟨missed here, absent here⟩, rest⟩
  · rintro ⟨declared, absent, rest⟩
    refine ⟨?_, ?_, ?_⟩
    · rw [card_accepted concluded.listed, entryErrors_iff concluded known]
      exact ⟨fun here => (absent here).2, rest⟩
    · rwa [judged, Json.str.injEq]
    · rw [judged, Json.str.injEq]
      exact fun here => (absent here).1

theorem oot_truthful (registered : arch ∈ kunlunOot runtime) :
    Truthful host upstream arch (conclude (installedResult runtime arch) "KUNLUN_OOT"
      "a Kunlun-specific implementation is registered and will be used") := by
  rw [truthful_iff ⟨rfl, rfl, rfl, rfl⟩ (by decide)]
  simp +decide only [false_implies, true_implies, true_and, and_true]
  have known : Dict.getD (conclude (installedResult runtime arch) "KUNLUN_OOT"
      "a Kunlun-specific implementation is registered and will be used") "in_kunlun_oot" .null =
        .bool (arch ∈ kunlunOot runtime) := rfl
  rw [known]
  simp [Json.truthy, registered]

theorem upstreamState_eq (upstream : Upstream) (arch : Text) : ∃ main detail, upstreamState upstream arch =
      ([("main_lookup", .str main), ("detail", .str detail)] : Dict) ∧
    (main = "UNKNOWN" ∧ (upstream.fetch mainRegistryUrl).1 ≠ 200 ∨
      main = lookupState ((upstream.fetch mainRegistryUrl).2.holds arch) ∧ (upstream.fetch mainRegistryUrl).1 = 200) := by
  unfold upstreamState
  by_cases answered : (upstream.fetch mainRegistryUrl).1 = 200
  · simp only [answered, ne_eq, not_true_eq_false, if_false]
    exact ⟨_, _, rfl, .inr ⟨rfl, trivial⟩⟩
  · simp only [answered, ne_eq, not_false_eq_true, if_true]
    exact ⟨_, _, rfl, .inl ⟨rfl, trivial⟩⟩

theorem mainOnly_truthful (main detail : Json) :
    Truthful host upstream arch (conclude ((installedResult runtime arch).append
        [("main_lookup", main), ("detail", detail)]) "MAIN_ONLY"
      "merged upstream but not in the installed version: upgrade or cherry-pick") ↔
        Declared (upstream.fetch mainRegistryUrl).2 arch := by
  have concluded : Concluded (conclude ((installedResult runtime arch).append
      [("main_lookup", main), ("detail", detail)]) "MAIN_ONLY"
        "merged upstream but not in the installed version: upgrade or cherry-pick") arch "MAIN_ONLY" :=
    ⟨rfl, rfl, rfl, rfl⟩
  rw [truthful_iff concluded (by decide)]
  simp +decide only [false_implies, true_implies, and_true]

theorem lookupState_found {found : Bool} : lookupState found = "FOUND" ↔ found = true := by
  cases found <;> decide

/-- What a pull-request search can say. -/
theorem pullRequestState_cases {state : Dict} (searched : pullRequestState upstream arch = .ok state) :
    (∃ detail, state = ([("pr_lookup", .str "UNKNOWN"), ("detail", .str detail)] : Dict)) ∨
    (∃ items, items ≠ [] ∧ state = ([("pr_lookup", .str "FOUND"), ("pull_requests", .arr items)] : Dict)) ∨
    (state = ([("pr_lookup", .str "NOT_FOUND"), ("pull_requests", .arr [])] : Dict) ∧
      (upstream.fetch (prSearchUrl arch)).1 = 200 ∧
      ∃ fields, loads upstream.floats (upstream.fetch (prSearchUrl arch)).2.codes = some (.obj fields) ∧
        (Dict.getD fields "items" (.arr [])).elements = .ok []) := by
  unfold pullRequestState at searched
  by_cases answered : (upstream.fetch (prSearchUrl arch)).1 = 200
  · simp only [answered, ne_eq, not_true_eq_false, if_false] at searched
    have decoded : upstream.escapes (upstream.fetch (prSearchUrl arch)).2 = none := by
      by_contra escapes
      obtain ⟨e, raised⟩ := Option.ne_none_iff_exists'.mp escapes
      simp [raised] at searched
    cases parsed : loads upstream.floats (upstream.fetch (prSearchUrl arch)).2.codes with
    | none =>
      rw [parsed, decoded] at searched
      obtain rfl := Except.ok.inj searched
      exact .inl ⟨_, rfl⟩
    | some payload =>
      simp only [parsed, decoded, bind_ok, pure_ok] at searched
      obtain ⟨found, read, hits, visited, items, kept, rfl⟩ := searched
      cases items with
      | cons first rest => exact .inr (.inl ⟨first :: rest, List.cons_ne_nil _ _, rfl⟩)
      | nil =>
        have none : hits = [] := by
          have pairs := mapM_forall₂.mp kept
          exact List.forall₂_nil_right_iff.mp pairs
        subst none
        cases payload with
        | obj fields =>
          obtain rfl := Except.ok.inj read
          exact .inr (.inr ⟨rfl, answered, fields, rfl, visited⟩)
        | _ => cases read
  · simp only [answered, ne_eq, not_false_eq_true, if_true] at searched
    obtain rfl := Except.ok.inj searched
    exact .inl ⟨_, rfl⟩

theorem pullRequest_isDict {item : Json} : (∃ kept, pullRequest item = .ok kept) ↔ item.isDict = true := by
  cases item with
  | obj fields => exact ⟨fun _ => rfl, fun _ => ⟨_, rfl⟩⟩
  | _ => exact ⟨fun ⟨_, kept⟩ => (nomatch kept), nofun⟩

/-- The search says something if it cannot be read as a document, or reports a list of objects. -/
theorem pullRequestState_ok : (∃ state, pullRequestState upstream arch = .ok state) ↔
    ((upstream.fetch (prSearchUrl arch)).1 = 200 → Readable upstream (upstream.fetch (prSearchUrl arch)).2) := by
  unfold pullRequestState
  by_cases answered : (upstream.fetch (prSearchUrl arch)).1 = 200
  · simp only [answered, ne_eq, not_true_eq_false, if_false, true_implies]
    cases escapes : upstream.escapes (upstream.fetch (prSearchUrl arch)).2 with
    | some e =>
      constructor
      · rintro ⟨state, raised⟩
        cases raised
      · intro readable
        cases escapes.symm.trans readable.decoded
    | none =>
    have readable : Readable upstream (upstream.fetch (prSearchUrl arch)).2 ↔ ∀ payload,
        loads upstream.floats (upstream.fetch (prSearchUrl arch)).2.codes = some payload → Searchable payload :=
      ⟨Readable.searchable, Readable.mk escapes⟩
    rw [readable]
    cases loads upstream.floats (upstream.fetch (prSearchUrl arch)).2.codes with
    | none => exact ⟨fun _ => nofun, fun _ => ⟨_, rfl⟩⟩
    | some payload =>
      simp only [Option.some.injEq, forall_eq', bind_ok, pure_ok]
      constructor
      · rintro ⟨state, found, read, hits, visited, items, kept, rfl⟩
        cases payload with
        | obj fields =>
          obtain rfl := Except.ok.inj read
          refine ⟨fields, hits, rfl, visited, fun item member => ?_⟩
          obtain ⟨result, _, here⟩ := forall₂_member (mapM_forall₂.mp kept) member
          exact pullRequest_isDict.mp ⟨result, here⟩
        | _ => cases read
      · rintro ⟨fields, hits, rfl, visited, objects⟩
        have each : ∀ item ∈ hits, ∃ kept, pullRequest item = .ok kept :=
          fun item member => pullRequest_isDict.mpr (objects item member)
        choose! kept same using each
        exact ⟨_, _, rfl, hits, visited, _, mapM_ok same, rfl⟩
  · simp only [answered, ne_eq, not_false_eq_true, if_true, false_implies, iff_true]
    exact ⟨_, rfl⟩

theorem upstream_truthful {state : Dict} {main detail : Text} (searched : pullRequestState upstream arch = .ok state)
    (missed : main = "UNKNOWN" ∨ main = "NOT_FOUND" ∧ (upstream.fetch mainRegistryUrl).1 = 200 ∧
      (upstream.fetch mainRegistryUrl).2.holds arch = false) :
    Truthful host upstream arch (concludeUpstream (Dict.merge ((installedResult runtime arch).append
      [("main_lookup", .str main), ("detail", .str detail)]) state)) := by
  obtain ⟨reason, rfl⟩ | ⟨items, filled, rfl⟩ | ⟨rfl, answered, empty⟩ := pullRequestState_cases searched
  · rw [truthful_iff (show Concluded _ arch "UNKNOWN_UPSTREAM" from ?_) (by decide)]
    · simp +decide only [false_implies, and_true]
    · obtain rfl | ⟨rfl, _⟩ := missed <;> exact ⟨rfl, rfl, rfl, rfl⟩
  · rw [truthful_iff (show Concluded _ arch "PR_PENDING" from ⟨rfl, rfl, rfl, rfl⟩) (by decide)]
    simp +decide only [false_implies, true_implies, true_and, and_true]
    have cited : Dict.getD (concludeUpstream (Dict.merge ((installedResult runtime arch).append
        [("main_lookup", .str main), ("detail", .str detail)])
          [("pr_lookup", .str "FOUND"), ("pull_requests", .arr items)])) "pull_requests" .null = .arr items := rfl
    rw [cited]
    simpa [Json.truthy] using filled
  · obtain rfl | ⟨rfl, main, undeclared⟩ := missed
    · rw [truthful_iff (show Concluded _ arch "UNKNOWN_UPSTREAM" from ⟨rfl, rfl, rfl, rfl⟩) (by decide)]
      simp +decide only [false_implies, and_true]
    · rw [truthful_iff (show Concluded _ arch "ABSENT" from ⟨rfl, rfl, rfl, rfl⟩) (by decide)]
      simp +decide only [false_implies, true_implies, true_and, and_true]
      exact ⟨⟨main, undeclared, answered, empty⟩, rfl⟩

theorem generic_truthful {variant : Dict} (known : arch ∈ runtime.supported)
    (plain : ((Dict.getD variant "vendored_per_backend" .null).isTrue &&
      (Dict.getD variant "variant_is_runnable_here" .null).isFalse) = false) :
    Truthful host upstream arch (concludeInstalled (installedResult runtime arch) variant) := by
  simp only [concludeInstalled, plain, Bool.false_eq_true, if_false]
  rw [truthful_iff (show Concluded _ arch "UPSTREAM_GENERIC" from ⟨rfl, rfl, rfl, rfl⟩) (by decide)]
  simp +decide only [false_implies, true_implies, true_and, and_true]
  refine (genericErrors_iff ?_ rfl).mpr plain
  have listed : Dict.getD (conclude ((installedResult runtime arch).append [("backend_variant", .obj variant)])
      "UPSTREAM_GENERIC"
      ("the installed vLLM implementation is used; the absence of a Kunlun OOT model is " ++
        "not a gap, so a runtime failure points at an operator or backend, not at networking")) "in_installed_vllm"
      .null = .bool (arch ∈ runtime.supported) := rfl
  rw [listed]
  simp [Json.truthy, known]

theorem vendored_truthful {variant dependencies : Dict} {present : List Json}
    (vendored : ((Dict.getD variant "vendored_per_backend" .null).isTrue &&
      (Dict.getD variant "variant_is_runnable_here" .null).isFalse) = true)
    (several : Dict.getD variant "backend_variants_present" .null = .arr present)
    (listed : Dict.getD variant "variant_hard_dependencies" .null = .obj dependencies) :
    Truthful host upstream arch (concludeInstalled (installedResult runtime arch) variant) ↔
      (Dict.getD variant "selected_variant" .null).truthy = true ∧ 2 ≤ present.length ∧
        ((Dict.getD dependencies "unimportable_modules" .null).truthy ||
          (Dict.getD dependencies "unregistered_custom_ops" .null).truthy) = true := by
  simp only [concludeInstalled, vendored, if_true]
  rw [truthful_iff (show Concluded _ arch "UPSTREAM_VENDORED_VARIANT" from ⟨rfl, rfl, rfl, rfl⟩) (by decide)]
  simp +decide only [false_implies, true_implies, true_and]
  exact vendoredErrors_iff rfl several listed

theorem Missing.toJson_truthy (missing : Missing) : ∃ fields, missing.toJson = .obj fields ∧
    ((Dict.getD fields "unimportable_modules" .null).truthy ||
      (Dict.getD fields "unregistered_custom_ops" .null).truthy) = !missing.isEmpty := by
  refine ⟨_, rfl, ?_⟩
  obtain ⟨modules, ops⟩ := missing
  cases modules <;> cases ops <;> rfl

theorem selectedVariant_filled {module name : Text} (selected : selectedVariant module = some name) :
    name.isEmpty = false := by
  have listed := List.find?_some selected
  have filled : ∀ t ∈ backendDirs, t.isEmpty = false := by decide
  exact filled name (of_decide_eq_true listed)

/-- The inspection of a package with several backends. -/
theorem several_truthful {packageDir module' : Text} {names : List Text} {modelClass : Except Text Text}
    (known : arch ∈ runtime.supported) (several : 2 ≤ (siblings runtime packageDir names).length) :
    let inspected : Dict := [("inspected", .bool true), ("registry_module", .str module')]
    Truthful host upstream arch (concludeInstalled (installedResult runtime arch)
        (inspected.append (packageState runtime packageDir names modelClass))) ↔
      match modelClass with
      | .error _ => (missingDependencies runtime (siblingSources runtime packageDir names)).isEmpty = false
      | .ok module => (selectedVariant module).isSome = true ∨
          (selectedMissing runtime packageDir names module).isEmpty = true := by
  intro inspected
  have many : ¬ (siblings runtime packageDir names).length < 2 := by omega
  have more : decide (1 < (siblings runtime packageDir names).length) = true := decide_eq_true several
  simp only [packageState, if_neg many, more]
  cases modelClass with
  | error raised =>
    obtain ⟨fields, dependencies, missing⟩ :=
      (missingDependencies runtime (siblingSources runtime packageDir names)).toJson_truthy
    simp only [selection, dependencies]
    refine (vendored_truthful rfl rfl rfl).trans ?_
    rw [missing, List.length_map, Bool.not_eq_true']
    exact ⟨fun all => all.2.2, fun here => ⟨rfl, several, here⟩⟩
  | ok module =>
    obtain ⟨fields, dependencies, missing⟩ := (selectedMissing runtime packageDir names module).toJson_truthy
    simp only [selection, dependencies]
    cases runnable : (selectedMissing runtime packageDir names module).isEmpty with
    | true => simpa using generic_truthful known rfl
    | false =>
      refine (vendored_truthful rfl rfl rfl).trans ?_
      rw [missing, List.length_map, runnable]
      cases selected : selectedVariant module with
      | none => exact ⟨fun all => (nomatch all.1), fun here => here.elim nofun nofun⟩
      | some name =>
        have filled := selectedVariant_filled selected
        refine ⟨fun _ => .inl rfl, fun _ => ⟨?_, several, rfl⟩⟩
        have read : (Json.str name).truthy = true := by rw [Json.truthy, filled]; rfl
        exact read

theorem installed_truthful (host : Host) (upstream : Upstream) (known : arch ∈ runtime.supported) :
    (∃ variant, backendVariant runtime arch = .ok variant ∧
      Truthful host upstream arch (concludeInstalled (installedResult runtime arch) variant)) ↔
    VariantSound runtime arch := by
  unfold VariantSound backendVariant
  cases modelled : runtime.models arch with
  | none => exact ⟨fun _ => nofun, fun _ => ⟨_, rfl, generic_truthful known rfl⟩⟩
  | some entry =>
    simp only [Option.some.injEq]
    cases found : entry.origin with
    | error raised =>
      refine ⟨fun _ other origin same located => ?_, fun _ => ⟨_, rfl, generic_truthful known rfl⟩⟩
      rw [← same, found] at located
      cases located
    | ok origin =>
      dsimp only
      cases filled : origin.isEmpty with
      | true =>
        refine ⟨fun _ other origin' same located some' => ?_, fun _ => ⟨_, rfl, generic_truthful known rfl⟩⟩
        rw [← same, found] at located
        obtain rfl := Except.ok.inj located
        rw [filled] at some'
        cases some'
      | false =>
        simp only [Bool.false_eq_true, if_false, bind_ok, pure_ok]
        constructor
        · rintro ⟨variant, ⟨names, listed, rfl⟩, truthful⟩ other origin' rfl located _
          rw [found] at located
          obtain rfl := Except.ok.inj located
          exact ⟨names, listed, fun several => (several_truthful known several).mp truthful⟩
        · intro sound
          obtain ⟨names, listed, named⟩ := sound entry origin rfl found filled
          refine ⟨_, ⟨names, listed, rfl⟩, ?_⟩
          by_cases several : 2 ≤ (siblings runtime (dirname origin) names).length
          · exact (several_truthful known several).mpr (named several)
          · have few : (siblings runtime (dirname origin) names).length < 2 := by omega
            have single : decide (1 < (siblings runtime (dirname origin) names).length) = false :=
              decide_eq_false (by omega)
            simp only [packageState, if_pos few, single]
            exact generic_truthful known rfl

theorem searched_truthful (host : Host) (runtime : Runtime) {main : Text} (detail : Text) (missed : main = "UNKNOWN" ∨
    main = "NOT_FOUND" ∧ (upstream.fetch mainRegistryUrl).1 = 200 ∧
      (upstream.fetch mainRegistryUrl).2.holds arch = false) :
    (∃ state, pullRequestState upstream arch = .ok state ∧
      Truthful host upstream arch (concludeUpstream (Dict.merge ((installedResult runtime arch).append
        [("main_lookup", .str main), ("detail", .str detail)]) state))) ↔
    ((upstream.fetch (prSearchUrl arch)).1 = 200 → Readable upstream (upstream.fetch (prSearchUrl arch)).2) := by
  rw [← pullRequestState_ok]
  constructor
  · rintro ⟨state, searched, _⟩
    exact ⟨state, searched⟩
  · rintro ⟨state, searched⟩
    exact ⟨state, searched, upstream_truthful searched missed⟩

theorem missing_truthful (unregistered : arch ∉ kunlunOot runtime) (unknown : arch ∉ runtime.supported) :
    (∃ entry, classify runtime upstream arch = .ok entry ∧ Truthful host upstream arch entry) ↔
      UpstreamSound upstream arch := by
  obtain ⟨main, detail, looked, reason⟩ := upstreamState_eq upstream arch
  have read : Dict.getD ((installedResult runtime arch).append [("main_lookup", .str main), ("detail", .str detail)])
      "main_lookup" .null = .str main := rfl
  simp only [classify, if_neg unregistered, if_neg unknown, looked, read, eq_name, decide_eq_true_eq]
  by_cases hit : (upstream.fetch mainRegistryUrl).1 = 200 ∧ (upstream.fetch mainRegistryUrl).2.holds arch = true
  · have found : main = "FOUND" := by
      obtain ⟨_, failed⟩ | ⟨same, _⟩ := reason
      · exact absurd hit.1 failed
      · rw [same, hit.2]
        rfl
    simp only [if_pos found, pure_ok]
    constructor
    · rintro ⟨entry, rfl, truthful⟩
      have declared := (mainOnly_truthful _ _).mp truthful
      exact ⟨fun _ _ => declared, fun other => absurd hit other⟩
    · intro sound
      exact ⟨_, rfl, (mainOnly_truthful _ _).mpr (sound.quoted hit.1 hit.2)⟩
  · have missed : main = "UNKNOWN" ∨ main = "NOT_FOUND" ∧ (upstream.fetch mainRegistryUrl).1 = 200 ∧
        (upstream.fetch mainRegistryUrl).2.holds arch = false := by
      obtain ⟨same, _⟩ | ⟨same, answered⟩ := reason
      · exact .inl same
      · have undeclared := Bool.eq_false_iff.mpr fun declared => hit ⟨answered, declared⟩
        rw [undeclared] at same
        exact .inr ⟨same, answered, undeclared⟩
    have other : main ≠ "FOUND" := by
      obtain rfl | ⟨rfl, _⟩ := missed <;> decide
    simp only [if_neg other, bind_ok, pure_ok]
    have searched := searched_truthful host runtime detail missed
    constructor
    · rintro ⟨entry, ⟨state, here, rfl⟩, truthful⟩
      exact ⟨fun answered declared => absurd ⟨answered, declared⟩ hit, fun _ => searched.mp ⟨state, here, truthful⟩⟩
    · intro sound
      obtain ⟨state, here, truthful⟩ := searched.mpr (sound.readable hit)
      exact ⟨_, ⟨state, here, rfl⟩, truthful⟩

end Verdicts

/-- Classification gives a truthful result exactly for sound surroundings. -/
theorem classify_truthful_iff (host : Host) (runtime : Runtime) (upstream : Upstream) (arch : Text) :
    (∃ entry, classify runtime upstream arch = .ok entry ∧ Truthful host upstream arch entry) ↔
      Sound runtime upstream arch := by
  by_cases registered : arch ∈ kunlunOot runtime
  · simp only [classify, if_pos registered, pure_ok]
    exact ⟨fun _ unregistered => absurd registered unregistered, fun _ => ⟨_, rfl, oot_truthful registered⟩⟩
  · by_cases known : arch ∈ runtime.supported
    · rw [Sound, ← installed_truthful host upstream known]
      simp only [classify, if_neg registered, if_pos known, bind_ok, pure_ok]
      constructor
      · rintro ⟨entry, ⟨variant, inspected, rfl⟩, truthful⟩ _
        exact ⟨fun _ => ⟨variant, inspected, truthful⟩, fun unknown => absurd known unknown⟩
      · intro sound
        obtain ⟨variant, inspected, truthful⟩ := (sound registered).1 known
        exact ⟨_, ⟨variant, inspected, rfl⟩, truthful⟩
    · rw [missing_truthful registered known]
      constructor
      · exact fun sound _ => ⟨fun other => absurd other known, fun _ => sound⟩
      · exact fun sound => (sound registered).2 known

/-! A stack without the architecture, and a registry that lists a longer name. -/

def bareRuntime : Runtime where
  version := "0.25.1"
  registerSource := ""
  supported := []
  models _ := none
  listdir _ := .ok []
  isdir _ := false
  sources _ := []
  importError _ := none
  customOps := none
  wordChar := Text.isWord

def registryUpstream : Upstream where
  fetch url := if url = mainRegistryUrl then (200, "\"FooForCausalLM\": (\"foo\", \"FooForCausalLM\"),") else (0, "")
  decodeError _ := ""
  escapes _ := none
  floats := ⟨fun _ => [], fun _ => none⟩

/-- A longer name in the registry is taken for the architecture. -/
theorem classify_longer_name : ¬∃ entry, classify bareRuntime registryUpstream "FooFor" = .ok entry ∧
    Truthful Host.sample registryUpstream "FooFor" entry := by
  rintro ⟨entry, classified, truthful⟩
  have run : classify bareRuntime registryUpstream "FooFor" =
      .ok (conclude ((installedResult bareRuntime "FooFor").append (upstreamState registryUpstream "FooFor"))
        "MAIN_ONLY" "merged upstream but not in the installed version: upgrade or cherry-pick") := rfl
  rw [run] at classified
  obtain rfl := Except.ok.inj classified
  have declared := truthful.declared rfl
  revert declared
  unfold Declared
  decide +kernel

end ModelScan
end InferForge
