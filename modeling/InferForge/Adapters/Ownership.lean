import InferForge.Py.Template
import InferForge.UserIdentity

/-! Write operations are limited to resources that start with the prefix of their owner: when that
keeps two owners apart. -/
namespace InferForge
open Py Effect

/-- What ends a step against the cluster. -/
inductive Fault where
  /-- `ActionFailed`, with its exit state. -/
  | actionFailed (state message : Text)
  | safetyViolation (message : Text)
  /-- `subprocess.TimeoutExpired`, with the command line and the seconds as it prints them. -/
  | timeoutExpired (cmd seconds : Text)
  | runtimeError (message : Text)
  | raised (e : Exn)
deriving DecidableEq

abbrev Environ := Text → Option Text

/-- `resolve_user_id`; `None` is `null`. -/
def resolveUserIdIn (environ : Environ) (explicit recorded : Json) : Except Exn Text :=
  let value := if explicit.isNull then recorded else explicit
  resolveUserId (if value.isNull then .str ((environ "USER_ID").getD ⟨[]⟩) else value)

structure ClusterConfig where
  kubeconfig : Text
  namespaceName : Json
  container : Json
  resourcePrefix : Text
  deploymentKind : Json
  context : Option Json

namespace ClusterConfig

/-- The path of the credentials comes from the environment. -/
def kubeconfigOf (host : Host) (environ : Environ) (fileExists : Text → Bool) (cluster : Dict) :
    Except Exn Text :=
  let kubeconfig := (host.str (cluster.getD "kubeconfig" (.str ⟨[]⟩))).expandvars environ
  if kubeconfig.holds "$\x7b" || kubeconfig.isEmpty then
    .error (.value "cluster.kubeconfig is unresolved: export KUBECONFIG before running a task")
  else if !fileExists kubeconfig then
    .error (.value ("kubeconfig does not exist: " ++ kubeconfig))
  else .ok kubeconfig

def requiredKeys : List Text := ["namespace", "container", "resource_prefix", "deployment_kind"]

/-- Owners are written into the template, the other variables come from the environment. -/
def renderPrefix (environ : Environ) (owner template : Text) : Text :=
  let owned :=
    if owner.isEmpty then template
    else (template.replace "$\x7bUSER_ID\x7d" owner).replace "<USER_ID>" owner
  (owned.expandvars environ).replace "$\x7bUSER_ID\x7d" "<USER_ID>"

/-- The configuration of a `cluster` section. -/
def ofSection (host : Host) (environ : Environ) (fileExists : Text → Bool) (userId : Json)
    (cluster : Dict) : Except Exn ClusterConfig := do
  let kubeconfig ← kubeconfigOf host environ fileExists cluster
  let missing := requiredKeys.filter fun key => !(Dict.getD cluster key .null).truthy
  refuse (!missing.isEmpty)
    (.value ("harness config is missing cluster." ++ Text.join ", cluster." missing))
  let owner ← resolveUserIdIn environ userId .null
  return {
    kubeconfig
    namespaceName := Dict.getD cluster "namespace" .null
    container := Dict.getD cluster "container" .null
    resourcePrefix :=
      renderPrefix environ owner (host.str (Dict.getD cluster "resource_prefix" .null))
    deploymentKind := Dict.getD cluster "deployment_kind" .null
    context := Dict.get? cluster "context" }

/-- `ClusterConfig.load` of a parsed profile. -/
def load (host : Host) (environ : Environ) (fileExists : Text → Bool) (profile userId : Json) :
    Except Exn ClusterConfig := do
  let cluster ← (profile.or (.obj [])).get "cluster"
  match cluster.getD (.obj []) with
  | .obj cluster => ofSection host environ fileExists userId cluster
  | _ => throw (.attr "object has no attribute 'get'")

/-- The `cluster` section of `p800-cluster.yaml`. -/
def p800 : Json :=
  .obj [("cluster", .obj [("kubeconfig", .str "$\x7bKUBECONFIG\x7d"), ("namespace", .str "pd-test"),
    ("context", .str "pd-test@kubernetes"), ("container", .str "model-server"),
    ("resource_prefix", .str "$\x7bUSER_ID\x7d-"),
    ("deployment_kind", .str "feddeployments.eks.baidu.com")])]

def assertOwned (config : ClusterConfig) (name : Text) : Except Fault Unit :=
  if name.isEmpty || !name.startsWith config.resourcePrefix then
    .error (.safetyViolation ("refusing to write to " ++ name ++
      ": writes are limited to resources starting with " ++ config.resourcePrefix))
  else .ok ()

end ClusterConfig

/-- The part of a resource name before its subject. -/
def resourceStem (userId : Text) : Text := if userId.isEmpty then "kdp001" else userId ++ "-kdp001"

/-- `resource_name` of an instance. -/
def resourceName (userId subject : Text) : Text := resourceStem userId ++ "-" ++ subject

/-- Who a configuration belongs to: the user id, or without one the variable of the environment. -/
def prefixOwner (environ : Environ) (userId : Text) : Text :=
  if userId.isEmpty then
    ((environ "USER_ID").getD "$\x7bUSER_ID\x7d").replace "$\x7bUSER_ID\x7d" "<USER_ID>"
  else userId

/-- A name of the user, rest included, that starts with the prefix of the owner: one of the two
ids continues the other across a separator. -/
def Overlaps (owner userId rest : Text) : Prop :=
  (userId.isEmpty = false ∧ (owner = userId ∨ userId.startsWith (owner ++ "-") = true)) ∨
    owner = resourceStem userId ∨
    ∃ r, owner = resourceStem userId ++ "-" ++ r ∧ rest.startsWith (r ++ "-") = true

section Separation
variable {owner userId rest : Text}

/-- Where the separator after `xs` falls in a text with a separator of its own. -/
theorem prefix_separator {d : CodePoint} (xs stem rest : List CodePoint) :
    xs ++ [d] <+: stem ++ d :: rest ↔
      xs ++ [d] <+: stem ∨ xs = stem ∨ ∃ r, xs = stem ++ d :: r ∧ r ++ [d] <+: rest := by
  induction stem generalizing xs with
  | nil =>
    cases xs with
    | nil => simp
    | cons x xs =>
      simp only [List.cons_append, List.nil_append, List.cons_prefix_cons, List.prefix_nil,
        reduceCtorEq, false_or, List.cons.injEq]
      constructor
      · rintro ⟨rfl, within⟩
        exact ⟨xs, ⟨rfl, rfl⟩, within⟩
      · rintro ⟨r, ⟨rfl, rfl⟩, within⟩
        exact ⟨rfl, within⟩
  | cons s stem ih =>
    cases xs with
    | nil => simp
    | cons x xs =>
      simp only [List.cons_append, List.cons_prefix_cons, List.cons.injEq, ih]
      constructor
      · rintro ⟨rfl, here | rfl | ⟨r, rfl, within⟩⟩
        · exact .inl ⟨rfl, here⟩
        · exact .inr (.inl ⟨rfl, rfl⟩)
        · exact .inr (.inr ⟨r, ⟨rfl, rfl⟩, within⟩)
      · rintro (⟨rfl, here⟩ | ⟨rfl, rfl⟩ | ⟨r, ⟨rfl, rfl⟩, within⟩)
        · exact ⟨rfl, .inl here⟩
        · exact ⟨rfl, .inr (.inl rfl)⟩
        · exact ⟨rfl, .inr (.inr ⟨r, rfl, within⟩)⟩

/-- `kdp001` holds no separator. -/
theorem startsWith_stem (some' : userId.isEmpty = false) :
    (resourceStem userId).startsWith (owner ++ "-") = true ↔
      owner = userId ∨ userId.startsWith (owner ++ "-") = true := by
  have split : (resourceStem userId).codes = userId.codes ++ 45 :: (Text.ofString "kdp001").codes := by
    rw [resourceStem, some', if_neg Bool.false_ne_true]
    rfl
  rw [Text.startsWith_iff, Text.startsWith_iff, split]
  change owner.codes ++ [45] <+: _ ↔ _ ∨ owner.codes ++ [45] <+: _
  rw [prefix_separator]
  constructor
  · rintro (here | same | ⟨r, _, within⟩)
    · exact .inr here
    · exact .inl (Text.ext same)
    · exact absurd (within.subset (by simp)) (by decide : (45 : CodePoint) ∉ (Text.ofString "kdp001").codes)
  · rintro (rfl | here)
    · exact .inr (.inl rfl)
    · exact .inl here

/-- A resource name is in reach of an owner exactly where the ids overlap. -/
theorem startsWith_resourceName :
    (resourceName userId rest).startsWith (owner ++ "-") = true ↔ Overlaps owner userId rest := by
  have split : (resourceName userId rest).codes = (resourceStem userId).codes ++ 45 :: rest.codes := by
    simp only [resourceName, Text.codes_append, List.append_assoc]
    rfl
  rw [Text.startsWith_iff, split]
  change owner.codes ++ [45] <+: _ ↔ _
  rw [prefix_separator]
  apply or_congr
  · cases some' : userId.isEmpty with
    | false =>
      have reached : _ ↔ owner = userId ∨ _ := startsWith_stem some'
      rw [Text.startsWith_iff] at reached
      change owner.codes ++ [45] <+: _ ↔ _ at reached
      simpa using reached
    | true =>
      have stem : resourceStem userId = "kdp001" := by rw [resourceStem, if_pos some']
      rw [stem]
      constructor
      · intro within
        exact absurd (within.subset (by simp))
          (by decide : (45 : CodePoint) ∉ (Text.ofString "kdp001").codes)
      · rintro ⟨none, _⟩
        cases none
  · apply or_congr
    · exact ⟨Text.ext, congrArg Text.codes⟩
    · constructor
      · rintro ⟨r, same, within⟩
        refine ⟨⟨r⟩, Text.ext ?_, Text.startsWith_iff.mpr within⟩
        rw [same, Text.codes_append, Text.codes_append, List.append_assoc]
        rfl
      · rintro ⟨r, rfl, within⟩
        refine ⟨r.codes, ?_, Text.startsWith_iff.mp within⟩
        rw [Text.codes_append, Text.codes_append, List.append_assoc]
        rfl

end Separation

theorem isUserId_plain {userId : Text} (valid : isUserId userId = true) {c : CodePoint}
    (other : (isUserChar c || c.val == 46 || c.val == 45) = false) : c ∉ (userId ++ "-").codes := by
  intro member
  rcases List.mem_append.mp member with member | member
  · simp only [isUserId, Bool.and_eq_true] at valid
    have allowed := List.all_eq_true.mp valid.2 c member
    rw [other] at allowed
    cases allowed
  · obtain rfl : c = 45 := List.mem_singleton.mp member
    cases other

/-- The template with the variable of the environment. -/
theorem expand_template (environ : Environ) : Text.expandvars environ "$\x7bUSER_ID\x7d-" =
    (environ "USER_ID").getD "$\x7bUSER_ID\x7d" ++ ⟨[45]⟩ := by
  have name : Text.variableName (Text.ofString "\x7bUSER_ID\x7d-").codes =
    some (Text.ofString "USER_ID", 9) := by decide
  apply Text.ext
  change Text.expandFrom environ 0 (36 :: (Text.ofString "\x7bUSER_ID\x7d-").codes) = _
  rw [Text.expandFrom, if_pos rfl, name]
  dsimp only
  cases environ (Text.ofString "USER_ID") with
  | none => rfl
  | some value => rfl

/-- The prefix of a configuration is its owner and a separator. -/
theorem renderPrefix_owner (environ : Environ) {userId : Text}
    (accepted : userId.isEmpty = true ∨ isUserId userId = true) :
    ClusterConfig.renderPrefix environ userId "$\x7bUSER_ID\x7d-" =
      prefixOwner environ userId ++ "-" := by
  unfold ClusterConfig.renderPrefix prefixOwner
  cases empty : userId.isEmpty with
  | true =>
    dsimp only
    rw [if_pos rfl, if_pos rfl, expand_template]
    exact Text.replace_concat (by decide) (by decide)
  | false =>
    have valid := accepted.resolve_left (by simp [empty])
    have written : Text.replace "$\x7bUSER_ID\x7d-" "$\x7bUSER_ID\x7d" userId = userId ++ "-" := rfl
    dsimp only
    rw [if_neg Bool.false_ne_true, if_neg Bool.false_ne_true, written,
      Text.replace_plain rfl (isUserId_plain valid (by decide)),
      Text.expandvars_plain (isUserId_plain valid (by decide)),
      Text.replace_plain rfl (isUserId_plain valid (by decide))]

theorem resolveUserIdIn_accepted (resolved : resolveUserIdIn environ explicit recorded = .ok userId) :
    userId.isEmpty = true ∨ isUserId userId = true := by
  unfold resolveUserIdIn resolveUserId at resolved
  dsimp only at resolved
  split at resolved
  · split at resolved
    · next accepted =>
      rw [← Except.ok.inj resolved]
      exact Bool.or_eq_true_iff.mp accepted
    · cases resolved
  · cases resolved

/-- What `load` of the profile makes of a user id. -/
theorem load_prefix {config : ClusterConfig}
    (loaded : ClusterConfig.load host environ fileExists ClusterConfig.p800 given = .ok config)
    (resolved : resolveUserIdIn environ given .null = .ok userId) :
    config.resourcePrefix = prefixOwner environ userId ++ "-" := by
  change ClusterConfig.ofSection _ _ _ _ _ = _ at loaded
  obtain ⟨kubeconfig, _, loaded⟩ := bind_ok.mp loaded
  obtain ⟨_, _, loaded⟩ := bind_ok.mp loaded
  obtain ⟨owner, same, loaded⟩ := bind_ok.mp loaded
  rw [resolved] at same
  obtain rfl := Except.ok.inj same
  rw [← pure_ok.mp loaded]
  exact renderPrefix_owner environ (resolveUserIdIn_accepted resolved)

/-- A resource of another user is refused exactly where neither id continues the other across a
separator. -/
theorem ownership_separates (host : Host) (environ : Environ) (fileExists : Text → Bool)
    (given : Json) (owner : Text) (config : ClusterConfig)
    (resolved : resolveUserIdIn environ given .null = .ok owner)
    (loaded : ClusterConfig.load host environ fileExists ClusterConfig.p800 given = .ok config)
    (userId subject rest : Text) :
    (∃ message, config.assertOwned (resourceName userId subject ++ rest) =
      .error (.safetyViolation message)) ↔
      ¬ Overlaps (prefixOwner environ owner) userId (subject ++ rest) := by
  have named : resourceName userId subject ++ rest = resourceName userId (subject ++ rest) := by
    apply Text.ext
    simp [resourceName]
  have some' : (resourceName userId (subject ++ rest)).isEmpty = false := by
    rw [Text.isEmpty, List.isEmpty_eq_false_iff]
    exact List.append_ne_nil_of_left_ne_nil
      (List.append_ne_nil_of_right_ne_nil _ (List.cons_ne_nil _ _)) _
  rw [← startsWith_resourceName, ← load_prefix loaded resolved, named]
  unfold ClusterConfig.assertOwned
  rw [some', Bool.false_or]
  cases (resourceName userId (subject ++ rest)).startsWith config.resourcePrefix with
  | true => exact ⟨by rintro ⟨_, ⟨⟩⟩, fun outside => absurd rfl outside⟩
  | false => exact ⟨fun _ => Bool.false_ne_true, fun _ => ⟨_, rfl⟩⟩

/-- The environment of a user with credentials and no user id. -/
def environSample : Environ := fun name => if name = "KUBECONFIG" then some "/kube" else none

def configSample (userId : Text) : Except Exn ClusterConfig :=
  ClusterConfig.load .sample environSample (fun _ => true) ClusterConfig.p800 (.str userId)

/-- A dash inside a user id is also the separator of the prefix. -/
theorem neighbour_allowed : (("alice" : Text) ≠ ("alice-bob" : Text)) ∧ ∃ config,
    resolveUserIdIn environSample (.str "alice") .null = .ok "alice" ∧
    resolveUserIdIn environSample (.str "alice-bob") .null = .ok "alice-bob" ∧
    configSample "alice" = .ok config ∧
    config.assertOwned (resourceName "alice-bob" "model" ++ "") = .ok () := by
  refine ⟨by decide, ?_⟩
  cases loaded : configSample "alice" with
  | error e =>
    have fine : (configSample "alice").isOk = true := by decide
    rw [loaded] at fine
    cases fine
  | ok config =>
    refine ⟨config, by decide, by decide, rfl, ?_⟩
    have allowed : ((configSample "alice").map fun config =>
        config.assertOwned (resourceName "alice-bob" "model" ++ "")) = .ok (.ok ()) := by decide
    rw [loaded] at allowed
    exact Except.ok.inj allowed

theorem ownership_separates_sample : ∃ config, configSample "alice" = .ok config ∧
    ∃ message, config.assertOwned (resourceName "bob" "model" ++ "") =
      .error (.safetyViolation message) := by
  cases loaded : configSample "alice" with
  | error e =>
    have fine : (configSample "alice").isOk = true := by decide
    rw [loaded] at fine
    cases fine
  | ok config =>
    refine ⟨config, rfl, (ownership_separates .sample environSample (fun _ => true) (.str "alice")
      "alice" config (by decide) loaded "bob" "model" "").mpr ?_⟩
    rw [← startsWith_resourceName]
    decide

end InferForge
