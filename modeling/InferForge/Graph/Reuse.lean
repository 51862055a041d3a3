import InferForge.JournalHistory
import InferForge.Graph.Nodes
import InferForge.Bridge.Evidence
import InferForge.Validators.Deployment
import InferForge.Py.Ordered
import InferForge.Py.Utf8
import InferForge.Py.Equality

/-! When a walk reuses a fact of the journal: the checks of the fact itself, of the facts it was
produced from, and what the inputs of a reused node have to do with those it once ran on. -/
namespace InferForge.Graph
open Py Effect Journal

/-- What `execution_contract` says of a Skill. -/
structure Contract where
  id : Text
  taskType : Json
  /-- `method["sha256"]`. -/
  method : Option Text

def Contract.methodJson (contract : Contract) : Json := contract.method.elim .null .str

/-- `resolve_for_context` and `execution_contract`; `none` stands for an `OSError` or a
`SkillResolutionError`. -/
structure Registry where
  select : Json → Dict → Except Exn (Option Contract)

/-- `all(check(item) for item in items)`: nothing is asked after the first refusal. -/
def every (check : α → Except Exn Bool) : List α → Except Exn Bool
  | [] => .ok true
  | item :: rest => andThen (check item) (every check rest)

section Files
variable (host : Host) (disk : Disk)

def fileDigest (path : Path) : Except Exn (Option Text) :=
  match disk.read path with
  | .ok content => .ok (some (host.sha256 content))
  | .error e => if e.kind = .osError then .ok none else .error e

def readStatus (artifacts : Path) (spec : NodeSpec) : Except Exn Dict :=
  match loadJson host disk (artifacts.child spec.stateFile) with
  | .ok (.obj payload) => .ok payload
  | .ok _ => .ok []
  | .error e => if e.kind = .osError ∨ e.isValueError then .ok [] else .error e

/-- `path.read_text(encoding="utf-8").strip()`. -/
def fingerprintWritten (path : Path) : Except Exn Bool :=
  match disk.read path with
  | .ok content => .ok ((readText content).any fun text => !text.blank)
  | .error e => if e.kind = .osError ∨ e.isValueError then .ok false else .error e

def proofFingerprint (artifacts : Path) : Except Exn (Option Text) := do
  let path := artifacts.child "environment_fingerprint.txt"
  if ← fingerprintWritten disk path then fileDigest host disk path else return none

/-- `value == digest`, where a missing digest is `None`. -/
def isDigest (value : Json) (digest : Option Text) : Bool := value.eq (digest.elim .null .str)

/-- The digest of a plan's instance, and of its status. -/
def planCurrent (spec : NodeSpec) (hit : Fact) (payload : Dict) : Except Exn Bool :=
  let digest := Dict.getD payload "instance_sha256" .null
  andThen (.ok digest.truthy)
    (andThen (return isDigest digest (← fileDigest host disk (hit.artifacts.child "kdp_instance.yaml")))
      (return isDigest (Dict.getD hit.extras "status_sha256" .null)
        (← fileDigest host disk (hit.artifacts.child spec.stateFile))))

/-- A recorded digest of the status is the digest of the status. -/
def statusCurrent (spec : NodeSpec) (hit : Fact) : Except Exn Bool := do
  let recorded := Dict.getD hit.extras "status_sha256" .null
  if recorded.truthy then return isDigest recorded (← fileDigest host disk (hit.artifacts.child spec.stateFile))
  else return true

/-- `(artifact_dir / name).exists()`. -/
def namedFile (artifacts : Path) : Json → Except Exn Bool
  | .str name => disk.exists' (artifacts.child name)
  | _ => .error (.type "unsupported operand type(s) for /")

/-- The files a proof names, and those every environment proof has. -/
def proofFiles (environment : Bool) (payload : Dict) (artifacts : Path) : Except Exn Bool := do
  let named ← (← (Json.obj payload).item "artifacts").elements
  andThen (every (namedFile disk artifacts) named)
    (every (fun name => disk.isFile (artifacts.child name)) (if environment then environmentArtifacts else []))

/-- The validators of a proof, with the errors that count as a refusal. -/
def proofValid (kind : Text) (payload : Dict) (artifacts : Path) : Except Exn Bool :=
  let environment := kind == "EnvironmentProof"
  let checked : Except Exn Bool :=
    andThen (if environment then return (← validateEnvironmentIdentity host disk artifacts).isEmpty else .ok true)
      (andThen (return (← if environment then validateEnvironmentStatus host payload
          else validateDeploymentStatus payload).isEmpty)
        (proofFiles disk environment payload artifacts))
  if environment || kind == "DeploymentProof" then
    match checked with
    | .ok valid => .ok valid
    | .error e => if e.kind = .typeError ∨ e.kind = .attributeError then .ok false else .error e
  else .ok true

/-- The fingerprint of an environment proof is the recorded one, and that of the environment. -/
def fingerprintCurrent (hit : Fact) (environment : Environment) : Except Exn Bool :=
  if hit.kind == "EnvironmentProof" then do
    match ← proofFingerprint host disk hit.artifacts with
    | none => return false
    | some proven =>
        let recorded := Dict.getD hit.extras "environment_fingerprint" .null
        return (!recorded.truthy || recorded.eq (.str proven)) &&
          ((environment.fields.lookup (Text.ofString "environment_fingerprint")).all fun bound => bound = proven)
  else .ok true

end Files

section Skills
variable (registry : Registry) (context : Dict)

/-- The Skill of a child still resolves to what was recorded. -/
def childCurrent (skill : Contract) (child : Json) : Except Exn Bool :=
  match child with
  | .obj fields =>
      match Dict.getD fields "context" .null with
      | .obj own =>
          if skill.taskType.truthy then do
            match ← registry.select skill.taskType (Dict.merge context own) with
            | none => return false
            | some current =>
                return Json.eqOpt (Dict.get? fields "id") (.str current.id) &&
                  Json.eqOpt (Dict.get? fields "method_sha256") current.methodJson
          else .ok false
      | _ => .ok false
  | _ => .ok false

/-- The Skill a fact was produced by is the one that would produce it now. -/
def skillCurrent (hit : Fact) : Option Contract → Except Exn Bool
  | none => .ok true
  | some skill =>
      match Dict.getD hit.extras "skill" .null with
      | .obj recorded =>
          andThen (.ok (Json.eqOpt (Dict.get? recorded "id") (.str skill.id) &&
              Json.eqOpt (Dict.get? recorded "method_sha256") skill.methodJson))
            ((Dict.getD recorded "children" (.arr [])).elements >>= every (childCurrent registry context skill))
      | _ => .ok false

end Skills

section Facts
variable (host : Host) (disk : Disk) (registry : Registry) (subject : Text) (environment : Environment)
  (context : Dict) (facts : List Fact)

/-- The checks `reusable_fact` makes of the latest fact. -/
def accepts (spec : NodeSpec) (skill : Option Contract) (hit : Fact) : Except Exn Bool := do
  if successStates.contains hit.state then
    let payload ← readStatus host disk hit.artifacts spec
    andThen (.ok (Json.eqOpt (Dict.get? payload "state") (.str hit.state) && validatorPassed payload))
      (andThen (if hit.kind == "DeploymentPlan" then planCurrent host disk spec hit payload else .ok true)
        (andThen (skillCurrent registry context hit skill)
          (andThen (.ok ((Dict.getD hit.extras "returncode" (.int 0)).eq (.int 0)))
            (andThen (statusCurrent host disk spec hit)
              (andThen (proofValid host disk hit.kind payload hit.artifacts)
                (fingerprintCurrent host disk hit environment))))))
  else return false

/-- `journal.latest` of the kind, the subject and a nonempty environment. -/
def latestFact (kind : Text) (environment : Environment) : Option Fact :=
  if environment.fields.isEmpty then none
  else facts.reverse.find? fun fact => About kind subject environment fact

/-- The fields of an environment but for these. -/
def without (keys : List Text) : Environment where
  fields := environment.fields.filter fun field => field.1 ∉ keys
  distinct := environment.distinct.sublist (List.filter_sublist.map Prod.fst)

def factEnvironment (kind : Text) : Environment :=
  if kind = "ModelRequest" ∨ kind = "EnvironmentProof" then
    without environment ["environment_fingerprint", "environment_pod"]
  else environment

def reusableFact (spec : NodeSpec) (skill : Option Contract) : Except Exn (Option Fact) :=
  if environment.fields.isEmpty then .ok none
  else
    match latestFact subject facts spec.produces (factEnvironment environment spec.produces) with
    | none => .ok none
    | some hit => do
        if ← accepts host disk registry environment context spec skill hit then return some hit else return none

/-- The first node that produces the kind, and its name. -/
def producer? (kind : Text) : Option (Text × NodeSpec) := nodes.find? fun node => node.2.produces = kind

/-- The task type of the producer, as the workflow declares it. -/
def producerTaskType (kind name : Text) : Json :=
  match Dict.getD context "_producer_task_types" .null with
  | .obj types => Dict.getD types kind .null
  | _ => .str name

def inputFact (kind : Text) (verify : Bool) : Except Exn (Option Fact) :=
  match producer? kind with
  | none => .ok none
  | some (name, spec) =>
      if verify then do
        match ← registry.select (producerTaskType context kind name) context with
        | none => return none
        | some skill => reusableFact host disk registry subject environment context facts spec (some skill)
      else reusableFact host disk registry subject environment context facts spec none

/-- `entries[index] == fact`. -/
def sameEntry (a b : Fact) : Bool := (Json.obj (a.entry host)).eq (.obj (b.entry host))

def factIndex (fact : Fact) : Int :=
  match facts.reverse.findIdx? (fun other => sameEntry host other fact) with
  | some back => facts.length - 1 - back
  | none => -1

/-- The kinds a command template renders from. -/
def usesPlan (spec : NodeSpec) : Bool := spec.command.contains (.hole "contract_instance")

/-- `_input_kinds`, the required ones. -/
def requiredKinds (spec : NodeSpec) : List Text :=
  spec.needs.map Need.kind ++
    if usesPlan spec && spec.produces != "FailureTriage" then [Text.ofString "DeploymentPlan"] else []

/-- `_input_kinds`, the optional ones. -/
def optionalKinds (spec : NodeSpec) : List Text :=
  spec.optional.map Need.kind ++
    if usesPlan spec && spec.produces == "FailureTriage" then [Text.ofString "DeploymentPlan"] else []

/-- `sorted(required | optional)`. -/
def inputKinds (spec : NodeSpec) : List Text := sortedSet (requiredKinds spec ++ optionalKinds spec)

/-- One kind in the loop of `reusable_inputs_current`; `current` is the recursive call. -/
def inputCurrent (current : NodeSpec → Fact → Except Exn Bool) (requireOrder : Bool) (spec : NodeSpec) (index : Int)
    (kind : Text) : Except Exn Bool := do
  let raw ← inputFact host disk registry subject environment context facts kind false
  let verified ← inputFact host disk registry subject environment context facts kind true
  match verified with
  | none => return !(requiredKinds spec).contains kind && !((optionalKinds spec).contains kind && raw.isSome)
  | some source =>
      if requireOrder && factIndex host facts source ≥ index then return false
      else
        match producer? kind with
        | none => return true
        | some (_, producer) => current producer source

/-- `reusable_inputs_current` at a depth of at most `fuel`. -/
def inputsCurrent (requireOrder : Bool) : Nat → List Text → NodeSpec → Fact → Except Exn Bool
  | 0, _, _, _ => .ok false
  | fuel + 1, seen, spec, fact =>
      if spec.produces ∈ seen then .ok false
      else if factIndex host facts fact < 0 then .ok false
      else every (inputCurrent host disk registry subject environment context facts
        (inputsCurrent requireOrder fuel (spec.produces :: seen)) requireOrder spec (factIndex host facts fact))
        (inputKinds spec)

/-- `reusable_inputs_current`; there are no more kinds to go through than nodes. -/
def reusableInputsCurrent (requireOrder : Bool) (spec : NodeSpec) (fact : Fact) : Except Exn Bool :=
  inputsCurrent host disk registry subject environment context facts requireOrder (nodes.length + 1) [] spec fact

end Facts

/-! ## Checks in turn -/

theorem andThen_true {a b : Except Exn Bool} : andThen a b = .ok true ↔ a = .ok true ∧ b = .ok true := by
  unfold andThen
  cases a with
  | error e => simp [bind, Except.bind]
  | ok value => cases value <;> simp [bind, Except.bind, pure, Except.pure]

theorem every_true {check : α → Except Exn Bool} {items : List α} :
    every check items = .ok true ↔ ∀ item ∈ items, check item = .ok true := by
  induction items with
  | nil => simp [every]
  | cons item rest ih => rw [every, andThen_true, ih, List.forall_mem_cons]

/-! ## Positions -/

section Positions
variable {host : Host} {disk : Disk} {registry : Registry} {subject : Text} {environment : Environment}
  {context : Dict} {facts before after : List Fact} {fact source : Fact} {kind : Text}

theorem latestFact_split (found : latestFact subject facts kind environment = some fact) :
    About kind subject environment fact ∧ ∃ before after, facts = before ++ fact :: after ∧
      ∀ other ∈ after, ¬ About kind subject environment other := by
  unfold latestFact at found
  split at found
  · cases found
  · obtain ⟨about, newer, older, split, none⟩ := List.find?_eq_some_iff_append.mp found
    refine ⟨by simpa using about, older.reverse, newer.reverse, ?_, fun other member => ?_⟩
    · rw [← List.reverse_reverse facts, split]
      simp
    · simpa using none other (List.mem_reverse.mp member)

theorem latestFact_of_split (known : environment.fields ≠ []) (about : About kind subject environment fact)
    (none : ∀ other ∈ after, ¬ About kind subject environment other) :
    latestFact subject (before ++ fact :: after) kind environment = some fact := by
  have keyed : environment.fields.isEmpty = false := by simpa using known
  unfold latestFact
  rw [keyed, if_neg Bool.false_ne_true, List.find?_eq_some_iff_append]
  refine ⟨by simpa using about, after.reverse, before.reverse, by simp, fun other member => ?_⟩
  simpa using none other (List.mem_reverse.mp member)

theorem sameEntry_about {a b : Fact} (same : sameEntry host a b = true) (about : About kind subject environment b) :
    About kind subject environment a := by
  obtain ⟨rfl, rfl, perm⟩ := about
  simp only [sameEntry, Json.eq, Bool.and_eq_true] at same
  have fields := Json.eqFields_iff.mp same.2
  have kinds : Dict.get? (b.entry host) "kind" = some (.str b.kind) := by simp [Fact.entry]
  have subjects : Dict.get? (b.entry host) "subject" = some (.str b.subject) := by simp [Fact.entry]
  have environments : Dict.get? (b.entry host) "environment" = some b.environment.json := by simp [Fact.entry]
  refine ⟨?_, ?_, ?_⟩
  · obtain ⟨w, found, equal⟩ := fields ("kind", .str a.kind) (by simp [Fact.entry])
    obtain rfl := Option.some.inj (kinds.symm.trans found)
    exact (Json.str.inj ((Json.eq_str_left _ _).mp equal)).symm
  · obtain ⟨w, found, equal⟩ := fields ("subject", .str a.subject) (by simp [Fact.entry])
    obtain rfl := Option.some.inj (subjects.symm.trans found)
    exact (Json.str.inj ((Json.eq_str_left _ _).mp equal)).symm
  · obtain ⟨w, found, equal⟩ := fields ("environment", a.environment.json) (by simp [Fact.entry])
    obtain rfl := Option.some.inj (environments.symm.trans found)
    exact ((Environment.eq_iff _ _).mp equal).trans perm

/-- An entry that some entry equals equals itself. -/
theorem sameEntry_self {a b : Fact} (same : sameEntry host a b = true) : sameEntry host b b = true :=
  Json.eq_of_common (entry_distinct host a) same same

/-- The index of the latest fact is its position, or the fact does not even equal itself. -/
theorem factIndex_latest (split : facts = before ++ fact :: after) (about : About kind subject environment fact)
    (none : ∀ other ∈ after, ¬ About kind subject environment other) (indexed : 0 ≤ factIndex host facts fact) :
    factIndex host facts fact = before.length := by
  unfold factIndex at indexed ⊢
  cases found : facts.reverse.findIdx? (fun other => sameEntry host other fact) with
  | none => simp [found] at indexed
  | some back =>
    obtain ⟨inside, same, first⟩ := List.findIdx?_eq_some_iff_getElem.mp found
    have self : sameEntry host fact fact = true := sameEntry_self same
    have exact' : facts.reverse.findIdx? (fun other => sameEntry host other fact) = some after.length := by
      rw [split, List.reverse_append, List.reverse_cons, List.append_assoc, List.findIdx?_append]
      have skipped : after.reverse.findIdx? (fun other => sameEntry host other fact) = .none := by
        rw [List.findIdx?_eq_none_iff]
        intro other member
        by_contra equal
        exact none other (List.mem_reverse.mp member) (sameEntry_about (by simpa using equal) about)
      rw [skipped, List.singleton_append, List.findIdx?_cons, self]
      simp
    obtain rfl := Option.some.inj (found.symm.trans exact')
    simp only [split, List.length_append, List.length_cons]
    omega

/-- The latest fact of a longer journal is that of the shorter one, or was appended since. -/
theorem latestFact_append (before rest : List Fact) :
    latestFact subject (before ++ rest) kind environment = latestFact subject before kind environment ∨
      ∃ front newer back, rest = front ++ newer :: back ∧ About kind subject environment newer ∧
        (∀ other ∈ back, ¬ About kind subject environment other) ∧
        latestFact subject (before ++ rest) kind environment = some newer := by
  cases unkeyed : environment.fields.isEmpty with
  | true => exact .inl (by simp [latestFact, unkeyed])
  | false =>
    have known : environment.fields ≠ [] := by simpa using unkeyed
    cases newest : latestFact subject rest kind environment with
    | none =>
      refine .inl ?_
      simp only [latestFact, unkeyed, Bool.false_eq_true, if_false] at newest ⊢
      rw [List.reverse_append, List.find?_append, newest, Option.none_or]
    | some newer =>
      obtain ⟨about, front, back, rfl, none⟩ := latestFact_split newest
      refine .inr ⟨front, newer, back, rfl, about, none, ?_⟩
      rw [← List.append_assoc]
      exact latestFact_of_split known about none

theorem reusableFact_latest {spec : NodeSpec} {skill : Option Contract}
    (found : reusableFact host disk registry subject environment context facts spec skill = .ok (some fact)) :
    latestFact subject facts spec.produces (factEnvironment environment spec.produces) = some fact := by
  unfold reusableFact at found
  split at found
  · cases found
  · split at found
    · cases found
    · next hit latest =>
      obtain ⟨accepted, -, found⟩ := bind_ok.mp found
      split at found
      · rw [latest, Option.some.inj (pure_ok.mp found)]
      · cases pure_ok.mp found

theorem producer?_produces (found : producer? kind = some (name, spec)) : spec.produces = kind := by
  simpa using List.find?_some found

theorem inputFact_latest (found : inputFact host disk registry subject environment context facts kind verify =
    .ok (some source)) : latestFact subject facts kind (factEnvironment environment kind) = some source := by
  unfold inputFact at found
  split at found
  · cases found
  · next name spec produced =>
    have kinds := producer?_produces produced
    split at found
    · obtain ⟨skill, -, found⟩ := bind_ok.mp found
      split at found
      · cases pure_ok.mp found
      · exact kinds ▸ reusableFact_latest found
    · exact kinds ▸ reusableFact_latest found

/-- What an input is depends on the journal through its latest fact only. -/
theorem inputFact_congr {facts' : List Fact} (same : latestFact subject facts' kind (factEnvironment environment kind) =
    latestFact subject facts kind (factEnvironment environment kind)) (verify : Bool) :
    inputFact host disk registry subject environment context facts' kind verify =
      inputFact host disk registry subject environment context facts kind verify := by
  have reusable (spec : NodeSpec) (produces : spec.produces = kind) (skill : Option Contract) :
      reusableFact host disk registry subject environment context facts' spec skill =
        reusableFact host disk registry subject environment context facts spec skill := by
    unfold reusableFact
    rw [produces, same]
  unfold inputFact
  split
  · rfl
  · next name spec produced =>
    rw [reusable spec (producer?_produces produced)]
    simp only [reusable spec (producer?_produces produced)]

end Positions

/-! ## Facts whose inputs are current -/

section Current
variable (host : Host) (disk : Disk) (registry : Registry) (subject : Text) (environment : Environment)
  (context : Dict) (facts : List Fact)

/-- Every input of the fact is decided, each source is current itself and, in order, older. -/
inductive Current (order : Bool) : NodeSpec → Fact → Prop where
  | intro {spec : NodeSpec} {fact : Fact} (indexed : 0 ≤ factIndex host facts fact)
      (asked : ∀ kind ∈ inputKinds spec, ∀ verify, ∃ found,
        inputFact host disk registry subject environment context facts kind verify = .ok found)
      (absent : ∀ kind ∈ inputKinds spec,
        inputFact host disk registry subject environment context facts kind true = .ok none →
        kind ∉ requiredKinds spec ∧
          inputFact host disk registry subject environment context facts kind false = .ok none)
      (older : order = true → ∀ kind ∈ inputKinds spec, ∀ source,
        inputFact host disk registry subject environment context facts kind true = .ok (some source) →
        factIndex host facts source < factIndex host facts fact)
      (sources : ∀ kind ∈ inputKinds spec, ∀ source name producer,
        inputFact host disk registry subject environment context facts kind true = .ok (some source) →
        producer? kind = some (name, producer) → Current order producer source) :
      Current order spec fact

/-- A fact and its producer are an input of a fact and its producer. -/
def Uses (user used : NodeSpec × Fact) : Prop :=
  ∃ kind ∈ inputKinds user.1, ∃ name, producer? kind = some (name, used.1) ∧
    inputFact host disk registry subject environment context facts kind true = .ok (some used.2)

end Current

section Exact
variable {host : Host} {disk : Disk} {registry : Registry} {subject : Text} {environment : Environment}
  {context : Dict} {facts : List Fact} {spec : NodeSpec} {fact source : Fact} {order : Bool}

theorem mem_inputKinds : kind ∈ inputKinds spec ↔ kind ∈ requiredKinds spec ∨ kind ∈ optionalKinds spec := by
  rw [inputKinds, mem_sortedSet, List.mem_append]

theorem inputFact_produced (found : inputFact host disk registry subject environment context facts kind verify =
    .ok (some source)) : ∃ name producer, producer? kind = some (name, producer) := by
  unfold inputFact at found
  split at found
  · cases found
  · next name spec produced => exact ⟨name, spec, produced⟩

/-- What the recursion accepts is current, whatever kinds it has seen. -/
theorem current_of_inputsCurrent {fuel : Nat} {seen : List Text}
    (accepted : inputsCurrent host disk registry subject environment context facts order fuel seen spec fact = .ok true) :
    Current host disk registry subject environment context facts order spec fact := by
  induction fuel generalizing seen spec fact with
  | zero => cases accepted
  | succ fuel ih =>
    unfold inputsCurrent at accepted
    split at accepted
    · cases accepted
    · split at accepted
      · cases accepted
      · next unseen indexed =>
        have each := every_true.mp accepted
        have checked (kind : Text) (member : kind ∈ inputKinds spec) : ∃ raw verified,
            inputFact host disk registry subject environment context facts kind false = .ok raw ∧
            inputFact host disk registry subject environment context facts kind true = .ok verified ∧
            (verified = none → kind ∉ requiredKinds spec ∧ raw = none) ∧
            ∀ source, verified = some source → (order = true → factIndex host facts source < factIndex host facts fact) ∧
              ∀ name producer, producer? kind = some (name, producer) →
                inputsCurrent host disk registry subject environment context facts order fuel
                  (spec.produces :: seen) producer source = .ok true := by
          have one := each kind member
          simp only [inputCurrent, bind_ok] at one
          obtain ⟨raw, unverified, verified, found, one⟩ := one
          refine ⟨raw, verified, unverified, found, ?_, ?_⟩
          · rintro rfl
            have none := pure_ok.mp one
            simp only [Bool.and_eq_true, Bool.not_eq_true', List.contains_eq_mem, decide_eq_false_iff_not,
              Bool.and_eq_false_iff, Option.isSome_eq_false_iff, Option.isNone_iff_eq_none] at none
            refine ⟨none.1, none.2.resolve_left fun optional => ?_⟩
            exact (mem_inputKinds.mp member).elim none.1 optional
          · rintro source rfl
            simp only at one
            split at one
            · cases pure_ok.mp one
            · next ordered =>
              refine ⟨fun inOrder => ?_, fun name producer produced => ?_⟩
              · simpa [inOrder] using ordered
              · rw [produced] at one
                exact one
        refine .intro (not_lt.mp indexed) (fun kind member verify => ?_) (fun kind member none => ?_)
          (fun inOrder kind member source found => ?_) fun kind member source name producer found produced => ?_
        · obtain ⟨raw, verified, unverified, found, -⟩ := checked kind member
          cases verify with
          | true => exact ⟨_, found⟩
          | false => exact ⟨_, unverified⟩
        · obtain ⟨raw, verified, unverified, found, absent, -⟩ := checked kind member
          obtain rfl := Except.ok.inj (found.symm.trans none)
          obtain ⟨optional, rfl⟩ := absent rfl
          exact ⟨optional, unverified⟩
        · obtain ⟨raw, verified, -, found', -, present⟩ := checked kind member
          obtain rfl := Except.ok.inj (found'.symm.trans found)
          exact (present source rfl).1 inOrder
        · obtain ⟨raw, verified, -, found', -, present⟩ := checked kind member
          obtain rfl := Except.ok.inj (found'.symm.trans found)
          exact ih ((present source rfl).2 name producer produced)

theorem not_rel_of_acc {r : α → α → Prop} {a : α} (accessible : Acc r a) : ¬ r a a := by
  induction accessible with
  | intro a _ ih => exact fun self => ih a self self

/-- The recursion over a current fact does not come back to where it started. -/
theorem Current.acc (current : Current host disk registry subject environment context facts order spec fact) :
    Acc (fun used user => Uses host disk registry subject environment context facts user used) (spec, fact) := by
  induction current with
  | intro indexed asked absent older sources ih =>
    refine .intro _ fun used uses => ?_
    obtain ⟨kind, member, name, produced, found⟩ := uses
    exact ih kind member used.2 name used.1 found produced

/-- The kinds seen on the way to a fact: each is the latest of its kind and leads to it. -/
def Seen (host : Host) (disk : Disk) (registry : Registry) (subject : Text) (environment : Environment)
    (context : Dict) (facts : List Fact) (seen : List Text) (reached : NodeSpec × Fact) : Prop :=
  ∀ kind ∈ seen, ∃ name user, producer? kind = some (name, user.1) ∧
    latestFact subject facts kind (factEnvironment environment kind) = some user.2 ∧
    Relation.TransGen (Uses host disk registry subject environment context facts) user reached

theorem Seen.length_le {seen : List Text} {reached : NodeSpec × Fact}
    (history : Seen host disk registry subject environment context facts seen reached) (distinct : seen.Nodup) :
    seen.length ≤ nodes.length := by
  have inside : seen ⊆ nodes.map fun node => node.2.produces := by
    intro kind member
    obtain ⟨name, user, produced, -, -⟩ := history kind member
    exact List.mem_map.mpr ⟨(name, user.1), List.mem_of_find?_eq_some produced, producer?_produces produced⟩
  simpa using (distinct.subperm inside).length_le

theorem Seen.cons {seen : List Text} {used : NodeSpec × Fact} {name : Text}
    (history : Seen host disk registry subject environment context facts seen (spec, fact))
    (produced : producer? spec.produces = some (name, spec))
    (latest : latestFact subject facts spec.produces (factEnvironment environment spec.produces) = some fact)
    (uses : Uses host disk registry subject environment context facts (spec, fact) used) :
    Seen host disk registry subject environment context facts (spec.produces :: seen) used := by
  intro kind member
  obtain rfl | member := List.mem_cons.mp member
  · exact ⟨name, (spec, fact), produced, latest, .single uses⟩
  · obtain ⟨name, user, produced, latest, leads⟩ := history kind member
    exact ⟨name, user, produced, latest, leads.tail uses⟩

/-- The recursion accepts a current fact: it meets no kind twice, so its depth suffices. -/
theorem Current.inputsCurrent {fuel : Nat} {seen : List Text} {name : Text}
    (current : Current host disk registry subject environment context facts order spec fact)
    (produced : producer? spec.produces = some (name, spec))
    (latest : latestFact subject facts spec.produces (factEnvironment environment spec.produces) = some fact)
    (history : Seen host disk registry subject environment context facts seen (spec, fact)) (distinct : seen.Nodup)
    (enough : nodes.length < fuel + seen.length) :
    inputsCurrent host disk registry subject environment context facts order fuel seen spec fact = .ok true := by
  induction current generalizing fuel seen name with
  | intro indexed asked absent older sources ih =>
    next spec fact =>
    have unseen : spec.produces ∉ seen := by
      intro member
      obtain ⟨other, user, again, same, leads⟩ := history _ member
      obtain rfl : user = (spec, fact) := by
        obtain ⟨-, rfl⟩ := Prod.mk.inj (Option.some.inj (produced.symm.trans again))
        rw [← Option.some.inj (same.symm.trans latest)]
      have accessible := (Current.intro indexed asked absent older sources).acc.transGen
      exact not_rel_of_acc accessible (Relation.transGen_swap.mp leads)
    cases fuel with
    | zero => exact absurd (history.length_le distinct) (by omega)
    | succ fuel =>
      unfold Graph.inputsCurrent
      rw [if_neg unseen, if_neg (not_lt.mpr indexed), every_true]
      intro kind member
      obtain ⟨raw, unverified⟩ := asked kind member false
      obtain ⟨verified, found⟩ := asked kind member true
      simp only [inputCurrent, unverified, found, ok_bind]
      cases verified with
      | none =>
        obtain ⟨optional, missing⟩ := absent kind member found
        obtain rfl := Except.ok.inj (unverified.symm.trans missing)
        simp [optional, pure, Except.pure]
      | some source =>
        obtain ⟨name, producer, feeds⟩ := inputFact_produced found
        have ordered : (order && factIndex host facts source ≥ factIndex host facts fact) = false := by
          cases order with
          | false => rfl
          | true => simpa using older rfl kind member source found
        simp only [ordered, Bool.false_eq_true, if_false, feeds]
        have kinds := producer?_produces feeds
        have uses : Uses host disk registry subject environment context facts (spec, fact) (producer, source) :=
          ⟨kind, member, name, feeds, found⟩
        exact ih kind member source name producer found feeds (kinds ▸ feeds) (kinds ▸ inputFact_latest found)
          (history.cons produced latest uses) (List.nodup_cons.mpr ⟨unseen, distinct⟩)
          (by simp only [List.length_cons]; omega)

/-- For a node's latest fact, the recursion answers exactly whether the fact is current. -/
theorem reusableInputsCurrent_true (produced : producer? spec.produces = some (name, spec))
    (latest : latestFact subject facts spec.produces (factEnvironment environment spec.produces) = some fact) :
    reusableInputsCurrent host disk registry subject environment context facts order spec fact = .ok true ↔
      Current host disk registry subject environment context facts order spec fact := by
  constructor
  · exact current_of_inputsCurrent
  · intro current
    exact current.inputsCurrent produced latest (fun _ member => absurd member List.not_mem_nil) List.nodup_nil
      (Nat.lt_succ_self _)

end Exact

/-! ## What a reused node would read now -/

section Unchanged
variable (host : Host) (disk : Disk) (registry : Registry) (subject : Text) (environment : Environment)
  (context : Dict) (facts : List Fact)

/-- An optional kind whose latest fact was recorded after `before` and is refused now. -/
def Withdrawn (before : List Fact) (spec : NodeSpec) (kind : Text) : Prop :=
  kind ∉ requiredKinds spec ∧
    inputFact host disk registry subject environment context facts kind false = .ok none ∧
    ∃ front newer back, facts = before ++ front ++ newer :: back ∧
      About kind subject (factEnvironment environment kind) newer ∧
      ∀ other ∈ back, ¬ About kind subject (factEnvironment environment kind) other

/-- The fact was recorded for the environment, each of its inputs is what it was in the journal before it or
was withdrawn since, and the same holds of the inputs. -/
inductive Unchanged : NodeSpec → Fact → Prop where
  | intro {spec : NodeSpec} {before after : List Fact} {fact : Fact} (split : facts = before ++ fact :: after)
      (about : About spec.produces subject (factEnvironment environment spec.produces) fact)
      (latest : ∀ other ∈ after, ¬ About spec.produces subject (factEnvironment environment spec.produces) other)
      (inputs : ∀ kind ∈ inputKinds spec,
        (∀ verify, inputFact host disk registry subject environment context facts kind verify =
          inputFact host disk registry subject environment context before kind verify) ∨
        Withdrawn host disk registry subject environment context facts before spec kind)
      (sources : ∀ kind ∈ inputKinds spec, ∀ source name producer,
        inputFact host disk registry subject environment context facts kind true = .ok (some source) →
        producer? kind = some (name, producer) → Unchanged producer source) :
      Unchanged spec fact

end Unchanged

section Walk
variable {host : Host} {disk : Disk} {registry : Registry} {subject : Text} {environment : Environment}
  {context : Dict} {facts : List Fact} {spec : NodeSpec} {fact source : Fact} {order : Bool}

/-- A source older than the fact is the latest of its kind in the journal before the fact. -/
theorem source_before {before after : List Fact} (split : facts = before ++ fact :: after)
    (latest : latestFact subject facts kind environment = some source) (indexed : 0 ≤ factIndex host facts source)
    (older : factIndex host facts source < before.length) :
    latestFact subject before kind environment = some source := by
  have known : environment.fields ≠ [] := by
    rintro empty
    simp [latestFact, empty] at latest
  obtain ⟨about, front, back, split', none⟩ := latestFact_split latest
  rw [factIndex_latest split' about none indexed] at older
  have inside : (front ++ [source]).length ≤ before.length := by simp; omega
  have joined : front ++ [source] ++ back = before ++ fact :: after := by rw [← split, split']; simp
  obtain ⟨rest, rfl⟩ : ∃ rest, before = front ++ [source] ++ rest :=
    List.prefix_of_prefix_length_le ⟨back, joined⟩ ⟨fact :: after, rfl⟩ inside |>.imp fun _ => Eq.symm
  simp only [List.append_assoc, List.append_cancel_left_eq] at joined
  rw [List.append_assoc, List.singleton_append]
  refine latestFact_of_split known about fun other member => none other ?_
  rw [joined]
  exact List.mem_append_left _ member

theorem Current.factIndex_nonneg
    (current : Current host disk registry subject environment context facts order spec fact) :
    0 ≤ factIndex host facts fact := by
  cases current with
  | intro indexed _ _ _ _ => exact indexed

/-- A rejected latest fact leaves an optional input absent, then and now, unless it was recorded since. -/
theorem absent_before {before after : List Fact} (split : facts = before ++ fact :: after)
    (optional : kind ∉ requiredKinds spec)
    (raw : inputFact host disk registry subject environment context facts kind false = .ok none) :
    (∀ verify, inputFact host disk registry subject environment context facts kind verify =
      inputFact host disk registry subject environment context before kind verify) ∨
    Withdrawn host disk registry subject environment context facts before spec kind := by
  have known : latestFact subject (before ++ fact :: after) kind (factEnvironment environment kind) =
    latestFact subject before kind (factEnvironment environment kind) ∨ _ := latestFact_append before (fact :: after)
  obtain same | ⟨front, newer, back, appended, about, none, -⟩ := known
  · exact .inl fun verify => inputFact_congr (split ▸ same) verify
  · refine .inr ⟨optional, raw, front, newer, back, ?_, about, none⟩
    rw [split, appended, List.append_assoc]

/-- What is current and was recorded in order is unchanged. -/
theorem Current.unchanged
    (current : Current host disk registry subject environment context facts true spec fact)
    (latest : latestFact subject facts spec.produces (factEnvironment environment spec.produces) = some fact) :
    Unchanged host disk registry subject environment context facts spec fact := by
  induction current with
  | intro indexed asked absent older sources ih =>
    next spec fact =>
    obtain ⟨about, before, after, split, none⟩ := latestFact_split latest
    have position := factIndex_latest split about none indexed
    refine .intro split about none (fun kind member => ?_) fun kind member source name producer found feeds => ?_
    · obtain ⟨verified, found⟩ := asked kind member true
      cases verified with
      | none =>
        obtain ⟨optional, raw⟩ := absent kind member found
        exact absent_before split optional raw
      | some source =>
        obtain ⟨name, producer, feeds⟩ := inputFact_produced found
        have current := sources kind member source name producer found feeds
        have earlier := older rfl kind member source found
        rw [position] at earlier
        have now := inputFact_latest found
        have then' := source_before split now current.factIndex_nonneg earlier
        exact .inl fun verify => inputFact_congr (now.trans then'.symm) verify
    · have kinds := producer?_produces feeds
      exact ih kind member source name producer found feeds (kinds ▸ inputFact_latest found)

/-- A fact is reused only where its node would read now what was there when it was recorded. -/
theorem reused_unchanged (host : Host) (disk : Disk) (registry : Registry) (subject : Text) (environment : Environment)
    (context : Dict) (facts : List Fact) (spec : NodeSpec) (skill : Option Contract) (prior : Fact)
    (reused : reusableFact host disk registry subject environment context facts spec skill = .ok (some prior))
    (accepted : reusableInputsCurrent host disk registry subject environment context facts true spec prior = .ok true) :
    Unchanged host disk registry subject environment context facts spec prior :=
  (current_of_inputsCurrent accepted).unchanged (reusableFact_latest reused)

end Walk

/-! A proof of the environment and a drift report that was made from it. -/

def reuseHost : Host :=
  .reading [(baseModelText, .obj baseModelSample), ([1], .obj (proofSample "alice" "pod")),
    ([2], .obj [("state", .str "DRIFT_CLEAR")])]

def reuseDisk : Disk :=
  { Disk.holding ((Text.ofString "/runs/b/drift_status.json", [2]) :: evidenceSample "/runs/a" [1] [3]) with
    baseModel := .ok (.obj baseModelSample) }

def reuseEnvironment : Environment where
  fields := [("base", "kunlun"), ("environment_fingerprint", digestSample [3])]
  distinct := by decide

def reuseSkill : Contract := ⟨"skill", .str "runtime_drift_scan", none⟩

def reuseDetail : Detail where
  fields := [("skill", .obj [("id", .str "skill"), ("method_sha256", .null)])]
  distinct := by decide

def reuseProof : Fact :=
  ⟨"EnvironmentProof", "model", "ENVIRONMENT_READY", .ofText "/runs/a",
    without reuseEnvironment ["environment_fingerprint", "environment_pod"], some reuseDetail⟩

def reuseReport : Fact :=
  ⟨"RuntimeDriftReport", "model", "DRIFT_CLEAR", .ofText "/runs/b", reuseEnvironment, some reuseDetail⟩

def driftNode : NodeSpec where
  produces := "RuntimeDriftReport"
  needs := [environmentStatus]
  command := ["python3", "cli/discovery/scan_runtime_drift.py", "--out", .hole "artifacts"]
  stateFile := "drift_status.json"

theorem reused_unchanged_report :
    producer? "RuntimeDriftReport" = some (Text.ofString "runtime_drift_scan", driftNode) ∧
      Unchanged reuseHost reuseDisk ⟨fun _ _ => .ok (some reuseSkill)⟩ "model" reuseEnvironment []
        [reuseProof, reuseReport] driftNode reuseReport :=
  ⟨by decide, reused_unchanged reuseHost reuseDisk ⟨fun _ _ => .ok (some reuseSkill)⟩ "model" reuseEnvironment []
    [reuseProof, reuseReport] driftNode (some reuseSkill) reuseReport rfl (by decide +kernel)⟩

/-! ## A plan and the patch placed with it -/

section Patched
variable {host : Host} {disk : Disk} {registry : Registry} {subject : Text} {environment : Environment}
  {context : Dict} {facts : List Fact} {spec : NodeSpec} {fact : Fact} {order : Bool}

theorem Current.required (current : Current host disk registry subject environment context facts order spec fact)
    (kind : Text) (required : kind ∈ requiredKinds spec) : ∃ source name producer,
      inputFact host disk registry subject environment context facts kind true = .ok (some source) ∧
      producer? kind = some (name, producer) ∧
      Current host disk registry subject environment context facts order producer source := by
  cases current with
  | intro indexed asked absent older sources =>
    have member := mem_inputKinds.mpr (.inl required)
    obtain ⟨found, verified⟩ := asked kind member true
    cases found with
    | none => exact absurd required (absent kind member verified).1
    | some source =>
      obtain ⟨name, producer, feeds⟩ := inputFact_produced verified
      exact ⟨source, name, producer, verified, feeds, sources kind member source name producer verified feeds⟩

theorem Current.optional (current : Current host disk registry subject environment context facts order spec fact)
    (kind : Text) (optional : kind ∈ optionalKinds spec)
    (raw : inputFact host disk registry subject environment context facts kind false = .ok (some patch)) :
    ∃ source name producer,
      inputFact host disk registry subject environment context facts kind true = .ok (some source) ∧
      producer? kind = some (name, producer) ∧
      Current host disk registry subject environment context facts order producer source := by
  cases current with
  | intro indexed asked absent older sources =>
    have member := mem_inputKinds.mpr (.inr optional)
    obtain ⟨found, verified⟩ := asked kind member true
    cases found with
    | none => cases (absent kind member verified).2.symm.trans raw
    | some source =>
      obtain ⟨name, producer, feeds⟩ := inputFact_produced verified
      exact ⟨source, name, producer, verified, feeds, sources kind member source name producer verified feeds⟩

theorem placedPatch_requires (produced : producer? "PlacedPatch" = some (name, spec)) :
    Text.ofString "DeploymentPlan" ∈ requiredKinds spec := by
  have node : (producer? "PlacedPatch").all fun node => Text.ofString "DeploymentPlan" ∈ requiredKinds node.2 := by
    decide
  simpa [produced] using node

theorem deploymentPlan_optional (produced : producer? "DeploymentPlan" = some (name, spec)) :
    Text.ofString "PlacedPatch" ∈ optionalKinds spec := by
  have node : (producer? "DeploymentPlan").all fun node => Text.ofString "PlacedPatch" ∈ optionalKinds node.2 := by
    decide
  simpa [produced] using node

/-- Once a patch is placed, nothing that needs the plan is current: the plan takes the patch, which needs the plan. -/
theorem Current.unpatched
    (raw : inputFact host disk registry subject environment context facts "PlacedPatch" false = .ok (some patch))
    (current : Current host disk registry subject environment context facts order spec fact) :
    Text.ofString "DeploymentPlan" ∉ requiredKinds spec ∧ ∀ name, producer? "DeploymentPlan" ≠ some (name, spec) := by
  induction current with
  | intro indexed asked absent older sources ih =>
    have current := Current.intro indexed asked absent older sources
    constructor
    · intro required
      obtain ⟨source, name, producer, found, feeds, -⟩ := current.required _ required
      exact (ih _ (mem_inputKinds.mpr (.inl required)) source name producer found feeds).2 name feeds
    · intro name plan
      have optional := deploymentPlan_optional plan
      obtain ⟨source, name, producer, found, feeds, -⟩ := current.optional _ optional raw
      exact (ih _ (mem_inputKinds.mpr (.inr optional)) source name producer found feeds).1 (placedPatch_requires feeds)

end Patched

end InferForge.Graph
