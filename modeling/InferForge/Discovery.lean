import InferForge.Scheduler.Runs

/-! Shim and operator-gap reports become measured operator specifications. The boundary never
invents a schema: an entry without measured inputs, outputs and semantic evidence is refused. -/
namespace InferForge
open Py Effect Sched ResultValidation

/-- A specification as it leaves the report: its evidence is whatever `dict` made of the entry's,
and is only turned into a document when the specification is stored. -/
structure Measured where
  spec : OperatorSpec
  evidence : Mapping

def Measured.persisted (host : Host) (measured : Measured) : Except Exn OperatorSpec := do
  let evidence ← measured.evidence.dumped host
  return { measured.spec with evidence }

namespace Discovery

def text (value : Json) (field context : Text) : Except Exn Text :=
  match value with
  | .str t =>
      if t.blank then .error (.value (context ++ ": " ++ field ++ " is required")) else .ok t.strip
  | _ => .error (.value (context ++ ": " ++ field ++ " is required"))

def ioFields : List Text := ["name", "dtype", "shape", "layout"]

/-- The field `IOSpec.__post_init__` complains about. -/
def ioProblem (spec : IOSpec) : Text :=
  if IOSpec.blank spec.name then "name"
  else if IOSpec.blank spec.dtype then "dtype"
  else if IOSpec.blank spec.layout then "layout"
  else "shape"

def ioSpec (context : Text) (item : Json) : Except Exn { spec : IOSpec // spec.Valid } :=
  match item with
  | .obj fields =>
      let missing := ioFields.filter fun key => !Dict.has fields key
      let unexpected := fields.filter fun field => field.1 ∉ ioFields
      if !missing.isEmpty then
        .error (.value (context ++ " is missing required fields: " ++ Text.join ", " missing))
      else if !unexpected.isEmpty then
        .error (.value (context ++ ": IOSpec.__init__() got an unexpected keyword argument"))
      else
        let spec : IOSpec := ⟨Dict.getD fields "name" .null, Dict.getD fields "dtype" .null,
          Dict.getD fields "shape" .null, Dict.getD fields "layout" .null⟩
        if valid : spec.Valid then .ok ⟨spec, valid⟩
        else .error (.value (context ++ ": " ++ ioProblem spec ++ " is required"))
  | _ => .error (.value (context ++ " must be an object"))

def ioSpecs (value : Json) (field context : Text) :
    Except Exn (List { spec : IOSpec // spec.Valid }) :=
  match value with
  | .arr (first :: rest) =>
      (first :: rest).zipIdx.mapM fun (item, index) =>
        ioSpec (context ++ "." ++ field ++ "[" ++ Text.ofNat index ++ "]") item
  | _ => .error (.value
      (context ++ ": " ++ field ++ " must be a non-empty list with measured tensor schemas"))

/-- `value in (None, "", [], {})`. -/
def empty (value : Json) : Bool :=
  value.isNull || value.eq (.str "") || value.eq (.arr []) || value.eq (.obj [])

/-- The keys under which semantics count as evidence. -/
def evidenceKeys : List Text :=
  ["reference", "reference_impl", "reference_implementation", "formula", "description", "basis",
    "semantics_basis", "evidence"]

/-- `d.setdefault(key, value)`, the dict afterwards. -/
def setDefault (d : Dict) (key : Text) (value : Json) : Dict :=
  if d.has key then d else d ++ [(key, value)]

/-- `entry.get("semantics")`, which is nothing or an object. -/
def givenSemantics (entry : Dict) (context : Text) : Except Exn Dict :=
  match entry.getD "semantics" .null with
  | .null => .ok []
  | .obj fields => .ok fields
  | _ => .error (.value (context ++ ": semantics must be an object"))

/-- A separate `semantics_basis` becomes the basis of the semantics. -/
def withBasis (entry : Dict) (context : Text) (given : Dict) : Except Exn Dict :=
  let basis := entry.getD "semantics_basis" .null
  if basis.isNull then .ok given
  else do
    let basis ← text basis "semantics_basis" context
    return setDefault given "basis" (.str basis)

def semantics (entry : Dict) (context : Text) : Except Exn Dict := do
  let given ← givenSemantics entry context
  let semantics ← withBasis entry context given
  if evidenceKeys.any fun key => semantics.has key && !empty (semantics.getD key .null) then
    return semantics
  else throw (.value (context ++ ": semantic evidence is required (reference, formula, " ++
    "description, or semantics_basis)"))

/-- `report.get("signals", [])` of a report, restricted to one operator. -/
def signals (report : Dict) (operatorId : Text) : Except Exn (List Json) := do
  let given ← (report.getD "signals" (.arr [])).elements
  return given.filter fun signal =>
    match signal with
    | .obj fields => Json.eqOpt (Dict.get? fields "symbol") (.str operatorId)
    | _ => false

def evidence (entry : Dict) (report : Option Dict) (operatorId : Text) : Except Exn Mapping := do
  let given ← Json.toMappingOr (entry.getD "evidence" .null)
  let keys : List Text :=
    ["location", "replaced_kernel", "call_frequency", "semantics_basis", "source", "class"]
  let own := keys.foldl (fun m key =>
    if entry.has key && !empty (entry.getD key .null) then m.setDefault key (entry.getD key .null)
    else m) given
  match report with
  | none | some [] => return own
  | some report => do
      let found ← signals report operatorId
      let noted := if found.isEmpty then own else own.setDefault "signals" (.arr found)
      let origin : List Text := ["plugin", "plugin_path", "scanned_in"]
      return origin.foldl (fun m key =>
        let value := report.getD key .null
        if value.isNull || value.eq (.str "") then m else m.setDefault key value) noted

/-- `OperatorSpec(...)`, with the checks of `__post_init__`. -/
def construct (operatorId modelId modelRevision pluginRevision backend : Text)
    (inputs outputs : List { spec : IOSpec // spec.Valid }) (semantics environment : Dict) :
    Except Exn OperatorSpec :=
  if named : operatorId.isEmpty = false ∧ modelId.isEmpty = false ∧ backend.isEmpty = false then
    if measured : inputs ≠ [] ∧ outputs ≠ [] then
      if described : semantics ≠ [] then
        have some {l : List { spec : IOSpec // spec.Valid }} (given : l ≠ []) :
            l.map Subtype.val ≠ [] := fun none => given (List.map_eq_nil_iff.mp none)
        .ok {
          operatorId, modelId, modelRevision, pluginRevision, backend
          inputs := inputs.map Subtype.val, outputs := outputs.map Subtype.val
          semantics, evidence := [], environment, named
          shaped := ⟨some measured.1, some measured.2, described⟩
          io := ⟨by grind, by grind⟩ }
      else .error (.value "semantics are required")
    else .error (.value "inputs and outputs are required")
  else .error (.value "operator_id, model_id and backend are required")

/-- What the caller of a conversion supplies beside the report. -/
structure Target where
  modelId : Text
  backend : Text
  modelRevision : Text
  pluginRevision : Text
  /-- Becomes a dict only in the specification. -/
  environment : Json

def checkLocation (entry : Dict) (context : Text) : Except Exn Unit :=
  let location := entry.getD "location" .null
  if location.isNull then .ok () else (text location "location" context).map fun _ => ()

def specFromEntry (host : Host) (target : Target) (entry : Dict) (report : Option Dict) :
    Except Exn Measured := do
  let get := fun key : Text => entry.getD key .null
  let context := host.str
    ((((get "name").or (get "operator_id")).or (get "symbol")).or (.str "entry"))
  let operatorId ← text (((get "operator_id").or (get "name")).or (get "symbol")) "operator id"
    context
  let modelId ← text (.str target.modelId) "model_id" context
  let backend ← text (.str target.backend) "backend" context
  let inputs ← ioSpecs (get "inputs") "inputs" context
  let outputs ← ioSpecs (get "outputs") "outputs" context
  let semantics ← semantics entry context
  checkLocation entry context
  let evidence ← evidence entry report operatorId
  let modelRevision ← text (.str target.modelRevision) "model_revision" context
  let pluginRevision ← text (.str target.pluginRevision) "plugin_revision" context
  let environment ← Json.toMappingOr target.environment
  let spec ← construct operatorId modelId modelRevision pluginRevision backend inputs outputs
    semantics (← environment.dumped host)
  return { spec, evidence }

def entries (report : Json) : Except Exn (List Dict) := do
  let values := match report with
    | .obj fields =>
        let named := (["entries", "gaps", "findings"] : List String).findSome? fun key =>
          match fields.lookup (Text.ofString key) with
          | some .null | none => none
          | some values => some values
        match named with
        | some values => values
        | none =>
            if (["name", "operator_id", "symbol"] : List String).any fun key =>
                Dict.has fields (Text.ofString key) then .arr [report]
            else .arr []
    | other => other
  match values with
  | .arr items =>
      items.zipIdx.mapM fun (item, index) =>
        match item with
        | .obj fields => .ok fields
        | _ => .error (.value ("entries[" ++ Text.ofNat index ++ "] must be an object"))
  | _ => throw (.value "report entries/gaps must be a list")

/-- The loop of `operator_specs_from_report`. -/
def specsFrom (host : Host) (target : Target) (report : Option Dict) (includeWaived : Bool) :
    Nat → List Dict → Except Exn (List Measured)
  | _, [] => .ok []
  | index, entry :: rest =>
      let waived := Json.eqOpt (entry.get? "status") (.str "WAIVED")
      if waived && !includeWaived then specsFrom host target report includeWaived (index + 1) rest
      else if waived && !(entry.getD "reason" .null).truthy then
        .error (.value ("entries[" ++ Text.ofNat index ++ "] is WAIVED without a reason"))
      else do
        let spec ← specFromEntry host target entry report
        return spec :: (← specsFrom host target report includeWaived (index + 1) rest)

/-- `operator_specs_from_report`, called with a plugin revision. -/
def specsFromReport (host : Host) (target : Target) (report : Json) (includeWaived : Bool) :
    Except Exn (List Measured) := do
  let mapping := report.dict?
  if mapping.any fun fields => (Dict.getD fields "unmapped_signals" .null).truthy then
    throw (.value ("report contains unmapped shim signals; declare their input/output and " ++
      "semantic evidence before creating an OperatorSpec"))
  else
    let entries ← entries report
    let revision : Text := if target.pluginRevision.isEmpty then "unknown" else target.pluginRevision
    specsFrom host { target with pluginRevision := revision } mapping includeWaived 0 entries

end Discovery

/-- `discover_operator` of a measured specification. Evidence that cannot be stored is only met
after the checks and the key. -/
def discoverMeasured (host : Host) (disk : Disk) (runId : Text) (measured : Measured) :
    Sched Task :=
  match measured.persisted host with
  | .ok spec => discoverOperator host disk runId spec
  | .error e => atomic do
      let run ← requireRun runId (.key ("unknown run: " ++ runId))
      Prog.lift (checkDiscovery run measured.spec)
      let _ ← Prog.lift (measured.spec.operatorKey host)
      Prog.raise e

end InferForge
