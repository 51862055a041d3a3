import InferForge.Runners.Triage
import InferForge.Py.RoundTrip

/-! The vendor handoff: a ticket for a failure that triage attributes to a binary layer. -/
namespace InferForge.Handoff
open Py ResultValidation Effect

def binaryLayers : List Text := ["kunlun_ops_vendor", "torch_xmlir_vendor"]

/-! ## The ticket -/

section Ticket
variable (host : Host)

/-- A value in an f-string. -/
def format : Json → Text
  | .arr items => "[" ++ Text.join ", " (items.map host.repr) ++ "]"
  | value => host.str value

/-- `value + [item]`. -/
def plus (value : Json) (item : Text) : Except Exn Json :=
  match value with
  | .arr items => .ok (.arr (items ++ [.str item]))
  | _ => .error (.type "can only concatenate list to list")

def reproduction (reproduces : Bool) : Text :=
  if reproduces then "the captured arguments fail when called directly"
  else "the identical arguments succeed when called directly; the failure only occurs inside the server process, so reproduction requires the full serving run"

def sweptSentence (isolated : Dict) : Text :=
  format host (Dict.getD isolated "passed" (.int 0)) ++ " of " ++
    format host (Dict.getD isolated "cases" (.int 0)) ++ " swept cases pass in isolation"

/-- `build`, without a workaround of the caller. -/
def build (triage : Dict) (environment : Text) : Except Exn Dict := do
  let symbol := Dict.getD triage "failing_symbol" .null
  match (Dict.getD triage "isolated_reproduction" .null).or (.obj []) with
  | .obj isolated => do
      let reproduces := (Dict.getD isolated "reproduced" .null).truthy
      let ruledOut ← plus ((Dict.getD isolated "hard_constraints" .null).or (.arr [])) (sweptSentence host isolated)
      let workaround ← ((Dict.getD triage "workaround" .null).or (.obj [])).field "description"
      return [("state", .str "HANDOFF_READY"), ("layer", Dict.getD triage "layer" .null), ("symbol", symbol),
        ("error_text", Dict.getD triage "error_text" .null),
        ("arguments", Dict.getD triage "captured_arguments" .null),
        ("environment_fingerprint", .str environment), ("reproduces_in_isolation", .bool reproduces),
        ("reproduction", .str (reproduction reproduces)),
        ("expected", .str (format host symbol ++ " returns 0 for the recorded arguments")),
        ("observed", Dict.getD triage "error_text" .null), ("ruled_out", ruledOut),
        ("local_workaround", workaround), ("owner", .str "vendor")]
  | _ => throw (.attr "object has no attribute 'get'")

/-- `"\n".join(lines)`, of a line that is a value. -/
def textLine : Json → Except Exn Text
  | .str t => .ok t
  | _ => .error (.type "sequence item: expected str instance")

/-- `render`; `pretty` is `json.dumps(..., indent=2)`. -/
def render (pretty : Json → Text) (ticket : Dict) : Except Exn Text := do
  let shown (key : Text) : Text := format host (Dict.getD ticket key .null)
  let reproduction ← textLine (Dict.getD ticket "reproduction" .null)
  let ruledOut ← (Dict.getD ticket "ruled_out" .null).elements
  let workaround := Dict.getD ticket "local_workaround" .null
  let heading : List Text := ["", "## Local workaround in place", ""]
  let applied ← if workaround.truthy then do pure (heading ++ [← textLine workaround]) else pure []
  let lines : List Text := ["# Vendor handoff — " ++ shown "symbol", "", "- layer: `" ++ shown "layer" ++ "`",
    "- environment: `" ++ shown "environment_fingerprint" ++ "`",
    "- reproduces in isolation: **" ++ shown "reproduces_in_isolation" ++ "**", "", "## What happens", "",
    "```\n" ++ shown "observed" ++ "\n```", "", "Expected: " ++ shown "expected", "", "## How to reproduce", "",
    reproduction, "", "## Arguments recorded at the failure", "", "```json",
    pretty (Dict.getD ticket "arguments" .null), "```", "", "## Already ruled out", ""]
  return Text.join "\n" (lines ++ (ruledOut.map fun item => "- " ++ format host item) ++ applied) ++ "\n"

/-! ## The gate -/

def requiredFields : List Text := ["symbol", "error_text", "expected", "observed", "reproduction"]

/-- The reproduction has to say where the failure occurs. -/
def reproductionErrors (ticket : Dict) : List Text :=
  let reproduces := Dict.getD ticket "reproduces_in_isolation" .null
  if !(reproduces.eq (.bool true) || reproduces.eq (.bool false)) then
    ["reproduces_in_isolation must be stated explicitly, not left unsaid"]
  else
    let text := Text.lower (format host (Dict.getD ticket "reproduction" (.str "")))
    errorIf (!reproduces.truthy && !text.holds "only occurs inside the server")
      "this failure does not reproduce standalone, so the ticket must say the reproduction requires the full serving run" ++
    errorIf (reproduces.truthy && !text.holds "directly")
      "a standalone-reproducible failure must say how to call it directly"

/-- `validate_handoff`. -/
def validate (ticket : Dict) (contract : Json) : Except Exn (List Text) := do
  let acceptance := (← contract.field "acceptance").or (.obj [])
  let state := Dict.getD ticket "state" .null
  let layer := Dict.getD ticket "layer" .null
  let ready := errorIf (!state.eq (.str "HANDOFF_READY")) ("state is " ++ host.repr state ++ ", not HANDOFF_READY")
  let binary := errorIf (!(← layer.among binaryLayers))
    ("layer " ++ host.repr layer ++ " is modifiable here, so the work is ours, not a handoff")
  let fields := requiredFields.flatMap fun key => errorIf (!(Dict.getD ticket key .null).truthy)
    (key ++ " is required in a ticket someone else has to act on")
  let arguments := errorIf (!(Dict.getD ticket "arguments" .null).truthy)
    "arguments must be included: a symptom without them cannot be reproduced"
  let environment := errorIf ((← acceptance.field "require_environment_fingerprint").truthy &&
      !(Dict.getD ticket "environment_fingerprint" .null).truthy)
    "environment_fingerprint is required: the failure holds for one combination"
  let ruledOut := errorIf ((← acceptance.field "require_ruled_out").truthy &&
      !(Dict.getD ticket "ruled_out" .null).truthy)
    "ruled_out must list what was already eliminated, or the vendor repeats it"
  let owner := errorIf (!(Dict.getD ticket "owner" .null).eq (.str "vendor"))
    "a handoff is owned by the vendor by definition"
  return ready ++ binary ++ fields ++ arguments ++ environment ++ reproductionErrors host ticket ++ ruledOut ++
    owner

end Ticket

def acceptance : Json :=
  .obj [("require_environment_fingerprint", .bool true), ("require_ruled_out", .bool true),
    ("evidence_required", .bool true)]

/-- The flags of the task contract. -/
def contract : Json := .obj [("acceptance", acceptance)]

/-! ## The command -/

/-- What a call returns and leaves. -/
structure Outcome where
  code : Nat
  ticket : Option Dict
  /-- `handoff_status.json`. -/
  status : Option Json

def verdict (passed : Bool) (errors : List Text) : Json :=
  .obj [("passed", .bool passed), ("errors", .arr (errors.map .str))]

/-- The ticket form of `execute`. A report is missing, unreadable or a value. -/
def execute (host : Host) (pretty : Json → Text) (write : Text → Except Exn Unit) (environment path : Text)
    (report : Option (Except Exn Json)) : Except Exn Outcome := do
  write "output"
  if environment.isEmpty then return ⟨1, none, none⟩
  match report with
  | none => do
      write "handoff_status.json"
      return ⟨1, none, some (.obj [("state", .str "NEEDS_HUMAN"), ("form", .str "ticket"),
        ("reason", .str ("triage report " ++ path ++
          " does not exist; run mat-006 failure triage to completion first")),
        ("validator", verdict false ["missing triage report"])])⟩
  | some content => do
      match ← content with
      | .obj triage => do
          if !(Dict.getD triage "state" .null).eq (.str "TRIAGE_READY") then return ⟨1, none, none⟩
          if !(← (Dict.getD triage "layer" .null).among binaryLayers) then return ⟨1, none, none⟩
          let ticket ← build host triage environment
          write "vendor_ticket.json"
          let _ ← render host pretty ticket
          write "vendor_ticket.md"
          let gate ← validate host ticket contract
          write "handoff_status.json"
          return ⟨if gate.isEmpty then 0 else 1, some ticket,
            some (.obj [("state", Dict.getD ticket "state" .null), ("form", .str "ticket"),
              ("validator", verdict gate.isEmpty gate)])⟩
      | _ => throw (.attr "object has no attribute 'get'")

/-! ## The reports of the executor -/

def isolatedOf (triage : Dict) : Dict :=
  match Dict.getD triage "isolated_reproduction" .null with
  | .obj isolated => isolated
  | _ => []

def sweptCases (triage : Dict) : List Json :=
  match Dict.getD (isolatedOf triage) "cases" .null with
  | .arr cases => cases
  | _ => []

/-- The case passed. -/
def passed : Json → Bool
  | .obj fields => (Dict.getD fields "ok" .null).isTrue
  | _ => false

/-- A ticket that states what the triage measured. -/
structure Faithful (host : Host) (triage ticket : Dict) : Prop where
  passes : validate host ticket contract = .ok []
  reproduces : Dict.getD ticket "reproduces_in_isolation" .null =
    Dict.getD (isolatedOf triage) "reproduced" .null
  counts : ∃ before, Dict.getD ticket "ruled_out" .null = .arr (before ++
    [.str (Text.ofNat ((sweptCases triage).countP passed) ++ " of " ++
      Text.ofNat (sweptCases triage).length ++ " swept cases pass in isolation")])

/-- A report that the executor writes. -/
def Produced (triage : Dict) : Prop :=
  ∃ host describe parses call o pod, (Triage.run host describe parses call o pod).1 = .ok triage

/-- Ready, and attributed to a binary layer. -/
structure Eligible (triage : Dict) : Prop where
  ready : Dict.getD triage "state" .null = .str "TRIAGE_READY"
  binary : (Dict.getD triage "layer" .null).among binaryLayers = .ok true

/-- A call leaves its status, and its ticket states what the executor measured. -/
structure Handled (host : Host) (pretty : Json → Text) (write : Text → Except Exn Unit)
    (environment path : Text) (report : Option (Except Exn Json)) : Prop where
  status : ∀ outcome, execute host pretty write environment path report = .ok outcome → outcome.status.isSome
  faithful : ∀ triage, report = some (.ok (.obj triage)) → Produced triage → Eligible triage →
    ∃ ticket, build host triage environment = .ok ticket ∧ Faithful host triage ticket

/-- A report that `execute` does not return on before its status: missing, not an object, or ready and
of no other layer. -/
def Routed : Option (Except Exn Json) → Prop
  | some (.ok (.obj triage)) => Dict.getD triage "state" .null = .str "TRIAGE_READY" ∧
      (Dict.getD triage "layer" .null).among binaryLayers ≠ .ok false
  | _ => True

theorem routed_status (some' : environment.isEmpty = false) (routed : Routed report)
    (returned : execute host pretty write environment path report = .ok outcome) : outcome.status.isSome := by
  simp only [execute, some', Bool.false_eq_true, if_false, bind_ok] at returned
  obtain ⟨_, -, returned⟩ := returned
  cases report with
  | none =>
    simp only [bind_ok, pure_ok] at returned
    obtain ⟨_, -, rfl⟩ := returned
    rfl
  | some content =>
    simp only [bind_ok] at returned
    obtain ⟨value, rfl, returned⟩ := returned
    cases value with
    | obj triage =>
      obtain ⟨ready, binary⟩ := routed
      have isReady : (Dict.getD triage "state" .null).eq (.str "TRIAGE_READY") = true := by simp [ready]
      simp only [isReady, Bool.not_true, Bool.false_eq_true, if_false, bind_ok] at returned
      obtain ⟨isBinary, layer, returned⟩ := returned
      cases isBinary with
      | false => exact absurd layer binary
      | true =>
        simp only [Bool.not_true, Bool.false_eq_true, if_false, bind_ok, pure_ok] at returned
        obtain ⟨ticket, -, _, -, _, -, _, -, gate, -, _, -, rfl⟩ := returned
        rfl
    | _ => simp at returned

theorem status_routed (some' : environment.isEmpty = false) (output : write "output" = .ok ())
    (status : ∀ outcome, execute host pretty write environment path report = .ok outcome →
      outcome.status.isSome) : Routed report := by
  match report with
  | none => trivial
  | some (.error e) => trivial
  | some (.ok (.obj triage)) =>
    have silent : execute host pretty write environment path (some (.ok (.obj triage))) ≠ .ok ⟨1, none, none⟩ :=
      fun returned => absurd (status _ returned) (by simp)
    simp only [execute, output, ok_bind, some', Bool.false_eq_true, if_false] at silent
    by_cases ready : Dict.getD triage "state" .null = .str "TRIAGE_READY"
    · refine ⟨ready, fun layer => silent ?_⟩
      simp [ready, layer]
    · have other : (Dict.getD triage "state" .null).eq (.str "TRIAGE_READY") = false := by
        exact Bool.eq_false_iff.mpr fun same => ready ((Json.eq_str_right _ _).mp same)
      exact absurd (by simp [other]) silent
  | some (.ok .null) | some (.ok (.bool _)) | some (.ok (.int _)) | some (.ok (.float _))
  | some (.ok (.str _)) | some (.ok (.arr _)) => trivial

/-- What the executor reports about a binary layer. -/
theorem produced_report (produced : Produced triage) (eligible : Eligible triage) :
    ∃ call errorText last server cases, Triage.Complete call errorText last cases ∧
      triage = Triage.report call errorText last server cases true := by
  obtain ⟨host, describe, parses, call, o, pod, returned⟩ := produced
  obtain ⟨rerun, replay, cases, case, ok, fields, leads, rfl⟩ :=
    (Triage.run_ready_iff pod).mp ⟨returned, eligible.ready⟩
  have binary := eligible.binary
  cases gap : ok.isFalse with
  | true => exact ⟨call, _, _, _, cases, leads.complete, rfl⟩
  | false =>
    have owned : (Json.str "vllm_kunlun_plugin").among binaryLayers = .ok false := by rfl
    rw [gap] at binary
    exact absurd (owned.symm.trans binary) (by simp)

section Report
variable (host : Host) (environment call : Text) (errorText last : Json) (server : Dict) (cases : List Json)

def ticketOf : Dict :=
  [("state", .str "HANDOFF_READY"), ("layer", .str "kunlun_ops_vendor"), ("symbol", .str call),
    ("error_text", errorText), ("arguments", last), ("environment_fingerprint", .str environment),
    ("reproduces_in_isolation", .bool true), ("reproduction", .str (reproduction true)),
    ("expected", .str (call ++ " returns 0 for the recorded arguments")), ("observed", errorText),
    ("ruled_out", .arr [.str (host.str (.int 0) ++ " of " ++ format host (.arr cases) ++
      " swept cases pass in isolation")]),
    ("local_workaround", .null), ("owner", .str "vendor")]

theorem build_report : build host (Triage.report call errorText last server cases true) environment =
    .ok (ticketOf host environment call errorText last cases) := by
  rfl

end Report

/-- A list in an f-string is no number. -/
theorem sentence_not_counts (host : Host) (cases : List Json) (front counted : Text) (n : Nat) :
    front ++ " of " ++ format host (.arr cases) ++ " swept cases pass in isolation" ≠
      counted ++ " of " ++ Text.ofNat n ++ " swept cases pass in isolation" := by
  intro same
  have codes := List.append_cancel_right (congrArg Text.codes same)
  have bracket : (front ++ " of " ++ format host (.arr cases)).codes.getLast? = some 93 := by
    have closed : (format host (.arr cases)).codes =
        ("[" ++ Text.join ", " (cases.map host.repr)).codes ++ [93] := rfl
    rw [Text.codes_append, closed, ← List.append_assoc]
    exact List.getLast?_concat
  obtain ⟨d, ds, digits, -⟩ := nat_head n
  have some' : (Text.ofNat n).codes ≠ [] := by simp [ofNat_codes, digits]
  have digit : (counted ++ " of " ++ Text.ofNat n).codes.getLast? = (Text.ofNat n).codes.getLast? :=
    List.getLast?_append_of_ne_nil _ some'
  rw [codes, digit, ofNat_codes] at bracket
  exact absurd (nat_digits n _ (List.mem_of_getLast? bracket)) (by decide)

/-- The rest of the ticket is as claimed: it passes its gate. -/
theorem ticket_passes (host : Host) (some' : environment.isEmpty = false)
    (complete : Triage.Complete call errorText last cases) :
    validate host (ticketOf host environment call errorText last cases) contract = .ok [] := by
  have accepts : contract.field "acceptance" = .ok acceptance := rfl
  have required : acceptance.or (.obj []) = acceptance := rfl
  have fingerprint : acceptance.field "require_environment_fingerprint" = .ok (.bool true) := rfl
  have ruledOut : acceptance.field "require_ruled_out" = .ok (.bool true) := rfl
  have layer : (Dict.getD (ticketOf host environment call errorText last cases) "layer" .null).among
      binaryLayers = .ok true := rfl
  have reproduced : reproductionErrors host (ticketOf host environment call errorText last cases) = [] := rfl
  have fields : (requiredFields.flatMap fun key =>
      errorIf (!(Dict.getD (ticketOf host environment call errorText last cases) key .null).truthy)
        (key ++ " is required in a ticket someone else has to act on")) = [] := by
    have symbol : Dict.getD (ticketOf host environment call errorText last cases) "symbol" .null = .str call := rfl
    have error : Dict.getD (ticketOf host environment call errorText last cases) "error_text" .null =
        errorText := rfl
    have expected : Dict.getD (ticketOf host environment call errorText last cases) "expected" .null =
        .str (call ++ " returns 0 for the recorded arguments") := rfl
    have observed : Dict.getD (ticketOf host environment call errorText last cases) "observed" .null =
        errorText := rfl
    have direct : Dict.getD (ticketOf host environment call errorText last cases) "reproduction" .null =
        .str (reproduction true) := rfl
    have named : (Json.str call).truthy = true := by simp [Json.truthy, complete.named]
    have returns : (Json.str (call ++ " returns 0 for the recorded arguments")).truthy = true := by
      have some' : call.codes ≠ [] := by simpa [Text.isEmpty] using complete.named
      simp [Json.truthy, Text.isEmpty, some']
    have said : (Json.str (reproduction true)).truthy = true := rfl
    simp [requiredFields, symbol, error, expected, observed, direct, named, returns, said, complete.quoted, errorIf]
  have arguments : Dict.getD (ticketOf host environment call errorText last cases) "arguments" .null = last := rfl
  have environmentOf : Dict.getD (ticketOf host environment call errorText last cases) "environment_fingerprint"
      .null = .str environment := rfl
  have given : (Json.str environment).truthy = true := by simp [Json.truthy, some']
  have state : (Dict.getD (ticketOf host environment call errorText last cases) "state" .null).eq
      (.str "HANDOFF_READY") = true := rfl
  have owner : (Dict.getD (ticketOf host environment call errorText last cases) "owner" .null).eq
      (.str "vendor") = true := rfl
  have listed : (Dict.getD (ticketOf host environment call errorText last cases) "ruled_out" .null).truthy =
      true := rfl
  simp only [validate, accepts, ok_bind, required, layer, fingerprint, ruledOut, reproduced, fields, arguments,
    environmentOf, given, state, owner, listed, complete.captured]
  rfl

theorem report_not_faithful (host : Host) (environment call : Text) (errorText last : Json) (server : Dict)
    (cases : List Json) :
    ¬ Faithful host (Triage.report call errorText last server cases true)
      (ticketOf host environment call errorText last cases) := by
  intro faithful
  obtain ⟨before, counts⟩ := faithful.counts
  have ruledOut : Dict.getD (ticketOf host environment call errorText last cases) "ruled_out" .null =
      .arr ([] ++ [.str (host.str (.int 0) ++ " of " ++ format host (.arr cases) ++
        " swept cases pass in isolation")]) := rfl
  have lists := Json.arr.inj (ruledOut.symm.trans counts)
  have sentences := (List.append_inj' lists rfl).2
  exact sentence_not_counts host cases _ _ _ (Json.str.inj (List.singleton_inj.mp sentences))

/-- A call does what it says exactly if it cannot return before its status, and its report is none of
the executor's about a binary layer. -/
theorem handled_iff (host : Host) (pretty : Json → Text) (write : Text → Except Exn Unit) (path : Text)
    (report : Option (Except Exn Json)) (some' : environment.isEmpty = false) :
    Handled host pretty write environment path report ↔
      ((∃ e, write "output" = .error e) ∨ Routed report) ∧
        ∀ triage, report = some (.ok (.obj triage)) → Produced triage → ¬ Eligible triage := by
  constructor
  · intro handled
    constructor
    · cases output : write "output" with
      | error e => exact .inl ⟨e, rfl⟩
      | ok u => exact .inr (status_routed some' output handled.status)
    · intro triage given produced eligible
      obtain ⟨ticket, built, faithful⟩ := handled.faithful triage given produced eligible
      obtain ⟨call, errorText, last, server, cases, -, rfl⟩ := produced_report produced eligible
      rw [build_report] at built
      obtain rfl := Except.ok.inj built
      exact report_not_faithful host environment call errorText last server cases faithful
  · rintro ⟨routed, other⟩
    refine ⟨fun outcome returned => ?_, fun triage given produced eligible =>
      absurd eligible (other triage given produced)⟩
    rcases routed with ⟨e, failed⟩ | routed
    · simp [execute, failed, bind, Except.bind] at returned
    · exact routed_status some' routed returned

/-- A report of a failed triage. -/
def failedReport : Option (Except Exn Json) := some (.ok (.obj [("state", .str "TRIAGE_FAILED")]))

/-- A call with the report of a failed triage leaves no status. -/
theorem failed_leaves_no_status : ¬ ∀ (host : Host) (pretty : Json → Text) (write : Text → Except Exn Unit)
    (environment path : Text) (report : Option (Except Exn Json)), environment.isEmpty = false →
      Handled host pretty write environment path report := by
  intro handled
  have left := (handled Host.sample (fun _ => "") (fun _ => .ok ()) "p800" "triage_report.json" failedReport
    (by decide)).status ⟨1, none, none⟩ rfl
  exact absurd left (by simp)

/-- A report about the other binary layer. -/
def runtimeReport : Dict :=
  [("state", .str "TRIAGE_READY"), ("layer", .str "torch_xmlir_vendor"), ("failing_symbol", .str "matmul"),
    ("error_text", .str "error 719")]

theorem handled_runtime : Handled Host.sample (fun _ => "") (fun _ => .ok ()) "p800" "triage_report.json"
    (some (.ok (.obj runtimeReport))) := by
  refine (handled_iff Host.sample (fun _ => "") (fun _ => .ok ()) "triage_report.json"
    (some (.ok (.obj runtimeReport))) (by decide)).mpr ⟨.inr ⟨rfl, by decide⟩, fun triage same produced eligible => ?_⟩
  cases same
  -- The executor reports no failure of this layer.
  obtain ⟨call, errorText, last, server, cases, _, whole⟩ := produced_report produced eligible
  have other : Text.ofString "torch_xmlir_vendor" ≠ "kunlun_ops_vendor" := by decide
  have layer := congrArg (fun fields => Dict.getD fields "layer" .null) whole
  exact other (Json.str.inj layer)

end InferForge.Handoff
