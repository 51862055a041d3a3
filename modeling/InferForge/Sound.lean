import InferForge.Ledger

/-! The invariant of the ledger: what every row, its history, its diagnosis and the rows
of the other stages have to do with each other, and that every move keeps it. -/
namespace InferForge
open Py Lifecycle Transition

/-- The attempt of its source a diagnosis row is about. -/
def sourceAttempt (diagnosis : TaskRow) : Nat := attemptField diagnosis.input "source_attempt"

/-- The row `d` is the diagnosis row of the operator row `s`. -/
structure Diagnoses (d s : TaskRow) : Prop where
  operator : s.stage ≠ .diagnosis
  named : d.taskId = diagnosisId s.taskId
  keyed : d.operatorKey = diagnosisKey s.taskId
  run : d.runId = s.runId
  source : d.input.get? "source_task_id" = some (.str s.taskId)
  key : d.input.get? "operator_key" = some (.str s.operatorKey)
  attempt : d.input.get? "source_attempt" = some (.int (sourceAttempt d))

/-- A row under its id, with the run, specification or source it belongs to. -/
structure Shaped (l : Ledger) (t : Text) (r : TaskRow) : Prop where
  named : r.taskId = t
  run : (l.run r.runId).isSome
  operator : r.stage ≠ .diagnosis → t = stageTaskId r.runId r.operatorKey r.stage ∧
    r.operatorKey.codes.length = 64 ∧ (l.spec r.runId r.operatorKey).isSome
  diagnosis : r.stage = .diagnosis → ∃ s, l.row s.taskId = some s ∧ Diagnoses r s

/-- The event of applying the current attempt of `d` for its source attempt. -/
def Applies (d : TaskRow) (n : Note) : Prop :=
  n.eventType = .diagnosisApplied ∧ n.taskId = some d.taskId ∧
    n.payload.get? "source_attempt" = some (.int (sourceAttempt d)) ∧
    n.payload.get? "diagnosis_attempt" = some (.int d.attempt)

/-- A diagnosis whose retry has been carried out. -/
structure Settled (log : List Note) (d : TaskRow) : Prop where
  succeeded : d.status = .succeeded
  action : Dict.getD d.output "next_action" .null = .str "RETRY"
  applied : ∃ n ∈ log, Applies d n

/-- An operator row and its diagnosis row, if it has one. -/
structure Link (log : List Note) (r : TaskRow) (d? : Option TaskRow) : Prop where
  failed : r.status = .failed → ∃ d, d? = some d ∧ sourceAttempt d = r.attempt
  settled : r.status ≠ .failed → ∀ d, d? = some d → Settled log d
  bound : r.status ≠ .failed → ∀ d, d? = some d →
    sourceAttempt d ≤ r.attempt ∧ (r.status ≠ .pending → sourceAttempt d < r.attempt)

/-- The stage before an operator row has succeeded. -/
def Staged (l : Ledger) (r : TaskRow) : Prop :=
  ∀ before, r.stage.prev? = some before →
    ∃ q, l.row (stageTaskId r.runId r.operatorKey before) = some q ∧ q.status = .succeeded

/-- What the payloads of claims and applications say. -/
structure Filed (n : Note) : Prop where
  claim : n.eventType = .taskClaimed → ∃ worker row, n = claimNote worker row
  application : n.eventType = .diagnosisApplied →
    ∃ k : Nat, n.payload.get? "source_attempt" = some (.int k)

structure Sound (l : Ledger) : Prop where
  runs : ∀ id r, l.run id = some r → r.runId = id
  shaped : ∀ t r, l.row t = some r → Shaped l t r
  tracked : ∀ t r, l.row t = some r →
    Track (marks t l.log) r.status (r.lease.map Lease.worker) r.attempt
  unmarked : ∀ t, l.row t = none → marks t l.log = []
  staged : ∀ t r, l.row t = some r → Staged l r
  linked : ∀ t r, l.row t = some r → r.stage ≠ .diagnosis →
    Link l.log r (l.row (diagnosisId t))
  rooted : ∀ id key spec, l.spec id key = some spec →
    ∃ q, l.row (stageTaskId id key .torch) = some q ∧ q.runId = id
  filed : ∀ n ∈ l.log, Filed n

/-! What a move does to one row, and the marks it leaves. -/

inductive Change : Action → TaskRow → List (Mark Text) → TaskRow → Prop where
  | same (r : TaskRow) : Change a r [] r
  | claim (r : TaskRow) (status : r.status = .pending) (lease : Lease)
      (same : SameInput r.input input) :
      Change (.claim r.taskId) r [.claimed lease.worker (r.attempt + 1)]
        (TaskRow.claimed lease { r with input })
  | release (r : TaskRow) (status : r.status = .running) : Change .release r [] r.released
  | renew (r : TaskRow) (lease : r.lease = some held) (expires : Time) :
      Change (.renew r.taskId) r [] { r with lease := some { held with expires } }
  | succeed (r : TaskRow) (status : r.status = .running) (output : Dict) :
      Change (.succeed r.taskId) r [.succeeded] (TaskRow.finished .succeeded output r)
  | fail (r : TaskRow) (status : r.status = .running) (output : Dict) :
      Change (.fail r.taskId) r [.failed] (TaskRow.finished .failed output r)
  | reopen (r : TaskRow) (status : r.status = .succeeded) (stage : r.stage = .diagnosis)
      (source : Dict.get? input "source_task_id" = r.input.get? "source_task_id")
      (key : Dict.get? input "operator_key" = r.input.get? "operator_key")
      (attempt : Dict.get? input "source_attempt" = some (.int k)) (natural : 0 ≤ k)
      (failing : Text) : Change (.fail failing) r [.reopened] (TaskRow.reopened input r)
  | retry (r : TaskRow) (status : r.status = .failed) (stage : r.stage ≠ .diagnosis)
      (input : Dict) :
      Change (.retry (diagnosisId r.taskId)) r [.retried r.attempt] (TaskRow.retried input r)

namespace Change

theorem sameKey (change : Change a r ms r') : SameKey r r' := by
  cases change <;> exact ⟨rfl, rfl, rfl, rfl⟩

theorem track {past : List (Mark Text)} (change : Change a r ms r')
    (track : Track past r.status (r.lease.map Lease.worker) r.attempt) :
    Track (past ++ ms) r'.status (r'.lease.map Lease.worker) r'.attempt := by
  cases change with
  | same => simpa using track
  | claim _ status lease =>
    have free := track.released (by simp [status])
    rw [status, free] at track
    exact track.claim lease.worker
  | release _ status =>
    rw [status] at track
    simpa [TaskRow.released] using track.release
  | renew _ lease => simpa [lease] using track
  | succeed _ status =>
    rw [status] at track
    exact track.succeed
  | fail _ status =>
    rw [status] at track
    exact track.fail
  | reopen _ status =>
    have free := track.released (by simp [status])
    rw [status, free] at track
    exact track.reopen
  | retry _ status =>
    have free := track.released (by simp [status])
    rw [status, free] at track
    exact track.retry

/-- A succeeded operator row is left alone. -/
theorem of_succeeded (change : Change a r ms r') (status : r.status = .succeeded)
    (stage : r.stage ≠ .diagnosis) (free : r.lease = none) : r' = r := by
  cases change <;> simp_all

end Change

theorem mark?_claimNote (t worker : Text) (row : TaskRow) :
    mark? t (claimNote worker row) =
      if row.taskId = t then some (.claimed worker (row.attempt + 1)) else none := by
  simp only [mark?, claimNote, claimEvent, Option.some.injEq, workerField, attemptField, Dict.getD,
    Dict.get?_cons, Text.ofString_inj]
  rfl

theorem mark?_application (t : Text) (id : Option Text) (d s : Task) (action : Text) :
    mark? t ⟨runId, .diagnosisApplied, id, applicationEvent d s action⟩ =
      if s.taskId = t ∧ action = "RETRY" then
        some (.retried (attemptField d.input "source_attempt")) else none := by
  simp only [mark?, applicationEvent, Json.eqOpt, Dict.get?_cons, Text.ofString_inj, attemptField,
    Dict.getD, Bool.and_eq_true]
  simp only [String.reduceEq, if_true, if_false, Option.getD_some, Json.eq_str_right,
    Json.str.injEq, Dict.get?_nil]

/-- What a move does to the rows and the log. -/
structure Rows (l : Ledger) (a : Action) (l' : Ledger) (notes : List Note) : Prop where
  log : l'.log = l.log ++ notes
  old : ∀ t r, l.row t = some r → ∃ r', l'.row t = some r' ∧ Change a r (marks t notes) r'
  new : ∀ t r, l.row t = none → l'.row t = some r →
    (r.status = .pending ∧ r.attempt = 0 ∧ r.lease = none ∧ marks t notes = [.created]) ∧
      Shaped l' t r ∧ Staged l r
  silent : ∀ t, l'.row t = none → marks t notes = []
  runs : ∀ id, (l.run id).isSome → (l'.run id).isSome
  specs : ∀ id key spec, l.spec id key = some spec → l'.spec id key = some spec

/-- A move that touches neither rows nor events. -/
theorem Rows.of_same (row : l'.row = l.row) (log : l'.log = l.log) (spec : l'.spec = l.spec)
    (runs : ∀ id, (l.run id).isSome → (l'.run id).isSome) : Rows l a l' [] where
  log := by simp [log]
  old t r here := ⟨r, by rw [row, here], .same r⟩
  new t r missing here := by
    rw [row, missing] at here
    cases here
  silent t _ := rfl
  runs := runs
  specs := by
    rw [spec]
    exact fun _ _ _ h => h

/-- A move that rewrites one row and logs what it did. -/
theorem Rows.of_put {row row' : TaskRow} (here : l.row row.taskId = some row)
    (change : Change a row (marks row.taskId notes) row')
    (elsewhere : ∀ t, t ≠ row.taskId → marks t notes = []) (log : l'.log = l.log ++ notes)
    (put : l'.row = (l.put row').row) (run : l'.run = l.run) (spec : l'.spec = l.spec) :
    Rows l a l' notes where
  log := log
  old t r found := by
    simp only [put, Ledger.put, change.sameKey.taskId, Function.update_apply]
    by_cases this : t = row.taskId
    · subst this
      obtain rfl : row = r := Option.some.inj (here.symm.trans found)
      exact ⟨row', if_pos rfl, change⟩
    · rw [if_neg this, elsewhere t this]
      exact ⟨r, found, .same r⟩
  new t r missing found := by
    simp only [put, Ledger.put, change.sameKey.taskId, Function.update_apply] at found
    by_cases this : t = row.taskId
    · simp [this, here] at missing
    · simp [this, missing] at found
  silent t missing := by
    by_cases this : t = row.taskId
    · simp [put, Ledger.put, change.sameKey.taskId, this] at missing
    · exact elsewhere t this
  runs := by simp [run]
  specs := by simp [spec]

/-- A move that opens one row. -/
theorem Rows.of_open (row : TaskRow) (fresh : l.row row.taskId = none)
    (queued : row.status = .pending ∧ row.attempt = 0 ∧ row.lease = none)
    (shaped : Shaped l' row.taskId row) (staged : Staged l row)
    (log : l'.log = l.log ++ [creation .taskCreated runId row.taskId payload])
    (put : l'.row = (l.put row).row) (run : l'.run = l.run)
    (specs : ∀ id key spec, l.spec id key = some spec → l'.spec id key = some spec) :
    Rows l a l' [creation .taskCreated runId row.taskId payload] where
  log := log
  old t r found := by
    have other : t ≠ row.taskId := by
      rintro rfl
      simp [fresh] at found
    refine ⟨r, by simp [put, Ledger.put, other, found], ?_⟩
    have silent : marks t [creation .taskCreated runId row.taskId payload] = [] := by
      simp [marks, mark?, creation, other.symm]
    rw [silent]
    exact .same r
  new t r missing found := by
    simp only [put, Ledger.put, Function.update_apply] at found
    by_cases this : t = row.taskId
    · subst this
      obtain rfl : row = r := by simpa using found
      exact ⟨⟨queued.1, queued.2.1, queued.2.2, by simp [marks, mark?, creation]⟩, shaped, staged⟩
    · simp [this, missing] at found
  silent t missing := by
    have other : row.taskId ≠ t := by
      rintro rfl
      simp [put, Ledger.put] at missing
    simp [marks, mark?, creation, other]
  runs := by simp [run]
  specs := specs

/-- Two rows with the same id are the same row. -/
theorem Ledger.same_row {l : Ledger} (a : l.row t = some r) (b : l.row t = some q) : r = q :=
  Option.some.inj (a.symm.trans b)

theorem Sound.named (sound : Sound l) (here : l.row t = some r) : r.taskId = t :=
  (sound.shaped t r here).named

/-- A leased row is running, and a running row is leased. -/
theorem Sound.leased (sound : Sound l) (here : l.row t = some r) :
    r.lease.isSome = true ↔ r.status = .running := by
  simpa using (sound.tracked t r here).holder_running

/-- The diagnosis row of an operator row is found under its id. -/
theorem Sound.diagnoses (sound : Sound l) (source : l.row s.taskId = some s)
    (here : l.row (diagnosisId s.taskId) = some d) :
    d.stage = .diagnosis ∧ Diagnoses d s := by
  have shaped := sound.shaped _ d here
  by_cases stage : d.stage = .diagnosis
  · obtain ⟨src, found, diagnoses⟩ := shaped.diagnosis stage
    have same := diagnosisId_inj (shaped.named.symm.trans diagnoses.named)
    rw [← same] at found
    exact ⟨stage, Ledger.same_row source found ▸ diagnoses⟩
  · exact absurd (shaped.operator stage).1 (diagnosisId_ne_stageTaskId stage)

/-- A diagnosis row names the row it diagnoses. -/
theorem Concluded.diagnoses {action : Text} (concluded : Concluded l d s action) (sound : Sound l) :
    Diagnoses d s := by
  obtain ⟨src, found, diagnoses⟩ := (sound.shaped _ d concluded.known).diagnosis concluded.stage
  have names := concluded.names
  simp only [Dict.getD, diagnoses.source, Option.getD_some, Json.str.injEq] at names
  rw [names] at found
  exact Ledger.same_row concluded.found found ▸ diagnoses

/-- No row is diagnosed before it exists. -/
theorem Sound.no_diagnosis (sound : Sound l) (fresh : l.row t = none) :
    l.row (diagnosisId t) = none := by
  by_contra present
  obtain ⟨d, here⟩ := Option.ne_none_iff_exists'.mp present
  have shaped := sound.shaped _ d here
  by_cases stage : d.stage = .diagnosis
  · obtain ⟨src, found, diagnoses⟩ := shaped.diagnosis stage
    have same := diagnosisId_inj (shaped.named.symm.trans diagnoses.named)
    rw [← same, fresh] at found
    cases found
  · exact diagnosisId_ne_stageTaskId stage (shaped.operator stage).1

theorem Diagnoses.other (diagnoses : Diagnoses d s) : d.taskId ≠ s.taskId := by
  rw [diagnoses.named]
  exact diagnosisId_ne_self s.taskId

/-- While a source is not failed its diagnosis row has been dealt with. -/
theorem Link.source_failed (link : Link log r (some d)) (open' : d.status ≠ .succeeded) :
    r.status = .failed := by
  by_contra other
  exact open' (link.settled other d rfl).succeeded

theorem Ledger.putRun_isSome {id : Text} (l : Ledger) (r : AdaptationRun) (h : (l.run id).isSome) :
    ((l.putRun r).run id).isSome := by
  simp only [Ledger.putRun, Function.update_apply]
  split
  · rfl
  · exact h

theorem marks_singleton (t : Text) (n : Note) : marks t [n] = (mark? t n).toList := by
  simp only [marks, List.filterMap_cons, List.filterMap_nil]
  cases mark? t n <;> rfl

theorem attemptField_of {input : Dict} (h : input.get? key = some (.int (k : Nat))) :
    attemptField input key = k := by
  simp [attemptField, Dict.getD, h]

section DiagnosisInput
variable (task : Task) (report : Json)

theorem diagnosisInput_source :
    (diagnosisInput task report).get? "source_task_id" = some (.str task.taskId) := by
  simp [diagnosisInput]

theorem diagnosisInput_key :
    (diagnosisInput task report).get? "operator_key" = some task.operatorKey := by
  simp [diagnosisInput]

theorem diagnosisInput_attempt :
    (diagnosisInput task report).get? "source_attempt" = some (.int task.attempt) := by
  simp [diagnosisInput]

end DiagnosisInput

theorem view_operatorKey {row : TaskRow} (stage : row.stage ≠ .diagnosis) :
    row.view.operatorKey = .str row.operatorKey := if_neg stage

/-- The diagnosis row of a failing operator row. -/
theorem diagnoses_input {d s : TaskRow} (operator : s.stage ≠ .diagnosis)
    (named : d.taskId = diagnosisId s.taskId) (keyed : d.operatorKey = diagnosisKey s.taskId)
    (run : d.runId = s.runId) (input : d.input = diagnosisInput s.view report) :
    Diagnoses d s ∧ sourceAttempt d = s.attempt := by
  have attempt := diagnosisInput_attempt s.view report
  have same : sourceAttempt d = s.attempt := by
    rw [sourceAttempt, input]
    exact attemptField_of attempt
  refine ⟨⟨operator, named, keyed, run, ?_, ?_, ?_⟩, same⟩
  · rw [input]
    exact diagnosisInput_source s.view report
  · rw [input, diagnosisInput_key, view_operatorKey operator]
  · rw [same, input]
    exact attempt

/-- A finished row: its lease is gone and its output recorded. -/
theorem Rows.of_finish {row : TaskRow} (here : l.row row.taskId = some row)
    (change : Change a row (mark? row.taskId ⟨runId, eventType, some row.taskId, payload⟩).toList
      (TaskRow.finished status output row))
    (elsewhere : ∀ t, t ≠ row.taskId → mark? t ⟨runId, eventType, some row.taskId, payload⟩ = none) :
    Rows l a
      ((l.put (TaskRow.finished status output row)).note
        ⟨runId, eventType, some row.taskId, payload⟩)
      [⟨runId, eventType, some row.taskId, payload⟩] :=
  .of_put here (by rw [marks_singleton]; exact change)
    (fun t other => by rw [marks_singleton, elsewhere t other]; rfl) rfl rfl rfl rfl

theorem marks_failure (t id : Text) (filed : Note) : marks t [filed, ⟨runId, .taskFailed, some id, payload⟩] =
    (mark? t filed).toList ++ if id = t then [.failed] else [] := by
  have failed : (mark? t ⟨runId, .taskFailed, some id, payload⟩).toList = if id = t then [.failed] else [] := by
    by_cases same : id = t <;> simp [mark?, same]
  rw [← failed, ← marks_singleton, ← marks_singleton, ← marks_append]
  rfl

/-- A failure finishes its row, and opens or reopens the diagnosis row of it. -/
theorem Rows.of_failure {row d : TaskRow} {filed : Note} (here : l.row row.taskId = some row)
    (status : row.status = .running) (named : d.taskId = diagnosisId row.taskId)
    (elsewhere : ∀ t, t ≠ d.taskId → mark? t filed = none)
    (old : ∀ r, l.row d.taskId = some r → Change (.fail row.taskId) r (mark? d.taskId filed).toList d)
    (new : l.row d.taskId = none →
      (d.status = .pending ∧ d.attempt = 0 ∧ d.lease = none ∧ mark? d.taskId filed = some .created) ∧
      Shaped ((((l.put (TaskRow.finished .failed output row)).put d).note filed).note
        ⟨row.runId, .taskFailed, some row.taskId, payload⟩) d.taskId d ∧ Staged l d) :
    Rows l (.fail row.taskId)
      ((((l.put (TaskRow.finished .failed output row)).put d).note filed).note
        ⟨row.runId, .taskFailed, some row.taskId, payload⟩)
      [filed, ⟨row.runId, .taskFailed, some row.taskId, payload⟩] where
  log := by simp [Ledger.note, Ledger.put]
  old t r found := by
    simp only [Ledger.note, Ledger.put, Function.update_apply]
    have other : d.taskId ≠ row.taskId := named ▸ diagnosisId_ne_self row.taskId
    by_cases this : t = d.taskId
    · subst this
      refine ⟨d, if_pos rfl, ?_⟩
      rw [marks_failure, if_neg other.symm, List.append_nil]
      exact old r found
    · rw [if_neg this]
      by_cases same : t = row.taskId
      · subst same
        obtain rfl := Ledger.same_row here found
        refine ⟨_, if_pos rfl, ?_⟩
        rw [marks_failure, elsewhere _ this, if_pos rfl]
        exact .fail row status output
      · refine ⟨r, by rw [TaskRow.finished, if_neg same, found], ?_⟩
        rw [marks_failure, elsewhere _ this, if_neg (Ne.symm same)]
        exact .same r
  new t r missing found := by
    simp only [Ledger.note, Ledger.put, Function.update_apply, TaskRow.finished] at found
    by_cases this : t = d.taskId
    · subst this
      obtain rfl := Option.some.inj ((if_pos rfl).symm.trans found)
      obtain ⟨⟨pending, unclaimed, free, marked⟩, shaped, staged⟩ := new missing
      have other : d.taskId ≠ row.taskId := named ▸ diagnosisId_ne_self row.taskId
      refine ⟨⟨pending, unclaimed, free, ?_⟩, shaped, staged⟩
      rw [marks_failure, marked, if_neg other.symm]
      rfl
    · by_cases same : t = row.taskId
      · simp [same, here] at missing
      · simp [this, same, missing] at found
  silent t missing := by
    have other : d.taskId ≠ row.taskId := named ▸ diagnosisId_ne_self row.taskId
    have apart : t ≠ d.taskId ∧ t ≠ row.taskId := by
      constructor <;> rintro rfl <;>
        simp [Ledger.note, Ledger.put, TaskRow.finished, other.symm] at missing
    rw [marks_failure, elsewhere _ apart.1, if_neg (Ne.symm apart.2)]
    rfl
  runs _ h := h
  specs _ _ _ h := h

theorem Rows.discover {r : AdaptationRun} (here : l.run r.runId = some r) (long : key.codes.length = 64)
    (unknown : l.spec r.runId key = none) (fresh : l.row (stageTaskId r.runId key .torch) = none) :
    Rows l a
      (((l.putSpec r.runId key spec).put
        (pendingRow r.runId key .torch (stageTaskId r.runId key .torch) input at')).note
          (creation .taskCreated r.runId (stageTaskId r.runId key .torch) payload))
      [creation .taskCreated r.runId (stageTaskId r.runId key .torch) payload] := by
  refine .of_open (pendingRow r.runId key .torch (stageTaskId r.runId key .torch) input at')
    fresh ⟨rfl, rfl, rfl⟩ ⟨rfl, ?_, fun _ => ⟨rfl, long, ?_⟩, fun stage => ?_⟩ ?_ rfl rfl rfl ?_
  · simp [pendingRow, Ledger.note, Ledger.put, Ledger.putSpec, here]
  · simp [pendingRow, Ledger.note, Ledger.put, Ledger.putSpec]
  · cases stage
  · intro before h
    cases h
  · intro id k known found
    simp only [Ledger.note, Ledger.put, Ledger.putSpec]
    rw [if_neg, found]
    rintro ⟨rfl, rfl⟩
    simp [unknown] at found

theorem Rows.create {row : TaskRow} (sound : Sound l) (here : l.row row.taskId = some row)
    (status : row.status = .succeeded) (next : row.stage.next? = some stage)
    (fresh : l.row (stageTaskId row.runId row.operatorKey stage) = none) :
    Rows l a
      ((l.put (pendingRow row.runId row.operatorKey stage
        (stageTaskId row.runId row.operatorKey stage) input at')).note
          (creation .taskCreated row.runId (stageTaskId row.runId row.operatorKey stage) payload))
      [creation .taskCreated row.runId (stageTaskId row.runId row.operatorKey stage) payload] := by
  have shaped := sound.shaped _ row here
  obtain ⟨named, long, known⟩ := shaped.operator (next_operator next).1
  refine .of_open (pendingRow row.runId row.operatorKey stage _ input at')
    fresh ⟨rfl, rfl, rfl⟩ ⟨rfl, shaped.run, fun _ => ⟨rfl, long, known⟩, fun diagnosis => ?_⟩
    ?_ rfl rfl rfl fun _ _ _ h => h
  · exact absurd diagnosis (next_operator next).2.1
  · intro before h
    obtain rfl := Option.some.inj ((next_prev next).symm.trans h)
    exact ⟨row, named ▸ here, status⟩

theorem Rows.release {selected : TaskRow → Bool}
    (running : ∀ t r, l.row t = some r → selected r = true → r.status = .running) :
    Rows l .release
      { l with row := fun t => (l.row t).map fun r => if selected r then r.released else r } [] := by
  refine ⟨by simp, fun t r here => ?_, fun t r missing here => ?_, fun _ _ => rfl, fun _ h => h,
    fun _ _ _ h => h⟩
  · refine ⟨if selected r then r.released else r, by simp [here], ?_⟩
    by_cases chosen : selected r = true
    · rw [if_pos chosen]
      exact .release r (running t r here chosen)
    · rw [if_neg chosen]
      exact .same r
  · simp [missing] at here

theorem Rows.fail_first {row : TaskRow} (sound : Sound l) (here : l.row row.taskId = some row)
    (status : row.status = .running) (stage : row.stage ≠ .diagnosis)
    (fresh : l.row (diagnosisId row.taskId) = none) :
    Rows l (.fail row.taskId)
      ((((l.put (TaskRow.finished .failed output row)).put
        (pendingRow row.runId (diagnosisKey row.taskId) .diagnosis (diagnosisId row.taskId)
          (diagnosisInput row.view report) at')).note
        (creation .diagnosisTaskCreated row.runId (diagnosisId row.taskId) (diagnosisEvent row.view))).note
        ⟨row.runId, .taskFailed, some row.taskId, payload⟩)
      [creation .diagnosisTaskCreated row.runId (diagnosisId row.taskId) (diagnosisEvent row.view),
        ⟨row.runId, .taskFailed, some row.taskId, payload⟩] := by
  have shaped := sound.shaped _ row here
  have other : diagnosisId row.taskId ≠ row.taskId := diagnosisId_ne_self row.taskId
  refine .of_failure here status rfl (fun t apart => ?_) (fun r found => ?_) fun _ => ?_
  · have apart : diagnosisId row.taskId ≠ t := Ne.symm apart
    simp [mark?, creation, apart]
  · cases fresh.symm.trans found
  · refine ⟨⟨rfl, rfl, rfl, by simp [mark?, creation, pendingRow]⟩,
      ⟨rfl, shaped.run, fun operator => absurd rfl operator, fun _ => ?_⟩, by rintro _ ⟨⟩⟩
    obtain ⟨link, -⟩ := diagnoses_input (s := TaskRow.finished .failed output row)
      (d := pendingRow row.runId (diagnosisKey row.taskId) .diagnosis (diagnosisId row.taskId)
        (diagnosisInput row.view report) at') stage rfl rfl rfl rfl
    refine ⟨_, ?_, link⟩
    simp [Ledger.note, Ledger.put, TaskRow.finished, pendingRow, other.symm]

theorem Rows.fail_again {row diagnosis : TaskRow} (sound : Sound l) (here : l.row row.taskId = some row)
    (status : row.status = .running) (stage : row.stage ≠ .diagnosis)
    (known : l.row (diagnosisId row.taskId) = some diagnosis) :
    Rows l (.fail row.taskId)
      ((((l.put (TaskRow.finished .failed output row)).put
        (TaskRow.reopened (diagnosisInput row.view report) diagnosis)).note
        ⟨row.runId, .diagnosisTaskReopened, some (diagnosisId row.taskId), diagnosisEvent row.view⟩).note
        ⟨row.runId, .taskFailed, some row.taskId, payload⟩)
      [⟨row.runId, .diagnosisTaskReopened, some (diagnosisId row.taskId), diagnosisEvent row.view⟩,
        ⟨row.runId, .taskFailed, some row.taskId, payload⟩] := by
  obtain ⟨kind, diagnoses⟩ := sound.diagnoses here known
  have settled := (sound.linked _ row here stage).settled (by simp [status]) _ known
  have named : (TaskRow.reopened (diagnosisInput row.view report) diagnosis).taskId = diagnosisId row.taskId :=
    diagnoses.named
  refine .of_failure here status named (fun t apart => ?_) (fun r found => ?_) fun missing => ?_
  · rw [named] at apart
    simp [mark?, Ne.symm apart]
  · rw [named] at found ⊢
    obtain rfl := Ledger.same_row known found
    have reopened := Change.reopen diagnosis settled.succeeded kind
      ((diagnosisInput_source row.view report).trans diagnoses.source.symm)
      ((diagnosisInput_key row.view report).trans
        (by rw [view_operatorKey stage, diagnoses.key]))
      (diagnosisInput_attempt row.view report) (Int.natCast_nonneg _) row.taskId
    simpa [mark?] using reopened
  · rw [named, known] at missing
    cases missing

theorem Rows.retry {diagnosis source : TaskRow} (sound : Sound l)
    (concluded : Concluded l diagnosis source "RETRY") (status : source.status = .failed) :
    Rows l (.retry diagnosis.taskId)
      ((l.put (TaskRow.retried input source)).note ⟨diagnosis.runId, .diagnosisApplied, some diagnosis.taskId,
        applicationEvent diagnosis.view source.view "RETRY"⟩)
      [⟨diagnosis.runId, .diagnosisApplied, some diagnosis.taskId,
        applicationEvent diagnosis.view source.view "RETRY"⟩] := by
  have diagnoses := concluded.diagnoses sound
  have link := sound.linked _ source concluded.found concluded.operator
  rw [← diagnoses.named, concluded.known] at link
  obtain ⟨d, same, attempt⟩ := link.failed status
  obtain rfl := Option.some.inj same
  refine .of_put concluded.found ?_ (fun t other => ?_) rfl rfl rfl rfl
  · rw [marks_singleton, mark?_application, if_pos ⟨rfl, rfl⟩]
    have : attemptField diagnosis.view.input "source_attempt" = source.attempt := attempt
    rw [this, diagnoses.named]
    exact .retry source status concluded.operator input
  · rw [marks_singleton, mark?_application, if_neg fun h => other h.1.symm]
    rfl

theorem Rows.consume {diagnosis source : TaskRow} :
    Rows l a
      (l.note ⟨diagnosis.runId, .diagnosisApplied, some diagnosis.taskId,
        applicationEvent diagnosis.view source.view "BLOCKED"⟩)
      [⟨diagnosis.runId, .diagnosisApplied, some diagnosis.taskId,
        applicationEvent diagnosis.view source.view "BLOCKED"⟩] := by
  refine ⟨rfl, fun t r here => ⟨r, here, ?_⟩, fun t r missing here => ?_, fun t _ => ?_,
    fun _ h => h, fun _ _ _ h => h⟩
  · rw [marks_singleton, mark?_application, if_neg (by simp)]
    exact .same r
  · exact absurd here (by simp [Ledger.note, missing])
  · rw [marks_singleton, mark?_application, if_neg (by simp)]
    rfl

theorem Move.rows (move : Move host approves l a l') (sound : Sound l) :
    ∃ notes, Rows l a l' notes := by
  cases move with
  | wait => exact ⟨[], .of_same rfl rfl rfl fun _ h => h⟩
  | openRun r => exact ⟨[], .of_same rfl rfl rfl fun _ => l.putRun_isSome r⟩
  | furnish => exact ⟨[], .of_same rfl rfl rfl fun _ => l.putRun_isSome _⟩
  | bind => exact ⟨[], .of_same rfl rfl rfl fun _ => l.putRun_isSome _⟩
  | adjust _ r' => exact ⟨[], .of_same rfl rfl rfl fun _ => l.putRun_isSome r'⟩
  | discover r key spec input payload at' here valid long unknown fresh => exact ⟨_, .discover here long unknown fresh⟩
  | create row stage input payload at' here status next fresh => exact ⟨_, .create sound here status next fresh⟩
  | claim row input worker expires here status ready same =>
    refine ⟨[claimNote worker row], .of_put here ?_ (fun t other => ?_) rfl rfl rfl rfl⟩
    · rw [marks_singleton, mark?_claimNote, if_pos rfl]
      exact .claim row status ⟨_, worker, expires⟩ same
    · rw [marks_singleton, mark?_claimNote, if_neg other.symm]
      rfl
  | release selected running => exact ⟨[], .release running⟩
  | renew row held expires here lease live =>
    exact ⟨[], .of_put here (.renew _ lease expires) (fun _ _ => rfl) (by simp [Ledger.put])
      rfl rfl rfl⟩
  | succeed row held r result output payload here status lease live run approved =>
    refine ⟨_, .of_finish here ?_ fun t other => ?_⟩
    · simpa [mark?] using Change.succeed _ status output
    · simp [mark?, other.symm]
  | failDiagnosis row held output payload here status lease live stage =>
    refine ⟨_, .of_finish here ?_ fun t other => ?_⟩
    · simpa [mark?] using Change.fail _ status output
    · simp [mark?, other.symm]
  | failFirst row held report output payload at' here status lease live stage fresh =>
    exact ⟨_, .fail_first sound here status stage fresh⟩
  | failAgain row diagnosis held report output payload here status lease live stage known =>
    exact ⟨_, .fail_again sound here status stage known⟩
  | retry diagnosis source input concluded status => exact ⟨_, .retry sound concluded status⟩
  | consume diagnosis source concluded => exact ⟨_, .consume⟩

/-! Each part of the invariant, from what a move does to the rows. -/

section Parts
variable {l l' : Ledger} {notes : List Note}

/-- A row of a diagnosis keeps naming its source. -/
theorem Diagnoses.change (diagnoses : Diagnoses d s) (kind : d.stage = .diagnosis)
    (change : Change a d ms d') (source : SameKey s s') : Diagnoses d' s' := by
  obtain ⟨operator, named, keyed, run, names, key, attempt⟩ := diagnoses
  have same := change.sameKey
  refine ⟨source.stage ▸ operator, ?_, ?_, ?_, ?_, ?_, ?_⟩
  · rw [same.taskId, named, source.taskId]
  · rw [same.operatorKey, keyed, source.taskId]
  · rw [same.runId, run, source.runId]
  · rw [source.taskId, ← names]
    cases change with
    | claim _ _ _ input => exact input _ (by simp)
    | reopen _ _ _ source => exact source
    | retry _ _ stage => exact absurd kind stage
    | same | release | renew | succeed | fail => rfl
  · rw [source.operatorKey, ← key]
    cases change with
    | claim _ _ _ input => exact input _ (by simp)
    | reopen _ _ _ _ key => exact key
    | retry _ _ stage => exact absurd kind stage
    | same | release | renew | succeed | fail => rfl
  · cases change with
    | @claim input _ _ lease kept =>
      have kept : Dict.get? input "source_attempt" = some (.int (sourceAttempt d)) :=
        (kept _ (by simp)).trans attempt
      rw [show sourceAttempt (TaskRow.claimed lease { d with input }) = sourceAttempt d from
        attemptField_of kept]
      exact kept
    | @reopen input k _ _ _ _ _ found natural =>
      obtain ⟨n, rfl⟩ := Int.eq_ofNat_of_zero_le natural
      rw [show sourceAttempt (TaskRow.reopened input d) = n from attemptField_of found]
      exact found
    | retry _ _ stage => exact absurd kind stage
    | same | release | renew | succeed | fail => exact attempt

theorem Shaped.change (shaped : Shaped l t r) (change : Change a r ms r') (rows : Rows l a l' notes) :
    Shaped l' t r' := by
  have same := change.sameKey
  refine ⟨same.taskId.trans shaped.named, ?_, ?_, ?_⟩
  · rw [same.runId]
    exact rows.runs _ shaped.run
  · rw [same.stage, same.runId, same.operatorKey]
    intro operator
    obtain ⟨named, long, known⟩ := shaped.operator operator
    obtain ⟨spec, found⟩ := Option.isSome_iff_exists.mp known
    exact ⟨named, long, by rw [rows.specs _ _ _ found]; rfl⟩
  · rw [same.stage]
    intro kind
    obtain ⟨s, found, diagnoses⟩ := shaped.diagnosis kind
    obtain ⟨s', found', moved⟩ := rows.old _ s found
    have key := moved.sameKey
    exact ⟨s', by rw [key.taskId, found'], diagnoses.change kind change key⟩

theorem Staged.change (staged : Staged l r) (change : Change a r ms r') (sound : Sound l)
    (rows : Rows l a l' notes) : Staged l' r' := by
  have same := change.sameKey
  intro before prev
  rw [same.stage] at prev
  obtain ⟨q, found, status⟩ := staged before prev
  obtain ⟨q', found', moved⟩ := rows.old _ q found
  have operator : q.stage ≠ .diagnosis := by
    intro kind
    obtain ⟨s, _, diagnoses⟩ := (sound.shaped _ q found).diagnosis kind
    have named := (sound.shaped _ q found).named
    rw [diagnoses.named] at named
    exact diagnosisId_ne_stageTaskId (prev_operator prev).2.1 named
  have free : q.lease = none := by
    have leased := sound.leased found
    rw [status] at leased
    simpa using leased
  obtain rfl := moved.of_succeeded status operator free
  exact ⟨q', by rw [same.runId, same.operatorKey, found'], status⟩

theorem Rows.exists_old (rows : Rows l a l' notes) (missing : l'.row t = none) : l.row t = none := by
  by_contra present
  obtain ⟨r, here⟩ := Option.ne_none_iff_exists'.mp present
  obtain ⟨r', found, _⟩ := rows.old t r here
  simp [found] at missing

/-- The parts of the invariant that follow from the rows alone. -/
theorem Rows.shaped (rows : Rows l a l' notes) (sound : Sound l) (here : l'.row t = some r') :
    Shaped l' t r' := by
  cases old : l.row t with
  | none => exact (rows.new t r' old here).2.1
  | some r =>
    obtain ⟨q, found, change⟩ := rows.old t r old
    obtain rfl := Ledger.same_row found here
    exact (sound.shaped t r old).change change rows

theorem Rows.tracked (rows : Rows l a l' notes) (sound : Sound l) (here : l'.row t = some r') :
    Track (marks t l'.log) r'.status (r'.lease.map Lease.worker) r'.attempt := by
  rw [rows.log, marks_append]
  cases old : l.row t with
  | none =>
    obtain ⟨⟨status, attempt, free, opened⟩, _⟩ := rows.new t r' old here
    rw [sound.unmarked t old, opened, status, attempt, free]
    exact .created
  | some r =>
    obtain ⟨q, found, change⟩ := rows.old t r old
    obtain rfl := Ledger.same_row found here
    exact change.track (sound.tracked t r old)

theorem Rows.staged (rows : Rows l a l' notes) (sound : Sound l) (here : l'.row t = some r') :
    Staged l' r' := by
  cases old : l.row t with
  | none =>
    exact (rows.new t r' old here).2.2.change (.same r') sound rows
  | some r =>
    obtain ⟨q, found, change⟩ := rows.old t r old
    obtain rfl := Ledger.same_row found here
    exact (sound.staged t r old).change change sound rows

/-! The link between a source and its diagnosis, move by move. -/

theorem Settled.mono (settled : Settled log d) (grown : log ⊆ log') : Settled log' d := by
  obtain ⟨status, action, n, member, applies⟩ := settled
  exact ⟨status, action, n, grown member, applies⟩

theorem Link.mono (link : Link log r d?) (grown : log ⊆ log') : Link log' r d? :=
  ⟨link.failed, fun other d same => (link.settled other d same).mono grown, link.bound⟩

/-- A source that was and is not failed, with no attempt given back. -/
theorem Link.advance {r r' : TaskRow} (link : Link log r d?) (before : r.status ≠ .failed)
    (after : r'.status ≠ .failed)
    (ahead : r.attempt ≤ r'.attempt ∧ (r'.status ≠ .pending → r.attempt < r'.attempt ∨
      r.status ≠ .pending)) : Link log r' d? where
  failed h := absurd h after
  settled _ := link.settled before
  bound _ d same := by
    obtain ⟨upto, below⟩ := link.bound before d same
    refine ⟨upto.trans ahead.1, fun active => ?_⟩
    rcases ahead.2 active with more | active
    · exact lt_of_le_of_lt upto more
    · exact lt_of_lt_of_le (below active) ahead.1

/-- A diagnosis row in progress belongs to a failed source, and may change freely. -/
theorem Link.replace (link : Link log r (some d)) (open' : d.status ≠ .succeeded)
    (same : sourceAttempt d' = sourceAttempt d) : Link log r (some d') := by
  have failed := link.source_failed open'
  obtain ⟨e, here, attempt⟩ := link.failed failed
  obtain rfl := Option.some.inj here
  exact ⟨fun _ => ⟨d', rfl, same.trans attempt⟩, absurd failed, absurd failed⟩

/-- An operator row's diagnosis after one row was rewritten. -/
theorem Sound.linked_put {row row' : TaskRow} (sound : Sound l) (here : l.row row.taskId = some row)
    (change : Change a row ms row')
    (asSource : row.stage ≠ .diagnosis → Link l.log row (l.row (diagnosisId row.taskId)) →
      Link log row' (l.row (diagnosisId row.taskId)))
    (asDiagnosis : row.stage = .diagnosis → ∀ s, Link l.log s (some row) → Link log s (some row'))
    (grown : l.log ⊆ log) (found : (l.put row').row t = some r) (operator : r.stage ≠ .diagnosis) :
    Link log r ((l.put row').row (diagnosisId t)) := by
  have named := change.sameKey.taskId
  simp only [Ledger.put, named, Function.update_apply] at found ⊢
  by_cases this : t = row.taskId
  · subst this
    obtain rfl := Option.some.inj ((if_pos rfl).symm.trans found)
    rw [if_neg (diagnosisId_ne_self _)]
    have stage := change.sameKey.stage ▸ operator
    exact asSource stage (sound.linked _ row here stage)
  · rw [if_neg this] at found
    have link := sound.linked t r found operator
    by_cases diagnosed : diagnosisId t = row.taskId
    · rw [if_pos diagnosed]
      rw [diagnosed, here] at link
      obtain rfl := sound.named found
      exact asDiagnosis (sound.diagnoses found (diagnosed ▸ here)).1 r link
    · rw [if_neg diagnosed]
      exact link.mono grown

/-- A new operator row has no diagnosis. -/
theorem Sound.linked_open (sound : Sound l) (row : TaskRow) (fresh : l.row row.taskId = none)
    (status : row.status = .pending) (named : row.taskId = stageTaskId run key stage)
    (kind : stage ≠ .diagnosis) (grown : l.log ⊆ log)
    (found : (l.put row).row t = some r) (operator : r.stage ≠ .diagnosis) :
    Link log r ((l.put row).row (diagnosisId t)) := by
  simp only [Ledger.put, Function.update_apply] at found ⊢
  have other : diagnosisId t ≠ row.taskId := named ▸ diagnosisId_ne_stageTaskId kind
  rw [if_neg other]
  by_cases this : t = row.taskId
  · subst this
    obtain rfl := Option.some.inj ((if_pos rfl).symm.trans found)
    rw [sound.no_diagnosis fresh]
    exact ⟨fun failed => by simp [status] at failed, by rintro _ _ ⟨⟩, by rintro _ _ ⟨⟩⟩
  · rw [if_neg this] at found
    exact (sound.linked t r found operator).mono grown

/-- A failing operator row and the diagnosis row of this attempt. -/
theorem Sound.linked_fail {row d : TaskRow} (sound : Sound l) (here : l.row row.taskId = some row)
    (stage : row.stage ≠ .diagnosis) (named : d.taskId = diagnosisId row.taskId)
    (kind : d.stage = .diagnosis) (attempt : sourceAttempt d = row.attempt) (grown : l.log ⊆ log)
    (found : ((l.put (TaskRow.finished .failed output row)).put d).row t = some r)
    (operator : r.stage ≠ .diagnosis) :
    Link log r (((l.put (TaskRow.finished .failed output row)).put d).row (diagnosisId t)) := by
  simp only [Ledger.put, TaskRow.finished, Function.update_apply, named] at found ⊢
  by_cases this : t = row.taskId
  · subst this
    rw [if_neg (diagnosisId_ne_self _).symm, if_pos rfl] at found
    obtain rfl := Option.some.inj found
    rw [if_pos rfl]
    exact ⟨fun _ => ⟨d, rfl, attempt⟩, fun h => absurd rfl h, fun h => absurd rfl h⟩
  · by_cases own : t = diagnosisId row.taskId
    · rw [if_pos own] at found
      obtain rfl := Option.some.inj found
      exact absurd kind operator
    · rw [if_neg own, if_neg this] at found
      have other : diagnosisId t ≠ row.taskId := by
        rw [((sound.shaped _ row here).operator stage).1]
        exact diagnosisId_ne_stageTaskId stage
      rw [if_neg fun same => this (diagnosisId_inj same), if_neg other]
      exact (sound.linked t r found operator).mono grown

/-- Giving up leases: a source and its diagnosis row are never running together. -/
theorem Link.release (link : Link log r d?) (selected : TaskRow → Bool)
    (source : selected r = true → r.status = .running)
    (diagnosis : ∀ d, d? = some d → selected d = true → d.status = .running) :
    Link log (if selected r then r.released else r)
      (d?.map fun d => if selected d then d.released else d) := by
  have replaced : Link log r (d?.map fun d => if selected d then d.released else d) := by
    cases d? with
    | none => exact link
    | some d =>
      simp only [Option.map_some]
      by_cases chosen : selected d = true
      · rw [if_pos chosen]
        exact link.replace (by simp [diagnosis d rfl chosen]) rfl
      · rw [if_neg chosen]
        exact link
  by_cases chosen : selected r = true
  · rw [if_pos chosen]
    exact replaced.advance (by simp [source chosen]) (by simp [TaskRow.released])
      ⟨le_rfl, fun active => absurd rfl active⟩
  · rw [if_neg chosen]
    exact replaced

theorem attemptField_same {a b : Dict} (same : a.get? key = b.get? key) :
    attemptField a key = attemptField b key := by
  simp only [attemptField, Dict.getD, same]

/-- Every move keeps sources and diagnoses linked. -/
theorem Move.linked (move : Move host approves l a l') (sound : Sound l)
    (found : l'.row t = some r) (operator : r.stage ≠ .diagnosis) :
    Link l'.log r (l'.row (diagnosisId t)) := by
  have grown (n : Note) : l.log ⊆ l.log ++ [n] := List.subset_append_left _ _
  cases move with
  | wait | openRun | furnish | bind | adjust => exact sound.linked t r found operator
  | discover run key spec input payload at' here valid long unknown fresh =>
    exact sound.linked_open (pendingRow run.runId key .torch _ input at') fresh rfl rfl
      (by decide) (grown _) found operator
  | create row stage input payload at' here status next fresh =>
    exact sound.linked_open (pendingRow row.runId row.operatorKey stage _ input at') fresh
      rfl rfl (next_operator next).2.1 (grown _) found operator
  | claim row input worker expires here status ready same =>
    refine sound.linked_put here (.claim row status ⟨_, worker, expires⟩ same) (fun _ link => ?_)
      (fun _ s link => ?_) (grown _) found operator
    · exact (link.advance (by simp [status]) (by simp [TaskRow.claimed])
        ⟨Nat.le_succ _, fun _ => .inl (Nat.lt_succ_self _)⟩).mono (grown _)
    · exact (link.replace (by simp [status]) (attemptField_same (same _ (by simp)))).mono (grown _)
  | release selected running =>
    obtain ⟨old, here, rfl⟩ := Option.map_eq_some_iff.mp found
    have stage : old.stage ≠ .diagnosis := by
      split at operator <;> exact operator
    exact (sound.linked t old here stage).release selected (running t old here)
      fun d known => running _ d known
  | renew row held expires here lease live =>
    have status := (sound.leased here).mp (by simp [lease])
    refine sound.linked_put here (.renew row lease expires) (fun _ link => ?_)
      (fun _ s link => ?_) (List.Subset.refl _) found operator
    · exact link.advance (by simp [status]) (by simp [status])
        ⟨le_rfl, fun _ => .inr (by simp [status])⟩
    · exact link.replace (by simp [status]) rfl
  | succeed row held r result output payload here status lease live run approved =>
    refine sound.linked_put here (.succeed row status output) (fun _ link => ?_)
      (fun _ s link => ?_) (grown _) found operator
    · have moved : Link l.log (TaskRow.finished .succeeded output row) _ :=
        link.advance (by simp [status]) (by simp [TaskRow.finished])
          ⟨le_rfl, fun _ => .inr (by simp [status])⟩
      exact moved.mono (grown _)
    · have moved : Link l.log s (some (TaskRow.finished .succeeded output row)) :=
        link.replace (by simp [status]) rfl
      exact moved.mono (grown _)
  | failDiagnosis row held output payload here status lease live stage =>
    refine sound.linked_put here (.fail row status output) (fun other => absurd stage other)
      (fun _ s link => ?_) (grown _) found operator
    have moved : Link l.log s (some (TaskRow.finished .failed output row)) :=
      link.replace (by simp [status]) rfl
    exact moved.mono (grown _)
  | failFirst row held report output payload at' here status lease live stage fresh =>
    have opened := diagnoses_input (d := pendingRow row.runId (diagnosisKey row.taskId) .diagnosis
      (diagnosisId row.taskId) (diagnosisInput row.view report) at') stage rfl rfl rfl rfl
    exact sound.linked_fail here stage rfl rfl opened.2
      (List.Subset.trans (grown _) (List.subset_append_left _ _)) found operator
  | failAgain row diagnosis held report output payload here status lease live stage known =>
    obtain ⟨kind, diagnoses⟩ := sound.diagnoses here known
    have reopened := diagnoses_input (d := TaskRow.reopened (diagnosisInput row.view report) diagnosis)
      stage diagnoses.named diagnoses.keyed diagnoses.run rfl
    exact sound.linked_fail here stage diagnoses.named kind reopened.2
      (List.Subset.trans (grown _) (List.subset_append_left _ _)) found operator
  | retry diagnosis source input concluded status =>
    have diagnoses := concluded.diagnoses sound
    refine sound.linked_put concluded.found (.retry source status concluded.operator input)
      (fun _ link => ?_) (fun kind => absurd kind concluded.operator) (grown _) found operator
    rw [← diagnoses.named, concluded.known] at link ⊢
    obtain ⟨d, same, attempt⟩ := link.failed status
    obtain rfl := Option.some.inj same
    refine ⟨nofun, fun _ d same => ?_, fun _ d same => ?_⟩
    · obtain rfl := Option.some.inj same
      refine ⟨concluded.succeeded, concluded.action, _, List.mem_append_right _ List.mem_cons_self,
        rfl, rfl, ?_, ?_⟩
      · simp [applicationEvent, TaskRow.view, Dict.getD, diagnoses.attempt]
      · simp [applicationEvent, TaskRow.view]
    · obtain rfl := Option.some.inj same
      exact ⟨attempt.le, fun active => absurd rfl active⟩
  | consume diagnosis source concluded =>
    exact (sound.linked t r found operator).mono (grown _)

theorem Ledger.putRun_named {l : Ledger} (r : AdaptationRun)
    (named : ∀ id r, l.run id = some r → r.runId = id) (id : Text) (q : AdaptationRun)
    (found : (l.putRun r).run id = some q) : q.runId = id := by
  simp only [Ledger.putRun, Function.update_apply] at found
  split at found
  · next here => rw [here, Option.some.inj found]
  · exact named id q found

theorem Rows.kept (rows : Rows l a l' notes) (present : ∃ q, l.row t = some q ∧ q.runId = runId) :
    ∃ q, l'.row t = some q ∧ q.runId = runId := by
  obtain ⟨r, here, run⟩ := present
  obtain ⟨r', found, change⟩ := rows.old t r here
  exact ⟨r', found, change.sameKey.runId.trans run⟩

/-- A stored specification comes with the torch row of its discovery. -/
theorem Move.rooted (move : Move host approves l a l') (sound : Sound l)
    (rows : Rows l a l' notes) (found : l'.spec runId key = some spec) :
    ∃ q, l'.row (stageTaskId runId key .torch) = some q ∧ q.runId = runId := by
  cases move with
  | discover r key' spec' input payload at' =>
    simp only [Ledger.note, Ledger.put, Ledger.putSpec] at found
    by_cases new : runId = r.runId ∧ key = key'
    · obtain ⟨rfl, rfl⟩ := new
      exact ⟨_, Function.update_self _ _ _, rfl⟩
    · rw [if_neg new] at found
      exact rows.kept (sound.rooted _ _ _ found)
  | wait | openRun | furnish | bind | adjust | create | claim | release | renew | succeed
  | failDiagnosis | failFirst | failAgain | retry | consume =>
    exact rows.kept (sound.rooted _ _ _ found)

/-- The event of an application, on file. -/
theorem filed_application {action : Text} (concluded : Concluded l d s action) (sound : Sound l) :
    Filed ⟨d.runId, .diagnosisApplied, some d.taskId, applicationEvent d.view s.view action⟩ where
  claim := nofun
  application _ := by
    have attempt : Dict.getD d.input "source_attempt" .null = .int (sourceAttempt d) := by
      rw [Dict.getD, (concluded.diagnoses sound).attempt, Option.getD_some]
    exact ⟨sourceAttempt d, congrArg some attempt⟩

/-- Every move files what it logs. -/
theorem Move.filed (move : Move host approves l a l') (sound : Sound l) (member : n ∈ l'.log) :
    Filed n := by
  cases move with
  | wait | openRun | furnish | bind | adjust | release | renew => exact sound.filed n member
  | claim row input worker =>
    simp only [Ledger.note, Ledger.put, List.mem_append, List.mem_singleton] at member
    rcases member with old | rfl
    · exact sound.filed n old
    · exact ⟨fun _ => ⟨worker, row, rfl⟩, by rintro ⟨⟩⟩
  | discover | create | succeed | failDiagnosis =>
    simp only [Ledger.note, Ledger.put, Ledger.putSpec, List.mem_append, List.mem_singleton] at member
    rcases member with old | rfl
    · exact sound.filed n old
    · exact ⟨by rintro ⟨⟩, by rintro ⟨⟩⟩
  | retry diagnosis source input concluded | consume diagnosis source concluded =>
    simp only [Ledger.note, Ledger.put, List.mem_append, List.mem_singleton] at member
    rcases member with old | rfl
    · exact sound.filed n old
    · exact filed_application concluded sound
  | failFirst | failAgain =>
    simp only [Ledger.note, Ledger.put, List.mem_append, List.mem_singleton] at member
    rcases member with (old | rfl) | rfl
    · exact sound.filed n old
    · exact ⟨by rintro ⟨⟩, by rintro ⟨⟩⟩
    · exact ⟨by rintro ⟨⟩, by rintro ⟨⟩⟩

theorem Move.runs (move : Move host approves l a l') (sound : Sound l) (id : Text)
    (q : AdaptationRun) (found : l'.run id = some q) : q.runId = id := by
  cases move with
  | openRun | furnish | bind | adjust => exact Ledger.putRun_named _ sound.runs id q found
  | wait | discover | create | claim | release | renew | succeed | failDiagnosis | failFirst
  | failAgain | retry | consume => exact sound.runs id q found

/-- Every move keeps the invariant. -/
theorem Move.keeps (move : Move host approves l a l') (sound : Sound l) : Sound l' := by
  obtain ⟨notes, rows⟩ := move.rows sound
  refine ⟨move.runs sound, fun t r here => rows.shaped sound here,
    fun t r here => rows.tracked sound here, fun t missing => ?_,
    fun t r here => rows.staged sound here, fun t r here => move.linked sound here,
    fun id key spec found => move.rooted sound rows found, fun n member => move.filed sound member⟩
  rw [rows.log, marks_append, rows.silent t missing, sound.unmarked t (rows.exists_old missing)]
  rfl

theorem Sound.empty : Sound .empty where
  runs := nofun
  shaped := nofun
  tracked := nofun
  unmarked _ _ := rfl
  staged := nofun
  linked := nofun
  rooted := nofun
  filed := nofun

end Parts

end InferForge
