import InferForge.Scheduler.Leases

/-! Renewals: which accepted renewals move the stored expiry. -/
namespace InferForge
open Py Effect Sched

/-- The stored lease of the task moved to the expiry its event announces. Nothing else of the
row changed, and nothing else of the tables but the event. -/
def Store.Renewed (t : Text) (before after : Store) : Prop :=
  ∃ row lease expires at', before.row? t = some row ∧ row.lease = some lease ∧
    after.tasks = before.tasks.map (fun r =>
      if r.taskId = t then { row with lease := some { lease with expires } } else r) ∧
    after.runs = before.runs ∧ after.operators = before.operators ∧
    after.events = before.events ++
      [⟨row.runId, .leaseRenewed, some t, [("lease_expires", .float (.fin expires))], at'⟩]

section Renewal
variable (host : Host) (w : World) (t : Text) (worker token : Option Text) (seconds : Double)

/-- A renewal that returns moves the expiry; one that raises changes nothing. -/
def RenewalTakesEffect : Prop :=
  let (outcome, after) := renewLease host t worker token seconds w
  (∀ task, outcome = .ok task → Store.Renewed t w.db after.1.db) ∧
    ∀ e, outcome = .error e → after.1.db = w.db

/-- The lease check accepts a token that stands in the worker's place, and the new expiry is
not the one already stored. -/
def World.Misplaced : Prop :=
  ∃ row ∈ w.db.tasks, row.taskId = t ∧
    ownsLease row worker token (host.clock w.readings) = true ∧ token.all Text.isEmpty = true ∧
    match seconds with
    | .fin s => 0 < s ∧ row.lease.map Lease.expires ≠
        some (host.addSeconds (host.clock (w.readings + 1)) s)
    | _ => False

instance : Decidable (World.Misplaced host w t worker token seconds) :=
  haveI (row : TaskRow) : Decidable (match seconds with
      | .fin s => 0 < s ∧ row.lease.map Lease.expires ≠
          some (host.addSeconds (host.clock (w.readings + 1)) s)
      | _ => False) := by
    cases seconds <;> infer_instance
  inferInstanceAs (Decidable (∃ row ∈ w.db.tasks, _))

end Renewal
section Outcome
variable {host : Host} {w : World} {t : Text} {worker token : Option Text} {row : TaskRow}

/-- The rows the update of a renewal selects. -/
def Holds (t : Text) (token : Option Text) (r : TaskRow) : Bool :=
  r.taskId = t && (r.lease.map Lease.token = token && token.isSome)

theorem wp_requireTask {Q : Task → World → Prop} {E : Exn → World → Prop}
    (here : w.db.row? t = some row) (shown : Q row.view w) : Prog.wp (requireTask t) Q E w := by
  rw [requireTask, Prog.wp_bind, wp_query, here]
  exact shown

/-- The tables after an accepted renewal of a row. -/
def Store.afterRenewal (db : Store) (token : Option Text) (row : TaskRow) (expires at' : Time) : Store :=
  (db.updateTasks (Holds row.taskId token) (TaskRow.renewed expires)).append
    ⟨row.runId, .leaseRenewed, some row.taskId, [("lease_expires", .float (.fin expires))], at'⟩

/-- A renewal the check accepts returns, with its update and its event. -/
theorem renewLease_accepted (here : w.db.row? t = some row) (positive : 0 < s)
    (owned : ownsLease row worker token (host.clock w.readings) = true) :
    Prog.wp (renewLease host t worker token (.fin s)) (fun _ v => ∃ at', v.db = w.db.afterRenewal token row
      (host.addSeconds (host.clock (w.readings + 1)) s) at') (fun _ _ => False) w := by
  obtain rfl := Store.row?_named here
  unfold renewLease atomic
  rw [Prog.wp_transact, Prog.wp_bind, Prog.wp_lift]
  have checked : checkSeconds (.fin s) = .ok s := if_neg (not_le.mpr positive)
  refine ⟨fun q same => ?_, fun e raised => by rw [checked] at raised; cases raised⟩
  obtain rfl := Except.ok.inj (checked.symm.trans same)
  simp only [ownedLease, Prog.wp_bind, wp_query, here, wp_now, Prog.wp_require, owned,
    true_implies, Bool.true_eq_false, false_implies, and_true, wp_execute, wp_emit, Prog.wp_pure]
  -- the row is still there after its update
  have stored : (w.db.updateTasks (Holds row.taskId token)
      (TaskRow.renewed (host.addSeconds (host.clock (w.readings + 1)) s))).row? row.taskId = _ :=
    Store.row?_updateTasks _ (TaskRow.renewed _) (fun _ => ⟨rfl, rfl, rfl, rfl⟩) row.taskId
  rw [here, Option.map_some] at stored
  apply wp_requireTask stored
  exact ⟨_, rfl⟩

/-- Any other renewal raises. -/
theorem renewLease_refused (refused : ∀ s row, seconds = .fin s → 0 < s →
      w.db.row? t = some row → ownsLease row worker token (host.clock w.readings) = false) :
    Prog.wp (renewLease host t worker token seconds) (fun _ _ => False)
      (fun _ v => v.db = w.db) w := by
  unfold renewLease atomic
  rw [Prog.wp_transact, Prog.wp_bind, Prog.wp_lift]
  refine ⟨fun q checked => ?_, fun _ _ => rfl⟩
  have bounded : seconds = .fin q ∧ 0 < q := by
    unfold checkSeconds at checked
    split at checked
    · split at checked
      · cases checked
      · next positive =>
        obtain rfl := Except.ok.inj checked
        exact ⟨rfl, not_le.mp positive⟩
    · cases checked
  rw [ownedLease, Prog.wp_bind, Prog.wp_bind, wp_query]
  cases here : w.db.row? t with
  | none => exact rfl
  | some row =>
    have closed := refused q row bounded.1 bounded.2 here
    simp only [Prog.wp_bind, wp_now, Prog.wp_require, closed, Bool.false_eq_true, false_implies,
      true_implies, true_and]

theorem accepted_outcome (here : w.db.row? t = some row) (positive : 0 < s)
    (owned : ownsLease row worker token (host.clock w.readings) = true) :
    (∃ task, (renewLease host t worker token (.fin s) w).1 = .ok task) ∧
      ∃ at', (renewLease host t worker token (.fin s) w).2.1.db = w.db.afterRenewal token row
        (host.addSeconds (host.clock (w.readings + 1)) s) at' := by
  obtain ⟨normal, raised⟩ := Prog.wp_iff.mp (renewLease_accepted here positive owned)
  rcases run : (renewLease host t worker token (.fin s) w).1 with e | task
  · exact (raised e run).elim
  · exact ⟨⟨task, rfl⟩, normal task run⟩

/-- A token that passes the check in the worker's place is not the token of the call. -/
theorem misplaced_token (owned : ownsLease row worker token reading = true)
    (held : row.lease = some lease) (empty : token.all Text.isEmpty = true) :
    token ≠ some lease.token := by
  rintro rfl
  simp only [ownsLease, held, Bool.and_eq_true, Option.any_some, Bool.not_eq_true',
    decide_eq_true_eq] at owned
  obtain ⟨⟨named, _⟩, ⟨shown, _⟩, _⟩ := owned
  rw [shown, empty] at named
  cases named

/-- A token in its own place selects the row it was drawn for. -/
theorem renewed_of_named {db : Store} (here : db.row? row.taskId = some row)
    (held : row.lease = some lease) (shown : token = some lease.token) :
    Store.Renewed row.taskId db (db.afterRenewal token row expires at') := by
  refine ⟨row, lease, expires, at', here, held, ?_, rfl, rfl, rfl⟩
  apply List.map_congr_left
  intro r member
  by_cases same : r.taskId = row.taskId
  · have unique := Store.row?_of_mem member
    rw [same, here] at unique
    obtain rfl := Option.some.inj unique
    simp [Holds, TaskRow.renewed, held, shown]
  · simp [Holds, same]

/-- A misplaced token selects no row, so the expiry stays what it was. -/
theorem renewed_of_misplaced {db : Store} (here : db.row? row.taskId = some row)
    (held : row.lease = some lease) (other : token ≠ some lease.token) :
    Store.Renewed row.taskId db (db.afterRenewal token row expires at') ↔ lease.expires = expires := by
  have untouched : (db.afterRenewal token row expires at').tasks = db.tasks := by
    apply (List.map_congr_left fun r member => ?_).trans (List.map_id _)
    have idle : Holds row.taskId token r = false := by
      apply Bool.eq_false_iff.mpr
      intro selected
      simp only [Holds, Bool.and_eq_true, decide_eq_true_eq] at selected
      have unique := Store.row?_of_mem member
      rw [selected.1, here] at unique
      obtain rfl := Option.some.inj unique
      exact other (selected.2.1.symm.trans (congrArg _ held))
    simp [idle]
  constructor
  · rintro ⟨row', lease', announced, _, here', held', moved, -, -, events⟩
    obtain rfl := Option.some.inj (here.symm.trans here')
    obtain rfl := Option.some.inj (held.symm.trans held')
    have told : expires = announced := by
      have last := List.append_cancel_left events
      simpa using congrArg (List.map TaskEvent.payload) last
    rw [untouched] at moved
    have stored := List.map_inj_left.mp ((List.map_id _).trans moved) row (Store.row?_mem here)
    rw [if_pos rfl] at stored
    have lease_same : row.lease = some { lease with expires := announced } :=
      congrArg TaskRow.lease stored
    rw [held] at lease_same
    exact (congrArg Lease.expires (Option.some.inj lease_same)).trans told.symm
  · rintro rfl
    refine ⟨row, lease, lease.expires, at', here, held, ?_, rfl, rfl, rfl⟩
    rw [untouched]
    symm
    apply (List.map_congr_left fun r member => ?_).trans (List.map_id _)
    split
    · next same =>
      have unique := Store.row?_of_mem member
      rw [same, here] at unique
      obtain rfl := Option.some.inj unique
      rw [← held]
      rfl
    · rfl

/-- A renewal the check accepts takes effect, unless the token stands in the worker's place and
the expiry it announces is a new one. -/
theorem takesEffect_accepted (here : w.db.row? row.taskId = some row) (held : row.lease = some lease)
    (positive : 0 < s) (owned : ownsLease row worker token (host.clock w.readings) = true) :
    RenewalTakesEffect host w row.taskId worker token (.fin s) ↔
      (token.all Text.isEmpty = true →
        lease.expires = host.addSeconds (host.clock (w.readings + 1)) s) := by
  obtain ⟨⟨task, returned⟩, at', after⟩ := accepted_outcome here positive owned
  have effect : RenewalTakesEffect host w row.taskId worker token (.fin s) ↔
      Store.Renewed row.taskId w.db (w.db.afterRenewal token row
        (host.addSeconds (host.clock (w.readings + 1)) s) at') := by
    simp only [RenewalTakesEffect, returned, after]
    simp
  rw [effect]
  by_cases empty : token.all Text.isEmpty = true
  · rw [renewed_of_misplaced here held (misplaced_token owned held empty)]
    exact ⟨fun same _ => same, fun same => same empty⟩
  · obtain ⟨lease', held', _, _, shown⟩ := ownsLease_spec owned
    obtain rfl := Option.some.inj (held.symm.trans held')
    exact iff_of_true (renewed_of_named here held ((if_neg empty).symm.trans shown))
      fun named => absurd named empty

end Outcome

/-- A renewal takes effect, or raises and changes nothing, unless the check accepted a token in
the worker's place: then the call returns and announces an expiry it does not store. -/
theorem renewal_takes_effect (host : Host) (w : World) (t : Text) (worker token : Option Text)
    (seconds : Double) :
    RenewalTakesEffect host w t worker token seconds ↔ ¬ w.Misplaced host t worker token seconds := by
  by_cases open' : ∃ s row, seconds = .fin s ∧ 0 < s ∧ w.db.row? t = some row ∧
      ownsLease row worker token (host.clock w.readings) = true
  · obtain ⟨s, row, rfl, positive, here, owned⟩ := open'
    obtain rfl := Store.row?_named here
    obtain ⟨lease, held, _⟩ := ownsLease_spec owned
    rw [takesEffect_accepted here held positive owned]
    constructor
    · rintro stored ⟨r, member, same, _, empty, _, late⟩
      have unique := Store.row?_of_mem member
      rw [same, here] at unique
      obtain rfl := Option.some.inj unique
      exact late (by rw [held, Option.map_some, stored empty])
    · intro written empty
      by_contra late
      exact written ⟨row, Store.row?_mem here, rfl, owned, empty, positive, by simpa [held] using late⟩
  · push Not at open'
    constructor
    · rintro - ⟨row, member, rfl, owned, _, rest⟩
      cases seconds with
      | fin s => exact open' s row rfl rest.1 (Store.row?_of_mem member) owned
      | _ => exact rest
    · intro _
      have raises := Prog.wp_iff.mp (renewLease_refused 
        fun s row same positive here => Bool.eq_false_iff.mpr (open' s row same positive here))
      exact ⟨fun task returned => (raises.1 task returned).elim, raises.2⟩

/-- A worker that renews with its token in the worker's place keeps a lease that runs out. -/
theorem renewal_takes_effect_fails : ¬ RenewalTakesEffect .sample (history .sample sampleCalls)
    (stageTaskId "run" (Host.sample.sha256 []) .torch) (some (Host.sample.token 0)) (some "")
    (.fin 60) := by
  have leased : ∃ r ∈ (history .sample sampleCalls).db.tasks,
      r.taskId = stageTaskId "run" (Host.sample.sha256 []) .torch ∧
        r.lease = some ⟨Host.sample.token 0, "worker", 14⟩ ∧
        ownsLease r (some (Host.sample.token 0)) (some "")
          (Host.sample.clock (history .sample sampleCalls).readings) = true ∧
        (14 : Time) ≠ Host.sample.addSeconds
          (Host.sample.clock ((history .sample sampleCalls).readings + 1)) 60 := by decide +kernel
  obtain ⟨row, member, named, held, owned, late⟩ := leased
  have here := Store.row?_of_mem member
  have announced := takesEffect_accepted here held (show (0 : Rat) < 60 by decide) owned
  rw [named] at announced
  rw [announced]
  exact fun stored => late (stored rfl)

end InferForge
