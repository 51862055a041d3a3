import InferForge.Scheduler.Replay

/-! Leases: an attempt for each claim, one token that opens a task, and tokens that stay
dead once they have died. -/
namespace InferForge
open Py Effect Sched Transition Lifecycle

section Moves
variable {host : Host} {l l' : Ledger}

theorem Move.forward (moved : Move host approves l a l') :
    l.readings ≤ l'.readings ∧ l.tokens ≤ l'.tokens := by
  cases moved with
  | wait readings tokens => exact ⟨readings, tokens⟩
  | claim => exact ⟨le_rfl, Nat.le_succ _⟩
  | _ => exact ⟨le_rfl, le_rfl⟩

theorem Ledger.row_put (here : (l.put q).row t = some r) :
    (q.taskId = t ∧ r = q) ∨ l.row t = some r := by
  simp only [Ledger.put, Function.update_apply] at here
  split at here
  · next same => exact .inl ⟨same.symm, (Option.some.inj here).symm⟩
  · exact .inr here

/-- Where a lease comes from: it was there before, it is a renewal of a lease still running,
or its token was drawn in this move. -/
theorem Move.lease_source (moved : Move host approves l a l') (here : l'.row t = some r')
    (held : r'.lease = some lease') :
    (∃ r lease, l.row t = some r ∧ r.lease = some lease ∧ lease'.token = lease.token ∧
      r'.attempt = r.attempt ∧ (lease' = lease ∨ Live host l lease)) ∨
    (lease'.token = host.token l.tokens ∧ l.tokens < l'.tokens) := by
  have kept (before : l.row t = some r') : ∃ r lease, l.row t = some r ∧ r.lease = some lease ∧
      lease'.token = lease.token ∧ r'.attempt = r.attempt ∧ (lease' = lease ∨ Live host l lease) :=
    ⟨r', lease', before, held, rfl, rfl, .inl rfl⟩
  -- a row written without a lease is not the one in question
  have free {l : Ledger} {q : TaskRow} (put : (l.put q).row t = some r') (idle : q.lease = none) :
      l.row t = some r' := by
    rcases Ledger.row_put put with ⟨_, rfl⟩ | before
    · rw [idle] at held
      cases held
    · exact before
  cases moved with
  | wait | openRun | furnish | bind | adjust | consume => exact .inl (kept here)
  | discover | create | succeed | failDiagnosis | retry => exact .inl (kept (free here rfl))
  | failFirst | failAgain => exact .inl (kept (free (free here rfl) rfl))
  | claim row input worker expires stored =>
    rcases Ledger.row_put here with ⟨_, rfl⟩ | before
    · obtain rfl := Option.some.inj held
      exact .inr ⟨rfl, Nat.lt_succ_self _⟩
    · exact .inl (kept before)
  | release selected running =>
    obtain ⟨r, before, same⟩ := Option.map_eq_some_iff.mp here
    split at same
    · rw [← same] at held
      cases held
    · exact .inl (kept (same ▸ before))
  | renew row old expires stored lease live =>
    rcases Ledger.row_put here with ⟨rfl, rfl⟩ | before
    · obtain rfl := Option.some.inj held
      exact .inl ⟨row, old, stored, lease, rfl, rfl, .inr live⟩
    · exact .inl (kept before)

/-- Every lease carries a token that has been drawn. -/
def Drawn (host : Host) (l : Ledger) : Prop :=
  ∀ t r lease, l.row t = some r → r.lease = some lease → ∃ k < l.tokens, lease.token = host.token k

theorem Move.keeps_drawn (moved : Move host approves l a l') (drawn : Drawn host l) :
    Drawn host l' := by
  intro t r' lease' here held
  rcases moved.lease_source here held with ⟨r, lease, before, old, same, _⟩ | ⟨new, more⟩
  · obtain ⟨k, bound, token⟩ := drawn t r lease before old
    exact ⟨k, bound.trans_le moved.forward.2, same.trans token⟩
  · exact ⟨l.tokens, more, new⟩

/-- The token has been drawn, and it only opens the task in ways that satisfy `φ`. -/
structure Opens (host : Host) (token t : Text) (φ : TaskRow → Lease → Prop) (l : Ledger) : Prop where
  drawn : ∃ k < l.tokens, token = host.token k
  only : ∀ r lease, l.row t = some r → r.lease = some lease → lease.token = token → φ r lease

/-- A token drawn before is not drawn again, so it opens nothing new. -/
theorem Move.keeps_opens (unique : Function.Injective host.token) (moved : Move host approves l a l')
    (opens : Opens host token t φ l) (weaker : ∀ r lease r' lease', φ r lease →
      r'.attempt = r.attempt → lease' = lease ∨ Live host l lease → φ' r' lease') :
    Opens host token t φ' l' := by
  obtain ⟨k, bound, drawn⟩ := opens.drawn
  refine ⟨⟨k, bound.trans_le moved.forward.2, drawn⟩, fun r' lease' here held same => ?_⟩
  rcases moved.lease_source here held with ⟨r, lease, before, old, token, attempt, kept⟩ | ⟨new, _⟩
  · exact weaker r lease r' lease' (opens.only r lease before old (token.symm.trans same)) attempt kept
  · have again : k = l.tokens := unique (drawn.symm.trans (same.symm.trans new))
    omega

end Moves
section Attempts
variable {host : Host} {disk : Disk} {l l' : Ledger} {allowed : Action → Prop}

/-- A row keeps its attempt, unless it is claimed. -/
theorem Change.attempt (change : Change a r ms r') : r'.attempt = r.attempt ∨
    (a = .claim r.taskId ∧ r.status = .pending ∧ r'.status = .running ∧
      r'.attempt = r.attempt + 1) := by
  cases change with
  | claim _ status => exact .inr ⟨rfl, status, rfl, rfl⟩
  | _ => exact .inl rfl

theorem Steps.attempt_kept (steps : Steps host disk allowed l l') (sound : Sound l)
    (unclaimed : ∀ id, ¬ allowed (.claim id)) (here : l.row t = some r) :
    ∃ r', l'.row t = some r' ∧ r'.attempt = r.attempt := by
  obtain ⟨as, path, labels⟩ := steps
  refine path.preserve (P := fun l => ∃ r', l.row t = some r' ∧ r'.attempt = r.attempt) allowed
    (fun _ _ _ moved => moved.keeps) ?_ labels sound ⟨r, here, rfl⟩
  rintro l a l' moved permitted sound ⟨q, found, same⟩
  obtain ⟨notes, rows⟩ := moved.rows sound
  obtain ⟨q', found', change⟩ := rows.old t q found
  rcases change.attempt with kept | ⟨rfl, _⟩
  · exact ⟨q', found', kept.trans same⟩
  · exact absurd permitted (unclaimed _)

/-- A claimed row is not claimed again in the same loop. -/
theorem Steps.claimed_once (steps : Steps host disk Action.claims l l') (sound : Sound l)
    (here : l.row t = some r) : ∃ r', l'.row t = some r' ∧
      (r'.attempt = r.attempt ∨ (r'.attempt = r.attempt + 1 ∧ r'.status = .running)) := by
  obtain ⟨as, path, labels⟩ := steps
  refine path.preserve (P := fun l => ∃ r', l.row t = some r' ∧
      (r'.attempt = r.attempt ∨ (r'.attempt = r.attempt + 1 ∧ r'.status = .running)))
    Action.claims (fun _ _ _ moved => moved.keeps) ?_ labels sound ⟨r, here, .inl rfl⟩
  rintro l a l' moved permitted sound ⟨q, found, bound⟩
  obtain ⟨notes, rows⟩ := moved.rows sound
  obtain ⟨q', found', change⟩ := rows.old t q found
  refine ⟨q', found', ?_⟩
  generalize marks t notes = history at change
  cases change with
  | same => exact bound
  | claim _ status =>
    rcases bound with same | ⟨_, running⟩
    · exact .inr ⟨congrArg (· + 1) same, rfl⟩
    · simp [status] at running
  | _ => exact permitted.elim

/-- A call claims a task at most once, and only `claim_ready` does. -/
theorem step_attempt {w : World} (sound : Sound w.ledger) (call : Disk × Call)
    (here : w.db.row? t = some r) : ∃ r', (step host w call).db.row? t = some r' ∧
      (r'.attempt = r.attempt ∨ r'.attempt = r.attempt + 1) := by
  obtain ⟨disk, call⟩ := call
  have steps := step_steps host sound (disk, call)
  cases call with
  | claimReady worker stage seconds limit =>
    simp only [step, Call.body, discard_run]
    obtain ⟨mid, released, claimed⟩ := claimReady_phases worker stage seconds limit
    obtain ⟨q, found, same⟩ := released.attempt_kept sound (fun _ => id) here
    obtain ⟨r', found', bound⟩ := claimed.claimed_once (released.sound sound) found
    rw [same] at bound
    exact ⟨r', found', bound.imp_right And.left⟩
  | _ =>
    obtain ⟨r', found, same⟩ := steps.attempt_kept sound (fun _ => id) here
    exact ⟨r', found, .inl same⟩

end Attempts
/-- The task a call works on under a lease, and the token it presents. -/
def Call.presents : Call → Option (Text × Option Text)
  | .renewLease t worker token _ => some (t, credential worker token)
  | .complete t worker _ token => some (t, credential worker token)
  | .fail t worker _ token => some (t, credential worker token)
  | _ => none

section Refusals
variable {host : Host} {w : World}

/-- A transaction that cannot return raises, and changes no table. -/
theorem atomic_raises {x : Sched α} (stuck : Prog.wlp x (fun _ _ => False) w) :
    (∃ e, (atomic x w).1 = .error e) ∧ (atomic x w).2.1.db = w.db := by
  unfold Prog.wlp Prog.wp at stuck
  unfold atomic Prog.transact
  rcases run : x w with ⟨e | a, v⟩
  · exact ⟨⟨e, rfl⟩, rfl⟩
  · rw [run] at stuck
    exact stuck.elim

/-- The row of a task runs under a live lease with the token shown. -/
def World.Opened (host : Host) (w : World) (t : Text) (shown : Option Text) : Prop :=
  ∃ row lease, w.db.row? t = some row ∧ row.lease = some lease ∧ row.status = .running ∧
    host.clock w.readings < lease.expires ∧ shown = some lease.token

theorem wlp_ownedLease_closed {Q : TaskRow → World → Prop}
    (closed : ¬ w.Opened host t (credential worker token)) :
    Prog.wlp (ownedLease host t worker token) Q w :=
  wlp_ownedLease fun row here owned => by
    obtain ⟨lease, held, running, live, shown⟩ := ownsLease_spec owned
    exact absurd ⟨row, lease, here, held, running, live, shown⟩ closed

/-- A call under a lease that shows another token raises, and changes no table. -/
theorem closed_raises (call : Disk × Call) (shows' : call.2.presents = some (t, shown))
    (closed : ¬ w.Opened host t shown) :
    accepted host w call = false ∧ (step host w call).db = w.db := by
  obtain ⟨disk, call⟩ := call
  have refused {x : Sched Task} (body : call.body host disk = discard (atomic x))
      (stuck : Prog.wlp x (fun _ _ => False) w) :
      accepted host w (disk, call) = false ∧ (step host w (disk, call)).db = w.db := by
    obtain ⟨⟨e, raised⟩, kept⟩ := atomic_raises stuck
    simp only [accepted, step, body, discard_raises raised, discard_run]
    exact ⟨trivial, kept⟩
  cases call <;> simp only [Call.presents, Option.some.injEq, Prod.mk.injEq, reduceCtorEq] at shows'
  case renewLease t' worker token seconds =>
    obtain ⟨rfl, rfl⟩ := shows'
    refine refused rfl ?_
    simp only [Prog.wlp, Prog.wp_bind]
    exact wlp_lift fun _ _ => wlp_ownedLease_closed closed
  case complete t' worker result token =>
    obtain ⟨rfl, rfl⟩ := shows'
    refine refused rfl ?_
    simp only [Prog.wlp, Prog.wp_bind]
    exact wlp_requireTask fun _ _ => wlp_ownedLease_closed closed
  case fail t' worker error token =>
    obtain ⟨rfl, rfl⟩ := shows'
    refine refused rfl ?_
    simp only [failTask, Prog.wlp, Prog.wp_bind]
    exact wlp_requireTask fun _ _ => wlp_ownedLease_closed closed

end Refusals
section Tokens
variable {host : Host}

theorem history_drawn (calls : List (Disk × Call)) : Drawn host (history host calls).ledger := by
  have empty : Drawn host World.empty.ledger := fun _ _ _ here => nomatch here
  exact foldl_keeps host (fun _ _ _ _ moved _ => moved.keeps_drawn) (w := World.empty) Sound.empty empty calls

/-- The attempt the row is in is over, or its recorded expiry has passed. -/
def World.Over (host : Host) (w : World) (r : TaskRow) : Prop :=
  ∀ r' ∈ w.db.tasks, r'.taskId = r.taskId → r'.status ≠ .running ∨ r'.attempt ≠ r.attempt ∨
    ∃ lease, r'.lease = some lease ∧ lease.expires ≤ host.clock w.readings

/-- A token whose attempt is over is dead for good. -/
theorem dead_token (unique : Function.Injective host.token) {w : World} (sound : Sound w.ledger)
    (drawn : Drawn host w.ledger) (member : r ∈ w.db.tasks) (held : r.lease = some lease)
    (more : List (Disk × Call)) (ended : (more.foldl (step host) w).Over host r)
    (later : List (Disk × Call)) :
    ¬ (later.foldl (step host) (more.foldl (step host) w)).Opened host r.taskId
      (some lease.token) := by
  have here := Store.row?_of_mem member
  have issued : Opens host lease.token r.taskId (fun r' _ => r'.attempt = r.attempt) w.ledger :=
    ⟨drawn _ r lease here held, fun r' _ found _ _ => by rw [Ledger.same_row found here]⟩
  have kept := foldl_keeps host (P := Opens host lease.token r.taskId fun r' _ => r'.attempt = r.attempt)
    (fun _ _ _ _ moved _ opens => moved.keeps_opens unique opens
      fun _ _ _ _ old same _ => same.trans old) sound issued more
  have sound' := foldl_sound host sound more
  generalize more.foldl (step host) w = v at ended kept sound'
  have spent : Opens host lease.token r.taskId
      (fun _ lease => lease.expires ≤ host.clock v.ledger.readings) v.ledger := by
    refine ⟨kept.drawn, fun r' lease' found held' same => ?_⟩
    have running : r'.status = .running := (sound'.leased found).mp (by simp [held'])
    have stored : r' ∈ v.db.tasks := Store.row?_mem found
    rcases ended r' stored (Store.row?_named found) with idle | other | ⟨lease'', held'', expired⟩
    · exact absurd running idle
    · exact absurd (kept.only r' lease' found held' same) other
    · obtain rfl := Option.some.inj (held'.symm.trans held'')
      exact expired
  have dead := foldl_keeps host (P := fun l => Opens host lease.token r.taskId
    (fun _ lease => lease.expires ≤ host.clock l.readings) l) ?_ sound' spent later
  · rintro ⟨row, lease', found, held', -, live, shown⟩
    exact absurd live (not_lt.mpr (dead.only row lease' found held' (Option.some.inj shown).symm))
  · intro _ l _ l' moved _ opens
    refine moved.keeps_opens unique opens fun _ old _ lease' expired _ kept => ?_
    rcases kept with rfl | ⟨k, ahead, live⟩
    · exact expired.trans (host.clock_mono moved.forward.1)
    · -- an expired lease is not renewed
      exact absurd live (not_lt.mpr (expired.trans (host.clock_mono ahead)))

end Tokens

/-- The lease discipline, for tokens that never repeat. Claims number the attempts of a task,
one attempt for each claim; one token at most opens a task; and from the moment a token's
attempt is over or its recorded expiry has passed, every call that shows it raises and leaves
the tables as they are. -/
theorem lease_discipline (host : Host) (unique : Function.Injective host.token)
    (calls : List (Disk × Call)) :
    (∀ r ∈ (history host calls).db.tasks,
      ((history host calls).db.claimsOf r.taskId).map (fun e => Dict.getD e.payload "attempt" .null) =
        (List.range' 1 r.attempt).map fun k : Nat => Json.int k) ∧
    (∀ call, ∀ r ∈ (history host calls).db.tasks, ∀ r' ∈ (step host (history host calls) call).db.tasks,
      r'.taskId = r.taskId → (r'.attempt = r.attempt ∨ r'.attempt = r.attempt + 1) ∧
        ((step host (history host calls) call).db.claimsOf r.taskId).length + r.attempt =
          ((history host calls).db.claimsOf r.taskId).length + r'.attempt) ∧
    (∀ call call' t shown shown', call.2.presents = some (t, shown) →
      call'.2.presents = some (t, shown') → accepted host (history host calls) call = true →
      accepted host (history host calls) call' = true → shown = shown') ∧
    (∀ r ∈ (history host calls).db.tasks, ∀ lease, r.lease = some lease → ∀ more,
      (history host (calls ++ more)).Over host r → ∀ later call,
      call.2.presents = some (r.taskId, some lease.token) →
        accepted host (history host (calls ++ more ++ later)) call = false ∧
        (step host (history host (calls ++ more ++ later)) call).db =
          (history host (calls ++ more ++ later)).db) := by
  have sound : Sound (history host calls).ledger := history_sound calls
  refine ⟨fun r member => sound.claims_numbered (Store.row?_of_mem member),
    fun call r member r' member' same => ?_, fun call call' t shown shown' first second returned
      returned' => ?_, fun r member lease held more ended later call shows' => ?_⟩
  · have here := Store.row?_of_mem member
    have here' := Store.row?_of_mem member'
    rw [same] at here'
    obtain ⟨q, found, bound⟩ := step_attempt sound call here
    obtain rfl := Option.some.inj (found.symm.trans here')
    rw [sound.claims_counted here, (step_sound sound call).claims_counted here']
    exact ⟨bound, Nat.add_comm _ _⟩
  · have opened {call : Disk × Call} {shown} (shows' : call.2.presents = some (t, shown))
        (returned : accepted host (history host calls) call = true) :
        (history host calls).Opened host t shown := by
      by_contra closed
      rw [(closed_raises call shows' closed).1] at returned
      cases returned
    obtain ⟨row, lease, here, held, _, _, rfl⟩ := opened first returned
    obtain ⟨row', lease', here', held', _, _, rfl⟩ := opened second returned'
    obtain rfl := Option.some.inj (here.symm.trans here')
    rw [Option.some.inj (held.symm.trans held')]
  · rw [history_append] at ended
    have closed := dead_token unique sound (history_drawn calls) member held more ended later
    rw [history_append, history_append]
    exact closed_raises call shows' closed

theorem Host.sample_unique : Function.Injective Host.sample.token := by
  intro a b same
  have lengths := congrArg (fun t : Text => t.codes.length) same
  simpa [Host.sample] using lengths

/-- After a forced recovery the token of the sample claim is dead, whatever follows. -/
theorem lease_discipline_sample : ∃ r ∈ (history .sample sampleCalls).db.tasks, ∃ lease,
    r.lease = some lease ∧ ∀ later worker result,
      accepted .sample (history .sample (sampleCalls ++ [(.sample, .recover true)] ++ later))
        (.sample, .complete r.taskId worker result (some lease.token)) = false := by
  have leased : ∃ r ∈ (history .sample sampleCalls).db.tasks,
      r.lease = some ⟨Host.sample.token 0, "worker", 14⟩ := by decide +kernel
  have idle : ∀ r ∈ (history .sample (sampleCalls ++ [(.sample, .recover true)])).db.tasks,
      r.status ≠ .running := by decide +kernel
  obtain ⟨r, member, held⟩ := leased
  refine ⟨r, member, _, held, fun later worker result => ?_⟩
  exact ((lease_discipline .sample Host.sample_unique sampleCalls).2.2.2 r member _ held
    [(.sample, .recover true)] (fun r' member _ => .inl (idle r' member)) later
    (.sample, .complete _ worker result (some (Host.sample.token 0))) rfl).1

end InferForge
