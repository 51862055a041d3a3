import InferForge.Transactions
import InferForge.Scheduler.Rules

/-! The event store as a connection with nested transaction blocks, and the operations of the
scheduler as its outermost blocks. -/
namespace InferForge
open Py Effect Sched Transactions

/-- An open connection to tables that hold `db`. -/
def Store.connection (db : Store) : Connection Store := ⟨db, db, false, 0⟩

section Blocks
variable {host : Host} {w : World}

/-- The exception of an outcome. -/
def raised (outcome : Except Exn α) : Option Exn :=
  match outcome with
  | .ok _ => none
  | .error e => some e

/-- The statements of an operation, by what it leaves in the tables and how it ends. -/
def ending (outcome : Except Exn α) (db : Store) : Program Store Exn :=
  match outcome with
  | .ok _ => .update fun _ => db
  | .error e => .seq (.update fun _ => db) (.raise e)

def statements (x : Sched α) (w : World) : Program Store Exn :=
  .read fun db => ending (x ⟨db, w.readings, w.tokens⟩).1 (x ⟨db, w.readings, w.tokens⟩).2.1.db

theorem ending_run (c : Connection Store) (outcome : Except Exn α) (db : Store) : ∃ ps,
    Exec n c (ending outcome db) (raised outcome) ps (c.execute fun _ => db) := by
  cases outcome with
  | ok a => exact ⟨_, .updateDone⟩
  | error e => exact ⟨_, .seqDone .updateDone .raise⟩

theorem statements_run (x : Sched α) (w : World) : ∃ ps,
    Exec 1 w.db.connection.begun.enter (statements x w) (raised (x w).1) ps
      (w.db.connection.begun.enter.execute fun _ => (x w).2.1.db) := by
  obtain ⟨ps, run⟩ := ending_run (n := 1) w.db.connection.begun.enter (x w).1 (x w).2.1.db
  exact ⟨ps, .read run⟩

/-- An atomic operation is an outermost block: what it leaves in the tables is what the block
publishes. -/
theorem atomic_block (x : Sched α) (w : World) : ∃ ps c',
    Exec 0 w.db.connection (.transaction (statements x w)) (raised (atomic x w).1) ps c' ∧
      c'.published = (atomic x w).2.1.db := by
  obtain ⟨ps, run⟩ := statements_run x w
  rcases outcome : x w with ⟨e | a, v⟩
  · have failed : (atomic x w).1 = .error e := by
      simp only [atomic, Prog.transact, outcome]
    rw [outcome] at run
    rw [failed, atomic_raised failed]
    exact ⟨_, _, .outerRaised rfl rfl run, rfl⟩
  · have returned : atomic x w = (.ok a, v) := by
      simp only [atomic, Prog.transact, outcome]
    rw [outcome] at run
    rw [returned]
    exact ⟨_, _, .outerDone rfl rfl run, rfl⟩

end Blocks

/-- Transactions publish complete transitions only. Of any program of helper writes, raw
updates, blocks, exceptions and handlers, others see the state it starts with, the states
before and at the normal exit of its outermost blocks, and the results of helper writes outside
them; the counter is the number of open blocks at every point; an exception that leaves an
outermost block restores the state at its entry. A scheduler call is such a block, so one
that raises leaves the four tables as they were. -/
theorem transactions_publish (host : Host) :
    (∀ (E : Type) (p : Program Store E) c r ps c', c.depth = 0 → c.Settled → Exec 0 c p r ps c' →
      c'.depth = 0 ∧ (∀ point ∈ ps, point.depth = point.blocks) ∧
      ∃ seen, Outside c.working p r seen c'.working ∧
        ∀ db, (∃ point ∈ ps, point.published = db) ↔ db ∈ c.published :: seen) ∧
    (∀ (E : Type) (p : Program Store E) c e ps c', c.depth = 0 → c.Settled →
      Exec 0 c (.transaction p) (some e) ps c' →
      c'.working = c.working ∧ c'.published = c.published) ∧
    (∀ call : Disk × Call, ∃ (α : Type) (x : Sched α), call.2.body host call.1 = discard (atomic x) ∧
      ∀ w, ∃ ps c', Exec 0 w.db.connection (.transaction (statements x w))
        (raised (atomic x w).1) ps c' ∧ c'.published = (step host w call).db) ∧
    (∀ call w, accepted host w call = false → (step host w call).db = w.db) := by
  refine ⟨fun E p c r ps c' closed settled run => ?_, fun E p c e ps c' closed settled run =>
    run.restores closed settled, fun call => ?_, fun call w => rejected_unchanged call⟩
  · obtain ⟨closed', _, seen, outside, shown, _⟩ := run.published closed settled
    exact ⟨closed', (run.counted closed).2, seen, outside, shown⟩
  · have block {α : Type} {x : Sched α} (body : call.2.body host call.1 = discard (atomic x)) :
        ∃ (α : Type) (x : Sched α), call.2.body host call.1 = discard (atomic x) ∧
          ∀ w, ∃ ps c', Exec 0 w.db.connection (.transaction (statements x w))
            (raised (atomic x w).1) ps c' ∧ c'.published = (step host w call).db := by
      refine ⟨α, x, body, fun w => ?_⟩
      obtain ⟨ps, c', run, published⟩ := atomic_block x w
      refine ⟨ps, c', run, published.trans ?_⟩
      simp only [step, body, discard_run]
    obtain ⟨disk, call⟩ := call
    cases call <;> exact block rfl

/-- A raw update outside every block stays unpublished: others do not see the state after it. -/
theorem update_unpublished : ∃ (c c' : Connection Store) (change : Store → Store) (ps : List (Point Store)),
    c.depth = 0 ∧ c.Settled ∧ Exec 0 c (.update change : Program Store Exn) none ps c' ∧
      c'.working = change c.working ∧ ∀ point ∈ ps, point.published ≠ c'.working := by
  let change (db : Store) : Store := db.append ⟨"run", .runCreated, none, [], 0⟩
  refine ⟨Store.empty.connection, _, change, _, rfl, fun _ => rfl, .updateDone, rfl, ?_⟩
  intro point member same
  have events : point.published.events = [] := by
    simp only [List.mem_cons, List.not_mem_nil, or_false] at member
    rcases member with rfl | rfl <;> rfl
  rw [same] at events
  cases events

end InferForge
