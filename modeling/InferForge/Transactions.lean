import Mathlib.Data.List.Basic

/-! Nested transaction blocks on one connection. Every write helper commits for itself unless
the depth counter says that a block is open; only the outermost block begins, commits and
rolls back. A run lists what another connection can see at every point, and exceptions may
arise at each statement, begin and commit. -/
namespace InferForge.Transactions

structure Connection (S : Type) where
  /-- What other connections see. -/
  published : S
  /-- What this connection sees. -/
  working : S
  inTransaction : Bool
  depth : Nat

/-- Programs: helpers (`write`) commit, raw statements (`update`) do not. -/
inductive Program (S E : Type) where
  | done
  | raise (e : E)
  | read (next : S → Program S E)
  | write (change : S → S)
  | update (change : S → S)
  | seq (first second : Program S E)
  | handle (body : Program S E) (handler : E → Program S E)
  | transaction (body : Program S E)

/-- One point of a run: what others see, the depth counter, and the blocks that are open. -/
structure Point (S : Type) where
  published : S
  depth : Nat
  blocks : Nat

variable {S E : Type}

namespace Connection

def point (c : Connection S) (blocks : Nat) : Point S := ⟨c.published, c.depth, blocks⟩

/-- A transaction is begun, by `BEGIN IMMEDIATE` or before the first statement. -/
def begun (c : Connection S) : Connection S := { c with inTransaction := true }

def execute (c : Connection S) (change : S → S) : Connection S :=
  { c.begun with working := change c.working }

def commit (c : Connection S) : Connection S :=
  { c with published := c.working, inTransaction := false }

def rollback (c : Connection S) : Connection S :=
  { c with working := c.published, inTransaction := false }

def enter (c : Connection S) : Connection S := { c with depth := c.depth + 1 }

def leave (c : Connection S) : Connection S := { c with depth := c.depth - 1 }

/-- Without an open transaction there is nothing unpublished. -/
def Settled (c : Connection S) : Prop := c.inTransaction = false → c.working = c.published

end Connection

/-- Runs inside `n` open blocks: the exception that leaves, if any, and the points passed. -/
inductive Exec : Nat → Connection S → Program S E → Option E → List (Point S) →
    Connection S → Prop where
  | done : Exec n c .done none [c.point n] c
  | raise : Exec n c (.raise e) (some e) [c.point n] c
  | read : Exec n c (next c.working) r ps c' → Exec n c (.read next) r ps c'
  | writeRefused : Exec n c (.write change) (some e) [c.point n] c
  | writeFailed : Exec n c (.write change) (some e) [c.point n, c.begun.point n] c.begun
  | writeNested (inside : c.depth ≠ 0) :
      Exec n c (.write change) none [c.point n, (c.execute change).point n] (c.execute change)
  | writeCommitted (outside : c.depth = 0) : Exec n c (.write change) none
      [c.point n, (c.execute change).point n, (c.execute change).commit.point n]
      (c.execute change).commit
  | writeUncommitted (outside : c.depth = 0) : Exec n c (.write change) (some e)
      [c.point n, (c.execute change).point n] (c.execute change)
  | updateRefused : Exec n c (.update change) (some e) [c.point n] c
  | updateFailed : Exec n c (.update change) (some e) [c.point n, c.begun.point n] c.begun
  | updateDone :
      Exec n c (.update change) none [c.point n, (c.execute change).point n] (c.execute change)
  | seqDone : Exec n c p none ps c₁ → Exec n c₁ q r qs c' → Exec n c (.seq p q) r (ps ++ qs) c'
  | seqRaised : Exec n c p (some e) ps c' → Exec n c (.seq p q) (some e) ps c'
  | handleDone : Exec n c p none ps c' → Exec n c (.handle p h) none ps c'
  | handleRaised : Exec n c p (some e) ps c₁ → Exec n c₁ (h e) r qs c' →
      Exec n c (.handle p h) r (ps ++ qs) c'
  | beginFailed (outside : c.depth = 0) : Exec n c (.transaction p) (some e) [c.point n] c
  | outerDone (outside : c.depth = 0) (idle : c.inTransaction = false) :
      Exec (n + 1) c.begun.enter p none ps c₁ → Exec n c (.transaction p) none
        (c.point n :: ps ++ [c₁.commit.point (n + 1), c₁.commit.leave.point n]) c₁.commit.leave
  | outerUncommitted (outside : c.depth = 0) (idle : c.inTransaction = false) :
      Exec (n + 1) c.begun.enter p none ps c₁ → Exec n c (.transaction p) (some e)
        (c.point n :: ps ++ [c₁.rollback.point (n + 1), c₁.rollback.leave.point n])
        c₁.rollback.leave
  | outerRaised (outside : c.depth = 0) (idle : c.inTransaction = false) :
      Exec (n + 1) c.begun.enter p (some e) ps c₁ → Exec n c (.transaction p) (some e)
        (c.point n :: ps ++ [c₁.rollback.point (n + 1), c₁.rollback.leave.point n])
        c₁.rollback.leave
  | innerLeft (inside : c.depth ≠ 0) : Exec (n + 1) c.enter p r ps c₁ →
      Exec n c (.transaction p) r (c.point n :: ps ++ [c₁.leave.point n]) c₁.leave

/-! What a program means when blocks are only brackets. -/

/-- Inside a block: one state, changed by every statement that does not fail. -/
inductive Inside : S → Program S E → Option E → S → Prop where
  | done : Inside s .done none s
  | raise : Inside s (.raise e) (some e) s
  | read : Inside s (next s) r s' → Inside s (.read next) r s'
  | writeFailed : Inside s (.write change) (some e) s
  | writeDone : Inside s (.write change) none (change s)
  | updateFailed : Inside s (.update change) (some e) s
  | updateDone : Inside s (.update change) none (change s)
  | seqDone : Inside s p none s₁ → Inside s₁ q r s' → Inside s (.seq p q) r s'
  | seqRaised : Inside s p (some e) s' → Inside s (.seq p q) (some e) s'
  | handleDone : Inside s p none s' → Inside s (.handle p h) none s'
  | handleRaised : Inside s p (some e) s₁ → Inside s₁ (h e) r s' → Inside s (.handle p h) r s'
  | block : Inside s p r s' → Inside s (.transaction p) r s'

/-- Outside every block: the states a program shows to others, in order. An outermost block
shows the state before it and, on its normal exit, the state it leads to; a helper shows its
result when it returns; a raw update shows nothing. -/
inductive Outside : S → Program S E → Option E → List S → S → Prop where
  | done : Outside s .done none [] s
  | raise : Outside s (.raise e) (some e) [] s
  | read : Outside s (next s) r seen s' → Outside s (.read next) r seen s'
  | writeFailed : Outside s (.write change) (some e) [] s
  | writeDone : Outside s (.write change) none [change s] (change s)
  | writeUncommitted : Outside s (.write change) (some e) [] (change s)
  | updateFailed : Outside s (.update change) (some e) [] s
  | updateDone : Outside s (.update change) none [] (change s)
  | seqDone : Outside s p none seen s₁ → Outside s₁ q r more s' →
      Outside s (.seq p q) r (seen ++ more) s'
  | seqRaised : Outside s p (some e) seen s' → Outside s (.seq p q) (some e) seen s'
  | handleDone : Outside s p none seen s' → Outside s (.handle p h) none seen s'
  | handleRaised : Outside s p (some e) seen s₁ → Outside s₁ (h e) r more s' →
      Outside s (.handle p h) r (seen ++ more) s'
  | beginFailed : Outside s (.transaction p) (some e) [] s
  | committed : Inside s p none s' → Outside s (.transaction p) none [s, s'] s'
  | uncommitted : Inside s p none s' → Outside s (.transaction p) (some e) [s] s
  | rolledBack : Inside s p (some e) s' → Outside s (.transaction p) (some e) [s] s

namespace Exec
variable {n : Nat} {c c' : Connection S} {p : Program S E} {r : Option E} {ps : List (Point S)}

/-- The counter equals the number of open blocks at every point, and comes back. -/
theorem counted (run : Exec n c p r ps c') (same : c.depth = n) :
    c'.depth = n ∧ ∀ point ∈ ps, point.depth = point.blocks := by
  have here {d : Connection S} {n : Nat} (same : d.depth = n) :
      (d.point n).depth = (d.point n).blocks := same
  have left {d m : Nat} (h : d = m + 1) : d - 1 = m := by omega
  induction run with
  | done | raise | writeRefused | updateRefused | beginFailed =>
    exact ⟨same, by simpa using here same⟩
  | writeFailed | writeNested | writeUncommitted | updateFailed | updateDone =>
    refine ⟨same, ?_⟩
    simp only [List.mem_cons, List.not_mem_nil, or_false, forall_eq_or_imp, forall_eq]
    exact ⟨here same, here same⟩
  | writeCommitted =>
    refine ⟨same, ?_⟩
    simp only [List.mem_cons, List.not_mem_nil, or_false, forall_eq_or_imp, forall_eq]
    exact ⟨here same, here same, here same⟩
  | read _ ih | seqRaised _ ih | handleDone _ ih => exact ih same
  | seqDone _ _ first second | handleRaised _ _ first second =>
    obtain ⟨back, points⟩ := first same
    obtain ⟨back', points'⟩ := second back
    refine ⟨back', fun point member => ?_⟩
    rcases List.mem_append.mp member with before | after
    · exact points point before
    · exact points' point after
  | outerDone _ _ _ ih | outerUncommitted _ _ _ ih | outerRaised _ _ _ ih =>
    obtain ⟨back, points⟩ := ih (congrArg (· + 1) same)
    refine ⟨left back, fun point member => ?_⟩
    simp only [List.cons_append, List.mem_cons, List.mem_append, List.not_mem_nil, or_false] at member
    rcases member with rfl | inside | rfl | rfl
    · exact here same
    · exact points point inside
    · exact back
    · exact left back
  | innerLeft _ _ ih =>
    obtain ⟨back, points⟩ := ih (congrArg (· + 1) same)
    refine ⟨left back, fun point member => ?_⟩
    simp only [List.cons_append, List.mem_cons, List.mem_append, List.not_mem_nil, or_false] at member
    rcases member with rfl | inside | rfl
    · exact here same
    · exact points point inside
    · exact left back

/-- Inside a block nothing is published. -/
theorem inside (run : Exec n c p r ps c') (open' : c.depth ≠ 0) :
    Inside c.working p r c'.working ∧ c'.published = c.published ∧ c'.depth = c.depth ∧
      ∀ point ∈ ps, point.published = c.published := by
  induction run with
  | done => exact ⟨.done, rfl, rfl, by simp [Connection.point]⟩
  | raise => exact ⟨.raise, rfl, rfl, by simp [Connection.point]⟩
  | read _ ih =>
    obtain ⟨inner, rest⟩ := ih open'
    exact ⟨.read inner, rest⟩
  | writeRefused => exact ⟨.writeFailed, rfl, rfl, by simp [Connection.point]⟩
  | writeFailed =>
    exact ⟨.writeFailed, rfl, rfl, by simp [Connection.point, Connection.begun]⟩
  | writeNested =>
    exact ⟨.writeDone, rfl, rfl, by simp [Connection.point, Connection.execute, Connection.begun]⟩
  | writeCommitted outside | writeUncommitted outside | beginFailed outside
  | outerDone outside | outerUncommitted outside | outerRaised outside =>
    exact absurd outside open'
  | updateRefused => exact ⟨.updateFailed, rfl, rfl, by simp [Connection.point]⟩
  | updateFailed =>
    exact ⟨.updateFailed, rfl, rfl, by simp [Connection.point, Connection.begun]⟩
  | updateDone =>
    exact ⟨.updateDone, rfl, rfl, by simp [Connection.point, Connection.execute, Connection.begun]⟩
  | seqDone _ _ first second =>
    obtain ⟨one, same, depth, points⟩ := first open'
    obtain ⟨two, same', depth', points'⟩ := second (depth ▸ open')
    refine ⟨.seqDone one two, same'.trans same, depth'.trans depth, fun point member => ?_⟩
    rcases List.mem_append.mp member with before | after
    · exact points point before
    · exact (points' point after).trans same
  | seqRaised _ ih =>
    obtain ⟨inner, rest⟩ := ih open'
    exact ⟨.seqRaised inner, rest⟩
  | handleDone _ ih =>
    obtain ⟨inner, rest⟩ := ih open'
    exact ⟨.handleDone inner, rest⟩
  | handleRaised _ _ first second =>
    obtain ⟨one, same, depth, points⟩ := first open'
    obtain ⟨two, same', depth', points'⟩ := second (depth ▸ open')
    refine ⟨.handleRaised one two, same'.trans same, depth'.trans depth, fun point member => ?_⟩
    rcases List.mem_append.mp member with before | after
    · exact points point before
    · exact (points' point after).trans same
  | innerLeft _ _ ih =>
    obtain ⟨inner, same, depth, points⟩ := ih (Nat.succ_ne_zero _)
    refine ⟨.block inner, same, ?_, fun point member => ?_⟩
    · simp only [Connection.leave, depth, Connection.enter, Nat.add_sub_cancel]
    · simp only [List.cons_append, List.mem_cons, List.mem_append, List.not_mem_nil, or_false]
        at member
      rcases member with rfl | inside | rfl
      · rfl
      · exact points point inside
      · exact same

/-- The states seen at the points of a run. -/
def Shows (ps : List (Point S)) (shown : List S) : Prop :=
  ∀ s, (∃ point ∈ ps, point.published = s) ↔ s ∈ shown

theorem Shows.append (first : Shows ps (s₀ :: seen)) (second : Shows qs (s₁ :: more))
    (known : s₁ ∈ s₀ :: seen) : Shows (ps ++ qs) (s₀ :: (seen ++ more)) := by
  intro s
  have one := first s
  have two := second s
  simp only [List.mem_append, List.mem_cons] at known one two ⊢
  constructor
  · rintro ⟨point, before | after, same⟩
    · rcases one.mp ⟨point, before, same⟩ with start | later
      · exact .inl start
      · exact .inr (.inl later)
    · rcases two.mp ⟨point, after, same⟩ with rfl | later
      · rcases known with start | later
        · exact .inl start
        · exact .inr (.inl later)
      · exact .inr (.inr later)
  · rintro (start | earlier | later)
    · obtain ⟨point, member, same⟩ := one.mpr (.inl start)
      exact ⟨point, .inl member, same⟩
    · obtain ⟨point, member, same⟩ := one.mpr (.inr earlier)
      exact ⟨point, .inl member, same⟩
    · obtain ⟨point, member, same⟩ := two.mpr (.inr later)
      exact ⟨point, .inr member, same⟩

/-- Points that all show one state. -/
theorem Shows.still (first : Point S) (rest : List (Point S)) (start : first.published = s₀)
    (all : ∀ point ∈ rest, point.published = s₀) : Shows (first :: rest) [s₀] := by
  intro s
  simp only [List.mem_cons, List.not_mem_nil, or_false]
  constructor
  · rintro ⟨point, rfl | member, rfl⟩
    · exact start
    · exact all point member
  · rintro rfl
    exact ⟨first, .inl rfl, start⟩

/-- Points that show one state and then another. -/
theorem Shows.change (first : Point S) (rest last : List (Point S)) (start : first.published = s₀)
    (before : ∀ point ∈ rest, point.published = s₀) (some : last ≠ [])
    (after : ∀ point ∈ last, point.published = s₁) :
    Shows (first :: rest ++ last) (s₀ :: [s₁]) := by
  obtain ⟨point, more, rfl⟩ := List.exists_cons_of_ne_nil some
  have one := Shows.still first rest start before
  have two := Shows.still point more (after point (by simp)) fun q member => after q (by simp [member])
  intro s
  have shown := one s
  have shown' := two s
  simp only [List.mem_append, List.mem_cons, List.not_mem_nil, or_false] at shown shown' ⊢
  constructor
  · rintro ⟨q, here | there, same⟩
    · exact .inl (shown.mp ⟨q, here, same⟩)
    · exact .inr (shown'.mp ⟨q, there, same⟩)
  · rintro (start | finish)
    · obtain ⟨q, member, same⟩ := shown.mpr start
      exact ⟨q, .inl member, same⟩
    · obtain ⟨q, member, same⟩ := shown'.mpr finish
      exact ⟨q, .inr member, same⟩

/-- What a run outside every block does: the states others see at its points are the one it
starts with and those its blocks and writes show. -/
structure Published (c : Connection S) (p : Program S E) (r : Option E) (ps : List (Point S))
    (c' : Connection S) : Prop where
  closed : c'.depth = 0
  settled : c'.Settled
  shown : ∃ seen, Outside c.working p r seen c'.working ∧ Shows ps (c.published :: seen) ∧
    c'.published ∈ c.published :: seen

theorem last_shown {s₀ s₁ s : S} (known : s₁ ∈ s₀ :: seen) (last : s ∈ s₁ :: more) :
    s ∈ s₀ :: (seen ++ more) := by
  simp only [List.mem_cons, List.mem_append] at known last ⊢
  rcases last with rfl | later
  · rcases known with start | earlier
    · exact .inl start
    · exact .inr (.inl earlier)
  · exact .inr (.inr later)

/-- An outermost block that rolls back: everything is as it was at its entry. -/
theorem restored {c₁ : Connection S} (closed : c.depth = 0) (settled : c.Settled)
    (idle : c.inTransaction = false) (same : c₁.published = c.begun.enter.published)
    (depth : c₁.depth = c.begun.enter.depth)
    (points : ∀ point ∈ ps, point.published = c.begun.enter.published)
    (outside : c₁.rollback.leave.working = c.working →
      Outside c.working (.transaction p) (some e) [c.working] c₁.rollback.leave.working) :
    Published c (.transaction p) (some e)
      (c.point n :: ps ++ [c₁.rollback.point (n + 1), c₁.rollback.leave.point n])
      c₁.rollback.leave := by
  have start : c.working = c.published := settled idle
  have back : c₁.published = c.published := same
  refine ⟨?_, fun _ => rfl, [c.working], outside (back.trans start.symm), ?_, ?_⟩
  · simp [Connection.leave, Connection.rollback, depth, Connection.enter, Connection.begun, closed]
  · have still := Shows.still (c.point n)
      (ps ++ [c₁.rollback.point (n + 1), c₁.rollback.leave.point n]) (rfl : _ = c.published) (by
        intro point member
        simp only [List.mem_append, List.mem_cons, List.not_mem_nil, or_false] at member
        rcases member with inside | rfl | rfl
        · exact points point inside
        · exact back
        · exact back)
    intro s
    rw [List.cons_append, still s, start]
    simp
  · exact List.mem_cons.mpr (.inl back)

theorem published (run : Exec n c p r ps c') (closed : c.depth = 0) (settled : c.Settled) :
    Published c p r ps c' := by
  induction run with
  | done => exact ⟨closed, settled, [], .done, .still _ _ rfl (by simp), by simp⟩
  | raise => exact ⟨closed, settled, [], .raise, .still _ _ rfl (by simp), by simp⟩
  | read _ ih =>
    obtain ⟨closed', settled', seen, outside, rest⟩ := ih closed settled
    exact ⟨closed', settled', seen, .read outside, rest⟩
  | writeRefused => exact ⟨closed, settled, [], .writeFailed, .still _ _ rfl (by simp), by simp⟩
  | writeFailed =>
    exact ⟨closed, nofun, [], .writeFailed,
      .still _ _ rfl (by simp [Connection.point, Connection.begun]), by simp [Connection.begun]⟩
  | writeNested inside => exact absurd closed inside
  | @writeCommitted n c change =>
    refine ⟨closed, fun _ => rfl, [change c.working], .writeDone, ?_, ?_⟩
    · exact .change (c.point n) [(c.execute change).point n]
        [(c.execute change).commit.point n] rfl (by simp [Connection.point,
          Connection.execute, Connection.begun]) (by simp) (by simp [Connection.point,
          Connection.commit, Connection.execute])
    · simp [Connection.commit, Connection.execute]
  | writeUncommitted =>
    exact ⟨closed, nofun, [], .writeUncommitted, .still _ _ rfl
      (by simp [Connection.point, Connection.execute, Connection.begun]),
      by simp [Connection.execute, Connection.begun]⟩
  | updateRefused => exact ⟨closed, settled, [], .updateFailed, .still _ _ rfl (by simp), by simp⟩
  | updateFailed =>
    exact ⟨closed, nofun, [], .updateFailed,
      .still _ _ rfl (by simp [Connection.point, Connection.begun]), by simp [Connection.begun]⟩
  | updateDone =>
    exact ⟨closed, nofun, [], .updateDone, .still _ _ rfl
      (by simp [Connection.point, Connection.execute, Connection.begun]),
      by simp [Connection.execute, Connection.begun]⟩
  | seqDone _ _ first second =>
    obtain ⟨closed', settled', seen, one, shown, known⟩ := first closed settled
    obtain ⟨closed'', settled'', more, two, shown', known'⟩ := second closed' settled'
    refine ⟨closed'', settled'', seen ++ more, .seqDone one two, shown.append shown' known,
      last_shown known known'⟩
  | seqRaised _ ih =>
    obtain ⟨closed', settled', seen, outside, rest⟩ := ih closed settled
    exact ⟨closed', settled', seen, .seqRaised outside, rest⟩
  | handleDone _ ih =>
    obtain ⟨closed', settled', seen, outside, rest⟩ := ih closed settled
    exact ⟨closed', settled', seen, .handleDone outside, rest⟩
  | handleRaised _ _ first second =>
    obtain ⟨closed', settled', seen, one, shown, known⟩ := first closed settled
    obtain ⟨closed'', settled'', more, two, shown', known'⟩ := second closed' settled'
    refine ⟨closed'', settled'', seen ++ more, .handleRaised one two, shown.append shown' known,
      last_shown known known'⟩
  | beginFailed => exact ⟨closed, settled, [], .beginFailed, .still _ _ rfl (by simp), by simp⟩
  | @outerDone n p ps c₁ c outside idle body =>
    obtain ⟨inner, same, depth, points⟩ := body.inside (Nat.succ_ne_zero _)
    have start : c.working = c.published := settled idle
    refine ⟨?_, fun _ => rfl, [c.working, c₁.working], .committed inner, ?_, ?_⟩
    · simp [Connection.leave, Connection.commit, depth, Connection.enter, Connection.begun, closed]
    · have changed := Shows.change (c.point n) ps
        [c₁.commit.point (n + 1), c₁.commit.leave.point n] (rfl : _ = c.published) points
        (by simp) (by simp [Connection.point, Connection.commit, Connection.leave] :
          ∀ point ∈ _, Point.published point = c₁.working)
      intro s
      rw [changed s, start]
      simp
    · simp [Connection.leave, Connection.commit]
  | outerUncommitted outside idle body =>
    obtain ⟨inner, same, depth, points⟩ := body.inside (Nat.succ_ne_zero _)
    exact restored closed settled idle same depth points fun s' => by
      rw [s']
      exact .uncommitted inner
  | outerRaised outside idle body =>
    obtain ⟨inner, same, depth, points⟩ := body.inside (Nat.succ_ne_zero _)
    exact restored closed settled idle same depth points fun s' => by
      rw [s']
      exact .rolledBack inner
  | innerLeft inside => exact absurd closed inside

/-- An exception that leaves the outermost block leaves everything as it was at its entry. -/
theorem restores (run : Exec n c (.transaction p) (some e) ps c') (closed : c.depth = 0)
    (settled : c.Settled) : c'.working = c.working ∧ c'.published = c.published := by
  cases run with
  | beginFailed => exact ⟨rfl, rfl⟩
  | outerUncommitted _ idle body | outerRaised _ idle body =>
    obtain ⟨_, same, _, _⟩ := body.inside (Nat.succ_ne_zero _)
    have back : c.begun.enter.published = c.published := rfl
    exact ⟨(same.trans back).trans (settled idle).symm, same.trans back⟩
  | innerLeft inside => exact absurd closed inside

end Exec
end InferForge.Transactions
