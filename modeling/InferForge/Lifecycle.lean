import Mathlib.Data.List.Basic

/-! The history of one leased job. A job is claimed by a worker, and each claim ends in
success, in failure, or silently when the lease is given up; a finished job can be put
back to work. `Track` relates a history to the state it leaves the job in; the facts
below are what a reader of the history alone can conclude. -/
namespace InferForge.Lifecycle
variable {W : Type}

inductive Status where
  | pending | running | succeeded | failed
deriving DecidableEq, Repr

inductive Mark (W : Type) where
  | created
  | claimed (worker : W) (attempt : Nat)
  | succeeded
  | failed
  | reopened
  | retried (attempt : Nat)
deriving DecidableEq, Repr

/-- Giving a lease up leaves no mark; everything else leaves exactly one. The holder is the
worker of the current claim. -/
inductive Track : List (Mark W) → Status → Option W → Nat → Prop where
  | created : Track [.created] .pending none 0
  | claim (worker : W) : Track h .pending none n →
      Track (h ++ [.claimed worker (n + 1)]) .running (some worker) (n + 1)
  | release : Track h .running holder n → Track h .pending none n
  | succeed : Track h .running holder n → Track (h ++ [.succeeded]) .succeeded none n
  | fail : Track h .running holder n → Track (h ++ [.failed]) .failed none n
  | reopen : Track h .succeeded none n → Track (h ++ [.reopened]) .pending none n
  | retry : Track h .failed none n → Track (h ++ [.retried n]) .pending none n

def claim? : Mark W → Option Nat
  | .claimed _ attempt => some attempt
  | _ => none

def isRetry (attempt : Nat) : Mark W → Bool
  | .retried k => k = attempt
  | _ => false

/-- Attempt numbers of the claims, in order. -/
def claims (h : List (Mark W)) : List Nat := h.filterMap claim?

/-- How often the job was put back from a failed `attempt`. -/
def retries (h : List (Mark W)) (attempt : Nat) : Nat := h.countP (isRetry attempt)

theorem claims_append (h : List (Mark W)) (m : Mark W) :
    claims (h ++ [m]) = claims h ++ (claim? m).toList := by
  simp only [claims, List.filterMap_append, List.filterMap_cons, List.filterMap_nil]
  cases claim? m <;> rfl

theorem retries_append (h : List (Mark W)) (m : Mark W) (attempt : Nat) :
    retries (h ++ [m]) attempt = retries h attempt + if isRetry attempt m then 1 else 0 := by
  simp only [retries, List.countP_append, List.countP_cons, List.countP_nil, Nat.zero_add]

namespace Track

theorem holder_running (track : Track h status holder n) :
    (holder : Option W).isSome = true ↔ status = .running := by
  cases track <;> simp

theorem released (track : Track (W := W) h status holder n) (idle : status ≠ .running) :
    holder = none := by
  cases track <;> simp_all

/-- Attempts are numbered by the claims, without gaps or repetitions. -/
theorem claims_eq (track : Track (W := W) h status holder n) : claims h = List.range' 1 n := by
  induction track with
  | created => rfl
  | claim _ _ ih =>
    rw [claims_append, ih, List.range'_1_concat, Nat.add_comm]
    rfl
  | release _ ih => exact ih
  | succeed _ ih | fail _ ih | reopen _ ih | retry _ ih => simp [claims_append, claim?, ih]

theorem attempt_eq (track : Track (W := W) h status holder n) : n = (claims h).length := by
  simp [track.claims_eq]

/-- A history starts with the creation of its job. -/
theorem nonempty (track : Track (W := W) h status holder n) : h ≠ [] := by
  induction track with
  | release _ ih => exact ih
  | created | claim | succeed | fail | reopen | retry => simp

theorem last_succeeded (track : Track (W := W) h status holder n) :
    status = .succeeded ↔ h.getLast? = some .succeeded := by
  induction track with
  | release _ ih => simpa using ih
  | created | claim | succeed | fail | reopen | retry => simp

theorem last_failed (track : Track (W := W) h status holder n) :
    status = .failed ↔ h.getLast? = some .failed := by
  induction track with
  | release _ ih => simpa using ih
  | created | claim | succeed | fail | reopen | retry => simp

/-- A running job was last claimed, by its holder and under its current attempt. -/
theorem last_running (track : Track (W := W) h .running holder n) :
    ∃ worker, holder = some worker ∧ h.getLast? = some (.claimed worker n) := by
  generalize same : Status.running = status at track
  cases track <;> simp_all

theorem retried_le (track : Track (W := W) h status holder n) (member : .retried k ∈ h) :
    k ≤ n := by
  induction track with
  | release _ ih => exact ih member
  | created => simp at member
  | claim _ _ ih =>
    have := ih (by simpa using member)
    omega
  | succeed _ ih | fail _ ih | reopen _ ih => exact ih (by simpa using member)
  | retry _ ih =>
    rcases List.mem_append.mp member with earlier | now
    · exact ih earlier
    · simp only [List.mem_singleton, Mark.retried.injEq] at now
      omega

/-- While the current attempt is claimed or failed it has not been put back yet. -/
theorem not_retried (track : Track (W := W) h status holder n)
    (active : status = .running ∨ status = .failed) : .retried n ∉ h := by
  induction track with
  | created | release | succeed | reopen | retry => simp at active
  | claim _ track _ =>
    intro member
    have := track.retried_le (by simpa using member)
    omega
  | fail _ ih => simpa using ih (.inl rfl)

/-- Each failed attempt is put back at most once. -/
theorem retries_le_one (track : Track (W := W) h status holder n) (attempt : Nat) :
    retries h attempt ≤ 1 := by
  induction track with
  | created => simp [retries, isRetry]
  | release _ ih => exact ih
  | claim _ _ ih | succeed _ ih | fail _ ih | reopen _ ih => simpa [retries_append, isRetry] using ih
  | @retry h n track ih =>
    by_cases same : n = attempt
    · subst same
      have none : retries h n = 0 := by
        refine List.countP_eq_zero.mpr fun m member => ?_
        cases m with
        | retried k =>
          intro back
          obtain rfl : k = n := by simpa [isRetry] using back
          exact track.not_retried (.inr rfl) member
        | created | claimed | succeeded | failed | reopened => simp [isRetry]
      simp [retries_append, isRetry, none]
    · simpa [retries_append, isRetry, same] using ih

end Track
end InferForge.Lifecycle
