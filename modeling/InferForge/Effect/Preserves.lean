import InferForge.Effect

/-! Programs that keep a condition on the state wherever they return, and rules for building them. -/
namespace InferForge.Effect.Prog

variable {σ ε α β : Type} [Preorder σ]

/-- The outcome of `x` as a value: nothing is raised. -/
def attempt (x : Prog σ ε α) : Prog σ ε (Except ε α) := fun s =>
  match x s with
  | (outcome, t) => (.ok outcome, t)

theorem wp_attempt {Q : Except ε α → σ → Prop} {E : ε → σ → Prop} {s : σ} (x : Prog σ ε α) :
    wp (attempt x) Q E s ↔ wp x (fun a => Q (.ok a)) (fun e => Q (.error e)) s := by
  unfold wp attempt
  rcases x s with ⟨_ | _, t⟩ <;> rfl

/-- `P` holds after a return of `x`, and `R` after an exception. -/
def Preserves (P : σ → Prop) (R : ε → σ → Prop) (x : Prog σ ε α) : Prop :=
  ∀ s, P s → wp x (fun _ => P) R s

namespace Preserves
variable {P : σ → Prop} {R : ε → σ → Prop} {x : Prog σ ε α}

theorem pure (a : α) : Preserves P R (Pure.pure a : Prog σ ε α) := fun _ holds => holds

theorem raise {e : ε} (left : ∀ s, P s → R e s) : Preserves P R (Prog.raise e : Prog σ ε α) := left

theorem bind {f : α → Prog σ ε β} (first : Preserves P R x) (rest : ∀ a, Preserves P R (f a)) :
    Preserves P R (x >>= f) := by
  intro s holds
  rw [wp_bind]
  exact (first s holds).mono (fun a t _ => rest a t) fun _ _ _ raised => raised

theorem map {f : α → β} (kept : Preserves P R x) : Preserves P R (f <$> x) := by
  intro s holds
  rw [wp_map]
  exact kept s holds

/-- A program that looks at the state first. -/
theorem read {f : σ → Prog σ ε β} (rest : ∀ s, P s → wp (f s) (fun _ => P) R s) :
    Preserves P R (Prog.read >>= f) := by
  intro s holds
  rw [wp_bind, wp_read]
  exact rest s holds

theorem write {f : σ → σ} {forward : ∀ s, s ≤ f s} (kept : ∀ s, P s → P (f s)) :
    Preserves P R (Prog.write f forward) := kept

theorem lift {r : Except ε α} (left : ∀ e, r = .error e → ∀ s, P s → R e s) :
    Preserves P R (Prog.lift r) := by
  intro s holds
  rw [wp_lift]
  exact ⟨fun _ _ => holds, fun e raised => left e raised s holds⟩

theorem require {condition : Bool} {e : ε} (left : ∀ s, P s → R e s) :
    Preserves P R (Prog.require condition e) := by
  intro s holds
  rw [wp_require]
  exact ⟨fun _ => holds, fun _ => left s holds⟩

theorem ite {condition : Prop} [Decidable condition] {y : Prog σ ε α}
    (here : condition → Preserves P R x) (there : ¬ condition → Preserves P R y) :
    Preserves P R (if condition then x else y) := by
  split
  · next holds => exact here holds
  · next fails => exact there fails

/-- The handler starts where `x` raised. -/
theorem handle {R' : ε → σ → Prop} {catches : ε → Bool} {handler : ε → Prog σ ε α} (kept : Preserves P R' x)
    (caught : ∀ e s, R' e s → catches e = true → P s) (escapes : ∀ e s, R' e s → catches e = false → R e s)
    (rest : ∀ e, Preserves P R (handler e)) : Preserves P R (Prog.handle x catches handler) := by
  intro s holds
  rw [wp_handle]
  refine (kept s holds).mono (fun _ _ _ holds => holds) fun e t _ raised => ?_
  split
  · next taken => exact rest e t (caught e t raised taken)
  · next left => exact escapes e t raised (by simpa using left)

/-- What escapes `x` is kept as a value, so `P` has to hold there too. -/
theorem attempt {R' : ε → σ → Prop} (kept : Preserves P R' x) (caught : ∀ e s, R' e s → P s) :
    Preserves P R (Prog.attempt x) := by
  intro s holds
  rw [wp_attempt]
  exact (kept s holds).mono (fun _ _ _ holds => holds) fun e t _ raised => caught e t raised

theorem forM {body : β → Prog σ ε PUnit} (kept : ∀ b, Preserves P R (body b)) (items : List β) :
    Preserves P R (items.forM body) := by
  intro s holds
  apply wp_forM (fun _ => P)
  · intro b _ t holds
    exact kept b t holds
  · exact holds
  · exact fun _ holds => holds

end Preserves

/-- From `P`, a return of `x` leaves `Q`; an exception promises nothing. -/
def Yields (P : σ → Prop) (Q : α → σ → Prop) (x : Prog σ ε α) : Prop := ∀ s, P s → wlp x Q s

/-- What a later state has as well. -/
def Lasting (P : σ → Prop) : Prop := ∀ s t, s ≤ t → P s → P t

theorem Lasting.and {P Q : σ → Prop} (first : Lasting P) (second : Lasting Q) :
    Lasting fun s => P s ∧ Q s :=
  fun s t ahead holds => ⟨first s t ahead holds.1, second s t ahead holds.2⟩

theorem wlp_any {s : σ} (x : Prog σ ε α) : wlp x (fun _ _ => True) s :=
  wp_of_runs (fun _ _ _ => trivial) fun _ _ _ => trivial

theorem Lasting.yields {P : σ → Prop} (lasting : Lasting P) {x : Prog σ ε α} :
    ∀ s, P s → wlp x (fun _ => P) s := by
  intro s holds
  exact (wlp_any x).mono (fun _ t ahead _ => lasting s t ahead holds) fun _ _ _ _ => trivial

/-- Two accounts of one run. -/
theorem wp.and {x : Prog σ ε α} {Q Q' : α → σ → Prop} {E E' : ε → σ → Prop} {s : σ}
    (first : wp x Q E s) (second : wp x Q' E' s) :
    wp x (fun a t => Q a t ∧ Q' a t) (fun e t => E e t ∧ E' e t) s := by
  unfold wp at *
  rcases run : x s with ⟨_ | _, t⟩ <;> simp only [run] at first second ⊢ <;> exact ⟨first, second⟩

namespace Yields
variable {P P' : σ → Prop} {Q Q' : α → σ → Prop} {R : β → σ → Prop} {x : Prog σ ε α}

theorem pure {Q : α → σ → Prop} (a : α) : Yields (Q a) Q (Pure.pure a : Prog σ ε α) :=
  fun _ holds => holds

theorem raise {e : ε} : Yields P Q (Prog.raise e : Prog σ ε α) := fun _ _ => trivial

theorem bind {f : α → Prog σ ε β} (first : Yields P Q x) (rest : ∀ a, Yields (Q a) R (f a)) :
    Yields P R (x >>= f) := by
  intro s holds
  rw [wlp, wp_bind]
  exact (first s holds).mono (fun a t _ => rest a t) fun _ _ _ _ => trivial

theorem map {f : α → β} (first : Yields P (fun a => R (f a)) x) : Yields P R (f <$> x) := by
  intro s holds
  rw [wlp, wp_map]
  exact first s holds

/-- A first step that nothing is needed of. -/
theorem skip {f : α → Prog σ ε β} (rest : ∀ a, Yields (fun _ => True) R (f a)) :
    Yields P R (x >>= f) := by
  intro s _
  rw [wlp, wp_bind]
  exact (wlp_any x).mono (fun a t _ => rest a t) fun _ _ _ _ => trivial

theorem read {f : σ → Prog σ ε β} (rest : ∀ s, P s → wlp (f s) R s) :
    Yields P R (Prog.read >>= f) := by
  intro s holds
  rw [wlp, wp_bind, wp_read]
  exact rest s holds

theorem ite {condition : Prop} [Decidable condition] {y : Prog σ ε α}
    (here : condition → Yields P Q x) (there : ¬ condition → Yields P Q y) :
    Yields P Q (if condition then x else y) := by
  split
  · next holds => exact here holds
  · next fails => exact there fails

theorem lift {r : Except ε α} : Yields P (fun a s => P s ∧ r = .ok a) (Prog.lift r) := by
  intro s holds
  exact wlp_lift r fun a same => ⟨holds, same⟩

theorem mono (yields : Yields P Q x) (before : ∀ s, P' s → P s) (after : ∀ a s, Q a s → Q' a s) :
    Yields P' Q' x := by
  intro s holds
  exact (yields s (before s holds)).mono (fun a t _ => after a t) fun _ _ _ _ => trivial

/-- A fact that lasts is carried along. -/
theorem carry {L : σ → Prop} (yields : Yields P Q x) (lasting : Lasting L) :
    Yields (fun s => P s ∧ L s) (fun a s => Q a s ∧ L s) x := by
  intro s holds
  exact (yields s holds.1).mono (fun _ t ahead q => ⟨q, lasting s t ahead holds.2⟩)
    fun _ _ _ _ => trivial

theorem and (first : Yields P Q x) (second : Yields P' Q' x) :
    Yields (fun s => P s ∧ P' s) (fun a s => Q a s ∧ Q' a s) x := by
  intro s holds
  exact ((first s holds.1).and (second s holds.2)).mono (fun _ _ _ q => q) fun _ _ _ _ => trivial

end Yields

theorem Preserves.yields {P : σ → Prop} {R : ε → σ → Prop} {x : Prog σ ε α}
    (kept : Preserves P R x) : Yields P (fun _ => P) x := by
  intro s holds
  exact (kept s holds).mono (fun _ _ _ holds => holds) fun _ _ _ _ => trivial

end InferForge.Effect.Prog
