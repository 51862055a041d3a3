import Mathlib.Order.Defs.PartialOrder
import Mathlib.Data.List.Forall2

/-! Programs with a state and exceptions, and their rules of pre- and postconditions.
The state has a part that never goes back, such as a clock; a program carries the
proof that it only moves forward, whether it returns or raises. An exception keeps
the state reached when it was raised, so a transaction is an operation of its own
that puts an earlier state back, as far as the order allows. -/
namespace InferForge.Effect

def Prog (σ : Type) [Preorder σ] (ε α : Type) := (s : σ) → Except ε α × { t : σ // s ≤ t }

variable {σ ε α β : Type} [Preorder σ]

namespace Prog

def ret (a : α) : Prog σ ε α := fun s => (.ok a, ⟨s, le_rfl⟩)

def raise (e : ε) : Prog σ ε α := fun s => (.error e, ⟨s, le_rfl⟩)

/-- The outcome of a run that started later. -/
def since {s t : σ} (ahead : s ≤ t) (outcome : Except ε α × { u : σ // t ≤ u }) :
    Except ε α × { u : σ // s ≤ u } :=
  (outcome.1, ⟨outcome.2.1, le_trans ahead outcome.2.2⟩)

def bind (x : Prog σ ε α) (f : α → Prog σ ε β) : Prog σ ε β := fun s =>
  match x s with
  | (.ok a, t) => since t.2 (f a t.1)
  | (.error e, t) => (.error e, t)

instance : Monad (Prog σ ε) where
  pure := ret
  bind := bind

/-- The current state. -/
def read : Prog σ ε σ := fun s => (.ok s, ⟨s, le_rfl⟩)

def write (f : σ → σ) (forward : ∀ s, s ≤ f s) : Prog σ ε Unit := fun s =>
  (.ok (), ⟨f s, forward s⟩)

/-- A fallible computation that neither reads nor changes the state. -/
def lift : Except ε α → Prog σ ε α
  | .ok a => ret a
  | .error e => raise e

/-- `if not condition: raise e`. -/
def require (condition : Bool) (e : ε) : Prog σ ε Unit :=
  if condition then ret () else raise e

/-- Run `x` and undo its effect on the state with `restore before after` if it raises. -/
def transact (restore : σ → σ → σ) (forward : ∀ s t, s ≤ t → s ≤ restore s t) (x : Prog σ ε α) :
    Prog σ ε α := fun s =>
  match x s with
  | (.ok a, t) => (.ok a, t)
  | (.error e, t) => (.error e, ⟨restore s t.1, forward s t.1 t.2⟩)

/-- `try: x except ...: h`, for the exceptions that `catches` selects. -/
def handle (x : Prog σ ε α) (catches : ε → Bool) (h : ε → Prog σ ε α) : Prog σ ε α := fun s =>
  match x s with
  | (.ok a, t) => (.ok a, t)
  | (.error e, t) => if catches e then since t.2 (h e t.1) else (.error e, t)

/-- Weakest precondition: `Q` after a normal return, `E` after an exception. -/
def wp (x : Prog σ ε α) (Q : α → σ → Prop) (E : ε → σ → Prop) (s : σ) : Prop :=
  match x s with
  | (.ok a, t) => Q a t.1
  | (.error e, t) => E e t.1

section Rules
variable {Q : α → σ → Prop} {E : ε → σ → Prop} {s : σ}

@[simp] theorem wp_pure (a : α) : wp (pure a : Prog σ ε α) Q E s ↔ Q a s := Iff.rfl

@[simp] theorem wp_raise (e : ε) : wp (raise e : Prog σ ε α) Q E s ↔ E e s := Iff.rfl

@[simp] theorem wp_bind {R : β → σ → Prop} (x : Prog σ ε α) (f : α → Prog σ ε β) :
    wp (x >>= f) R E s ↔ wp x (fun a t => wp (f a) R E t) E s := by
  change wp (bind x f) R E s ↔ _
  unfold wp bind
  rcases x s with ⟨_ | a, t⟩
  · rfl
  · dsimp only
    generalize f a t.1 = outcome
    rcases outcome with ⟨_ | _, u⟩ <;> rfl

@[simp] theorem wp_map {R : β → σ → Prop} (x : Prog σ ε α) (f : α → β) :
    wp (f <$> x) R E s ↔ wp x (fun a => R (f a)) E s :=
  wp_bind x fun a => pure (f a)

@[simp] theorem wp_discard {R : PUnit → σ → Prop} (x : Prog σ ε α) :
    wp (discard x) R E s ↔ wp x (fun _ => R ⟨⟩) E s := by
  change wp ((fun _ => PUnit.unit) <$> x) R E s ↔ _
  rw [wp_map]

@[simp] theorem wp_read {Q : σ → σ → Prop} : wp (read : Prog σ ε σ) Q E s ↔ Q s s := Iff.rfl

@[simp] theorem wp_write {Q : Unit → σ → Prop} (f : σ → σ) (forward : ∀ s, s ≤ f s) :
    wp (write f forward : Prog σ ε Unit) Q E s ↔ Q () (f s) := Iff.rfl

theorem wp_lift (r : Except ε α) :
    wp (lift r : Prog σ ε α) Q E s ↔ (∀ a, r = .ok a → Q a s) ∧ ∀ e, r = .error e → E e s := by
  cases r with
  | ok a => simp [lift, wp, ret]
  | error e => simp [lift, wp, raise]

theorem wp_require {Q : Unit → σ → Prop} (condition : Bool) (e : ε) :
    wp (require condition e : Prog σ ε Unit) Q E s ↔
      (condition = true → Q () s) ∧ (condition = false → E e s) := by
  cases condition <;> simp [require, wp, ret, raise]

theorem wp_transact (restore : σ → σ → σ) (forward : ∀ s t, s ≤ t → s ≤ restore s t)
    (x : Prog σ ε α) :
    wp (transact restore forward x) Q E s ↔ wp x Q (fun e t => E e (restore s t)) s := by
  unfold wp transact
  rcases x s with ⟨_ | _, t⟩ <;> rfl

theorem wp_handle (x : Prog σ ε α) (catches : ε → Bool) (h : ε → Prog σ ε α) :
    wp (handle x catches h) Q E s ↔
      wp x Q (fun e t => if catches e then wp (h e) Q E t else E e t) s := by
  unfold wp handle
  rcases x s with ⟨e | a, t⟩
  · dsimp only
    cases catches e with
    | false => rfl
    | true =>
      simp only [if_true]
      generalize h e t.1 = outcome
      rcases outcome with ⟨_ | _, u⟩ <;> rfl
  · rfl

theorem wp_ite (condition : Prop) [Decidable condition] (x y : Prog σ ε α) :
    wp (if condition then x else y) Q E s ↔
      (condition → wp x Q E s) ∧ (¬ condition → wp y Q E s) := by
  by_cases here : condition <;> simp [here]

/-- The consequence rule; the later state is known to be ahead. -/
theorem wp.mono {x : Prog σ ε α} {Q' : α → σ → Prop} {E' : ε → σ → Prop} (h : wp x Q E s)
    (normal : ∀ a t, s ≤ t → Q a t → Q' a t) (raised : ∀ e t, s ≤ t → E e t → E' e t) :
    wp x Q' E' s := by
  unfold wp at h ⊢
  rcases run : x s with ⟨e | a, t⟩ <;> simp only [run] at h ⊢
  · exact raised e t t.2 h
  · exact normal a t t.2 h

/-- What holds of every run of `x`, returned or raised. -/
theorem wp_of_runs {x : Prog σ ε α} (normal : ∀ a t, x s = (.ok a, t) → Q a t)
    (raised : ∀ e t, x s = (.error e, t) → E e t) : wp x Q E s := by
  unfold wp
  rcases run : x s with ⟨e | a, t⟩
  · exact raised e t run
  · exact normal a t run

/-- What a run did, read off its weakest precondition. -/
theorem wp.returned {x : Prog σ ε α} (h : wp x Q E s) (run : (x s).1 = .ok a) : Q a (x s).2 := by
  unfold wp at h
  rcases same : x s with ⟨_ | _, t⟩ <;> simp_all

theorem wp.raised {x : Prog σ ε α} (h : wp x Q E s) (run : (x s).1 = .error e) :
    E e (x s).2 := by
  unfold wp at h
  rcases same : x s with ⟨_ | _, t⟩ <;> simp_all

/-- A weakest precondition speaks of the one outcome of the run. -/
theorem wp_iff {x : Prog σ ε α} : wp x Q E s ↔
    (∀ a, (x s).1 = .ok a → Q a (x s).2) ∧ ∀ e, (x s).1 = .error e → E e (x s).2 := by
  constructor
  · exact fun h => ⟨fun _ => h.returned, fun _ => h.raised⟩
  · rintro ⟨normal, raised⟩
    unfold wp
    rcases run : x s with ⟨e | a, t⟩ <;> simp only [run] at normal raised
    · exact raised e rfl
    · exact normal a rfl

/-- The final state, whatever the outcome. -/
theorem wp.final {x : Prog σ ε α} {P : σ → Prop} (h : wp x (fun _ => P) (fun _ => P) s) :
    P (x s).2 := by
  unfold wp at h
  rcases same : x s with ⟨_ | _, t⟩ <;> simpa only [same] using h

/-- What is known of the final state anyway may be added to both outcomes. -/
theorem wp.also {x : Prog σ ε α} {P : σ → Prop} (h : wp x Q E s) (final : P (x s).2) :
    wp x (fun a t => Q a t ∧ P t) (fun e t => E e t ∧ P t) s := by
  unfold wp at h ⊢
  rcases run : x s with ⟨e | a, t⟩ <;> simp only [run] at h final ⊢ <;> exact ⟨h, final⟩

/-- A loop over a list; the invariant may speak of the items still to come. -/
theorem wp_foldlM {body : α → β → Prog σ ε α} (inv : List β → α → σ → Prop)
    (round : ∀ b rest a t, inv (b :: rest) a t → wp (body a b) (inv rest) E t)
    {items : List β} {a : α} (start : inv items a s)
    (done : ∀ a t, inv [] a t → Q a t) : wp (items.foldlM body a) Q E s := by
  induction items generalizing a s with
  | nil => exact done a s start
  | cons item rest ih =>
    rw [List.foldlM_cons, wp_bind]
    exact (round item rest a s start).mono (fun _ _ _ kept => ih kept) fun _ _ _ h => h

theorem wp_forM {body : β → Prog σ ε PUnit} {Q : PUnit → σ → Prop} (inv : List β → σ → Prop)
    (round : ∀ b rest t, inv (b :: rest) t → wp (body b) (fun _ => inv rest) E t)
    {items : List β} (start : inv items s) (done : ∀ t, inv [] t → Q ⟨⟩ t) :
    wp (items.forM body) Q E s := by
  induction items generalizing s with
  | nil => exact done s start
  | cons item rest ih =>
    change wp (body item >>= fun _ => rest.forM body) Q E s
    rw [wp_bind]
    exact (round item rest s start).mono (fun _ _ _ kept => ih kept) fun _ _ _ h => h

/-- What holds whenever `x` returns; an exception promises nothing. -/
abbrev wlp (x : Prog σ ε α) (Q : α → σ → Prop) (s : σ) : Prop := wp x Q (fun _ _ => True) s

theorem wlp_lift (r : Except ε α) (h : ∀ a, r = .ok a → Q a s) : wlp (lift r) Q s :=
  (wp_lift r).mpr ⟨h, fun _ _ => trivial⟩

theorem wlp_require {Q : Unit → σ → Prop} (condition : Bool) (e : ε)
    (h : condition = true → Q () s) : wlp (require condition e) Q s :=
  (wp_require condition e).mpr ⟨h, fun _ => trivial⟩

end Rules
end Prog

/-! Inverting fallible computations that return. -/

@[simp] theorem bind_ok {x : Except ε α} {f : α → Except ε β} {b : β} :
    (x >>= f) = .ok b ↔ ∃ a, x = .ok a ∧ f a = .ok b := by
  cases x with
  | error e => exact ⟨nofun, fun ⟨_, h, _⟩ => nomatch h⟩
  | ok a => exact ⟨fun h => ⟨a, rfl, h⟩, fun ⟨_, h, rest⟩ => by cases h; exact rest⟩

@[simp] theorem ok_bind (a : α) (f : α → Except ε β) : ((.ok a : Except ε α) >>= f) = f a := rfl

@[simp] theorem throw_ok {e : ε} {a : α} : (throw e : Except ε α) = .ok a ↔ False :=
  ⟨nofun, False.elim⟩

@[simp] theorem pure_ok {a b : α} : (pure a : Except ε α) = .ok b ↔ a = b :=
  ⟨fun h => by cases h; rfl, fun h => by rw [h]; rfl⟩

/-- `if condition: raise e`, in the middle of a computation that goes on the same way. -/
theorem guarded_ok {condition : Bool} {e : ε} {a b : α} :
    (if condition = true then (do throw e; pure a) else pure a : Except ε α) = .ok b ↔
      condition = false ∧ a = b := by
  cases condition with
  | true => exact ⟨nofun, fun h => nomatch h.1⟩
  | false => simp

theorem forall₂_member {R : α → β → Prop} {xs : List α} {ys : List β} {x : α}
    (pairs : List.Forall₂ R xs ys) (member : x ∈ xs) : ∃ y ∈ ys, R x y := by
  induction pairs with
  | nil => cases member
  | @cons a b _ _ here _ ih =>
    rcases List.mem_cons.mp member with rfl | member
    · exact ⟨b, List.mem_cons_self, here⟩
    · obtain ⟨y, inside, related⟩ := ih member
      exact ⟨y, List.mem_cons_of_mem _ inside, related⟩

theorem forM_ok {items : List α} {check : α → Except ε Unit} :
    items.forM check = .ok () ↔ ∀ a ∈ items, check a = .ok () := by
  induction items with
  | nil => exact ⟨nofun, fun _ => rfl⟩
  | cons item rest ih =>
    change (check item >>= fun _ => rest.forM check) = .ok () ↔ _
    rw [bind_ok, List.forall_mem_cons, ← ih]
    exact ⟨fun ⟨_, both⟩ => both, fun both => ⟨(), both⟩⟩

theorem forM_member {items : List α} {a : α} {check : α → Except ε Unit} (passed : items.forM check = .ok ())
    (member : a ∈ items) : check a = .ok () :=
  forM_ok.mp passed a member

/-- A list of results, one for each item. -/
theorem mapM_forall₂ {f : α → Except ε β} {items : List α} {results : List β} :
    items.mapM f = .ok results ↔ List.Forall₂ (fun item result => f item = .ok result) items results := by
  induction items generalizing results with
  | nil =>
    rw [List.mapM_nil, pure_ok, List.forall₂_nil_left_iff, eq_comm]
  | cons item items ih =>
    rw [List.mapM_cons, bind_ok]
    constructor
    · rintro ⟨result, here, rest⟩
      obtain ⟨others, there, rest⟩ := bind_ok.mp rest
      rw [← pure_ok.mp rest]
      exact .cons here (ih.mp there)
    · intro pairs
      cases pairs with
      | cons here there => exact ⟨_, here, bind_ok.mpr ⟨_, ih.mpr there, rfl⟩⟩

theorem mapM_getLast? {α β ε : Type} {f : α → Except ε β} {items : List α} {results : List β}
    {result : β} (ran : items.mapM f = .ok results) (last : results.getLast? = some result) :
    ∃ item, items.getLast? = some item ∧ f item = .ok result := by
  have pairs := List.forall₂_reverse_iff.mpr (mapM_forall₂.mp ran)
  rw [← List.head?_reverse] at last
  cases reversed : results.reverse with
  | nil => simp [reversed] at last
  | cons first rest =>
    rw [reversed] at pairs last
    obtain rfl := Option.some.inj last
    obtain ⟨item, others, here, -, same⟩ := List.forall₂_cons_right_iff.mp pairs
    exact ⟨item, by rw [← List.head?_reverse, same]; rfl, here⟩

theorem mapM_ok {f : α → Except ε β} {g : α → β} {items : List α}
    (each : ∀ item ∈ items, f item = .ok (g item)) : items.mapM f = .ok (items.map g) := by
  apply mapM_forall₂.mpr
  rw [List.forall₂_map_right_iff, List.forall₂_same]
  exact each

/-- A loop that collects complaints has none exactly if no round has one. -/
theorem mapM_silent {f : α → Except ε (List β)} {items : List α} :
    (∃ found, items.mapM f = .ok found ∧ found.flatten = []) ↔ ∀ item ∈ items, f item = .ok [] := by
  constructor
  · rintro ⟨found, ran, silent⟩ item member
    obtain ⟨complaints, listed, here⟩ := forall₂_member (mapM_forall₂.mp ran) member
    rw [here, List.flatten_eq_nil_iff.mp silent complaints listed]
  · intro each
    exact ⟨items.map fun _ => [], mapM_ok each, by simp⟩

end InferForge.Effect
