import InferForge.Effect

/-! Computations that may run out of a resource. Such a computation does what the unlimited one does,
or it stops with one error, and the second only where there is no room for it. -/
namespace InferForge.Effect

variable {α β ε : Type} {limit : ε} {room room' : Prop}

def Limited (limit : ε) (room : Prop) (limited ideal : Except ε α) : Prop :=
  limited = ideal ∨ limited = .error limit ∧ ¬ room

namespace Limited

theorem same (x : Except ε α) : Limited limit room x x := .inl rfl

theorem out {ideal : Except ε α} (none : ¬ room) : Limited limit room (.error limit) ideal :=
  .inr ⟨rfl, none⟩

theorem eq {x y : Except ε α} (limited : Limited limit room x y) (enough : room) : x = y :=
  limited.resolve_right fun stopped => stopped.2 enough

theorem ok {x y : Except ε α} {a : α} (limited : Limited limit room x y) (done : x = .ok a) : y = .ok a := by
  rcases limited with same | ⟨stopped, _⟩
  · rw [← same, done]
  · rw [stopped] at done
    cases done

theorem error {x y : Except ε α} {e : ε} (limited : Limited limit room x y) (failed : x = .error e) :
    y = .error e ∨ e = limit ∧ ¬ room := by
  rcases limited with same | ⟨stopped, none⟩
  · exact .inl (same ▸ failed)
  · rw [stopped] at failed
    exact .inr ⟨(Except.error.inj failed).symm, none⟩

theorem mono {x y : Except ε α} (limited : Limited limit room' x y) (weaker : room → room') :
    Limited limit room x y :=
  limited.imp_right fun stopped => ⟨stopped.1, fun enough => stopped.2 (weaker enough)⟩

theorem bind {x y : Except ε α} {f g : α → Except ε β} (first : Limited limit room x y)
    (rest : ∀ a, y = .ok a → Limited limit room (f a) (g a)) :
    Limited limit room (x >>= f) (y >>= g) := by
  rcases first with rfl | ⟨rfl, none⟩
  · cases x with
    | error e => exact same _
    | ok a => exact rest a rfl
  · exact out none

theorem mapM {f g : α → Except ε β} {items : List α}
    (each : ∀ item ∈ items, Limited limit room (f item) (g item)) :
    Limited limit room (items.mapM f) (items.mapM g) := by
  induction items with
  | nil => exact same _
  | cons item rest ih =>
    rw [List.forall_mem_cons] at each
    rw [List.mapM_cons, List.mapM_cons]
    exact bind each.1 fun _ _ => bind (ih each.2) fun _ _ => same _

end Limited
end InferForge.Effect
