import Mathlib.Analysis.Complex.Exponential
import Mathlib.Algebra.Order.BigOperators.Group.Finset

/-! Softmax attention over the reals: the mean of the values, weighted by the exponentials of the
scores. -/
namespace InferForge.Numerics

variable {ι : Type}

/-- The weight that the positions give to one of them. -/
noncomputable def softmaxWeight (positions : Finset ι) (score : ι → ℝ) (i : ι) : ℝ :=
  Real.exp (score i) / ∑ j ∈ positions, Real.exp (score j)

/-- The attended value; no position at all gives zero. -/
noncomputable def attend (positions : Finset ι) (score value : ι → ℝ) : ℝ :=
  ∑ i ∈ positions, softmaxWeight positions score i * value i

/-- Values that vanish on the positions attend to zero, whatever the scores. -/
theorem attend_zero {positions : Finset ι} {value : ι → ℝ} (score : ι → ℝ)
    (vanish : ∀ i ∈ positions, value i = 0) : attend positions score value = 0 := by
  apply Finset.sum_eq_zero
  intro i member
  rw [vanish i member, mul_zero]

end InferForge.Numerics
