import Mathlib.Data.Nat.Notation
import Mathlib.Data.Option.Basic

/-!
# Loops that their body may leave

A loop `while (1) { x = receive(); ...; send(y); }` ends when its body executes a `break`, a
`return` or an `exit`. `ExitLoop` is a loop whose body says which it is. It is given an infinite
sequence of inputs, so that whether it ends is a question about the loop and not about its input.

## Main results

* `ExitLoop.not_ends` — a loop that its body never leaves does not end
* `ExitLoop.stateAt_invariant` — what the body keeps holds in every iteration
-/

universe u v w

/-- Where control goes behind the body of a loop. -/
inductive ExitFlow where
  /-- To the head of the loop. -/
  | next
  /-- Out of the loop. -/
  | leave

/-- A loop that carries a state, answers each input, and may be left. -/
structure ExitLoop (σ : Type u) (ι : Type v) (ο : Type w) where
  /-- One iteration: the next state, the answer, and where control goes. -/
  body : σ → ι → σ × ο × ExitFlow

namespace ExitLoop

variable {σ ι ο : Type*}

/-- The state at the head of iteration `k`, or `none` if the loop has been left before it. -/
def stateAt (M : ExitLoop σ ι ο) (s : σ) (xs : ℕ → ι) : ℕ → Option σ
  | 0 => some s
  | k + 1 =>
    (M.stateAt s xs k).bind fun t =>
      match M.body t (xs k) with
      | (t', _, .next) => some t'
      | (_, _, .leave) => none

/-- The answer of iteration `k`, or `none` if the loop has been left before it. -/
def answerAt (M : ExitLoop σ ι ο) (s : σ) (xs : ℕ → ι) (k : ℕ) : Option ο :=
  (M.stateAt s xs k).map fun t => (M.body t (xs k)).2.1

/-- The loop is left after finitely many iterations. -/
def Ends (M : ExitLoop σ ι ο) (s : σ) (xs : ℕ → ι) : Prop := ∃ k, M.stateAt s xs k = none

variable {M : ExitLoop σ ι ο} {s : σ} {xs : ℕ → ι}

/-- What holds at the first head of the loop and is kept by its body holds at every head. -/
theorem stateAt_invariant {P : ℕ → σ → Prop} (h0 : P 0 s)
    (hbody : ∀ k t, P k t → P (k + 1) (M.body t (xs k)).1) {k : ℕ} {t : σ}
    (h : M.stateAt s xs k = some t) : P k t := by
  induction k generalizing t with
  | zero =>
    obtain rfl := Option.some.inj h
    exact h0
  | succ k ih =>
    rw [stateAt] at h
    obtain ⟨u, hu, h⟩ := Option.bind_eq_some_iff.mp h
    have hP := hbody k u (ih hu)
    split at h
    · next heq =>
      obtain rfl := Option.some.inj h
      rwa [heq] at hP
    · cases h

/-- A loop that its body never leaves gets to every iteration. -/
theorem exists_stateAt (h : ∀ t x, (M.body t x).2.2 = .next) (k : ℕ) :
    ∃ t, M.stateAt s xs k = some t := by
  induction k with
  | zero => exact ⟨s, rfl⟩
  | succ k ih =>
    obtain ⟨t, ht⟩ := ih
    have hflow := h t (xs k)
    refine ⟨(M.body t (xs k)).1, ?_⟩
    rw [stateAt, ht, Option.bind_some]
    split
    · next heq => rw [heq]
    · next heq =>
      rw [heq] at hflow
      cases hflow

/-- **A loop that its body never leaves does not end.** -/
theorem not_ends (h : ∀ t x, (M.body t x).2.2 = .next) : ¬ M.Ends s xs := by
  rintro ⟨k, hk⟩
  obtain ⟨t, ht⟩ : ∃ t, M.stateAt s xs k = some t := exists_stateAt h k
  cases hk.symm.trans ht

end ExitLoop
