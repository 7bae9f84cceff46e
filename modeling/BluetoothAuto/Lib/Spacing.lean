import Mathlib.Data.List.Basic
import Mathlib.Tactic.Ring

/-!
# Events that are kept apart

A list of times, oldest first, in which two events are never closer to each other than some
distance. Such a list has few events in any window of time.

## Main results

* `Spaced.append_singleton` — one more event, if it is late enough
* `Spaced.count_window_mul_le` — how many events there are in a window
-/

/-- Any two of the times `l`, oldest first, are at least `d` apart. -/
def Spaced (d : ℤ) (l : List ℤ) : Prop := l.Pairwise fun a b => a + d ≤ b

namespace Spaced

variable {d : ℤ} {l : List ℤ}

theorem nil (d : ℤ) : Spaced d [] := List.Pairwise.nil

/-- One more event may follow at a time that is late enough for all the earlier ones. -/
theorem append_singleton (hl : Spaced d l) {t : ℤ} (ht : ∀ a ∈ l, a + d ≤ t) :
    Spaced d (l ++ [t]) := by
  refine List.pairwise_append.mpr ⟨hl, List.pairwise_singleton _ t, fun a ha b hb => ?_⟩
  rw [List.mem_singleton.mp hb]
  exact ht a ha

/-- Events that all lie in one window, counted. -/
theorem length_mul_le (hd : 0 ≤ d) (hl : Spaced d l) {lo hi : ℤ} (hle : lo ≤ hi)
    (hmem : ∀ a ∈ l, lo ≤ a ∧ a ≤ hi) : l.length * d ≤ hi - lo + d := by
  induction l generalizing lo with
  | nil =>
    simp only [List.length_nil, Nat.cast_zero, zero_mul]
    omega
  | cons a l ih =>
    obtain ⟨hfirst, hrest⟩ := List.pairwise_cons.mp hl
    obtain ⟨halo, hahi⟩ := hmem a List.mem_cons_self
    rw [List.length_cons, Nat.cast_succ, show ((l.length : ℤ) + 1) * d = l.length * d + d by ring]
    cases l with
    | nil =>
      simp only [List.length_nil, Nat.cast_zero, zero_mul]
      omega
    | cons b l =>
      -- the others lie in the window that starts `d` after the first
      have hb := hfirst b List.mem_cons_self
      have hbhi := (hmem b (List.mem_cons_of_mem _ List.mem_cons_self)).2
      have hlater : ∀ c ∈ b :: l, a + d ≤ c ∧ c ≤ hi := fun c hc =>
        ⟨hfirst c hc, (hmem c (List.mem_cons_of_mem _ hc)).2⟩
      have h := ih hrest (by omega) hlater
      omega

/-- **Few events in a window.** A window of length `w` has at most `w / d + 1` events. -/
theorem count_window_mul_le (hd : 0 ≤ d) (hl : Spaced d l) {lo hi : ℤ} (hle : lo ≤ hi) :
    (l.filter fun t => lo ≤ t ∧ t ≤ hi).length * d ≤ hi - lo + d := by
  refine length_mul_le hd (List.Pairwise.filter _ hl) hle fun a ha => ?_
  exact of_decide_eq_true (List.mem_filter.mp ha).2

end Spaced
