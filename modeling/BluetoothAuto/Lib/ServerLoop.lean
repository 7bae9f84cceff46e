import Mathlib.Data.List.Forall2

/-!
# Machines that answer every input

A server loop of the form `while (1) { x = receive(); ...; send(y); }` is a function of the
inputs it has received so far: it carries a state from one iteration to the next and answers each
input once. `ServerLoop` is that shape, with an arbitrary (possibly infinite) state type.

A finite run of the loop, of any length, is a list of inputs. There is no fuel: every iteration
consumes an input, so `answers` is structurally recursive.

## Main results

* `ServerLoop.forall₂_answers` — what holds of an iteration in every state holds along every run
* `ServerLoop.answers_eq_map` — a loop whose answers do not depend on its state is a `List.map`
* `ServerLoop.get_after` — a part of the state as the last change in the history has left it
* `ServerLoop.flatMap_answers` — a loop of which another one shows a part
* `ServerLoop.answers_eq_zipWith` — a loop that simulates another one answers as the other does,
  up to what it makes of its own input
-/

universe u v w

/-- A loop that carries a state and answers each input with one output. -/
structure ServerLoop (σ : Type u) (ι : Type v) (ο : Type w) where
  /-- One iteration: the next state and the answer. -/
  step : σ → ι → σ × ο

namespace ServerLoop

variable {σ ι ο : Type*}

/-- The answers to the inputs `xs`, one for each. -/
def answers (M : ServerLoop σ ι ο) : σ → List ι → List ο
  | _, [] => []
  | s, x :: xs => (M.step s x).2 :: M.answers (M.step s x).1 xs

/-- The state that the inputs `xs` leave. -/
def after (M : ServerLoop σ ι ο) : σ → List ι → σ
  | s, [] => s
  | s, x :: xs => M.after (M.step s x).1 xs

/-- The inputs `xs`, each with the state in which it is taken. -/
def visits (M : ServerLoop σ ι ο) : σ → List ι → List (σ × ι)
  | _, [] => []
  | s, x :: xs => (s, x) :: M.visits (M.step s x).1 xs

variable (M : ServerLoop σ ι ο)

@[simp] theorem answers_nil (s : σ) : M.answers s [] = [] := rfl

@[simp] theorem answers_cons (s : σ) (x : ι) (xs : List ι) :
    M.answers s (x :: xs) = (M.step s x).2 :: M.answers (M.step s x).1 xs := rfl

theorem answers_append (s : σ) (xs ys : List ι) :
    M.answers s (xs ++ ys) = M.answers s xs ++ M.answers (M.after s xs) ys := by
  induction xs generalizing s with
  | nil => rfl
  | cons x xs ih => rw [List.cons_append, answers_cons, ih, answers_cons, after, List.cons_append]

theorem after_append (s : σ) (xs ys : List ι) :
    M.after s (xs ++ ys) = M.after (M.after s xs) ys := by
  induction xs generalizing s with
  | nil => rfl
  | cons x xs ih => rw [List.cons_append, after, ih, after]

/-- What holds of one iteration in whatever state it is taken holds of every iteration of every
run. -/
theorem forall₂_answers {M : ServerLoop σ ι ο} {P : ι → ο → Prop}
    (h : ∀ s x, P x (M.step s x).2) (s : σ) (xs : List ι) :
    List.Forall₂ P xs (M.answers s xs) := by
  induction xs generalizing s with
  | nil => exact .nil
  | cons x xs ih => exact .cons (h s x) (ih _)

/-- What holds of every answer of one iteration holds of every answer of every run. -/
theorem forall_mem_answers {M : ServerLoop σ ι ο} {P : ο → Prop} (h : ∀ s x, P (M.step s x).2)
    (s : σ) (xs : List ι) : ∀ y ∈ M.answers s xs, P y := by
  induction xs generalizing s with
  | nil => exact List.forall_mem_nil _
  | cons x xs ih => exact List.forall_mem_cons.mpr ⟨h s x, ih _⟩

/-- What holds of one iteration in the states of an invariant, for the inputs that keep it, holds of
every iteration of every run. -/
theorem forall₂_answers_of_invariant {M : ServerLoop σ ι ο} {I : σ → Prop} {V : ι → Prop}
    {P : ι → ο → Prop} (hI : ∀ s x, I s → V x → I (M.step s x).1)
    (h : ∀ s x, I s → V x → P x (M.step s x).2) {s : σ} (hs : I s) {xs : List ι}
    (hxs : ∀ x ∈ xs, V x) : List.Forall₂ P xs (M.answers s xs) := by
  induction xs generalizing s with
  | nil => exact .nil
  | cons x xs ih =>
    obtain ⟨hx, hxs⟩ := List.forall_mem_cons.mp hxs
    exact .cons (h s x hs hx) (ih (hI s x hs hx) hxs)

/-- A loop whose answers depend on its state only through an invariant answers each input by
itself. -/
theorem answers_eq_map {P : σ → Prop} {f : ι → ο} {s : σ} (h0 : P s)
    (hstep : ∀ s x, P s → P (M.step s x).1) (hout : ∀ s x, P s → (M.step s x).2 = f x)
    (xs : List ι) : M.answers s xs = xs.map f := by
  induction xs generalizing s with
  | nil => rfl
  | cons x xs ih =>
    rw [answers_cons, hout s x h0, ih (hstep s x h0), List.map_cons]

/-- The inputs `xs` with their answers. -/
def exchanges (s : σ) (xs : List ι) : List (ι × ο) := xs.zip (M.answers s xs)

@[simp] theorem exchanges_nil (s : σ) : M.exchanges s [] = [] := rfl

@[simp] theorem exchanges_cons (s : σ) (x : ι) (xs : List ι) :
    M.exchanges s (x :: xs) = (x, (M.step s x).2) :: M.exchanges (M.step s x).1 xs := rfl

/-- **The rule of the last change.** Let every iteration either leave what `get` reads in the state
as it is, or set it to what `effect` finds in the input and its answer. Then after every run `get`
reads what the last iteration with an effect has set it to, and if there is none, what it has read
before the run. -/
theorem get_after {ν : Type*} {get : σ → ν} {effect : ι × ο → Option ν}
    (h : ∀ s x, get (M.step s x).1 = (effect (x, (M.step s x).2)).getD (get s)) (s : σ)
    (xs : List ι) :
    get (M.after s xs) = ((M.exchanges s xs).filterMap effect).getLast?.getD (get s) := by
  induction xs generalizing s with
  | nil => rfl
  | cons x xs ih =>
    rw [after, ih, h, exchanges_cons]
    cases heffect : effect (x, (M.step s x).2) with
    | none => rw [List.filterMap_cons_none heffect, Option.getD_none]
    | some v =>
      rw [List.filterMap_cons_some heffect, List.getLast?_cons, Option.getD_some]
      rfl

/-- **The rule of hidden inputs.** Let every iteration of `M` do to the state of `N` what the inputs
`π x` do, which may be none, and let `N` give the answers `f y` to them. Then so it is for every
run. -/
theorem flatMap_answers {σ' ι' ο' : Type*} {N : ServerLoop σ' ι' ο'} (get : σ → σ')
    (f : ο → List ο') {π : ι → List ι'}
    (hstep : ∀ s x, get (M.step s x).1 = N.after (get s) (π x))
    (hout : ∀ s x, f (M.step s x).2 = N.answers (get s) (π x)) (s : σ) (xs : List ι) :
    get (M.after s xs) = N.after (get s) (xs.flatMap π) ∧
      (M.answers s xs).flatMap f = N.answers (get s) (xs.flatMap π) := by
  induction xs generalizing s with
  | nil => exact ⟨rfl, rfl⟩
  | cons x xs ih =>
    obtain ⟨hafter, hanswers⟩ := ih (M.step s x).1
    rw [hstep] at hafter hanswers
    rw [List.flatMap_cons, N.after_append, N.answers_append]
    refine ⟨hafter, ?_⟩
    rw [answers_cons, List.flatMap_cons, hout, hanswers]

/-- **The simulation rule.** Let `M` and `N` stay in related states when `N` is given the part
`π x` of the input `x` of `M`, and let `M` answer with what `f x` makes of the answer of `N`. Then
so it is along every run. -/
theorem answers_eq_zipWith {σ' ι' ο' : Type*} {N : ServerLoop σ' ι' ο'} {R : σ → σ' → Prop}
    {π : ι → ι'} {f : ι → ο' → ο}
    (hstep : ∀ s t x, R s t → R (M.step s x).1 (N.step t (π x)).1)
    (hout : ∀ s t x, R s t → (M.step s x).2 = f x (N.step t (π x)).2)
    {s : σ} {t : σ'} (h : R s t) (xs : List ι) :
    M.answers s xs = List.zipWith f xs (N.answers t (xs.map π)) := by
  induction xs generalizing s t with
  | nil => rfl
  | cons x xs ih =>
    rw [answers_cons, hout s t x h, ih (hstep s t x h), List.map_cons, answers_cons,
      List.zipWith_cons_cons]

end ServerLoop
