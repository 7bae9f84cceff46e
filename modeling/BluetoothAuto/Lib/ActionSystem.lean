import Mathlib.Data.List.Basic
import Mathlib.Data.Option.Basic

/-!
# Systems that take one action at a time

A system with several parties is described by the actions that any of them, or the environment,
can take next. An interleaving is a list of actions; it is a run if every action is enabled where
it is taken. Everything that is not determined by the program (the scheduler, the network, the
answers of a library) is in the choice of the actions.

## Main results

* `ActionSystem.run_invariant` — what every action keeps holds after every run
* `ActionSystem.run_append` — a run may be continued
* `ActionSystem.trace_invariant` — what every action keeps holds before and after each of its steps
* `ActionSystem.run_invariant_of_trace` — the same for runs whose steps are known to be good
* `ActionSystem.flag_of_run` — a flag that certain actions set, and none clears
* `ActionSystem.get_of_run` — a part of the state as the last step that sets it has left it
* `ActionSystem.log_of_run` — a log to which every step adds what it has to
* `ActionSystem.run_filterMap` — a system that simulates another one, with steps of its own
* `ActionSystem.forall_trace_iff` — a property that a step keeps exactly if the step is good holds
  along a run exactly if all its steps are good
-/

universe u v

/-- A system that takes one action at a time. -/
structure ActionSystem (σ : Type u) (α : Type v) where
  /-- The state after an action, or `none` if the action is not enabled. -/
  step : σ → α → Option σ

namespace ActionSystem

variable {σ : Type u} {α : Type v}

/-- The state after the actions `as`, or `none` if one of them is not enabled. -/
def run (M : ActionSystem σ α) : σ → List α → Option σ
  | s, [] => some s
  | s, a :: as => (M.step s a).bind fun s => M.run s as

/-- The steps that the actions `as` take: the state before, the action, the state after. The list
ends where an action is not enabled. -/
def trace (M : ActionSystem σ α) : σ → List α → List (σ × α × σ)
  | _, [] => []
  | s, a :: as =>
    match M.step s a with
    | none => []
    | some t => (s, a, t) :: M.trace t as

variable (M : ActionSystem σ α)

@[simp] theorem run_nil (s : σ) : M.run s [] = some s := rfl

@[simp] theorem run_cons (s : σ) (a : α) (as : List α) :
    M.run s (a :: as) = (M.step s a).bind fun s => M.run s as := rfl

/-- A run is its first step and the run behind it. -/
theorem run_cons_iff {s u : σ} {a : α} {as : List α} :
    M.run s (a :: as) = some u ↔ ∃ t, M.step s a = some t ∧ M.run t as = some u :=
  Option.bind_eq_some_iff

/-- A run may be continued. -/
theorem run_append {s t : σ} {as : List α} (h : M.run s as = some t) (bs : List α) :
    M.run s (as ++ bs) = M.run t bs := by
  induction as generalizing s with
  | nil =>
    cases h
    rfl
  | cons a as ih =>
    obtain ⟨s', hs', h⟩ := M.run_cons_iff.mp h
    rw [List.cons_append, run_cons, hs', Option.bind_some, ih h]

/-- **The invariant rule.** What holds initially and is kept by every action holds after every
run. -/
theorem run_invariant {P : σ → Prop} (hstep : ∀ s a t, P s → M.step s a = some t → P t) {s t : σ}
    {as : List α} (hs : P s) (h : M.run s as = some t) : P t := by
  induction as generalizing s with
  | nil =>
    cases h
    exact hs
  | cons a as ih =>
    obtain ⟨s', hs', h⟩ := M.run_cons_iff.mp h
    exact ih (hstep s a s' hs hs') h

/-- **The invariant rule for steps.** What holds initially and is kept by every action holds before
and after each step that a list of actions takes. -/
theorem trace_invariant {P : σ → Prop} (hstep : ∀ s a t, P s → M.step s a = some t → P t) {s : σ}
    (hs : P s) {as : List α} {x : σ × α × σ} (hx : x ∈ M.trace s as) :
    P x.1 ∧ M.step x.1 x.2.1 = some x.2.2 ∧ P x.2.2 := by
  induction as generalizing s with
  | nil => cases hx
  | cons a as ih =>
    rw [trace] at hx
    split at hx
    · cases hx
    · next t ht =>
      rcases List.mem_cons.mp hx with rfl | hx
      · exact ⟨hs, ht, hstep s a t hs ht⟩
      · exact ih (hstep s a t hs ht) hx

/-- The steps of a run that is continued. -/
theorem trace_append {s t : σ} {as : List α} (h : M.run s as = some t) (bs : List α) :
    M.trace s (as ++ bs) = M.trace s as ++ M.trace t bs := by
  induction as generalizing s with
  | nil =>
    cases h
    rfl
  | cons a as ih =>
    obtain ⟨s', hs', h⟩ := M.run_cons_iff.mp h
    rw [List.cons_append, trace, trace, hs']
    exact congrArg _ (ih h)

/-- The actions of a run are those of its steps. -/
theorem map_action_trace {s t : σ} {as : List α} (h : M.run s as = some t) :
    (M.trace s as).map (fun x => x.2.1) = as := by
  induction as generalizing s with
  | nil => rfl
  | cons a as ih =>
    obtain ⟨s', hs', h⟩ := M.run_cons_iff.mp h
    rw [trace, hs']
    exact congrArg _ (ih h)

/-- **The invariant rule for runs whose steps are all good.** What holds initially and is kept by
every good step holds after a run that takes good steps only. -/
theorem run_invariant_of_trace {P : σ → Prop} {G : σ × α × σ → Prop}
    (hstep : ∀ s a t, P s → G (s, a, t) → M.step s a = some t → P t) {s t : σ} {as : List α}
    (hs : P s) (hgood : ∀ x ∈ M.trace s as, G x) (h : M.run s as = some t) : P t := by
  induction as generalizing s with
  | nil =>
    cases h
    exact hs
  | cons a as ih =>
    obtain ⟨s', hs', h⟩ := M.run_cons_iff.mp h
    rw [trace, hs', List.forall_mem_cons] at hgood
    exact ih (hstep s a s' hs hgood.1 hs') hgood.2 h

/-- **The rule of the flag.** A flag that is set by certain actions, and cleared by none, is set
after a run exactly if it was set before or one of these actions is in the run. -/
theorem flag_of_run {P : σ → Prop} {G : α → Prop}
    (hstep : ∀ s a t, M.step s a = some t → (P t ↔ P s ∨ G a)) {s t : σ} {as : List α}
    (h : M.run s as = some t) : P t ↔ P s ∨ ∃ a ∈ as, G a := by
  induction as generalizing s with
  | nil =>
    cases h
    exact (or_iff_left nofun).symm
  | cons a as ih =>
    obtain ⟨s', hs', h⟩ := M.run_cons_iff.mp h
    rw [ih h, hstep s a s' hs', or_assoc]
    simp only [List.mem_cons, exists_eq_or_imp]

/-- **The rule of the last change.** Let every step either leave what `get` reads in the state as it
is, or set it to what `effect` finds in the step. Then after a run `get` reads what the last step
with an effect has set it to, and if there is none, what it has read before the run. -/
theorem get_of_run {ν : Type*} (get : σ → Option ν) (effect : σ × α × σ → Option ν)
    (hstep : ∀ s a t, M.step s a = some t → get t = (effect (s, a, t)).or (get s)) {s t : σ}
    {as : List α} (h : M.run s as = some t) :
    get t = ((M.trace s as).filterMap effect).getLast?.or (get s) := by
  induction as generalizing s with
  | nil =>
    cases h
    rfl
  | cons a as ih =>
    obtain ⟨s', hs', h⟩ := M.run_cons_iff.mp h
    rw [ih h, hstep s a s' hs', trace, hs']
    cases heffect : effect (s, a, s') with
    | none => rw [List.filterMap_cons_none heffect, Option.none_or]
    | some v =>
      rw [List.filterMap_cons_some heffect, List.getLast?_cons, Option.some_or]
      cases ((M.trace s' as).filterMap effect).getLast? <;> rfl

/-- **The rule of the log.** Let every good step from a state of an invariant add to a log what
`effect` finds in the step. Then a run that takes good steps only adds what `effect` finds in its
steps, one after another. -/
theorem log_of_run {ν : Type*} (get : σ → List ν) (effect : σ × α × σ → Option ν)
    {P : σ → Prop} {G : σ × α × σ → Prop}
    (hstep : ∀ s a t, P s → G (s, a, t) → M.step s a = some t →
      P t ∧ get t = get s ++ (effect (s, a, t)).toList) {s t : σ} {as : List α} (hs : P s)
    (hgood : ∀ x ∈ M.trace s as, G x) (h : M.run s as = some t) :
    get t = get s ++ (M.trace s as).filterMap effect := by
  induction as generalizing s with
  | nil =>
    cases h
    exact (List.append_nil _).symm
  | cons a as ih =>
    obtain ⟨s', hs', h⟩ := M.run_cons_iff.mp h
    rw [trace, hs'] at hgood ⊢
    rw [List.forall_mem_cons] at hgood
    obtain ⟨hP, hlog⟩ := hstep s a s' hs hgood.1 hs'
    rw [ih hP hgood.2 h, hlog, List.append_assoc]
    cases heffect : effect (s, a, s') with
    | none => rw [List.filterMap_cons_none heffect, Option.toList_none, List.nil_append]
    | some v => rw [List.filterMap_cons_some heffect, Option.toList_some, List.singleton_append]

/-- **The simulation rule.** In the states of an invariant, let an action of `M` with a counterpart
do to the part `f` of the state what the counterpart does in `N`, and let every other action leave
that part as it is. Then a run of `M` is a run of `N`, with the counterparts of its actions. -/
theorem run_filterMap {τ β : Type*} {N : ActionSystem τ β} {f : σ → τ} {π : α → Option β}
    {P : σ → Prop} (hP : ∀ s a t, P s → M.step s a = some t → P t)
    (hnone : ∀ s a t, P s → M.step s a = some t → π a = none → f t = f s)
    (hsome : ∀ s a t b, P s → M.step s a = some t → π a = some b → N.step (f s) b = some (f t))
    {s t : σ} {as : List α} (hs : P s) (h : M.run s as = some t) :
    N.run (f s) (as.filterMap π) = some (f t) := by
  induction as generalizing s with
  | nil =>
    cases h
    rfl
  | cons a as ih =>
    obtain ⟨s', hs', h⟩ := M.run_cons_iff.mp h
    have hrest := ih (hP s a s' hs hs') h
    cases hπ : π a with
    | none => rw [List.filterMap_cons_none hπ, ← hnone s a s' hs hs' hπ, hrest]
    | some b =>
      rw [List.filterMap_cons_some hπ, run_cons, hsome s a s' b hs hs' hπ, Option.bind_some, hrest]

/-- **The rule of the first bad step.** Let `I` be an invariant, and let an action in a state with
`P` keep `P` iff the step is good (`G`). Then `P` holds along a run iff all its steps are good. -/
theorem forall_trace_iff {I P : σ → Prop} {G : σ → α → Prop}
    (hI : ∀ s a t, I s → M.step s a = some t → I t)
    (hP : ∀ s a t, I s → P s → M.step s a = some t → (P t ↔ G s a)) {s : σ} (hIs : I s)
    (hPs : P s) (as : List α) :
    (∀ x ∈ M.trace s as, P x.2.2) ↔ ∀ x ∈ M.trace s as, G x.1 x.2.1 := by
  induction as generalizing s with
  | nil => exact iff_of_true (List.forall_mem_nil _) (List.forall_mem_nil _)
  | cons a as ih =>
    rw [trace]
    split
    · exact iff_of_true (List.forall_mem_nil _) (List.forall_mem_nil _)
    · next t ht =>
      have hiff := hP s a t hIs hPs ht
      rw [List.forall_mem_cons, List.forall_mem_cons]
      constructor
      · rintro ⟨hPt, hrest⟩
        exact ⟨hiff.mp hPt, (ih (hI s a t hIs ht) hPt).mp hrest⟩
      · rintro ⟨hgood, hrest⟩
        have hPt := hiff.mpr hgood
        exact ⟨hPt, (ih (hI s a t hIs ht) hPt).mpr hrest⟩

end ActionSystem
