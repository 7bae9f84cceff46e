import BluetoothAuto.Lib.ActionSystem
import BluetoothAuto.Lib.Spacing
import BluetoothAuto.Lib.WaitableTimer

/-!
# Tasks that set their own timer

A component of an event loop that does some work each time its timer expires, and then sets the
timer again. The timer is any `WaitableTimer`. The handler of a wait is called some time after the
wait is over, and is told whether it was cancelled; a handler that is told so does nothing. An
exception that leaves a handler ends the loop.

## Main results

* `PeriodicTask.regular_run` — one wait, or one call of the handler, is always to come
* `PeriodicTask.ticks_in_window` — the work is not done too often
-/

/-- The work of a component, and what others do to it. -/
structure PeriodicTask (σ ι κ : Type*) where
  /-- The time for which the timer is set. -/
  interval : ℤ
  interval_nonneg : 0 ≤ interval
  /-- The work of one tick, and whether it ends with an exception. -/
  work : σ → ι → σ × Bool
  /-- What other handlers do. -/
  other : σ → κ → σ

namespace PeriodicTask

variable {T : WaitableTimer} {σ ι κ : Type*}

/-- A component and its timer. -/
structure State (T : WaitableTimer) (σ : Type*) where
  /-- The clock of the timer. -/
  now : ℤ
  timer : T.Timer
  /-- When the work was begun, each time. -/
  ticks : List ℤ
  component : σ
  /-- An exception has ended the loop. -/
  thrown : Bool

namespace State

/-- When the timer expires. -/
def expiry (s : State T σ) : ℤ := (T.view s.timer).expiry

/-- The number of waits that are not over. -/
def waits (s : State T σ) : ℕ := (T.view s.timer).waits

/-- The handlers to be called, in order: whether their waits were cancelled. -/
def handlers (s : State T σ) : List Bool := (T.view s.timer).handlers

end State

/-- What can happen next. -/
inductive Action (ι κ : Type*) where
  /-- Time passes. -/
  | clock (time : ℤ)
  /-- The timer expires. -/
  | expire
  /-- The next handler is called. Its work is done at the time `done`. -/
  | handler (input : ι) (done : ℤ)
  /-- Another handler of the loop is called. -/
  | other (k : κ)

variable (M : PeriodicTask σ ι κ)

/-- The timer is set, and waited for. -/
def scheduleTimer (s : State T σ) : State T σ :=
  { s with timer := T.asyncWait (T.expiresFromNow s.timer s.now M.interval) }

/-- The work has been done, by the time `done`. -/
def State.worked (s : State T σ) (result : σ × Bool) (done : ℤ) : State T σ :=
  { s with component := result.1, ticks := s.ticks ++ [s.now], now := done, thrown := result.2 }

/-- The timer is set again, unless an exception has left the handler. -/
def rearm (s : State T σ) : State T σ := if s.thrown then s else M.scheduleTimer s

/-- The handler. -/
def onTimer (s : State T σ) (cancelled : Bool) (input : ι) (done : ℤ) : State T σ :=
  if cancelled then s else M.rearm (s.worked (M.work s.component input) done)

/-- A new component at the time `now`. -/
def start (T : WaitableTimer) (now : ℤ) (component : σ) : State T σ :=
  M.scheduleTimer ⟨now, T.new, [], component, false⟩

/-- The event loop. -/
def system (T : WaitableTimer) : ActionSystem (State T σ) (Action ι κ) where
  step s a :=
    if s.thrown then none
    else
      match a with
      | .clock time => if s.now ≤ time then some { s with now := time } else none
      | .expire =>
        if s.expiry ≤ s.now ∧ 0 < s.waits then some { s with timer := T.expire s.timer } else none
      | .handler input done =>
        match s.handlers with
        | [] => none
        | cancelled :: _ =>
          if s.now ≤ done then
            some (M.onTimer { s with timer := T.callHandler s.timer } cancelled input done)
          else none
      | .other k => some { s with component := M.other s.component k }

/-! ### The timer set again -/

theorem expiry_scheduleTimer (s : State T σ) :
    (M.scheduleTimer s).expiry = s.now + M.interval := by
  simp [State.expiry, scheduleTimer]

theorem waits_scheduleTimer (s : State T σ) : (M.scheduleTimer s).waits = 1 := by
  simp [State.waits, scheduleTimer]

theorem handlers_scheduleTimer (s : State T σ) :
    (M.scheduleTimer s).handlers = s.handlers ++ List.replicate s.waits true := by
  simp [State.handlers, State.waits, scheduleTimer]

/-- **One wait, or one call of the handler, is to come**, unless an exception has ended the loop; no
wait was cancelled, and the work was begun at times that are at least the interval apart. -/
structure Regular (s : State T σ) : Prop where
  pending : s.thrown = false → s.waits + s.handlers.length = 1
  uncancelled : ∀ cancelled ∈ s.handlers, cancelled = false
  due : s.handlers ≠ [] → s.expiry ≤ s.now
  spaced : Spaced M.interval s.ticks
  next : s.thrown = false → ∀ t ∈ s.ticks, t + M.interval ≤ s.expiry

variable {M} {s t : State T σ}

theorem handlers_start (now : ℤ) (component : σ) : (M.start T now component).handlers = [] := by
  rw [start, handlers_scheduleTimer]
  simp [State.handlers, State.waits]

theorem regular_start (now : ℤ) (component : σ) : M.Regular (M.start T now component) where
  pending _ := by
    rw [handlers_start, start, waits_scheduleTimer]
    rfl
  uncancelled := by
    rw [handlers_start]
    exact List.forall_mem_nil _
  due h := absurd (handlers_start now component) h
  spaced := .nil _
  next _ := List.forall_mem_nil _

/-- What a call of the handler does in a regular state: the work. -/
theorem handler_cases (hs : M.Regular s) {input : ι} {done : ℤ}
    (h : (M.system T).step s (.handler input done) = some t) :
    s.thrown = false ∧ s.expiry ≤ s.now ∧ s.now ≤ done ∧ s.waits = 0 ∧ s.handlers.tail = [] ∧
      t = M.onTimer { s with timer := T.callHandler s.timer } false input done := by
  obtain ⟨hthrown, h⟩ := Option.ite_none_left_eq_some.mp h
  have hthrown : s.thrown = false := Bool.eq_false_iff.mpr hthrown
  have hpending := hs.pending hthrown
  cases hhandlers : s.handlers with
  | nil =>
    simp only [hhandlers] at h
    cases h
  | cons cancelled rest =>
    simp only [hhandlers] at h
    rw [hhandlers, List.length_cons] at hpending
    obtain ⟨hdone, h⟩ := Option.ite_none_right_eq_some.mp h
    obtain rfl : cancelled = false := hs.uncancelled _ (hhandlers ▸ List.mem_cons_self)
    obtain rfl : rest = [] := List.length_eq_zero_iff.mp (by omega)
    refine ⟨hthrown, hs.due (hhandlers ▸ List.cons_ne_nil _ _), hdone, by omega, rfl, ?_⟩
    exact (Option.some.inj h).symm

/-- What a call of the handler does to the component. -/
theorem component_onTimer (s : State T σ) (input : ι) (done : ℤ) :
    (M.onTimer s false input done).component = (M.work s.component input).1 := by
  rw [onTimer, if_neg (by decide), rearm]
  split <;> rfl

theorem ticks_onTimer (s : State T σ) (input : ι) (done : ℤ) :
    (M.onTimer s false input done).ticks = s.ticks ++ [s.now] := by
  rw [onTimer, if_neg (by decide), rearm]
  split <;> rfl

theorem thrown_onTimer (s : State T σ) (input : ι) (done : ℤ) :
    (M.onTimer s false input done).thrown = (M.work s.component input).2 := by
  rw [onTimer, if_neg (by decide), rearm]
  split <;> rfl

/-- The work of a tick, in a regular state. -/
theorem regular_onTimer (hs : M.Regular s) (hthrown : s.thrown = false) (hdue : s.expiry ≤ s.now)
    (hwaits : s.waits = 0) (hlast : s.handlers.tail = []) {input : ι} {done : ℤ}
    (hdone : s.now ≤ done) :
    M.Regular (M.onTimer { s with timer := T.callHandler s.timer } false input done) := by
  have hinterval := M.interval_nonneg
  have hearlier : ∀ t ∈ s.ticks, t + M.interval ≤ s.now := fun t ht =>
    (hs.next hthrown t ht).trans hdue
  have hspaced : Spaced M.interval (s.ticks ++ [s.now]) := hs.spaced.append_singleton hearlier
  -- the state behind the work
  let r := ({ s with timer := T.callHandler s.timer } : State T σ).worked
    (M.work s.component input) done
  have hr : r.handlers = [] ∧ r.waits = 0 := by
    constructor
    · show (T.view (T.callHandler s.timer)).handlers = []
      rw [T.view_callHandler]
      exact hlast
    · show (T.view (T.callHandler s.timer)).waits = 0
      rw [T.view_callHandler]
      exact hwaits
  show M.Regular (M.rearm r)
  rw [rearm]
  split
  · next hthrew =>
    refine ⟨fun h => ?_, ?_, fun h => absurd hr.1 h, hspaced, fun h => ?_⟩
    · exact absurd (hthrew.symm.trans h) (by decide)
    · rw [hr.1]
      exact List.forall_mem_nil _
    · exact absurd (hthrew.symm.trans h) (by decide)
  · have hhandlers : (M.scheduleTimer r).handlers = [] := by
      rw [handlers_scheduleTimer, hr.1, hr.2]
      rfl
    refine ⟨fun _ => ?_, ?_, fun h => absurd hhandlers h, hspaced, fun _ t ht => ?_⟩
    · rw [hhandlers, waits_scheduleTimer]
      rfl
    · rw [hhandlers]
      exact List.forall_mem_nil _
    · rw [expiry_scheduleTimer]
      show t + M.interval ≤ done + M.interval
      rcases List.mem_append.mp ht with ht | ht
      · have hle := hearlier t ht
        omega
      · have heq : t = s.now := List.mem_singleton.mp ht
        omega

theorem regular_step {a : Action ι κ} (hs : M.Regular s) (h : (M.system T).step s a = some t) :
    M.Regular t := by
  have hthrown : s.thrown = false :=
    Bool.eq_false_iff.mpr (Option.ite_none_left_eq_some.mp h).1
  cases a with
  | clock time =>
    obtain ⟨htime, h⟩ := Option.ite_none_right_eq_some.mp (Option.ite_none_left_eq_some.mp h).2
    obtain rfl := Option.some.inj h
    exact ⟨hs.pending, hs.uncancelled, fun hne => (hs.due hne).trans htime, hs.spaced, hs.next⟩
  | expire =>
    obtain ⟨⟨hdue, hwaits⟩, h⟩ :=
      Option.ite_none_right_eq_some.mp (Option.ite_none_left_eq_some.mp h).2
    obtain rfl := Option.some.inj h
    have hpending := hs.pending hthrown
    have hview := T.view_expire s.timer
    refine ⟨fun _ => ?_, fun cancelled hmem => ?_, fun _ => ?_, hs.spaced, fun hok t ht => ?_⟩
    · rw [State.waits, State.handlers, hview]
      show 0 + (s.handlers ++ List.replicate s.waits false).length = 1
      rw [List.length_append, List.length_replicate]
      omega
    · rw [State.handlers, hview] at hmem
      rcases List.mem_append.mp hmem with hmem | hmem
      · exact hs.uncancelled cancelled hmem
      · exact List.eq_of_mem_replicate hmem
    · rw [State.expiry, hview]
      exact hdue
    · rw [State.expiry, hview]
      exact hs.next hok t ht
  | handler input done =>
    obtain ⟨-, hdue, hdone, hwaits, hlast, rfl⟩ := handler_cases hs h
    exact regular_onTimer hs hthrown hdue hwaits hlast hdone
  | other k =>
    obtain rfl := Option.some.inj (Option.ite_none_left_eq_some.mp h).2
    exact ⟨hs.pending, hs.uncancelled, hs.due, hs.spaced, hs.next⟩

/-- **Regular for ever.** After every run one wait, or one call of the handler, is to come, unless
an exception has ended the loop. -/
theorem regular_run {now : ℤ} {component : σ} {as : List (Action ι κ)}
    (h : (M.system T).run (M.start T now component) as = some t) : M.Regular t :=
  (M.system T).run_invariant (fun _ _ _ hs h => regular_step hs h) (regular_start now component) h

/-- **The work is not done too often**: in a window of length `w`, at most `w / interval + 1`
times. -/
theorem Regular.ticks_in_window (hs : M.Regular s) {lo hi : ℤ} (hle : lo ≤ hi) :
    (s.ticks.filter fun time => lo ≤ time ∧ time ≤ hi).length * M.interval ≤
      hi - lo + M.interval :=
  hs.spaced.count_window_mul_le M.interval_nonneg hle

/-! ### The component without its timer -/

/-- What an action does to the component. -/
def Action.effect {α : Type*} (tick : ι → α) (act : κ → α) : Action ι κ → Option α
  | .handler input _ => some (tick input)
  | .other k => some (act k)
  | _ => none

/-- **The timer does not matter to the component.** Let the work of a tick, and what others do, be
actions of a system `N`, in all states that satisfy `P`. Then every run does to the component what
these actions do in `N`, one after another. -/
theorem component_run {α : Type*} {N : ActionSystem σ α} {tick : ι → α} {act : κ → α}
    {P : State T σ → Prop} (hP : ∀ s a t, P s → (M.system T).step s a = some t → P t)
    (hwork : ∀ s input, P s → s.thrown = false →
      N.step s.component (tick input) = some (M.work s.component input).1)
    (hother : ∀ s k, P s → s.thrown = false →
      N.step s.component (act k) = some (M.other s.component k))
    {now : ℤ} {component : σ} {as : List (Action ι κ)} (hs : P (M.start T now component))
    (h : (M.system T).run (M.start T now component) as = some t) :
    N.run component (as.filterMap (Action.effect tick act)) = some t.component := by
  refine (M.system T).run_filterMap (f := State.component) (P := fun s => P s ∧ M.Regular s)
    (fun s a t hs h => ⟨hP s a t hs.1 h, regular_step hs.2 h⟩) ?_ ?_
    ⟨hs, regular_start now component⟩ h
  · intro s a t hs h heffect
    have h' := (Option.ite_none_left_eq_some.mp h).2
    cases a with
    | clock time =>
      obtain rfl := Option.some.inj (Option.ite_none_right_eq_some.mp h').2
      rfl
    | expire =>
      obtain rfl := Option.some.inj (Option.ite_none_right_eq_some.mp h').2
      rfl
    | handler input done => cases heffect
    | other k => cases heffect
  · intro s a t b hs h heffect
    cases a with
    | clock time => cases heffect
    | expire => cases heffect
    | handler input done =>
      obtain rfl := Option.some.inj heffect
      obtain ⟨hthrown, -, -, -, -, rfl⟩ := handler_cases hs.2 h
      rw [component_onTimer, hwork s input hs.1 hthrown]
    | other k =>
      obtain rfl := Option.some.inj heffect
      obtain ⟨hthrown, h⟩ := Option.ite_none_left_eq_some.mp h
      obtain rfl := Option.some.inj h
      exact hother s k hs.1 (Bool.eq_false_iff.mpr hthrown)

end PeriodicTask
