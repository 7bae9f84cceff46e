import BluetoothAuto.Router.EventLoop

/-!
# The timers of `socktap-cam`

A handler of the io service that calls `TimeTrigger::schedule` leaves the timer armed for whatever
comes next. `CamApplication::set_interval` schedules its callback without such a call, so the
first CAM waits for the timer of the position vector; after that the timer is always armed in
time.

The callbacks are at least their period apart, however the calls are nested, because each is
scheduled again relative to the time at which it is made. With `--cam-interval 0`, which the
options allow, the callback is due again as soon as it is made, and the runtime never comes to an
end with it.

## Main results

* `EventLoop.armed_run` — between two handlers the timer is armed in time
* `EventLoop.cams_in_window` — how many CAM ticks there are in a window of time
* `EventLoop.not_overdue_run` — when `TimeTrigger::schedule` returns, no callback is overdue
* `EventLoop.never_back_in_loop` — with an interval of zero the event loop ends in its first call
-/

namespace BluetoothAuto.Router

namespace EventLoop

variable {R : ManualRuntime} {T : WaitableTimer} {β : Type}

/-! ### The timer is armed in time -/

/-- A call of `TimeTrigger::schedule` has not returned. -/
def Busy (s : EventLoop R T β) : Prop := .schedule ∈ s.stack ∨ .trigger ∈ s.stack

/-- What is due at `deadline` will not be slept through: the timer is about to be armed, or the
handler of a wait that has ended is ready, or there is a wait that ends in time. -/
def Covered (s : EventLoop R T β) (deadline : ℤ) : Prop :=
  Busy s ∨ false ∈ s.handlers ∨ ∃ expiry ∈ s.waiting, expiry ≤ deadline

/-- The timer is armed for the callbacks of an owner: always for the position vector, and for the
application from its first tick on. -/
def Regular (s : EventLoop R T β) (o : Owner) : Prop :=
  o = .position ∨ o = .cam ∧ ∃ time, (.cam, time) ∈ s.called

/-- The state as far as the timer is concerned. -/
structure Armed (s : EventLoop R T β) : Prop where
  scheduled : Scheduled s
  /-- The application has been set up when it is called. -/
  setup : (∃ time, (.cam, time) ∈ s.called) → s.toSetUp .cam = 0
  covered : ∀ c ∈ s.callbacks, Regular s c.owner → Covered s c.deadline

theorem Quiet.mem_stack {s t : EventLoop R T β} (h : Quiet s t) {f : Frame β}
    (hf : f.heavy = true) : f ∈ t.stack ↔ f ∈ s.stack := by
  have hiff : ∀ l : List (Frame β), f ∈ l ↔ f ∈ l.filter Frame.heavy := fun l =>
    (List.mem_filter.trans (and_iff_left hf)).symm
  rw [hiff t.stack, hiff s.stack, h.heavy]

theorem Quiet.busy_iff {s t : EventLoop R T β} (h : Quiet s t) : Busy t ↔ Busy s :=
  or_congr (h.mem_stack rfl) (h.mem_stack rfl)

theorem Quiet.handlers {s t : EventLoop R T β} (h : Quiet s t) : t.handlers = s.handlers := by
  rw [EventLoop.handlers, h.timer, EventLoop.handlers]

theorem Quiet.waiting {s t : EventLoop R T β} (h : Quiet s t) : t.waiting = s.waiting := by
  rw [EventLoop.waiting, h.timer, EventLoop.waiting]

/-- After `TimeTrigger::schedule` there is a wait that ends in time for everything. -/
theorem covered_arm {s : EventLoop R T β} {c : Callback} (hc : c ∈ s.callbacks) :
    Covered s.arm c.deadline := by
  rw [arm]
  split
  · next next hnext =>
    refine .inr (.inr ⟨next, ?_, R.next_le hnext c hc⟩)
    simp [waiting]
  · next hnext =>
    rw [callbacks, R.scheduled_of_next hnext] at hc
    exact absurd hc (Multiset.notMem_zero c)

theorem callbacks_arm (s : EventLoop R T β) : s.arm.callbacks = s.callbacks := by
  rw [arm]
  split <;> rfl

theorem called_arm (s : EventLoop R T β) : s.arm.called = s.called := by
  rw [arm]
  split <;> rfl

/-- A return from a function other than `TimeTrigger::schedule` leaves its calls as they are. -/
theorem Busy.returnTo {s : EventLoop R T β} (h : Busy s) {f : Frame β} {rest : List (Frame β)}
    (hs : s.stack = f :: rest) (hschedule : f ≠ .schedule) (htrigger : f ≠ .trigger) :
    Busy (s.returnTo rest) := by
  rw [Busy, hs] at h
  exact h.imp (fun h => (List.mem_cons.mp h).resolve_left (Ne.symm hschedule))
    fun h => (List.mem_cons.mp h).resolve_left (Ne.symm htrigger)

theorem Covered.returnTo {s : EventLoop R T β} {d : ℤ} (h : Covered s d) {f : Frame β}
    {rest : List (Frame β)} (hs : s.stack = f :: rest) (hschedule : f ≠ .schedule)
    (htrigger : f ≠ .trigger) : Covered (s.returnTo rest) d := by
  exact h.imp_left fun hbusy => hbusy.returnTo hs hschedule htrigger

theorem toSetUp_arm (s : EventLoop R T β) (o : Owner) : s.arm.toSetUp o = s.toSetUp o := by
  rw [arm]
  split <;> rfl

/-- Nothing adds a call to `main`. -/
theorem toSetUp_step_le {s t : EventLoop R T β} {a : Action β}
    (h : (system R T β).step s a = some t) (o : Owner) : t.toSetUp o ≤ s.toSetUp o := by
  have hreturn : ∀ {f : Frame β} {rest}, s.stack = f :: rest →
      (s.returnTo rest).toSetUp o ≤ s.toSetUp o := fun hs => by
    rw [toSetUp_returnTo hs]
    exact Nat.le_add_right _ _
  cases effect_of_step h with
  | quiet hq => exact (toSetUp_of_quiet hq o).le
  | updateRuntime time hstack =>
    rw [updateRuntime, toSetUp_enter _ (by simp [Frame.setup])]
    exact hreturn hstack
  | @call _ c _ _ _ _ =>
    rw [toSetUp, stack_call]
    exact (toSetUp_enter s (fun _ => setup_framesOf) o).le
  | arm hstack _ =>
    rw [toSetUp_arm]
    exact hreturn hstack
  | send hstack => exact hreturn hstack
  | request _ hallow =>
    rw [request, if_neg (by simp [hallow])]
    exact (toSetUp_enter _ (by simp [Frame.setup]) o).le
  | routerSchedule _ _ _ => exact le_rfl
  | routerCancel _ _ => exact le_rfl
  | positionVector hstack =>
    rw [toSetUp_updatePositionVector]
    exact hreturn hstack
  | camApplication hstack => exact hreturn hstack
  | expire _ _ _ => exact le_rfl
  | onTimeout _ _ =>
    rw [onTimeout]
    split
    · exact le_rfl
    · exact (toSetUp_enter _ (by simp [Frame.setup]) o).le
  | passUp _ => exact (toSetUp_enter _ (by simp [Frame.setup]) o).le

/-- Only the runtime calls back. -/
theorem called_step {s t : EventLoop R T β} {a : Action β} (h : (system R T β).step s a = some t) :
    t.called = s.called ∨
      ∃ c ∈ s.callbacks, c.deadline ≤ s.now ∧ t.called = s.called ++ [(c.owner, s.now)] := by
  cases effect_of_step h with
  | quiet hq => exact .inl hq.called
  | @call _ c _ _ hc hdue =>
    exact .inr ⟨c, by rw [hc]; exact Multiset.mem_cons_self _ _, hdue, called_call _ c⟩
  | arm _ _ => exact .inl (called_arm _)
  | request _ hallow =>
    refine .inl ?_
    rw [request, if_neg (by simp [hallow])]
    rfl
  | onTimeout _ _ =>
    refine .inl ?_
    rw [onTimeout]
    split <;> rfl
  | _ => exact .inl rfl

/-- Nothing is scheduled at first. -/
theorem notMem_callbacks_main {time : ℤ} {flag : Bool} {interval : ℕ} (c : Callback) :
    c ∉ (main (R := R) (T := T) (β := β) time flag interval).callbacks := by
  rw [callbacks, main, R.scheduled_empty]
  exact Multiset.notMem_zero c

theorem armed_main (time : ℤ) (flag : Bool) (interval : ℕ) :
    Armed (main (R := R) (T := T) (β := β) time flag interval) where
  scheduled := scheduled_main time flag interval
  setup := fun ⟨_, h⟩ => absurd h List.not_mem_nil
  covered c hc := absurd hc (notMem_callbacks_main c)

/-- Once there has been a CAM tick, nothing is left of `main`. -/
theorem Armed.setup_step {s t : EventLoop R T β} {a : Action β} (hs : Armed s)
    (h : (system R T β).step s a = some t) (hcalled : ∃ time, (.cam, time) ∈ t.called) :
    t.toSetUp .cam = 0 := by
  obtain ⟨time, hcalled⟩ := hcalled
  refine Nat.eq_zero_of_le_zero ((toSetUp_step_le h .cam).trans_eq ?_)
  obtain heq | ⟨c, hc, -, heq⟩ := called_step h
  · exact hs.setup ⟨time, heq ▸ hcalled⟩
  · rw [heq, List.mem_append] at hcalled
    rcases hcalled with hcalled | hcalled
    · exact hs.setup ⟨time, hcalled⟩
    · have hown : .cam = c.owner := congrArg Prod.fst (List.mem_singleton.mp hcalled)
      obtain ⟨others, hothers⟩ := Multiset.exists_cons_of_mem hc
      rw [hown]
      exact (hs.scheduled.unique hothers (by rw [← hown]; rfl)).1

/-- What is scheduled after a step is covered by the wait, by its handler, or by a call that has not
returned. -/
theorem Armed.covered_step {s t : EventLoop R T β} {a : Action β} (hs : Armed s)
    (h : (system R T β).step s a = some t) :
    ∀ c ∈ t.callbacks, Regular t c.owner → Covered t c.deadline := by
  cases effect_of_step h with
  | quiet hq =>
    intro c hc hr
    rw [hq.callbacks] at hc
    rw [Regular, hq.called] at hr
    have := hs.covered c hc hr
    rw [Covered, hq.busy_iff, hq.handlers, hq.waiting]
    exact this
  | updateRuntime time hstack => exact fun c _ _ => .inl (.inr List.mem_cons_self)
  | @call _ c _ hstack hc hdue =>
    intro d _ _
    refine .inl (.inr ?_)
    rw [stack_call, hstack]
    exact List.mem_append_right _ List.mem_cons_self
  | arm hstack hdue =>
    intro c hc _
    rw [callbacks_arm] at hc
    exact covered_arm hc
  | send hstack =>
    intro c hc hr
    exact (hs.covered c hc hr).returnTo hstack (by simp) (by simp)
  | request hstack hallow =>
    intro c _ _
    refine .inl (.inl ?_)
    rw [request, if_neg (by simp [hallow])]
    exact List.mem_cons_self
  | routerSchedule scope delay hstack =>
    intro c hc hr
    rw [callbacks_scheduleCallback] at hc
    rcases Multiset.mem_cons.mp hc with rfl | hc
    · rcases hr with hr | ⟨hr, -⟩ <;> cases hr
    · exact hs.covered c hc hr
  | routerCancel scope hstack =>
    intro c hc hr
    rw [callbacks_cancelCallbacks] at hc
    exact hs.covered c (Multiset.mem_of_mem_filter hc) hr
  | positionVector hstack => exact fun c _ _ => .inl (.inl List.mem_cons_self)
  | camApplication hstack =>
    intro c hc hr
    rw [callbacks_camApplication] at hc
    rcases Multiset.mem_cons.mp hc with rfl | hc
    · -- there has not been a CAM tick yet
      rcases hr with hr | ⟨-, hr⟩
      · cases hr
      · have := hs.setup hr
        rw [toSetUp_returnTo hstack] at this
        simp [Frame.setup] at this
    · exact (hs.covered c (Multiset.mem_of_mem_filter hc) hr).returnTo hstack (by simp) (by simp)
  | expire hstack hw hle =>
    refine fun c _ _ => .inr (.inl ?_)
    have hwaits : (T.view s.timer).waits ≠ 0 := fun hzero => by simp [waiting, hzero] at hw
    simp [handlers, hwaits]
  | @onTimeout aborted handlers hstack hh =>
    intro c hc hr
    cases aborted with
    | false => exact .inl (.inl List.mem_cons_self)
    | true =>
      have hcovered := hs.covered c hc hr
      rw [Covered, hh, List.mem_cons, or_iff_right (by decide : ¬ false = true)] at hcovered
      show Covered { s with timer := T.callHandler s.timer } c.deadline
      rw [Covered, handlers_callHandler, waiting_callHandler, hh]
      exact hcovered
  | passUp hstack => exact fun c _ _ => .inl (.inl List.mem_cons_self)

theorem armed_step {s t : EventLoop R T β} {a : Action β} (hs : Armed s)
    (h : (system R T β).step s a = some t) : Armed t :=
  ⟨scheduled_step hs.scheduled h, hs.setup_step h, hs.covered_step h⟩

theorem armed_of_run {as : List (Action β)} {time : ℤ} {flag : Bool} {interval : ℕ}
    {s : EventLoop R T β} (h : (system R T β).run (main time flag interval) as = some s) :
    Armed s :=
  (system R T β).run_invariant (fun _ _ _ hs hstep => armed_step hs hstep)
    (armed_main time flag interval) h

/-- **The timer is armed in time.** In every run, between two handlers, the update of the position
vector is scheduled, and so is the CAM tick; and the handler of a wait that has ended is ready, or
there is a wait that ends no later than the position vector is due and, once there has been a CAM
tick, no later than the next one is. -/
theorem armed_run {as : List (Action β)} {time : ℤ} {flag : Bool} {interval : ℕ}
    {s : EventLoop R T β} (h : (system R T β).run (main time flag interval) as = some s)
    (hidle : s.stack = []) :
    (∃ c ∈ s.callbacks, c.owner = .position) ∧ (∃ c ∈ s.callbacks, c.owner = .cam) ∧
      (false ∈ s.handlers ∨ ∃ expiry ∈ s.waiting,
        (∀ c ∈ s.callbacks, c.owner = .position → expiry ≤ c.deadline) ∧
        ((∃ time, (.cam, time) ∈ s.called) →
          ∀ c ∈ s.callbacks, c.owner = .cam → expiry ≤ c.deadline)) := by
  have hs := armed_of_run h
  obtain ⟨c, hc, hown⟩ := hs.scheduled.exists_of_idle hidle (o := .position) (by decide)
  refine ⟨⟨c, hc, hown⟩, hs.scheduled.exists_of_idle hidle (by decide), ?_⟩
  have hbusy : ¬ Busy s := by simp [Busy, hidle]
  have hcov : ∀ c ∈ s.callbacks, Regular s c.owner → false ∈ s.handlers ∨
      ∃ expiry ∈ s.waiting, expiry ≤ c.deadline := fun c hc hr =>
    (hs.covered c hc hr).resolve_left hbusy
  by_cases hready : false ∈ s.handlers
  · exact .inl hready
  · obtain ⟨expiry, hw, -⟩ := (hcov c hc (.inl hown)).resolve_left hready
    refine .inr ⟨expiry, hw, fun d hd hown => ?_, fun hcalled d hd hown => ?_⟩
    · obtain ⟨expiry', hw', hle⟩ := (hcov d hd (.inl hown)).resolve_left hready
      obtain rfl := Option.some.inj (hw.symm.trans hw')
      exact hle
    · obtain ⟨expiry', hw', hle⟩ := (hcov d hd (.inr ⟨hown, hcalled⟩)).resolve_left hready
      obtain rfl := Option.some.inj (hw.symm.trans hw')
      exact hle

/-- The timer after the first CAM tick, with an interval of 100 ms. -/
theorem armed_first_tick :
    ∃ s, (system listRuntime viewTimer Unit).run (main 0 false 100) (setUp ++ firstTick) =
        some s ∧
      s.stack = [] ∧ (.cam, 1000000) ∈ s.called ∧
      (false ∈ s.handlers ∨ ∃ expiry ∈ s.waiting,
        (∀ c ∈ s.callbacks, c.owner = .position → expiry ≤ c.deadline) ∧
        ((∃ time, (.cam, time) ∈ s.called) →
          ∀ c ∈ s.callbacks, c.owner = .cam → expiry ≤ c.deadline)) := by
  have hrun : (system listRuntime viewTimer Unit).run (main 0 false 100)
      (setUp ++ firstTick) = some _ := rfl
  refine ⟨_, hrun, ?_, ?_, ?_⟩
  · rfl
  · exact List.mem_cons_self
  · exact (armed_run hrun rfl).2.2

/-! ### The callbacks keep their distance -/

/-- The times at which the callback of an owner has been made. -/
def times (s : EventLoop R T β) (o : Owner) : List ℤ :=
  (s.called.filter fun x => x.1 = o).map Prod.snd

/-- The callback of an owner, which is made again after `d`. -/
structure Paced (o : Owner) (d : ℤ) (s : EventLoop R T β) : Prop where
  scheduled : Scheduled s
  period : s.period o = some d
  /-- The owner has been set up when it is called. -/
  setup : s.times o ≠ [] → s.toSetUp o = 0
  spaced : Spaced d (s.times o)
  late : ∀ c ∈ s.callbacks, c.owner = o → ∀ a ∈ s.times o, a + d ≤ c.deadline
  next : ∀ c ∈ s.callbacks, c.owner = o → ∀ a ∈ (s.times o).getLast?, c.deadline = a + d

theorem period_step {s t : EventLoop R T β} {a : Action β} (h : (system R T β).step s a = some t) :
    t.period = s.period := by
  have hinterval : t.camInterval = s.camInterval := by
    cases effect_of_step h with
    | quiet hq => exact hq.camInterval
    | @call _ c _ _ _ _ => exact (quiet_fields_call _ c).2.2.1
    | arm _ _ =>
      rw [arm]
      split <;> rfl
    | request _ hallow =>
      rw [request, if_neg (by simp [hallow])]
      rfl
    | onTimeout _ _ =>
      rw [onTimeout]
      split <;> rfl
    | _ => rfl
  funext o
  cases o with
  | cam => exact congrArg some hinterval
  | _ => rfl

/-- What a step does to the callbacks of an owner that schedules itself: it makes one, or it adds
none, unless it sets the owner up. -/
theorem callbacks_step {s t : EventLoop R T β} {a : Action β} (h : (system R T β).step s a = some t)
    {o : Owner} (ho : o.program = true) :
    (∃ c queue, s.callbacks = c ::ₘ R.scheduled queue ∧ c.deadline ≤ s.now ∧
        t = { s with queue }.call c) ∨
      t.called = s.called ∧ ∀ c ∈ t.callbacks, c.owner = o → c ∈ s.callbacks ∨
        s.toSetUp o ≠ 0 ∧ ∃ p ∈ s.period o, c.deadline = s.now + p := by
  cases effect_of_step h with
  | @call _ c queue _ hc hdue => exact .inl ⟨c, queue, hc, hdue, rfl⟩
  | quiet hq => exact .inr ⟨hq.called, fun c hc _ => .inl (hq.callbacks ▸ hc)⟩
  | arm _ _ =>
    refine .inr ⟨called_arm _, fun c hc _ => ?_⟩
    rw [callbacks_arm] at hc
    exact .inl hc
  | request _ hallow =>
    rw [request, if_neg (by simp [hallow])]
    exact .inr ⟨rfl, fun c hc _ => .inl hc⟩
  | routerSchedule scope delay _ =>
    refine .inr ⟨rfl, fun c hc hown => ?_⟩
    rw [callbacks_scheduleCallback] at hc
    rcases Multiset.mem_cons.mp hc with rfl | hc
    · exact absurd hown.symm (Owner.ne_router ho scope)
    · exact .inl hc
  | routerCancel scope _ =>
    refine .inr ⟨rfl, fun c hc _ => .inl ?_⟩
    rw [callbacks_cancelCallbacks] at hc
    exact Multiset.mem_of_mem_filter hc
  | positionVector hstack =>
    refine .inr ⟨rfl, fun c hc hown => ?_⟩
    rw [callbacks_updatePositionVector] at hc
    rcases Multiset.mem_cons.mp hc with rfl | hc
    · obtain rfl := hown
      rw [toSetUp_returnTo hstack]
      exact .inr ⟨Nat.succ_ne_zero _, _, rfl, rfl⟩
    · exact .inl hc
  | camApplication hstack =>
    refine .inr ⟨rfl, fun c hc hown => ?_⟩
    rw [callbacks_camApplication] at hc
    rcases Multiset.mem_cons.mp hc with rfl | hc
    · obtain rfl := hown
      rw [toSetUp_returnTo hstack]
      exact .inr ⟨Nat.succ_ne_zero _, _, rfl, rfl⟩
    · exact .inl (Multiset.mem_of_mem_filter hc)
  | onTimeout _ _ =>
    rw [onTimeout]
    split
    · exact .inr ⟨rfl, fun c hc _ => .inl hc⟩
    · exact .inr ⟨rfl, fun c hc _ => .inl hc⟩
  | _ => exact .inr ⟨rfl, fun c hc _ => .inl hc⟩

theorem times_call (s : EventLoop R T β) (c : Callback) (o : Owner) :
    (s.call c).times o = s.times o ++ if c.owner = o then [s.now] else [] := by
  rw [times, called_call, List.filter_append, List.map_append]
  by_cases hown : c.owner = o
  · rw [if_pos hown, List.filter_cons_of_pos (by simpa using hown)]
    rfl
  · rw [if_neg hown, List.filter_cons_of_neg (by simpa using hown)]
    rfl

/-- After a call the callback of an owner is the new one, if the owner is called, and otherwise an
old one. -/
theorem mem_callbacks_call {s : EventLoop R T β} (hs : Scheduled s) {c d : Callback}
    {queue : R.Queue} (hc : s.callbacks = c ::ₘ R.scheduled queue)
    (hd : d ∈ ({ s with queue }.call c).callbacks) (hprogram : d.owner.program = true) :
    d.owner = c.owner ∧ (∃ p ∈ s.period d.owner, d.deadline = s.now + p) ∨
      d.owner ≠ c.owner ∧ d ∈ s.callbacks := by
  have hold : d ∈ R.scheduled queue → d.owner ≠ c.owner ∧ d ∈ s.callbacks := fun hd =>
    ⟨fun hown => (hs.unique hc (hown ▸ hprogram)).2 d hd hown, hc ▸ Multiset.mem_cons_of_mem hd⟩
  rw [callbacks_call] at hd
  replace hd : d ∈ (s.period c.owner).elim (R.scheduled queue) fun p =>
    ⟨c.owner, s.now + p⟩ ::ₘ R.scheduled queue := hd
  cases hp : s.period c.owner with
  | none =>
    rw [hp] at hd
    exact .inr (hold hd)
  | some p =>
    rw [hp, Option.elim_some] at hd
    rcases Multiset.mem_cons.mp hd with rfl | hd
    · exact .inl ⟨rfl, p, hp, rfl⟩
    · exact .inr (hold hd)

theorem paced_call {o : Owner} {d : ℤ} (ho : o.program = true) (hd : 0 ≤ d)
    {s : EventLoop R T β} (hs : Paced o d s) {c : Callback} {queue : R.Queue}
    (hc : s.callbacks = c ::ₘ R.scheduled queue) (hdue : c.deadline ≤ s.now) :
    Spaced d (({ s with queue }.call c).times o) ∧
      ∀ e ∈ ({ s with queue }.call c).callbacks, e.owner = o →
        (∀ a ∈ ({ s with queue }.call c).times o, a + d ≤ e.deadline) ∧
          ∀ a ∈ (({ s with queue }.call c).times o).getLast?, e.deadline = a + d := by
  have hmem : c ∈ s.callbacks := hc ▸ Multiset.mem_cons_self _ _
  have htimes : ({ s with queue }.call c).times o =
      s.times o ++ if c.owner = o then [s.now] else [] := times_call _ c o
  rw [htimes]
  by_cases hown : c.owner = o
  · -- every earlier call is at least `d` before the deadline that is due
    have hlate : ∀ a ∈ s.times o, a + d ≤ s.now := fun a ha =>
      (hs.late c hmem hown a ha).trans hdue
    rw [if_pos hown]
    refine ⟨hs.spaced.append_singleton hlate, fun e he heown => ?_⟩
    obtain ⟨-, p, hp, hdeadline⟩ | ⟨hne, -⟩ :=
      mem_callbacks_call hs.scheduled hc he (heown ▸ ho)
    · rw [heown, hs.period] at hp
      obtain rfl := Option.some.inj hp
      refine ⟨fun a ha => ?_, fun a ha => ?_⟩
      · rcases List.mem_append.mp ha with ha | ha
        · have := hlate a ha
          omega
        · rw [List.mem_singleton.mp ha, hdeadline]
      · rw [List.getLast?_concat] at ha
        rw [← Option.some.inj ha, hdeadline]
    · exact absurd (heown.trans hown.symm) hne
  · rw [if_neg hown, List.append_nil]
    refine ⟨hs.spaced, fun e he heown => ?_⟩
    obtain ⟨heq, -⟩ | ⟨-, he⟩ := mem_callbacks_call hs.scheduled hc he (heown ▸ ho)
    · exact absurd (heq.symm.trans heown) hown
    · exact ⟨hs.late e he heown, hs.next e he heown⟩

theorem paced_step {o : Owner} {d : ℤ} (ho : o.program = true) (hd : 0 ≤ d) {s t : EventLoop R T β}
    {a : Action β} (hs : Paced o d s) (h : (system R T β).step s a = some t) : Paced o d t := by
  have hscheduled := scheduled_step hs.scheduled h
  have hperiod : t.period o = some d := by rw [period_step h, hs.period]
  obtain ⟨c, queue, hc, hdue, rfl⟩ | ⟨hcalled, hcallbacks⟩ := callbacks_step h ho
  · obtain ⟨hspaced, hnext⟩ := paced_call ho hd hs hc hdue
    refine ⟨hscheduled, hperiod, fun htimes => ?_, hspaced, fun e he hown => (hnext e he hown).1,
      fun e he hown => (hnext e he hown).2⟩
    refine Nat.eq_zero_of_le_zero ((toSetUp_step_le h o).trans_eq ?_)
    by_cases hown : c.owner = o
    · exact hown ▸ (hs.scheduled.unique hc (hown ▸ ho)).1
    · rw [times_call, if_neg hown, List.append_nil] at htimes
      exact hs.setup htimes
  · have htimes : t.times o = s.times o := by rw [times, hcalled, times]
    have hsetup : t.times o ≠ [] → s.toSetUp o = 0 := htimes ▸ hs.setup
    refine ⟨hscheduled, hperiod, fun hne => ?_, htimes ▸ hs.spaced, fun e he hown a ha => ?_,
      fun e he hown a ha => ?_⟩
    · exact Nat.eq_zero_of_le_zero ((toSetUp_step_le h o).trans_eq (hsetup hne))
    · have hzero := hsetup (List.ne_nil_of_mem ha)
      have he := (hcallbacks e he hown).resolve_right fun h => h.1 hzero
      exact hs.late e he hown a (htimes ▸ ha)
    · have hzero := hsetup (List.ne_nil_of_mem (List.mem_of_getLast? ha))
      have he := (hcallbacks e he hown).resolve_right fun h => h.1 hzero
      exact hs.next e he hown a (htimes ▸ ha)

theorem paced_main (time : ℤ) (flag : Bool) (interval : ℕ) {o : Owner} {d : ℤ}
    (h : (main (R := R) (T := T) (β := β) time flag interval).period o = some d) :
    Paced o d (main (R := R) (T := T) (β := β) time flag interval) where
  scheduled := scheduled_main time flag interval
  period := h
  setup h := absurd rfl h
  spaced := Spaced.nil d
  late c hc := absurd hc (notMem_callbacks_main c)
  next c hc := absurd hc (notMem_callbacks_main c)

/-- The options give every owner with a period one that is not negative. -/
theorem period_main {time : ℤ} {flag : Bool} {interval : ℕ} {o : Owner} {d : ℤ}
    (h : (main (R := R) (T := T) (β := β) time flag interval).period o = some d) :
    o.program = true ∧ 0 ≤ d := by
  cases o with
  | position =>
    obtain rfl := Option.some.inj h
    exact ⟨by decide, by decide⟩
  | cam =>
    obtain rfl := Option.some.inj h
    refine ⟨by decide, ?_⟩
    show (0 : ℤ) ≤ 1000 * interval
    omega
  | router => cases h

theorem paced_run {as : List (Action β)} {time : ℤ} {flag : Bool} {interval : ℕ}
    {s : EventLoop R T β} (h : (system R T β).run (main time flag interval) as = some s)
    {o : Owner} {d : ℤ}
    (hperiod : (main (R := R) (T := T) (β := β) time flag interval).period o = some d) :
    Paced o d s :=
  (system R T β).run_invariant
    (fun _ _ _ hs hstep => paced_step (period_main hperiod).1 (period_main hperiod).2 hs hstep)
    (paced_main time flag interval hperiod) h

/-- **CAM ticks in a window.** In every run, in any window of time by the clock of the runtime,
the number of CAM ticks is at most the length of the window by the interval, and one more. -/
theorem cams_in_window {as : List (Action β)} {time : ℤ} {flag : Bool} {interval : ℕ}
    {s : EventLoop R T β} (h : (system R T β).run (main time flag interval) as = some s) {lo hi : ℤ}
    (hle : lo ≤ hi) :
    ((s.times .cam).filter fun t => lo ≤ t ∧ t ≤ hi).length * (1000 * (interval : ℤ)) ≤
      hi - lo + 1000 * interval :=
  (paced_run h (o := .cam) rfl).spaced.count_window_mul_le (period_main (o := .cam) rfl).2 hle

/-- The only CAM tick of the first second. -/
theorem cams_in_first_second :
    ∃ s, (system listRuntime viewTimer Unit).run (main 0 false 100) (setUp ++ firstTick) =
        some s ∧
      ((s.times .cam).filter fun t => 0 ≤ t ∧ t ≤ 1000000).length = 1 ∧
      ((s.times .cam).filter fun t => 0 ≤ t ∧ t ≤ 1000000).length * (1000 * ((100 : ℕ) : ℤ)) ≤
        1000000 - 0 + 1000 * ((100 : ℕ) : ℤ) := by
  have hrun : (system listRuntime viewTimer Unit).run (main 0 false 100)
      (setUp ++ firstTick) = some _ := rfl
  refine ⟨_, hrun, ?_, ?_⟩
  · rfl
  · exact cams_in_window hrun (by decide)

/-- `TimeTrigger::schedule` returns when nothing is due. -/
theorem step_of_return {s t : EventLoop R T β} {rest : List (Frame β)}
    (hstack : s.stack = .trigger :: rest) (h : (system R T β).step s .proceed = some t) :
    (∀ c ∈ s.callbacks, s.now < c.deadline) ∧ t = (s.returnTo rest).arm := by
  replace h := (Option.ite_none_left_eq_some.mp h).2
  simp only [hstack, proceed] at h
  split at h
  · next hdue => exact ⟨R.not_due hdue, (Option.some.inj h).symm⟩
  · cases h

theorem now_arm (s : EventLoop R T β) : s.arm.now = s.now := by
  rw [arm]
  split <;> rfl

/-- **No callback is overdue.** In every run, whenever a call of `TimeTrigger::schedule` returns,
less than the interval has passed since the last CAM tick, and less than a second since the last
update of the position vector, by the clock of the runtime. -/
theorem not_overdue_run {as : List (Action β)} {time : ℤ} {flag : Bool} {interval : ℕ}
    {x : EventLoop R T β × Action β × EventLoop R T β}
    (hx : x ∈ (system R T β).trace (main time flag interval) as) {rest : List (Frame β)}
    (hstack : x.1.stack = .trigger :: rest) (hreturn : x.2.1 = .proceed) :
    (∀ t ∈ (x.1.times .cam).getLast?, x.2.2.now < t + 1000 * interval) ∧
      ∀ t ∈ (x.1.times .position).getLast?, x.2.2.now < t + 1000000 := by
  have hnext : ∀ {o d}, (main (R := R) (T := T) (β := β) time flag interval).period o = some d →
      ∀ t ∈ (x.1.times o).getLast?, x.2.2.now < t + d := by
    intro o d hperiod t ht
    obtain ⟨ho, hd⟩ := period_main hperiod
    obtain ⟨hs, hstep, -⟩ := (system R T β).trace_invariant
      (fun _ _ _ hs hstep => paced_step ho hd hs hstep) (paced_main time flag interval hperiod) hx
    obtain ⟨hdue, hafter⟩ := step_of_return hstack (hreturn ▸ hstep)
    -- the owner has been called, so its callback is scheduled
    have hsetup := hs.setup (List.ne_nil_of_mem (List.mem_of_getLast? ht))
    have hone := hs.scheduled o ho
    obtain ⟨c, hc, hown⟩ := Multiset.countP_pos.mp (by omega : 0 < x.1.scheduledFor o)
    rw [hafter, now_arm, ← hs.next c hc hown t ht]
    exact hdue c hc
  exact ⟨hnext rfl, hnext rfl⟩

/-- The outermost call of `TimeTrigger::schedule` returns after the first CAM tick. -/
theorem not_overdue_first_tick :
    ∃ x ∈ (system listRuntime viewTimer Unit).trace (main 0 false 100) (setUp ++ firstTick),
      x.1.stack = [.trigger] ∧ x.2.1 = .proceed ∧ x.1.times .cam = [1000000] ∧
      (∀ t ∈ (x.1.times .cam).getLast?, x.2.2.now < t + 1000 * ((100 : ℕ) : ℤ)) ∧
      ∀ t ∈ (x.1.times .position).getLast?, x.2.2.now < t + 1000000 := by
  have hx : ∃ x, ((system listRuntime viewTimer Unit).trace (main 0 false 100)
        (setUp ++ firstTick))[25]? = some x ∧
      x.1.stack = [.trigger] ∧ x.2.1 = .proceed ∧ x.1.times .cam = [1000000] := by
    refine ⟨_, rfl, ?_, ?_, ?_⟩ <;> rfl
  obtain ⟨x, hget, hstack, hreturn, htimes⟩ := hx
  have hmem := List.mem_of_getElem? hget
  exact ⟨x, hmem, hstack, hreturn, htimes, not_overdue_run hmem hstack hreturn⟩

/-! ### An interval of zero -/

/-- The clock does not go back at a step. -/
def ClockForward (x : EventLoop R T β × Action β × EventLoop R T β) : Prop :=
  match x.2.1 with
  | .updateRuntime time => x.1.now ≤ time
  | _ => True

instance instDecidableClockForward (x : EventLoop R T β × Action β × EventLoop R T β) :
    Decidable (ClockForward x) :=
  match h : x.2.1 with
  | .updateRuntime time => decidable_of_iff (x.1.now ≤ time) (by rw [ClockForward, h])
  | .proceed | .call _ | .throw | .routerSchedule _ _ | .routerCancel _ | .request _ | .expire _
  | .onTimeout | .passUp | .fetch _ => isTrue (by rw [ClockForward, h]; trivial)

/-- The CAM tick is scheduled and due. -/
structure AlwaysDue (s : EventLoop R T β) : Prop where
  scheduled : Scheduled s
  period : s.period .cam = some 0
  due : ∀ c ∈ s.callbacks, c.owner = .cam → c.deadline ≤ s.now

theorem now_step {s t : EventLoop R T β} {a : Action β} (h : (system R T β).step s a = some t) :
    t.now = s.now ∨ a = .updateRuntime t.now := by
  cases effect_of_step h with
  | quiet hq => exact .inl hq.now
  | updateRuntime time _ => exact .inr rfl
  | @call _ c _ _ _ _ => exact .inl (quiet_fields_call _ c).1
  | arm _ _ => exact .inl (now_arm _)
  | request _ hallow =>
    rw [request, if_neg (by simp [hallow])]
    exact .inl rfl
  | onTimeout _ _ =>
    rw [onTimeout]
    split <;> exact .inl rfl
  | _ => exact .inl rfl

theorem alwaysDue_step {s t : EventLoop R T β} {a : Action β} (hs : AlwaysDue s)
    (hclock : ClockForward (s, a, t)) (h : (system R T β).step s a = some t) : AlwaysDue t := by
  have hnow : s.now ≤ t.now := by
    obtain heq | ha := now_step h
    · exact heq.ge
    · rw [ha] at hclock
      exact hclock
  refine ⟨scheduled_step hs.scheduled h, by rw [period_step h, hs.period], fun c hc hown => ?_⟩
  have hnew : ∀ p ∈ s.period .cam, c.deadline = s.now + p → c.deadline ≤ t.now := by
    intro p hp hdeadline
    rw [hs.period] at hp
    obtain rfl := Option.some.inj hp
    omega
  obtain ⟨d, queue, hd, -, rfl⟩ | ⟨-, hcallbacks⟩ := callbacks_step h (o := .cam) rfl
  · obtain ⟨-, p, hp, hdeadline⟩ | ⟨-, hc⟩ :=
      mem_callbacks_call hs.scheduled hd hc (by rw [hown]; rfl)
    · exact hnew p (hown ▸ hp) hdeadline
    · exact (hs.due c hc hown).trans hnow
  · obtain hc | ⟨-, p, hp, hdeadline⟩ := hcallbacks c hc hown
    · exact (hs.due c hc hown).trans hnow
    · exact hnew p hp hdeadline

/-- A call of `TimeTrigger::schedule` does not return while a CAM tick is due. -/
theorem busy_step {s t : EventLoop R T β} {a : Action β} (hs : AlwaysDue s)
    (hsetup : s.toSetUp .cam = 0) (hbusy : Busy s) (h : (system R T β).step s a = some t) :
    Busy t := by
  have hidle : s.stack ≠ [] := by
    intro hnil
    rw [Busy, hnil] at hbusy
    exact hbusy.elim List.not_mem_nil List.not_mem_nil
  cases effect_of_step h with
  | quiet hq => exact hq.busy_iff.mpr hbusy
  | updateRuntime time _ => exact .inr List.mem_cons_self
  | @call _ c _ hstack _ _ =>
    refine .inr ?_
    rw [stack_call, hstack]
    exact List.mem_append_right _ List.mem_cons_self
  | arm hstack hdue =>
    have hone := hs.scheduled .cam rfl
    obtain ⟨c, hc, hown⟩ := Multiset.countP_pos.mp (by omega : 0 < s.scheduledFor .cam)
    have := hs.due c hc hown
    have := hdue c hc
    omega
  | send hstack => exact hbusy.returnTo hstack (by simp) (by simp)
  | request _ hallow =>
    rw [request, if_neg (by simp [hallow])]
    exact .inl List.mem_cons_self
  | routerSchedule _ _ _ => exact hbusy
  | routerCancel _ _ => exact hbusy
  | positionVector _ => exact .inl List.mem_cons_self
  | camApplication hstack => exact hbusy.returnTo hstack (by simp) (by simp)
  | expire hstack _ _ => exact absurd hstack hidle
  | onTimeout hstack _ => exact absurd hstack hidle
  | passUp hstack => exact absurd hstack hidle

/-- What wakes the program: a packet for the router, or the handler of a wait that has ended. -/
def Wakes (x : EventLoop R T β × Action β × EventLoop R T β) : Prop :=
  x.2.1 = .passUp ∨ x.2.1 = .onTimeout ∧ x.1.handlers.head? = some false

/-- A handler that calls `TimeTrigger::schedule`. -/
theorem busy_of_wakes {s t : EventLoop R T β} {a : Action β} (hwakes : Wakes (s, a, t))
    (h : (system R T β).step s a = some t) : Busy t := by
  replace h := (Option.ite_none_left_eq_some.mp h).2
  obtain rfl | ⟨rfl, hhead⟩ : a = .passUp ∨ a = .onTimeout ∧ s.handlers.head? = some false := hwakes
  · cases hstack : s.stack with
    | nil =>
      simp only [hstack] at h
      obtain rfl := Option.some.inj h
      exact .inl List.mem_cons_self
    | cons f rest =>
      simp only [hstack] at h
      cases f <;> cases h
  · obtain ⟨handlers, hh⟩ := List.head?_eq_some_iff.mp hhead
    cases hstack : s.stack with
    | nil =>
      simp only [hstack, hh] at h
      obtain rfl := Option.some.inj h
      exact .inl List.mem_cons_self
    | cons f rest =>
      simp only [hstack] at h
      cases f <;> cases h

/-- The event loop with a CAM tick that is always due, in a call that does not return or waiting
for the first one. -/
theorem busy_run {as : List (Action β)} {s t : EventLoop R T β} (hs : AlwaysDue s)
    (hsetup : s.toSetUp .cam = 0) (hclock : ∀ x ∈ (system R T β).trace s as, ClockForward x)
    (hbusy : Busy s ∨ ∃ x ∈ (system R T β).trace s as, Wakes x)
    (h : (system R T β).run s as = some t) : Busy t := by
  induction as generalizing s with
  | nil =>
    cases h
    exact hbusy.resolve_right fun ⟨_, hx, _⟩ => List.not_mem_nil hx
  | cons a as ih =>
    obtain ⟨s', hs', h⟩ := (ActionSystem.run_cons_iff _).mp h
    rw [ActionSystem.trace, hs'] at hbusy hclock
    obtain ⟨hfirst, hrest⟩ := List.forall_mem_cons.mp hclock
    refine ih (alwaysDue_step hs hfirst hs')
      (Nat.eq_zero_of_le_zero ((toSetUp_step_le hs' .cam).trans_eq hsetup)) hrest ?_ h
    obtain hbusy | ⟨x, hx, hwakes⟩ := hbusy
    · exact .inl (busy_step hs hsetup hbusy hs')
    · rcases List.mem_cons.mp hx with rfl | hx
      · exact .inl (busy_of_wakes hwakes hs')
      · exact .inr ⟨x, hx, hwakes⟩

/-- **With an interval of zero the event loop ends in its first call.** Let the program be started
with `--cam-interval 0` and have reached the loop, and let the clock never go back. Once a packet
is indicated to the router, or the wait for the timer ends, the handler never returns: the program
is never in the loop again, whatever happens. -/
theorem never_back_in_loop {as bs : List (Action β)} {time : ℤ} {flag : Bool}
    {s t : EventLoop R T β} (h : (system R T β).run (main time flag 0) as = some s)
    (hidle : s.stack = []) (h' : (system R T β).run s bs = some t)
    (hclock : ∀ x ∈ (system R T β).trace (main time flag 0) (as ++ bs), ClockForward x)
    (hwakes : ∃ x ∈ (system R T β).trace s bs, Wakes x) : t.stack ≠ [] := by
  rw [ActionSystem.trace_append _ h, List.forall_mem_append] at hclock
  have hs : AlwaysDue s := (system R T β).run_invariant_of_trace (G := ClockForward)
    (fun _ _ _ hs hclock hstep => alwaysDue_step hs hclock hstep)
    ⟨scheduled_main time flag 0, rfl, fun c hc => absurd hc (notMem_callbacks_main c)⟩ hclock.1 h
  have hsetup : s.toSetUp .cam = 0 := by rw [toSetUp, hidle, List.countP_nil]
  have hbusy := busy_run hs hsetup hclock.2 (.inr hwakes) h'
  intro hnil
  rw [Busy, hnil] at hbusy
  exact hbusy.elim List.not_mem_nil List.not_mem_nil

/-- A packet is indicated to the router, and the CAM tick is made again and again. -/
def packetThenTicks : List (Action Unit) :=
  [.passUp, .updateRuntime 1, .call ⟨.cam, 0⟩, .proceed, .proceed, .proceed, .proceed, .proceed,
    .call ⟨.cam, 1⟩]

theorem packet_ends_loop :
    ∃ s t, (system listRuntime viewTimer Unit).run (main 0 false 0) setUp = some s ∧
      (system listRuntime viewTimer Unit).run s packetThenTicks = some t ∧ t.stack ≠ [] := by
  have hrun : (system listRuntime viewTimer Unit).run (main 0 false 0) setUp = some _ := rfl
  refine ⟨_, _, hrun, rfl, ?_⟩
  refine never_back_in_loop hrun rfl
    (show (system listRuntime viewTimer Unit).run _ packetThenTicks = some _ from rfl) ?_
    ⟨_, List.mem_cons_self, .inl rfl⟩
  decide

end EventLoop

end BluetoothAuto.Router
