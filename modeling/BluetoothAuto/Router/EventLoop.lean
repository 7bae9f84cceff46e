import BluetoothAuto.Lib.ActionSystem
import BluetoothAuto.Lib.Spacing
import BluetoothAuto.Lib.WaitableTimer
import Mathlib.Data.List.Count
import Mathlib.Data.List.Sort
import Mathlib.Data.Multiset.Count
import Mathlib.Data.Multiset.Filter

/-!
# The event loop of `socktap-cam`

`main` sets up a `TimeTrigger`, a `RouterContext` and a `CamApplication` and enters
`io_service::run`. From then on everything happens in completion handlers: the wait of the
`TimeTrigger` ends, or a packet arrives. A handler calls `TimeTrigger::schedule`, which lets the
runtime call whatever is due and then arms the timer for what comes next. What is due may call
`TimeTrigger::schedule` again: `RouterContext::update_position_vector` does so, and so does
`DccPassthrough::request`, in the middle of sending a packet. The calls that have not returned are
therefore part of the state.

The runtime, the router and the timers of the io service are not part of the repository. The
runtime is a parameter, a `ManualRuntime`: it is known by what is scheduled in it, and it is assumed
that `schedule` adds a callback, `cancel` takes those of a scope away, `next` is no later than
any of them, and `trigger` makes those that are due, one after another. The timer is
a `WaitableTimer`. What the router does when it runs, what the clock reads, when packets arrive and
how accurate the position is are choices of the environment.

## Main definitions

* `ManualRuntime` — what is assumed of the runtime
* `EventLoop` — the state, with the calls that have not returned
* `EventLoop.system` — the steps of the program and of its environment
* `EventLoop.main` — the state in which the program starts

## Main results

* `EventLoop.effect_of_step` — what each step does
* `EventLoop.scheduled_run` — which callbacks are scheduled
-/

namespace BluetoothAuto.Router

namespace EventLoop

/-! ### The state -/

/-- Whose a callback of the runtime is. -/
inductive Owner where
  /-- `RouterContext::update_position_vector`. -/
  | position
  /-- `CamApplication::on_timer`. -/
  | cam
  /-- Vanetza itself: beacons, forwarding, expiry, under scopes of its own. -/
  | router (scope : ℕ)
  deriving DecidableEq

/-- The callback is part of the program. -/
def Owner.program : Owner → Bool
  | .position | .cam => true
  | .router _ => false

theorem Owner.ne_router {o : Owner} (h : o.program = true) (scope : ℕ) : o ≠ .router scope := by
  rintro rfl
  cases h

/-- A callback that is scheduled in the runtime. -/
structure Callback where
  owner : Owner
  deadline : ℤ
  deriving DecidableEq

end EventLoop

open EventLoop in
/-- `ManualRuntime`, as far as it has to do with what is scheduled. -/
structure ManualRuntime where
  Queue : Type
  /-- Nothing is scheduled. -/
  empty : Queue
  /-- `schedule`, with a delay that counts from `now`. The scope is the owner. -/
  schedule : Queue → (now delay : ℤ) → Owner → Queue
  /-- `cancel`, for a scope. -/
  cancel : Queue → Owner → Queue
  /-- `next`, and `none` for `Clock::time_point::max()`. -/
  next : Queue → Option ℤ
  /-- What `trigger` calls first at the time `now`, and what is then scheduled. -/
  takeDue : Queue → (now : ℤ) → Option (Callback × Queue)
  /-- What is scheduled. -/
  scheduled : Queue → Multiset Callback
  scheduled_empty : scheduled empty = 0
  scheduled_schedule (queue : Queue) (now delay : ℤ) (owner : Owner) :
    scheduled (schedule queue now delay owner) = ⟨owner, now + delay⟩ ::ₘ scheduled queue
  scheduled_cancel (queue : Queue) (owner : Owner) :
    scheduled (cancel queue owner) = (scheduled queue).filter fun c => c.owner ≠ owner
  /-- There is a next time unless nothing is scheduled. -/
  scheduled_of_next {queue : Queue} : next queue = none → scheduled queue = 0
  /-- Nothing is due before it. -/
  next_le {queue : Queue} {time : ℤ} :
    next queue = some time → ∀ c ∈ scheduled queue, time ≤ c.deadline
  /-- `trigger` returns when nothing is due. -/
  not_due {queue : Queue} {now : ℤ} :
    takeDue queue now = none → ∀ c ∈ scheduled queue, now < c.deadline
  /-- It calls what is due, and that is then no longer scheduled. -/
  due {queue rest : Queue} {now : ℤ} {c : Callback} :
    takeDue queue now = some (c, rest) →
      scheduled queue = c ::ₘ scheduled rest ∧ c.deadline ≤ now

namespace EventLoop

/-- The deadline of a callback is not after that of another one. -/
abbrev Callback.NoLater : Callback → Callback → Prop := Order.Preimage Callback.deadline (· ≤ ·)

/-- A runtime that keeps the callbacks in the order of their deadlines. -/
def listRuntime : ManualRuntime where
  Queue := { queue : List Callback // queue.Pairwise Callback.NoLater }
  empty := ⟨[], .nil⟩
  schedule queue now delay owner :=
    ⟨queue.1.orderedInsert Callback.NoLater ⟨owner, now + delay⟩, queue.2.orderedInsert _ _⟩
  cancel queue owner := ⟨queue.1.filter fun c => c.owner ≠ owner, queue.2.filter _⟩
  next queue := queue.1.head?.map Callback.deadline
  takeDue queue now :=
    match queue with
    | ⟨[], _⟩ => none
    | ⟨c :: rest, h⟩ => if c.deadline ≤ now then some (c, ⟨rest, h.tail⟩) else none
  scheduled queue := queue.1
  scheduled_empty := rfl
  scheduled_schedule _ _ _ _ := Multiset.coe_eq_coe.mpr (List.perm_orderedInsert _ _ _)
  scheduled_cancel _ _ := rfl
  scheduled_of_next {queue} h := by
    rw [List.head?_eq_none_iff.mp (Option.map_eq_none_iff.mp h)]
    rfl
  next_le {queue} _ h c hc := by
    obtain ⟨queue, hsorted⟩ := queue
    cases queue with
    | nil => cases h
    | cons d rest =>
      obtain rfl := Option.some.inj h
      obtain rfl | hmem := List.mem_cons.mp hc
      · exact le_rfl
      · exact List.rel_of_pairwise_cons hsorted hmem
  not_due {queue} now h c hc := by
    obtain ⟨queue, hsorted⟩ := queue
    cases queue with
    | nil => cases hc
    | cons d rest =>
      have hlate : ¬ d.deadline ≤ now := fun hdue => nomatch (if_pos hdue).symm.trans h
      obtain rfl | hmem := List.mem_cons.mp hc
      · exact not_le.mp hlate
      · exact (not_le.mp hlate).trans_le (List.rel_of_pairwise_cons hsorted hmem)
  due {queue} _ _ _ h := by
    obtain ⟨queue, hsorted⟩ := queue
    cases queue with
    | nil => cases h
    | cons d rest =>
      obtain ⟨hdue, h⟩ := Option.ite_none_right_eq_some.mp h
      obtain ⟨rfl, rfl⟩ := Prod.mk.inj (Option.some.inj h)
      exact ⟨rfl, hdue⟩

/-- A function that has been called and has not returned. -/
inductive Frame (β : Type) where
  /-- `TimeTrigger::schedule`, at its beginning. -/
  | schedule
  /-- `ManualRuntime::trigger`, called by `TimeTrigger::schedule`. -/
  | trigger
  /-- `DccPassthrough::request` for a packet, after `trigger_.schedule()`. -/
  | send (packet : β)
  /-- `CamApplication::on_timer`, with so many requests left to make. -/
  | onTimer (requests : ℕ)
  /-- A function of the router. -/
  | router
  /-- `RouterContext::update_position_vector`, after `trigger_.schedule()`. -/
  | packetFlow
  /-- `main`: the call of `update_position_vector` in the constructor of `RouterContext`. -/
  | positionVector
  /-- `main`: `require_position_fix`. -/
  | requirePositionFix (flag : Bool)
  /-- `main`: the constructor of `CamApplication` and `set_interval`. -/
  | camApplication
  deriving DecidableEq

end EventLoop

open EventLoop in
/-- The process, with packets in `β`. Times are in microseconds. -/
structure EventLoop (R : ManualRuntime) (T : WaitableTimer) (β : Type) where
  /-- `ManualRuntime::now`. -/
  now : ℤ
  /-- What is scheduled in `runtime_`. -/
  queue : R.Queue := R.empty
  /-- `timer_`. -/
  timer : T.Timer := T.new
  /-- The calls that have not returned, the innermost first. It is empty in `io_service::run`. -/
  stack : List (Frame β)
  /-- `cam_interval_`, once there is a `CamApplication`. -/
  camInterval : ℤ
  /-- The confidence of the fix that was fetched last makes the router's position accurate. -/
  accurateFix : Bool := false
  /-- `position_accuracy_indicator` of the local position vector. -/
  positionAccuracyIndicator : Bool := false
  /-- `RouterContext::require_position_fix_`. -/
  requirePositionFix : Bool := false
  /-- `DccPassthrough::allow_packet_flow_`. -/
  allowPacketFlow : Bool := true
  /-- `DccPassthrough::buffers_`, once they have been filled. -/
  buffers : Option β := none
  /-- The packets that `DccPassthrough::request` has been called for with the flow allowed. -/
  requested : List β := []
  /-- The packets sent on the socket. -/
  sent : List β := []
  /-- The callbacks made by the runtime, with their times. -/
  called : List (Owner × ℤ) := []
  /-- An exception has ended the process. -/
  thrown : Bool := false

namespace EventLoop

variable {R : ManualRuntime} {T : WaitableTimer} {β : Type}

/-- What is scheduled in the runtime. -/
def callbacks (s : EventLoop R T β) : Multiset Callback := R.scheduled s.queue

/-- The expiry of `timer_`, if there is a wait for it. -/
def waiting (s : EventLoop R T β) : Option ℤ :=
  if (T.view s.timer).waits = 0 then none else some (T.view s.timer).expiry

/-- The completion handlers that are ready, and whether their wait was aborted. -/
def handlers (s : EventLoop R T β) : List Bool := (T.view s.timer).handlers

/-! ### The program -/

/-- The call of `Runtime::schedule`. -/
def scheduleCallback (s : EventLoop R T β) (owner : Owner) (delay : ℤ) : EventLoop R T β :=
  { s with queue := R.schedule s.queue s.now delay owner }

/-- The call of `Runtime::cancel`. -/
def cancelCallbacks (s : EventLoop R T β) (owner : Owner) : EventLoop R T β :=
  { s with queue := R.cancel s.queue owner }

/-- A call: a function is entered. -/
def enter (s : EventLoop R T β) (frames : List (Frame β)) : EventLoop R T β :=
  { s with stack := frames ++ s.stack }

/-- A return: the innermost function is left. -/
def returnTo (s : EventLoop R T β) (rest : List (Frame β)) : EventLoop R T β :=
  { s with stack := rest }

/-- `TimeTrigger::update_runtime`, where the clock reads `time`. -/
def updateRuntime (s : EventLoop R T β) (time : ℤ) : EventLoop R T β :=
  { s with now := time }.enter [.trigger]

/-- The end of `TimeTrigger::schedule`, after `update_runtime`. -/
def arm (s : EventLoop R T β) : EventLoop R T β :=
  match R.next s.queue with
  | some next => { s with timer := T.asyncWait (T.expiresAt s.timer next) }
  | none => { s with timer := T.cancel s.timer }

/-- `RouterContext::update_packet_flow`. -/
def updatePacketFlow (s : EventLoop R T β) : EventLoop R T β :=
  if s.requirePositionFix then
    -- skip all requests until a valid GPS position is available
    { s with allowPacketFlow := s.positionAccuracyIndicator }
  else
    { s with allowPacketFlow := true }

/-- `RouterContext::update_position_vector`, as far as `trigger_.schedule()`. -/
def updatePositionVector (s : EventLoop R T β) : EventLoop R T β :=
  let s := { s with positionAccuracyIndicator := s.accurateFix }
  (s.scheduleCallback .position 1000000).enter [.schedule, .packetFlow]

/-- `CamApplication::schedule_timer`. -/
def scheduleTimer (s : EventLoop R T β) : EventLoop R T β := s.scheduleCallback .cam s.camInterval

/-- `CamApplication::on_timer`, as far as its first request: there are two. -/
def onTimer (s : EventLoop R T β) : EventLoop R T β := s.scheduleTimer.enter [.onTimer 2]

/-- The constructor of `CamApplication`, with an interval of one second, and `set_interval`. -/
def camApplication (s : EventLoop R T β) : EventLoop R T β :=
  ((s.scheduleCallback .cam 1000000).cancelCallbacks .cam).scheduleTimer

/-- A callback is made. -/
def call (s : EventLoop R T β) (c : Callback) : EventLoop R T β :=
  let s := { s with called := s.called ++ [(c.owner, s.now)] }
  match c.owner with
  | .position => s.updatePositionVector
  | .cam => s.onTimer
  | .router _ => s.enter [.router]

/-- `DccPassthrough::request`, as far as `trigger_.schedule()`. -/
def request (s : EventLoop R T β) (packet : β) : EventLoop R T β :=
  -- ignored request because packet flow is suppressed
  if ¬ s.allowPacketFlow then
    s
  else
    { s with buffers := some packet, requested := s.requested ++ [packet] }.enter
      [.schedule, .send packet]

/-- The end of `DccPassthrough::request`: what is in the buffers is sent. -/
def send (s : EventLoop R T β) : EventLoop R T β := { s with sent := s.sent ++ s.buffers.toList }

/-- `RouterContext::pass_up` of a packet that is indicated to the router. -/
def passUp (s : EventLoop R T β) : EventLoop R T β := s.enter [.schedule, .router, .schedule]

/-- `TimeTrigger::on_timeout`. -/
def onTimeout (s : EventLoop R T β) (aborted : Bool) : EventLoop R T β :=
  if aborted then s else s.enter [.schedule]

/-- `main`, with the arguments of `--require-gnss-fix` and, in milliseconds, `--cam-interval`. -/
def main (time : ℤ) (requireGnssFix : Bool) (camInterval : ℕ) : EventLoop R T β where
  now := time
  camInterval := 1000 * camInterval
  stack :=
    -- the constructor of `TimeTrigger`
    [.schedule,
    -- the constructor of `RouterContext`, with that of the router
    .router, .positionVector, .schedule,
    .requirePositionFix requireGnssFix, .camApplication]

/-- What can happen next. -/
inductive Action (β : Type) where
  /-- The innermost call goes on. -/
  | proceed
  /-- `TimeTrigger::update_runtime`, where the clock reads `time`. -/
  | updateRuntime (time : ℤ)
  /-- The runtime makes a callback. -/
  | call (callback : Callback)
  /-- `on_timer` finds its CAM invalid, or its request not accepted. -/
  | throw
  /-- The router schedules a callback of its own. -/
  | routerSchedule (scope : ℕ) (delay : ℤ)
  /-- The router cancels callbacks of its own. -/
  | routerCancel (scope : ℕ)
  /-- The router requests the transmission of a packet. -/
  | request (packet : β)
  /-- The wait for the timer ends at `time`. -/
  | expire (time : ℤ)
  /-- The next completion handler is invoked. -/
  | onTimeout
  /-- A packet is read and indicated to the router. -/
  | passUp
  /-- A position fix is fetched. -/
  | fetch (accurate : Bool)

/-- The innermost call goes on, with `rest` outside of it. -/
def proceed (s : EventLoop R T β) (rest : List (Frame β)) : Frame β → Option (EventLoop R T β)
  -- `update_runtime` reads the clock first
  | .schedule => none
  | .trigger =>
    match R.takeDue s.queue s.now with
    | none => some (s.returnTo rest).arm
    | some _ => none
  | .send _ => some (s.returnTo rest).send
  | .onTimer (requests + 1) => some ((s.returnTo rest).enter [.router, .onTimer requests])
  | .onTimer 0 => some (s.returnTo rest)
  | .router => some (s.returnTo rest)
  | .packetFlow => some (s.returnTo rest).updatePacketFlow
  | .positionVector => some (s.returnTo rest).updatePositionVector
  | .requirePositionFix flag =>
    some { s.returnTo rest with requirePositionFix := flag }.updatePacketFlow
  | .camApplication => some (s.returnTo rest).camApplication

/-- The program in an arbitrary environment. Nothing happens after an exception. -/
def system (R : ManualRuntime) (T : WaitableTimer) (β : Type) :
    ActionSystem (EventLoop R T β) (Action β) where
  step s a :=
    if s.thrown then none
    else
      match s.stack, a with
      | f :: rest, .proceed => s.proceed rest f
      | .schedule :: rest, .updateRuntime time =>
        some ((s.returnTo rest).updateRuntime time)
      | .trigger :: _, .call c =>
        match R.takeDue s.queue s.now with
        | some (d, queue) => if d = c then some ({ s with queue }.call c) else none
        | none => none
      | .onTimer _ :: _, .throw => some { s with thrown := true }
      | .router :: _, .routerSchedule scope delay =>
        some (s.scheduleCallback (.router scope) delay)
      | .router :: _, .routerCancel scope => some (s.cancelCallbacks (.router scope))
      | .router :: _, .request packet => some (s.request packet)
      | [], .expire time =>
        match s.waiting with
        | some expiry =>
          if expiry ≤ time then some { s with timer := T.expire s.timer } else none
        | none => none
      | [], .onTimeout =>
        match s.handlers with
        | aborted :: _ => some ({ s with timer := T.callHandler s.timer }.onTimeout aborted)
        | [] => none
      | [], .passUp => some s.passUp
      | [], .fetch accurate => some { s with accurateFix := accurate }
      | _, _ => none

/-- What the program does until it is in the loop, while the clock reads zero. -/
def setUp : List (Action β) :=
  [.updateRuntime 0, .proceed, .proceed, .proceed, .updateRuntime 0, .proceed, .proceed,
    .updateRuntime 0, .proceed, .proceed, .proceed]

/-- The wait that `main` replaced has been aborted, and the one that replaced it ends after a
second. The CAM tick, which has been due earlier, is made, and so is the update of the position
vector. -/
def firstTick : List (Action β) :=
  [.onTimeout, .expire 1000000, .onTimeout, .updateRuntime 1000000, .call ⟨.cam, 100000⟩,
    .proceed, .proceed, .proceed, .proceed, .proceed,
    .call ⟨.position, 1000000⟩, .updateRuntime 1000000, .proceed, .proceed, .proceed]

/-! ### What each step does -/

/-- The frames whose end or beginning matters for the timers and the buffers. -/
def Frame.heavy : Frame β → Bool
  | .schedule | .trigger | .send _ | .positionVector | .camApplication => true
  | .onTimer _ | .router | .packetFlow | .requirePositionFix _ => false

/-- A step that leaves the runtime, the timer and the buffers as they are. -/
structure Quiet (s t : EventLoop R T β) : Prop where
  now : t.now = s.now
  queue : t.queue = s.queue
  timer : t.timer = s.timer
  heavy : t.stack.filter Frame.heavy = s.stack.filter Frame.heavy
  camInterval : t.camInterval = s.camInterval
  buffers : t.buffers = s.buffers
  requested : t.requested = s.requested
  sent : t.sent = s.sent
  called : t.called = s.called

/-- **What each step does**, as a relation. -/
inductive Effect (s : EventLoop R T β) : Action β → EventLoop R T β → Prop
  | quiet {a : Action β} {t : EventLoop R T β} (h : Quiet s t) : Effect s a t
  | updateRuntime {rest : List (Frame β)} (time : ℤ) (h : s.stack = .schedule :: rest) :
      Effect s (.updateRuntime time) ((s.returnTo rest).updateRuntime time)
  | call {rest : List (Frame β)} {c : Callback} {queue : R.Queue}
      (h : s.stack = .trigger :: rest) (hc : s.callbacks = c ::ₘ R.scheduled queue)
      (hdue : c.deadline ≤ s.now) : Effect s (.call c) ({ s with queue }.call c)
  | arm {rest : List (Frame β)} (h : s.stack = .trigger :: rest)
      (hdue : ∀ c ∈ s.callbacks, s.now < c.deadline) :
      Effect s .proceed (s.returnTo rest).arm
  | send {rest : List (Frame β)} {packet : β} (h : s.stack = .send packet :: rest) :
      Effect s .proceed (s.returnTo rest).send
  | request {rest : List (Frame β)} {packet : β} (h : s.stack = .router :: rest)
      (hallow : s.allowPacketFlow = true) : Effect s (.request packet) (s.request packet)
  | routerSchedule {rest : List (Frame β)} (scope : ℕ) (delay : ℤ)
      (h : s.stack = .router :: rest) :
      Effect s (.routerSchedule scope delay) (s.scheduleCallback (.router scope) delay)
  | routerCancel {rest : List (Frame β)} (scope : ℕ) (h : s.stack = .router :: rest) :
      Effect s (.routerCancel scope) (s.cancelCallbacks (.router scope))
  | positionVector {rest : List (Frame β)} (h : s.stack = .positionVector :: rest) :
      Effect s .proceed (s.returnTo rest).updatePositionVector
  | camApplication {rest : List (Frame β)} (h : s.stack = .camApplication :: rest) :
      Effect s .proceed (s.returnTo rest).camApplication
  | expire {expiry time : ℤ} (h : s.stack = []) (hw : s.waiting = some expiry)
      (hle : expiry ≤ time) : Effect s (.expire time) { s with timer := T.expire s.timer }
  | onTimeout {aborted : Bool} {handlers : List Bool} (h : s.stack = [])
      (hh : s.handlers = aborted :: handlers) :
      Effect s .onTimeout ({ s with timer := T.callHandler s.timer }.onTimeout aborted)
  | passUp (h : s.stack = []) : Effect s .passUp s.passUp

/-- The handler that is called is no longer ready, and the wait stays. -/
theorem handlers_callHandler (s : EventLoop R T β) :
    ({ s with timer := T.callHandler s.timer } : EventLoop R T β).handlers = s.handlers.tail := by
  rw [handlers, T.view_callHandler, handlers]

theorem waiting_callHandler (s : EventLoop R T β) :
    ({ s with timer := T.callHandler s.timer } : EventLoop R T β).waiting = s.waiting := by
  rw [waiting, T.view_callHandler, waiting]

theorem Quiet.callbacks {s t : EventLoop R T β} (h : Quiet s t) : t.callbacks = s.callbacks :=
  congrArg R.scheduled h.queue

theorem quiet_updatePacketFlow (s : EventLoop R T β) : Quiet s s.updatePacketFlow := by
  rw [updatePacketFlow]
  split <;> exact ⟨rfl, rfl, rfl, rfl, rfl, rfl, rfl, rfl, rfl⟩

theorem effect_of_proceed {s t : EventLoop R T β} {f : Frame β} {rest : List (Frame β)}
    (hs : s.stack = f :: rest) (h : s.proceed rest f = some t) : Effect s .proceed t := by
  have hheavy : ∀ g : Frame β, g.heavy = false → s.stack = g :: rest →
      rest.filter Frame.heavy = s.stack.filter Frame.heavy := by
    intro g hg hs
    rw [hs, List.filter_cons_of_neg (by simp [hg])]
  cases f with
  | schedule => cases h
  | trigger =>
    simp only [proceed] at h
    split at h
    · next hdue =>
      obtain rfl := Option.some.inj h
      exact .arm hs (R.not_due hdue)
    · cases h
  | send packet =>
    obtain rfl := Option.some.inj h
    exact .send hs
  | onTimer requests =>
    cases requests with
    | zero =>
      obtain rfl := Option.some.inj h
      exact .quiet ⟨rfl, rfl, rfl, hheavy _ rfl hs, rfl, rfl, rfl, rfl, rfl⟩
    | succ requests =>
      obtain rfl := Option.some.inj h
      exact .quiet ⟨rfl, rfl, rfl, hheavy _ rfl hs, rfl, rfl, rfl, rfl, rfl⟩
  | router =>
    obtain rfl := Option.some.inj h
    exact .quiet ⟨rfl, rfl, rfl, hheavy _ rfl hs, rfl, rfl, rfl, rfl, rfl⟩
  | packetFlow =>
    obtain rfl := Option.some.inj h
    have hq := quiet_updatePacketFlow (s.returnTo rest)
    exact .quiet { hq with heavy := hq.heavy.trans (hheavy _ rfl hs) }
  | positionVector =>
    obtain rfl := Option.some.inj h
    exact .positionVector hs
  | requirePositionFix flag =>
    obtain rfl := Option.some.inj h
    have hq := quiet_updatePacketFlow { s.returnTo rest with requirePositionFix := flag }
    exact .quiet { hq with heavy := hq.heavy.trans (hheavy _ rfl hs) }
  | camApplication =>
    obtain rfl := Option.some.inj h
    exact .camApplication hs

/-- **What each step does.** -/
theorem effect_of_step {s t : EventLoop R T β} {a : Action β}
    (h : (system R T β).step s a = some t) : Effect s a t := by
  replace h := (Option.ite_none_left_eq_some.mp h).2
  split at h
  · next f rest hs => exact effect_of_proceed hs h
  · next rest time hs =>
    obtain rfl := Option.some.inj h
    exact .updateRuntime time hs
  · next rest c hs =>
    split at h
    · next d queue htake =>
      obtain ⟨rfl, h⟩ := Option.ite_none_right_eq_some.mp h
      obtain rfl := Option.some.inj h
      exact .call hs (R.due htake).1 (R.due htake).2
    · cases h
  · obtain rfl := Option.some.inj h
    exact .quiet ⟨rfl, rfl, rfl, rfl, rfl, rfl, rfl, rfl, rfl⟩
  · next rest scope delay hs =>
    obtain rfl := Option.some.inj h
    exact .routerSchedule scope delay hs
  · next rest scope hs =>
    obtain rfl := Option.some.inj h
    exact .routerCancel scope hs
  · next rest packet hs =>
    obtain rfl := Option.some.inj h
    by_cases hallow : s.allowPacketFlow = true
    · exact .request hs hallow
    · rw [request, if_pos hallow]
      exact .quiet ⟨rfl, rfl, rfl, rfl, rfl, rfl, rfl, rfl, rfl⟩
  · next time hs =>
    split at h
    · next expiry hw =>
      obtain ⟨hle, h⟩ := Option.ite_none_right_eq_some.mp h
      obtain rfl := Option.some.inj h
      exact .expire hs hw hle
    · cases h
  · next hs =>
    split at h
    · next aborted handlers hh =>
      obtain rfl := Option.some.inj h
      exact .onTimeout hs hh
    · cases h
  · next hs =>
    obtain rfl := Option.some.inj h
    exact .passUp hs
  · obtain rfl := Option.some.inj h
    exact .quiet ⟨rfl, rfl, rfl, rfl, rfl, rfl, rfl, rfl, rfl⟩
  · cases h

/-! ### What is scheduled -/

/-- After how long an owner schedules its callback again. -/
def period (s : EventLoop R T β) : Owner → Option ℤ
  | .position => some 1000000
  | .cam => some s.camInterval
  | .router _ => none

/-- The call of `main` that schedules a callback for the first time. -/
def Frame.setup : Frame β → Option Owner
  | .positionVector => some .position
  | .camApplication => some .cam
  | _ => none

/-- The callbacks of an owner. -/
def scheduledFor (s : EventLoop R T β) (o : Owner) : ℕ := s.callbacks.countP fun c => c.owner = o

/-- The calls of `main` that are still to schedule the callback of an owner. -/
def toSetUp (s : EventLoop R T β) (o : Owner) : ℕ := s.stack.countP fun f => f.setup = some o

/-- The frames that a callback starts with. -/
def framesOf : Owner → List (Frame β)
  | .position => [.schedule, .packetFlow]
  | .cam => [.onTimer 2]
  | .router _ => [.router]

theorem callbacks_scheduleCallback (s : EventLoop R T β) (owner : Owner) (delay : ℤ) :
    (s.scheduleCallback owner delay).callbacks = ⟨owner, s.now + delay⟩ ::ₘ s.callbacks :=
  R.scheduled_schedule _ _ _ _

theorem callbacks_cancelCallbacks (s : EventLoop R T β) (owner : Owner) :
    (s.cancelCallbacks owner).callbacks = s.callbacks.filter fun c => c.owner ≠ owner :=
  R.scheduled_cancel _ _

theorem callbacks_updatePositionVector (s : EventLoop R T β) :
    s.updatePositionVector.callbacks = ⟨.position, s.now + 1000000⟩ ::ₘ s.callbacks :=
  callbacks_scheduleCallback { s with positionAccuracyIndicator := s.accurateFix } _ _

theorem callbacks_call (s : EventLoop R T β) (c : Callback) :
    (s.call c).callbacks = (s.period c.owner).elim s.callbacks fun d =>
      ⟨c.owner, s.now + d⟩ ::ₘ s.callbacks := by
  obtain ⟨owner, deadline⟩ := c
  cases owner with
  | position => exact callbacks_scheduleCallback _ _ _
  | cam => exact callbacks_scheduleCallback _ _ _
  | router scope => rfl

theorem stack_call (s : EventLoop R T β) (c : Callback) :
    (s.call c).stack = framesOf c.owner ++ s.stack := by
  obtain ⟨owner, deadline⟩ := c
  cases owner <;> rfl

theorem called_call (s : EventLoop R T β) (c : Callback) :
    (s.call c).called = s.called ++ [(c.owner, s.now)] := by
  obtain ⟨owner, deadline⟩ := c
  cases owner <;> rfl

/-- A call changes neither the timer nor the buffers. -/
theorem quiet_fields_call (s : EventLoop R T β) (c : Callback) :
    (s.call c).now = s.now ∧ (s.call c).timer = s.timer ∧
      (s.call c).camInterval = s.camInterval ∧ (s.call c).buffers = s.buffers ∧
      (s.call c).requested = s.requested ∧ (s.call c).sent = s.sent := by
  obtain ⟨owner, deadline⟩ := c
  cases owner <;> exact ⟨rfl, rfl, rfl, rfl, rfl, rfl⟩

theorem callbacks_camApplication (s : EventLoop R T β) :
    s.camApplication.callbacks =
      ⟨.cam, s.now + s.camInterval⟩ ::ₘ s.callbacks.filter fun c => c.owner ≠ .cam := by
  rw [camApplication, scheduleTimer, callbacks_scheduleCallback, callbacks_cancelCallbacks,
    callbacks_scheduleCallback, Multiset.filter_cons_of_neg _ (by simp)]
  rfl

theorem scheduledFor_scheduleCallback (s : EventLoop R T β) (o o' : Owner) (d : ℤ) :
    (s.scheduleCallback o' d).scheduledFor o = s.scheduledFor o + if o' = o then 1 else 0 := by
  rw [scheduledFor, callbacks_scheduleCallback, Multiset.countP_cons]
  rfl

theorem scheduledFor_cancelCallbacks (s : EventLoop R T β) (o o' : Owner) :
    (s.cancelCallbacks o').scheduledFor o = if o' = o then 0 else s.scheduledFor o := by
  rw [scheduledFor, callbacks_cancelCallbacks, Multiset.countP_filter]
  split
  · next h =>
    rw [Multiset.countP_eq_zero]
    rintro c _ ⟨hown, hne⟩
    exact hne (hown.trans h.symm)
  · next h =>
    refine Multiset.countP_congr rfl fun c _ => propext (and_iff_left_of_imp ?_)
    rintro rfl
    exact Ne.symm h

theorem toSetUp_enter (s : EventLoop R T β) {frames : List (Frame β)}
    (h : ∀ f ∈ frames, f.setup = none) (o : Owner) : (s.enter frames).toSetUp o = s.toSetUp o := by
  have hzero : frames.countP (fun f => f.setup = some o) = 0 := by
    rw [List.countP_eq_zero]
    intro f hf
    simp [h f hf]
  rw [toSetUp, enter, List.countP_append, hzero, Nat.zero_add]
  rfl

theorem toSetUp_returnTo {s : EventLoop R T β} {f : Frame β} {rest : List (Frame β)}
    (hs : s.stack = f :: rest) (o : Owner) :
    s.toSetUp o = (s.returnTo rest).toSetUp o + if f.setup = some o then 1 else 0 := by
  rw [toSetUp, hs, List.countP_cons]
  simp only [decide_eq_true_eq]
  rfl

theorem toSetUp_returnTo_of_none {s : EventLoop R T β} {f : Frame β} {rest : List (Frame β)}
    (hs : s.stack = f :: rest) (hf : f.setup = none) (o : Owner) :
    (s.returnTo rest).toSetUp o = s.toSetUp o := by
  rw [toSetUp_returnTo hs, if_neg (by simp [hf]), Nat.add_zero]

theorem scheduledFor_updatePositionVector (s : EventLoop R T β) (o : Owner) :
    s.updatePositionVector.scheduledFor o =
      s.scheduledFor o + if .position = o then 1 else 0 :=
  scheduledFor_scheduleCallback { s with positionAccuracyIndicator := s.accurateFix } o _ _

theorem toSetUp_updatePositionVector (s : EventLoop R T β) (o : Owner) :
    s.updatePositionVector.toSetUp o = s.toSetUp o :=
  toSetUp_enter _ (by simp [Frame.setup]) o

theorem scheduledFor_camApplication (s : EventLoop R T β) (o : Owner) :
    s.camApplication.scheduledFor o = if .cam = o then 1 else s.scheduledFor o := by
  rw [camApplication, scheduleTimer, scheduledFor_scheduleCallback, scheduledFor_cancelCallbacks,
    scheduledFor_scheduleCallback]
  split <;> rfl

theorem toSetUp_camApplication (s : EventLoop R T β) (o : Owner) :
    s.camApplication.toSetUp o = s.toSetUp o := rfl

theorem setup_eq_none_of_not_heavy {f : Frame β} (h : f.heavy = false) : f.setup = none := by
  cases f <;> first | rfl | cases h

theorem toSetUp_of_quiet {s t : EventLoop R T β} (h : Quiet s t) (o : Owner) :
    t.toSetUp o = s.toSetUp o := by
  have hfilter : ∀ l : List (Frame β), (l.countP fun f => f.setup = some o) =
      (l.filter Frame.heavy).countP fun f => f.setup = some o := by
    intro l
    rw [List.countP_filter]
    refine List.countP_congr fun f _ => ?_
    cases hf : f.heavy with
    | true => simp
    | false => simp [setup_eq_none_of_not_heavy hf]
  rw [toSetUp, toSetUp, hfilter t.stack, hfilter s.stack, h.heavy]

/-- **What is scheduled**: one update of the position vector and one timer call of the application,
as soon as `main` has scheduled them. -/
def Scheduled (s : EventLoop R T β) : Prop :=
  ∀ o : Owner, o.program = true → s.scheduledFor o + s.toSetUp o = 1

theorem scheduled_main (time : ℤ) (flag : Bool) (interval : ℕ) :
    Scheduled (main (R := R) (T := T) (β := β) time flag interval) := by
  intro o ho
  have hzero : (main (R := R) (T := T) (β := β) time flag interval).scheduledFor o = 0 := by
    rw [scheduledFor, callbacks, main, R.scheduled_empty, Multiset.countP_zero]
  rw [hzero]
  cases o with
  | position => rfl
  | cam => rfl
  | router scope => cases ho

theorem setup_framesOf {o : Owner} {f : Frame β} (h : f ∈ framesOf o) : f.setup = none := by
  cases o with
  | position => rcases List.mem_pair.mp h with rfl | rfl <;> rfl
  | cam =>
    obtain rfl := List.mem_singleton.mp h
    rfl
  | router scope =>
    obtain rfl := List.mem_singleton.mp h
    rfl

/-- What is called schedules itself again. -/
theorem scheduledFor_call {s : EventLoop R T β} {c : Callback} {queue : R.Queue}
    (hc : s.callbacks = c ::ₘ R.scheduled queue) {o : Owner} (ho : o.program = true) :
    ({ s with queue }.call c).scheduledFor o = s.scheduledFor o := by
  rw [scheduledFor, callbacks_call, scheduledFor, hc]
  show Multiset.countP _ ((s.period c.owner).elim (R.scheduled queue) fun d =>
    ⟨c.owner, s.now + d⟩ ::ₘ R.scheduled queue) = _
  by_cases hown : c.owner = o
  · obtain ⟨d, hd⟩ : ∃ d, s.period c.owner = some d := by
      rw [hown]
      cases o with
      | position => exact ⟨_, rfl⟩
      | cam => exact ⟨_, rfl⟩
      | router scope => cases ho
    rw [hd, Option.elim_some, Multiset.countP_cons, Multiset.countP_cons, if_pos hown]
  · rw [Multiset.countP_cons, if_neg hown, Nat.add_zero]
    cases s.period c.owner with
    | none => rfl
    | some d => rw [Option.elim_some, Multiset.countP_cons, if_neg hown, Nat.add_zero]

theorem scheduled_step {s t : EventLoop R T β} {a : Action β} (hs : Scheduled s)
    (h : (system R T β).step s a = some t) : Scheduled t := by
  intro o ho
  rw [← hs o ho]
  cases effect_of_step h with
  | quiet hq => rw [toSetUp_of_quiet hq, scheduledFor, hq.callbacks, scheduledFor]
  | updateRuntime time hstack =>
    rw [updateRuntime, toSetUp_enter _ (by simp [Frame.setup]),
      ← toSetUp_returnTo_of_none hstack rfl]
    rfl
  | @call _ c _ _ hc _ =>
    rw [scheduledFor_call hc ho, toSetUp, stack_call]
    rw [show s.toSetUp o = (s.enter (framesOf c.owner)).toSetUp o from
      (toSetUp_enter s (fun _ => setup_framesOf) o).symm]
    rfl
  | arm hstack _ =>
    rw [← toSetUp_returnTo_of_none hstack rfl, arm]
    split <;> rfl
  | send hstack =>
    rw [← toSetUp_returnTo_of_none hstack rfl]
    rfl
  | @request _ packet _ hallow =>
    rw [request, if_neg (by simp [hallow])]
    rw [toSetUp_enter _ (by simp [Frame.setup])]
    rfl
  | routerSchedule scope delay _ =>
    rw [scheduledFor_scheduleCallback, if_neg (Owner.ne_router ho scope).symm]
    rfl
  | routerCancel scope _ =>
    rw [scheduledFor_cancelCallbacks, if_neg (Owner.ne_router ho scope).symm]
    rfl
  | positionVector hstack =>
    rw [scheduledFor_updatePositionVector, toSetUp_updatePositionVector, toSetUp_returnTo hstack,
      Nat.add_right_comm, Nat.add_assoc]
    simp only [Frame.setup, Option.some.injEq]
    rfl
  | camApplication hstack =>
    have hcam := hs .cam rfl
    rw [toSetUp_returnTo hstack, if_pos (by rfl)] at hcam
    rw [scheduledFor_camApplication, toSetUp_camApplication, toSetUp_returnTo hstack]
    simp only [Frame.setup, Option.some.injEq]
    split
    · next heq =>
      subst heq
      omega
    · rfl
  | expire _ _ _ => rfl
  | onTimeout _ _ =>
    rw [onTimeout]
    split
    · rfl
    · rw [toSetUp_enter _ (by simp [Frame.setup])]
      rfl
  | passUp _ =>
    rw [passUp, toSetUp_enter _ (by simp [Frame.setup])]
    rfl

theorem scheduled_run {as : List (Action β)} {time : ℤ} {flag : Bool} {interval : ℕ}
    {s : EventLoop R T β} (h : (system R T β).run (main time flag interval) as = some s) :
    Scheduled s :=
  (system R T β).run_invariant (fun _ _ _ hs hstep => scheduled_step hs hstep)
    (scheduled_main time flag interval) h

/-- An owner that has a callback has been set up, and has no other one. -/
theorem Scheduled.unique {s : EventLoop R T β} (hs : Scheduled s) {c : Callback}
    {others : Multiset Callback} (hc : s.callbacks = c ::ₘ others) (ho : c.owner.program = true) :
    s.toSetUp c.owner = 0 ∧ ∀ d ∈ others, d.owner ≠ c.owner := by
  have hone := hs c.owner ho
  rw [scheduledFor, hc, Multiset.countP_cons, if_pos rfl] at hone
  refine ⟨by omega, Multiset.countP_eq_zero.mp ?_⟩
  omega

/-- In the loop both callbacks are scheduled. -/
theorem Scheduled.exists_of_idle {s : EventLoop R T β} (hs : Scheduled s) (hidle : s.stack = [])
    {o : Owner} (ho : o.program = true) : ∃ c ∈ s.callbacks, c.owner = o := by
  have hone := hs o ho
  have hzero : s.toSetUp o = 0 := by rw [toSetUp, hidle, List.countP_nil]
  have hpos : 0 < s.scheduledFor o := by omega
  exact Multiset.countP_pos.mp hpos

end EventLoop

end BluetoothAuto.Router
