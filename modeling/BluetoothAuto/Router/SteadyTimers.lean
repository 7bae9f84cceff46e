import BluetoothAuto.Lib.PeriodicTask
import BluetoothAuto.Router.CamApplication
import BluetoothAuto.Router.PositionGate

/-!
# The steady timers of socktap

`GpsPositionProvider`, `BenchmarkApplication` and `HelloApplication` each have a `steady_timer`. The
constructor sets it, and `on_timer` does its work and sets it again; the handlers of the other
components run between the ticks. Times are in nanoseconds.

`m_received_messages` of `BenchmarkApplication` is not initialised, so that its first report counts
from an arbitrary number.

## Main results

* `GpsPositionProvider.nothing_sent_run` — fetching goes on, and with the option nothing is sent
  from `require_position_fix` on
* `BenchmarkApplication.reports_account_iff` — when the reports account for the messages
* `HelloApplication.greets_run` — a packet for each tick
-/

namespace BluetoothAuto.Router

open PeriodicTask

/-! ### The position provider -/

namespace GpsPositionProvider

variable {T : WaitableTimer} {τ δ : Type} {G : Gnss τ δ}

/-- The results of calls of `gps_read` that end the loop of `fetch_position_fix`. -/
abbrev Reads (δ : Type) :=
  {reads : List (ℤ × Report δ) // (PositionGate.readReport reads).isSome = true}

theorem isSome_fetchPositionFix (G : Gnss τ δ) (s : PositionGate τ δ) (reads : Reads δ) :
    (PositionGate.fetchPositionFix G s reads.1).isSome = true := by
  rw [PositionGate.fetchPositionFix, Option.isSome_map]
  exact reads.2

/-- What the other handlers do: the router updates its position vector, and requests the
transmission of packets. -/
inductive Other where
  | updatePositionVector
  | request (packet : List UInt8)

/-- The action of the gate. -/
def Other.action : Other → PositionGate.Action δ
  | .updatePositionVector => .updatePositionVector
  | .request packet => .request packet

/-- `GpsPositionProvider::schedule_timer` and `GpsPositionProvider::on_timer`. -/
def task (G : Gnss τ δ) : PeriodicTask (PositionGate τ δ) (Reads δ) Other where
  interval := 500000000
  interval_nonneg := by decide
  work s reads :=
    let s := (PositionGate.fetchPositionFix G s reads.1).get (isSome_fetchPositionFix G s reads)
    (s, s.thrown)
  other s
    | .updatePositionVector => s.updatePositionVector G
    | .request packet => s.request packet

/-- The exception is recorded on both levels. -/
def Agree (s : State T (PositionGate τ δ)) : Prop := s.component.thrown = s.thrown

theorem thrown_updatePositionVector (s : PositionGate τ δ) :
    (s.updatePositionVector G).thrown = s.thrown := by
  rw [PositionGate.updatePositionVector, PositionGate.updatePacketFlow]
  split <;> rfl

theorem thrown_request (s : PositionGate τ δ) (packet : List UInt8) :
    (s.request packet).thrown = s.thrown := by
  rw [PositionGate.request]
  split <;> rfl

theorem agree_step {s t : State T (PositionGate τ δ)} {a : PeriodicTask.Action (Reads δ) Other}
    (hs : Agree s) (h : ((task G).system T).step s a = some t) : Agree t := by
  have h' := (Option.ite_none_left_eq_some.mp h).2
  cases a with
  | clock time =>
    obtain rfl := Option.some.inj (Option.ite_none_right_eq_some.mp h').2
    exact hs
  | expire =>
    obtain rfl := Option.some.inj (Option.ite_none_right_eq_some.mp h').2
    exact hs
  | handler reads done =>
    cases hhandlers : s.handlers with
    | nil =>
      rw [hhandlers] at h'
      cases h'
    | cons cancelled rest =>
      rw [hhandlers] at h'
      obtain rfl := Option.some.inj (Option.ite_none_right_eq_some.mp h').2
      rw [onTimer]
      split
      · exact hs
      · rw [rearm]
        split <;> rfl
  | other k =>
    obtain rfl := Option.some.inj h'
    cases k with
    | updatePositionVector => exact (thrown_updatePositionVector _).trans hs
    | request packet => exact (thrown_request _ packet).trans hs

theorem thrown_start (G : Gnss τ δ) (flag : Bool) : (PositionGate.start G flag).thrown = false := by
  rw [PositionGate.start, PositionGate.require, PositionGate.updatePacketFlow]
  split
  · exact thrown_updatePositionVector _
  · exact thrown_updatePositionVector _

theorem agree_start (G : Gnss τ δ) (flag : Bool) (now : ℤ) :
    Agree ((task G).start T now (PositionGate.start G flag)) := thrown_start G flag

/-- **The provider on its timer does to the gate what it does without**: every run, whatever the
times of the ticks, is a run of the gate in which no timer is aborted. -/
theorem gate_run {flag : Bool} {now : ℤ} {as : List (PeriodicTask.Action (Reads δ) Other)}
    {t : State T (PositionGate τ δ)}
    (h : ((task G).system T).run ((task G).start T now (PositionGate.start G flag)) as = some t) :
    (PositionGate.system G).run (PositionGate.start G flag)
      (as.filterMap (Action.effect (fun reads => .onTimer false reads.1) Other.action)) =
        some t.component := by
  refine component_run (P := Agree) (fun _ _ _ hs h => agree_step hs h) ?_ ?_
    (agree_start G flag now) h
  · intro s reads hs hthrown
    have hgate : ¬ s.component.thrown = true := by
      rw [hs, hthrown]
      decide
    exact (if_neg hgate).trans (Option.some_get _).symm
  · intro s k hs hthrown
    have hgate : ¬ s.component.thrown = true := by
      rw [hs, hthrown]
      decide
    cases k with
    | updatePositionVector => exact if_neg hgate
    | request packet => exact if_neg hgate

/-- **Fetching goes on, and nothing is sent.** With the option set, from `require_position_fix` on,
in every run of the position provider, the updates of the position vector and the requests of the
router: no packet is sent, a tick of the timer is to come unless `gps_read` has failed, and in
a window of length `w` there are at most `w / 0.5 s + 1` ticks. -/
theorem nothing_sent_run {now : ℤ} {as : List (PeriodicTask.Action (Reads δ) Other)}
    {t : State T (PositionGate τ δ)}
    (h : ((task G).system T).run ((task G).start T now (PositionGate.start G true)) as = some t) :
    t.component.sent = [] ∧ (t.component.thrown = false → t.waits + t.handlers.length = 1) ∧
      ∀ lo hi, lo ≤ hi →
        (t.ticks.filter fun time => lo ≤ time ∧ time ≤ hi).length * 500000000 ≤
          hi - lo + 500000000 := by
  have hagree : Agree t := ((task G).system T).run_invariant (P := Agree)
    (fun _ _ _ hs h => agree_step hs h) (agree_start G true now) h
  have hregular : (task G).Regular t := regular_run h
  refine ⟨PositionGate.sent_run (gate_run h), fun hthrown => ?_, fun lo hi hle => ?_⟩
  · exact hregular.pending (hagree.symm.trans hthrown)
  · exact hregular.ticks_in_window hle

/-- Two ticks, the first one late, an update after each of them, and a packet. -/
def twoTicks : List (PeriodicTask.Action (Reads (Option ℕ)) Other) :=
  [.clock 700000000, .expire, .handler ⟨[(0, PositionGate.goodReport)], rfl⟩ 700000010,
    .other .updatePositionVector, .clock 1200000010, .expire,
    .handler ⟨[(0, PositionGate.goodReport)], rfl⟩ 1200000020, .other .updatePositionVector,
    .other (.request [0x11])]

theorem nothing_sent_two_ticks :
    ∃ t, ((task PositionGate.plainGnss).system viewTimer).run
        ((task PositionGate.plainGnss).start viewTimer 0
          (PositionGate.start PositionGate.plainGnss true)) twoTicks = some t ∧
      t.ticks = [700000000, 1200000010] ∧ t.component.sent = [] := by
  have hrun : ((task PositionGate.plainGnss).system viewTimer).run
      ((task PositionGate.plainGnss).start viewTimer 0
        (PositionGate.start PositionGate.plainGnss true)) twoTicks = some _ := rfl
  exact ⟨_, hrun, rfl, (nothing_sent_run hrun).1⟩

end GpsPositionProvider

/-! ### The benchmark -/

/-- `BenchmarkApplication`, with what it has printed. -/
structure BenchmarkApplication where
  /-- `m_received_messages`. -/
  receivedMessages : UInt32
  /-- The numbers printed, in order. -/
  reports : List UInt32

namespace BenchmarkApplication

variable {T : WaitableTimer}

/-- `BenchmarkApplication::tap_packet`. -/
def tapPacket (app : BenchmarkApplication) : BenchmarkApplication :=
  { app with receivedMessages := app.receivedMessages + 1 }

/-- The work of `BenchmarkApplication::on_timer`. -/
def report (app : BenchmarkApplication) : BenchmarkApplication :=
  ⟨0, app.reports ++ [app.receivedMessages]⟩

/-- `BenchmarkApplication::schedule_timer` and `BenchmarkApplication::on_timer`. -/
def task : PeriodicTask BenchmarkApplication Unit Unit where
  interval := 1000000000
  interval_nonneg := by decide
  work app _ := (app.report, false)
  other app _ := app.tapPacket

/-- A new application, whose counter holds any number. -/
def new (receivedMessages : UInt32) : BenchmarkApplication := ⟨receivedMessages, []⟩

/-- The messages reported, and those that are still to be reported. -/
def counted (app : BenchmarkApplication) : ℕ :=
  (app.reports.map UInt32.toNat).sum + app.receivedMessages.toNat

/-- A message. -/
def isTap : PeriodicTask.Action Unit Unit → Bool
  | .other _ => true
  | _ => false

theorem counted_report (app : BenchmarkApplication) : app.report.counted = app.counted := by
  rw [counted, counted, report, List.map_append, List.sum_append, List.map_singleton,
    List.sum_singleton]
  rfl

/-- A message is counted, unless the counter overflows. -/
theorem counted_tapPacket (app : BenchmarkApplication) :
    app.tapPacket.counted = app.counted + 1 ∨
      4294967296 ≤ app.counted + 1 ∧ app.tapPacket.counted + 4294967296 = app.counted + 1 := by
  have hlt := app.receivedMessages.toNat_lt
  have htoNat : (app.receivedMessages + 1).toNat =
      (app.receivedMessages.toNat + 1) % 4294967296 := UInt32.toNat_add _ _
  have hcounted : app.tapPacket.counted =
      (app.reports.map UInt32.toNat).sum + (app.receivedMessages + 1).toNat := rfl
  rw [hcounted, counted, htoNat]
  omega

/-- One step counts one message, if it is a tap and the counter does not overflow. -/
theorem counted_step {s t : State T BenchmarkApplication} {a : PeriodicTask.Action Unit Unit}
    (hs : task.Regular s) (h : (task.system T).step s a = some t) :
    t.component.counted = s.component.counted + (if isTap a then 1 else 0) ∨
      4294967296 ≤ s.component.counted + (if isTap a then 1 else 0) ∧
        t.component.counted + 4294967296 =
          s.component.counted + if isTap a then 1 else 0 := by
  have h' := (Option.ite_none_left_eq_some.mp h).2
  cases a with
  | clock time =>
    obtain rfl := Option.some.inj (Option.ite_none_right_eq_some.mp h').2
    exact .inl rfl
  | expire =>
    obtain rfl := Option.some.inj (Option.ite_none_right_eq_some.mp h').2
    exact .inl rfl
  | handler input done =>
    obtain ⟨-, -, -, -, -, rfl⟩ := handler_cases hs h
    rw [component_onTimer]
    exact .inl (counted_report s.component)
  | other k =>
    obtain rfl := Option.some.inj h'
    exact counted_tapPacket s.component

/-- A run counts its messages, up to overflows of the counter, of which there are none as long as
the messages and what the counter held at the start do not exceed its range. -/
theorem counted_run {s t : State T BenchmarkApplication}
    {as : List (PeriodicTask.Action Unit Unit)} (hs : task.Regular s)
    (h : (task.system T).run s as = some t) :
    t.component.counted % 4294967296 = (s.component.counted + as.countP isTap) % 4294967296 ∧
      (s.component.counted + as.countP isTap < 4294967296 →
        t.component.counted = s.component.counted + as.countP isTap) := by
  induction as generalizing s with
  | nil =>
    cases h
    exact ⟨rfl, fun _ => rfl⟩
  | cons a as ih =>
    obtain ⟨s', hs', h⟩ := (ActionSystem.run_cons_iff _).mp h
    obtain ⟨hmod, hexact⟩ := ih (regular_step hs hs') h
    rw [List.countP_cons]
    obtain hstep | ⟨hover, hstep⟩ := counted_step hs hs'
    · rw [hstep] at hmod hexact
      refine ⟨by rw [hmod]; congr 1; omega, fun hlt => ?_⟩
      rw [hexact (by omega)]
      omega
    · refine ⟨by omega, fun hlt => ?_⟩
      omega

/-- Each tick is reported. -/
theorem length_reports {s t : State T BenchmarkApplication}
    {a : PeriodicTask.Action Unit Unit}
    (hs : task.Regular s ∧ s.component.reports.length = s.ticks.length)
    (h : (task.system T).step s a = some t) :
    task.Regular t ∧ t.component.reports.length = t.ticks.length := by
  refine ⟨regular_step hs.1 h, ?_⟩
  have h' := (Option.ite_none_left_eq_some.mp h).2
  cases a with
  | clock time =>
    obtain rfl := Option.some.inj (Option.ite_none_right_eq_some.mp h').2
    exact hs.2
  | expire =>
    obtain rfl := Option.some.inj (Option.ite_none_right_eq_some.mp h').2
    exact hs.2
  | handler input done =>
    obtain ⟨-, -, -, -, -, rfl⟩ := handler_cases hs.1 h
    rw [component_onTimer, ticks_onTimer]
    show (s.component.reports ++ [s.component.receivedMessages]).length = _
    rw [List.length_append, List.length_append, hs.2]
    rfl
  | other k =>
    obtain rfl := Option.some.inj h'
    exact hs.2

/-- **When the reports account for the messages.** In every run with fewer than 2^32 messages, the
numbers printed, and the messages since the last of them, add up to the number of messages exactly
if the counter happened to hold zero at the start. There is one report for each tick, and the ticks
are at least a second apart. -/
theorem reports_account_iff {receivedMessages : UInt32} {now : ℤ}
    {as : List (PeriodicTask.Action Unit Unit)} {t : State T BenchmarkApplication}
    (h : (task.system T).run (task.start T now (new receivedMessages)) as = some t)
    (hlt : as.countP isTap < 4294967296) :
    (t.component.counted = as.countP isTap ↔ receivedMessages = 0) ∧
      t.component.reports.length = t.ticks.length ∧ Spaced 1000000000 t.ticks := by
  have hstart : (task.start T now (new receivedMessages)).component.counted =
      receivedMessages.toNat := Nat.zero_add _
  have hregular : task.Regular t := regular_run h
  obtain ⟨hmod, hexact⟩ := counted_run (regular_start now (new receivedMessages)) h
  rw [hstart] at hmod hexact
  refine ⟨⟨fun hcounted => ?_, ?_⟩, ?_, hregular.spaced⟩
  · -- the counter held a multiple of 2^32
    have hrange := receivedMessages.toNat_lt
    have hzero : receivedMessages.toNat = 0 := by omega
    exact UInt32.toNat_inj.mp hzero
  · rintro rfl
    have hzero : UInt32.toNat 0 = 0 := rfl
    rw [hzero, Nat.zero_add] at hexact
    exact hexact hlt
  · exact ((task.system T).run_invariant (fun _ _ _ hs h => length_reports hs h)
      ⟨regular_start now (new receivedMessages), rfl⟩ h).2

/-- A counter that holds 7, two messages, a report, and one more message. -/
def threeMessages : List (PeriodicTask.Action Unit Unit) :=
  [.other (), .other (), .clock 1000000000, .expire, .handler () 1000000000, .other ()]

theorem reports_three_messages :
    ∃ t, (task.system viewTimer).run (task.start viewTimer 0 (new 7)) threeMessages = some t ∧
      t.component.reports = [9] ∧ t.component.counted ≠ 3 := by
  have hrun : (task.system viewTimer).run (task.start viewTimer 0 (new 7)) threeMessages =
      some _ := rfl
  refine ⟨_, hrun, rfl, fun hcounted => ?_⟩
  have hzero := (reports_account_iff hrun (by decide)).1.mp hcounted
  exact absurd hzero (by decide)

end BenchmarkApplication

/-! ### The greeting -/

/-- What `HelloApplication` hands to the router. -/
structure HelloPacket where
  upperProtocol : UpperProtocol
  communicationProfile : CommunicationProfile
  itsAid : ℕ
  transportType : TransportType
  transport : HeaderB
  application : List UInt8
  deriving DecidableEq

/-- `HelloApplication`, with what it has handed to the router. -/
structure HelloApplication where
  /-- `router_` is the router of a context. -/
  router : Bool
  handed : List HelloPacket

namespace HelloApplication

variable {T : WaitableTimer}

/-- `HelloApplication::port`. -/
def port : ℕ := 42

/-- The packet, with the header that `Application::request` gives it. -/
def packet : HelloPacket where
  upperProtocol := .btpB
  communicationProfile := .itsG5
  itsAid := aid.CA
  transportType := .shb
  transport := ⟨port, 0⟩
  application := [0xC0, 0xFF, 0xEE]

/-- The work of `HelloApplication::on_timer`, where `answer` is what the router confirms if it is
asked. Anything but an acceptance ends it with an exception. -/
def hello (app : HelloApplication) (answer : ResultCode) : HelloApplication × Bool :=
  if app.router then
    ({ app with handed := app.handed ++ [packet] }, answer ≠ .accepted)
  else (app, true)

/-- What the work does: one packet, unless it fails. -/
theorem hello_spec (app : HelloApplication) (answer : ResultCode) :
    (∀ p ∈ (hello app answer).1.handed, p ∈ app.handed ∨ p = packet) ∧
      ((hello app answer).2 = false →
        (hello app answer).1.handed.length = app.handed.length + 1) := by
  rw [hello]
  split
  · refine ⟨fun p hp => ?_, fun _ => List.length_append⟩
    exact (List.mem_append.mp hp).imp_right List.mem_singleton.mp
  · exact ⟨fun p hp => .inl hp, nofun⟩

/-- `HelloApplication::schedule_timer` and `HelloApplication::on_timer`, with the interval of the
constructor in milliseconds. The others enable the application, or disable it. -/
def task (interval : ℕ) : PeriodicTask HelloApplication ResultCode Bool where
  interval := interval * 1000000
  interval_nonneg := by omega
  work := hello
  other app enabled := { app with router := enabled }

/-- Every packet is the same, and unless the application has failed there is one for each tick. -/
@[mk_iff] structure Greets (s : State T HelloApplication) : Prop where
  same : ∀ p ∈ s.component.handed, p = packet
  each : s.thrown = false → s.component.handed.length = s.ticks.length

theorem greets_step {interval : ℕ} {s t : State T HelloApplication}
    {a : PeriodicTask.Action ResultCode Bool} (hs : (task interval).Regular s ∧ Greets s)
    (h : ((task interval).system T).step s a = some t) : (task interval).Regular t ∧ Greets t := by
  refine ⟨regular_step hs.1 h, ?_⟩
  obtain ⟨hregular, hsame, heach⟩ := hs
  have h' := (Option.ite_none_left_eq_some.mp h).2
  cases a with
  | clock time =>
    obtain rfl := Option.some.inj (Option.ite_none_right_eq_some.mp h').2
    exact ⟨hsame, heach⟩
  | expire =>
    obtain rfl := Option.some.inj (Option.ite_none_right_eq_some.mp h').2
    exact ⟨hsame, heach⟩
  | handler answer done =>
    obtain ⟨hthrown, -, -, -, -, rfl⟩ := handler_cases hregular h
    rw [greets_iff, component_onTimer, ticks_onTimer, thrown_onTimer]
    obtain ⟨hmem, hlength⟩ := hello_spec s.component answer
    refine ⟨fun p hp => (hmem p hp).elim (hsame p) id, fun hok => (hlength hok).trans ?_⟩
    rw [heach hthrown, List.length_append]
    rfl
  | other k =>
    obtain rfl := Option.some.inj h'
    exact ⟨hsame, heach⟩

/-- **A packet for each tick.** In every run from `enable` on, whatever the interval, and whenever
the application is disabled or enabled again: all packets are the same, and the ticks are at least
the interval apart; and unless a request was not accepted, there is one packet for each tick, and
a tick is to come. -/
theorem greets_run {interval : ℕ} {now : ℤ} {as : List (PeriodicTask.Action ResultCode Bool)}
    {t : State T HelloApplication}
    (h : ((task interval).system T).run ((task interval).start T now ⟨true, []⟩) as = some t) :
    (∀ p ∈ t.component.handed, p = packet) ∧ Spaced (interval * 1000000) t.ticks ∧
      (t.thrown = false →
        t.component.handed.length = t.ticks.length ∧ t.waits + t.handlers.length = 1) := by
  obtain ⟨hregular, hsame, heach⟩ := ((task interval).system T).run_invariant
    (P := fun s => (task interval).Regular s ∧ Greets s) (fun _ _ _ hs h => greets_step hs h)
    ⟨regular_start now _, List.forall_mem_nil _, fun _ => rfl⟩ h
  exact ⟨hsame, hregular.spaced, fun hok => ⟨heach hok, hregular.pending hok⟩⟩

/-- Two ticks, the second one late, and the application is disabled. -/
def disabledLate : List (PeriodicTask.Action ResultCode Bool) :=
  [.clock 800000000, .expire, .handler .accepted 800000000, .clock 1700000000, .expire,
    .handler .accepted 1700000000, .other false]

theorem greets_disabled_late :
    ∃ t, ((task 800).system viewTimer).run ((task 800).start viewTimer 0 ⟨true, []⟩) disabledLate =
        some t ∧
      t.ticks = [800000000, 1700000000] ∧ t.component.handed.length = 2 := by
  have hrun : ((task 800).system viewTimer).run ((task 800).start viewTimer 0 ⟨true, []⟩)
      disabledLate = some _ := rfl
  exact ⟨_, hrun, rfl, ((greets_run hrun).2.2 rfl).1⟩

end HelloApplication

end BluetoothAuto.Router
