import BluetoothAuto.App.Devices
import Mathlib.Data.List.Forall2

/-!
# The screen of the app

`MainActivity` reacts to its buttons, to the list of the devices that were found and to broadcasts.
A click on a device makes a new `BluetoothConnectionService`, whose constructor starts an
`AcceptThread`; the service before it is neither stopped nor used again. The button that starts a
connection calls `startClient` of the newest service with the device in the field `mBTDevice`, which
a click sets, and so does the broadcast that a bond has been made.

Three of the four receivers are registered by buttons. `onDestroy` unregisters all four, and throws
where a receiver is not registered.

The events of the screen are interleaved with the threads of all services. They go on when the
activity has been destroyed. An exception that nobody catches ends the application, with all its
services.

## Main results

* `destroy_throws_iff` — when the activity cannot be destroyed
* `start_connection_run` — what the button that starts a connection does
* `sockets_on_clicked_device` — each service connects to the device that it was made for
-/

namespace BluetoothAuto.App

/-- The receivers of the activity. -/
inductive Receiver where
  /-- For `ACTION_STATE_CHANGED`. -/
  | mBroadcastReceiver1
  /-- For `ACTION_SCAN_MODE_CHANGED`. -/
  | mBroadcastReceiver2
  /-- For `ACTION_FOUND`. -/
  | mBroadcastReceiver3
  /-- For `ACTION_BOND_STATE_CHANGED`. -/
  | mBroadcastReceiver4
  deriving DecidableEq

/-- The activity with its services, for devices in `δ`. The device that `startClient` is called with
may be null. -/
structure MainActivity (δ : Type) where
  mBTDevices : List δ := []
  mBTDevice : Option δ := none
  /-- The place of the service in the field `mBluetoothConnection`. -/
  mBluetoothConnection : Option ℕ := none
  /-- The services that were made. -/
  services : List (DeviceService (Option δ)) := []
  /-- The devices that the services were made for. No step reads them. -/
  clicked : List δ := []
  /-- The receivers that are registered. -/
  registered : List Receiver := []
  destroyed : Bool := false
  /-- An exception has ended the application. -/
  crashed : Bool := false

namespace MainActivity

variable {δ : Type}

/-- An exception that nobody catches. -/
def crash (s : MainActivity δ) : MainActivity δ := { s with crashed := true }

/-- `registerReceiver`. -/
def registerReceiver (s : MainActivity δ) (r : Receiver) : MainActivity δ :=
  { s with registered := s.registered ++ [r] }

/-- `unregisterReceiver`, which throws if the receiver is not registered. -/
def unregisterReceiver (s : MainActivity δ) (r : Receiver) : MainActivity δ :=
  if s.crashed then s
  else if r ∈ s.registered then { s with registered := s.registered.filter fun r' => r' ≠ r }
  else s.crash

/-- `onCreate`, where the device may have no adapter. -/
def onCreate (adapter : Bool) : MainActivity δ :=
  let s : MainActivity δ := {}
  let s := s.registerReceiver .mBroadcastReceiver4
  -- `mAdapter.isEnabled()`
  if adapter then s else s.crash

/-- `onDestroy`. -/
def onDestroy (s : MainActivity δ) : MainActivity δ :=
  let s := { s with destroyed := true }
  let s := s.unregisterReceiver .mBroadcastReceiver1
  let s := s.unregisterReceiver .mBroadcastReceiver2
  let s := s.unregisterReceiver .mBroadcastReceiver3
  s.unregisterReceiver .mBroadcastReceiver4

/-- `enableDisableBluetooth`, with what the two calls of `isEnabled` return. -/
def enableDisableBluetooth (s : MainActivity δ) (isEnabled isEnabledThen : Bool) :
    MainActivity δ :=
  let s := if ¬ isEnabled then s.registerReceiver .mBroadcastReceiver1 else s
  if isEnabledThen then s.registerReceiver .mBroadcastReceiver1 else s

/-- `enableDisableDiscoverable`. -/
def enableDisableDiscoverable (s : MainActivity δ) : MainActivity δ :=
  s.registerReceiver .mBroadcastReceiver2

/-- The click handler of `mDiscoverBtn`. -/
def discover (s : MainActivity δ) : MainActivity δ := s.registerReceiver .mBroadcastReceiver3

/-- `onReceive` of `mBroadcastReceiver3`. The list on the screen shows `mBTDevices`. -/
def onReceiveFound (s : MainActivity δ) (device : δ) : MainActivity δ :=
  { s with mBTDevices := s.mBTDevices ++ [device] }

/-- `onReceive` of `mBroadcastReceiver4`; the bond may have been made, or not. -/
def onReceiveBondStateChanged (s : MainActivity δ) (mDevice : δ) (bonded : Bool) :
    MainActivity δ :=
  if bonded then { s with mBTDevice := some mDevice } else s

/-- `onItemClick` on a device, on Android of API level `sdkInt`. `listening` says whether the new
service gets its server socket. -/
def onItemClick (sdkInt : ℕ) (s : MainActivity δ) (device : δ) (listening : Bool) :
    MainActivity δ :=
  -- `Build.VERSION_CODES.JELLY_BEAN_MR2`
  if 18 < sdkInt then
    { s with
      mBTDevice := some device
      mBluetoothConnection := some s.services.length
      services := s.services ++ [DeviceService.new listening]
      clicked := s.clicked ++ [device] }
  else s

/-- A service takes a step. -/
def setService (s : MainActivity δ) (k : ℕ) (service : DeviceService (Option δ)) :
    MainActivity δ :=
  { s with services := s.services.set k service, crashed := service.service.crashed }

/-- A step of a service, or `none` if it is not enabled. -/
def serviceStep (s : MainActivity δ) (k : ℕ) (a : DeviceAction (Option δ)) :
    Option (MainActivity δ) :=
  (s.services[k]?).bind fun service => (DeviceService.system.step service a).map (s.setService k)

/-- `startConnection`. -/
def startConnection (s : MainActivity δ) : Option (MainActivity δ) :=
  match s.mBluetoothConnection with
  | none => some s.crash
  | some k => s.serviceStep k (.startClient s.mBTDevice)

/-- What can happen next. -/
inductive Action (δ : Type) where
  /-- A click on `mOnOffBtn`, with what `isEnabled` returns. -/
  | onOff (isEnabled isEnabledThen : Bool)
  /-- A click on `mEnableDiscoverableBtn`. -/
  | enableDiscoverable
  /-- A click on `mDiscoverBtn`. -/
  | discover
  /-- A broadcast `ACTION_FOUND`. -/
  | found (device : δ)
  /-- A broadcast `ACTION_BOND_STATE_CHANGED`. -/
  | bondStateChanged (device : δ) (bonded : Bool)
  /-- A click on the list. -/
  | itemClick (position : ℕ) (listening : Bool)
  /-- A click on `mStartConnectionBtn`. -/
  | startConnection
  /-- The activity is destroyed. -/
  | destroy
  /-- A step of a thread of a service. -/
  | thread (k : ℕ) (a : Service.Action)

/-- An event of the screen. -/
def screenStep (sdkInt : ℕ) (s : MainActivity δ) : Action δ → Option (MainActivity δ)
  | .onOff isEnabled isEnabledThen => some (s.enableDisableBluetooth isEnabled isEnabledThen)
  | .enableDiscoverable => some s.enableDisableDiscoverable
  | .discover => some s.discover
  | .found device =>
    if .mBroadcastReceiver3 ∈ s.registered then some (s.onReceiveFound device) else none
  | .bondStateChanged device bonded =>
    if .mBroadcastReceiver4 ∈ s.registered then some (s.onReceiveBondStateChanged device bonded)
    else none
  | .itemClick position listening =>
    (s.mBTDevices[position]?).map fun device => s.onItemClick sdkInt device listening
  | .startConnection => s.startConnection
  | .destroy => some s.onDestroy
  | .thread _ _ => none

/-- The activity and the threads of its services. Only its constructor calls `start` of a
service. -/
def system (sdkInt : ℕ) : ActionSystem (MainActivity δ) (Action δ) where
  step s a :=
    if s.crashed then none
    else
      match a with
      | .thread _ (.start _) => none
      | .thread k a => s.serviceStep k (.other a)
      | a => if s.destroyed then none else s.screenStep sdkInt a

/-- What a step does. -/
inductive Effect (sdkInt : ℕ) (s : MainActivity δ) : Action δ → MainActivity δ → Prop
  /-- An event of the screen. -/
  | screen {a : Action δ} {t : MainActivity δ} (hshown : s.destroyed = false)
    (h : s.screenStep sdkInt a = some t) : Effect sdkInt s a t
  /-- A step of a thread. -/
  | thread {k : ℕ} {a : Service.Action} {t : MainActivity δ}
    (h : s.serviceStep k (.other a) = some t) : Effect sdkInt s (.thread k a) t

theorem effect_of_step {sdkInt : ℕ} {s t : MainActivity δ} {a : Action δ}
    (h : (system sdkInt).step s a = some t) : Effect sdkInt s a t := by
  replace h := (Option.ite_none_left_eq_some.mp h).2
  split at h
  · cases h
  · exact .thread h
  · obtain ⟨hshown, h⟩ := Option.ite_none_left_eq_some.mp h
    exact .screen (by simpa using hshown) h

/-- The step of a service. -/
theorem serviceStep_eq_some {s t : MainActivity δ} {k : ℕ} {a : DeviceAction (Option δ)} :
    s.serviceStep k a = some t ↔ ∃ service service', s.services[k]? = some service ∧
      DeviceService.system.step service a = some service' ∧ s.setService k service' = t := by
  simp only [serviceStep, Option.bind_eq_some_iff, Option.map_eq_some_iff, exists_and_left]

/-- A click on the list is a click on a device. -/
theorem itemClick_eq_some {sdkInt : ℕ} {s t : MainActivity δ} {position : ℕ} {listening : Bool} :
    s.screenStep sdkInt (.itemClick position listening) = some t ↔
      ∃ device, s.mBTDevices[position]? = some device ∧
        s.onItemClick sdkInt device listening = t :=
  Option.map_eq_some_iff

/-! ### The receivers -/

/-- The actions that register a receiver. -/
def Registers (r : Receiver) : Action δ → Prop
  | .onOff isEnabled isEnabledThen =>
    r = .mBroadcastReceiver1 ∧ (isEnabled = false ∨ isEnabledThen = true)
  | .enableDiscoverable => r = .mBroadcastReceiver2
  | .discover => r = .mBroadcastReceiver3
  | _ => False

@[simp] theorem mem_registerReceiver {s : MainActivity δ} {r r' : Receiver} :
    r ∈ (s.registerReceiver r').registered ↔ r ∈ s.registered ∨ r = r' := by
  simp [registerReceiver]

/-- `unregisterReceiver` returns exactly if the receiver is registered, and then it is the only one
that is not registered any more. -/
theorem unregisterReceiver_spec (s : MainActivity δ) (r : Receiver) :
    ((s.unregisterReceiver r).crashed = false ↔ s.crashed = false ∧ r ∈ s.registered) ∧
      ((s.unregisterReceiver r).crashed = false →
        ∀ r', r' ∈ (s.unregisterReceiver r).registered ↔ r' ∈ s.registered ∧ r' ≠ r) := by
  rw [unregisterReceiver]
  by_cases hcrashed : s.crashed = true
  · simp [hcrashed]
  · by_cases hr : r ∈ s.registered
    · simp [hcrashed, hr]
    · simp [hcrashed, hr, crash]

/-- The same for several receivers, one after the other. -/
theorem unregisterReceivers_spec {rs : List Receiver} (hnodup : rs.Nodup) (s : MainActivity δ) :
    ((rs.foldl unregisterReceiver s).crashed = false ↔
        s.crashed = false ∧ ∀ r ∈ rs, r ∈ s.registered) ∧
      ((rs.foldl unregisterReceiver s).crashed = false →
        ∀ r', r' ∈ (rs.foldl unregisterReceiver s).registered ↔ r' ∈ s.registered ∧ r' ∉ rs) := by
  induction rs generalizing s with
  | nil => simp
  | cons r rs ih =>
    obtain ⟨hr, hnodup⟩ := List.nodup_cons.mp hnodup
    obtain ⟨hcrash, hmem⟩ := unregisterReceiver_spec s r
    obtain ⟨hcrashes, hmems⟩ := ih hnodup (s.unregisterReceiver r)
    rw [List.foldl_cons]
    constructor
    · rw [hcrashes, List.forall_mem_cons]
      constructor
      · rintro ⟨hlive, hall⟩
        exact ⟨(hcrash.mp hlive).1, (hcrash.mp hlive).2,
          fun r' hr' => ((hmem hlive r').mp (hall r' hr')).1⟩
      · rintro ⟨hlive, hin, hall⟩
        have hlive := hcrash.mpr ⟨hlive, hin⟩
        refine ⟨hlive, fun r' hr' => (hmem hlive r').mpr ⟨hall r' hr', ?_⟩⟩
        rintro rfl
        exact hr hr'
    · intro hlive r'
      rw [hmems hlive, hmem (hcrashes.mp hlive).1, List.mem_cons, not_or, and_assoc]

/-- `onDestroy` returns exactly if all the receivers are registered, and then none of them is any
more. -/
theorem onDestroy_spec {s : MainActivity δ} (hlive : s.crashed = false) :
    (s.onDestroy.crashed = false ↔ ∀ r, r ∈ s.registered) ∧
      (s.onDestroy.crashed = false → s.onDestroy.registered = []) := by
  have hall : ∀ r, r ∈ [Receiver.mBroadcastReceiver1, .mBroadcastReceiver2, .mBroadcastReceiver3,
      .mBroadcastReceiver4] := by
    rintro (_ | _ | _ | _) <;> decide
  have hnodup : [Receiver.mBroadcastReceiver1, .mBroadcastReceiver2, .mBroadcastReceiver3,
      .mBroadcastReceiver4].Nodup := by decide
  obtain ⟨hcrash, hmem⟩ := unregisterReceivers_spec hnodup { s with destroyed := true }
  constructor
  · refine hcrash.trans ((and_iff_right hlive).trans ?_)
    exact ⟨fun h r => h r (hall r), fun h r _ => h r⟩
  · intro hlive'
    refine List.eq_nil_iff_forall_not_mem.mpr fun r hr => ?_
    exact ((hmem hlive' r).mp hr).2 (hall r)

theorem registered_serviceStep {s t : MainActivity δ} {k : ℕ} {a : DeviceAction (Option δ)}
    (h : s.serviceStep k a = some t) :
    t.registered = s.registered ∧ t.destroyed = s.destroyed := by
  obtain ⟨service, service', -, -, rfl⟩ := serviceStep_eq_some.mp h
  exact ⟨rfl, rfl⟩

theorem registered_startConnection {s t : MainActivity δ} (h : s.startConnection = some t) :
    t.registered = s.registered ∧ t.destroyed = s.destroyed := by
  rw [startConnection] at h
  split at h
  · cases h
    exact ⟨rfl, rfl⟩
  · exact registered_serviceStep h

theorem destroyed_onDestroy (s : MainActivity δ) : s.onDestroy.destroyed = true := by
  have hkeep : ∀ (s : MainActivity δ) r, (s.unregisterReceiver r).destroyed = s.destroyed := by
    intro s r
    rw [unregisterReceiver]
    split_ifs <;> rfl
  simp only [onDestroy, hkeep]

/-- **One step.** A receiver is registered after it exactly if it was registered before or the step
registers it, unless the step destroys the activity. -/
theorem registered_step {sdkInt : ℕ} {s t : MainActivity δ} {a : Action δ}
    (h : (system sdkInt).step s a = some t) :
    a = .destroy ∧ t.destroyed = true ∨
      a ≠ .destroy ∧ t.destroyed = s.destroyed ∧
        ∀ r, r ∈ t.registered ↔ r ∈ s.registered ∨ Registers r a := by
  cases effect_of_step h with
  | thread h =>
    obtain ⟨hregistered, hdestroyed⟩ := registered_serviceStep h
    exact .inr ⟨nofun, hdestroyed, fun r => by rw [hregistered]; exact (or_iff_left id).symm⟩
  | screen hshown h =>
    cases a with
    | onOff isEnabled isEnabledThen =>
      obtain rfl := Option.some.inj h
      refine .inr ⟨nofun, ?_, fun r => ?_⟩
      · cases isEnabled <;> cases isEnabledThen <;> rfl
      · cases isEnabled <;> cases isEnabledThen <;> simp [enableDisableBluetooth, Registers]
    | enableDiscoverable =>
      obtain rfl := Option.some.inj h
      exact .inr ⟨nofun, rfl, fun r => mem_registerReceiver⟩
    | discover =>
      obtain rfl := Option.some.inj h
      exact .inr ⟨nofun, rfl, fun r => mem_registerReceiver⟩
    | found device =>
      obtain ⟨-, h⟩ := Option.ite_none_right_eq_some.mp h
      obtain rfl := Option.some.inj h
      exact .inr ⟨nofun, rfl, fun r => (or_iff_left id).symm⟩
    | bondStateChanged device bonded =>
      obtain ⟨-, h⟩ := Option.ite_none_right_eq_some.mp h
      obtain rfl := Option.some.inj h
      refine .inr ⟨nofun, ?_, fun r => ?_⟩
      · cases bonded <;> rfl
      · cases bonded <;> exact (or_iff_left id).symm
    | itemClick position listening =>
      obtain ⟨device, -, rfl⟩ := itemClick_eq_some.mp h
      refine .inr ⟨nofun, ?_, fun r => ?_⟩
      · rw [onItemClick]
        split <;> rfl
      · rw [onItemClick]
        split <;> exact (or_iff_left id).symm
    | startConnection =>
      obtain ⟨hregistered, hdestroyed⟩ := registered_startConnection h
      exact .inr ⟨nofun, hdestroyed, fun r => by rw [hregistered]; exact (or_iff_left id).symm⟩
    | destroy =>
      obtain rfl := Option.some.inj h
      exact .inl ⟨rfl, destroyed_onDestroy s⟩
    | thread k a => cases h

/-- The receivers after a run that has not destroyed the activity. -/
theorem registered_run {sdkInt : ℕ} {as : List (Action δ)} {s : MainActivity δ}
    (h : (system sdkInt).run (onCreate true) as = some s) (hshown : s.destroyed = false)
    (r : Receiver) : r ∈ s.registered ↔ r = .mBroadcastReceiver4 ∨ ∃ a ∈ as, Registers r a := by
  have hdestroyed : s.destroyed = true ↔ false = true ∨ ∃ a ∈ as, a = .destroy := by
    refine (system sdkInt).flag_of_run (P := fun s => s.destroyed = true) (fun s a t h => ?_) h
    obtain ⟨rfl, ht⟩ | ⟨hne, ht, -⟩ := registered_step h
    · exact iff_of_true ht (.inr rfl)
    · rw [ht]
      exact (or_iff_left hne).symm
  have hregistered : s.destroyed = true ∨ r ∈ s.registered ↔
      (false = true ∨ r ∈ [Receiver.mBroadcastReceiver4]) ∨
        ∃ a ∈ as, a = .destroy ∨ Registers r a := by
    refine (system sdkInt).flag_of_run (P := fun s => s.destroyed = true ∨ r ∈ s.registered)
      (G := fun a => a = .destroy ∨ Registers r a) (fun s a t h => ?_) h
    obtain ⟨rfl, ht⟩ | ⟨hne, ht, hmem⟩ := registered_step h
    · exact iff_of_true (.inl ht) (.inr (.inl rfl))
    · rw [ht, hmem, or_iff_right hne, or_assoc]
  have hnot : ∀ a ∈ as, a ≠ .destroy := by
    rintro _ ha rfl
    have := hdestroyed.mpr (.inr ⟨_, ha, rfl⟩)
    rw [hshown] at this
    cases this
  rw [hshown] at hregistered
  simp only [Bool.false_eq_true, false_or, List.mem_singleton] at hregistered
  rw [hregistered]
  refine or_congr_right (exists_congr fun a => and_congr_right fun ha => ?_)
  exact or_iff_right (hnot a ha)

/-- **When the activity cannot be destroyed.** In every run, with whatever the threads of the
services do, `onDestroy` throws, and so ends the application, unless the buttons for a discoverable
device and for a discovery have been clicked before, and the on/off button at a moment when the
first call of `isEnabled` returns false or the second one true. If it does not throw, no receiver
stays registered. -/
theorem destroy_throws_iff {sdkInt : ℕ} {as : List (Action δ)} {s : MainActivity δ}
    (h : (system sdkInt).run (onCreate true) as = some s) (hlive : s.crashed = false)
    (hshown : s.destroyed = false) :
    (s.onDestroy.crashed = true ↔
      ¬ ((∃ isEnabled isEnabledThen, .onOff isEnabled isEnabledThen ∈ as ∧
          (isEnabled = false ∨ isEnabledThen = true)) ∧
        .enableDiscoverable ∈ as ∧ .discover ∈ as)) ∧
      (s.onDestroy.crashed = false → s.onDestroy.registered = []) := by
  obtain ⟨hcrash, hnil⟩ := onDestroy_spec hlive
  refine ⟨?_, hnil⟩
  rw [← Bool.not_eq_false, hcrash, not_iff_not]
  have hregistered := registered_run h hshown
  constructor
  · intro hall
    refine ⟨?_, ?_, ?_⟩
    · obtain heq | ⟨a, ha, hr⟩ := (hregistered _).mp (hall .mBroadcastReceiver1)
      · cases heq
      · cases a with
        | onOff isEnabled isEnabledThen => exact ⟨_, _, ha, hr.2⟩
        | _ => cases hr
    · obtain heq | ⟨a, ha, hr⟩ := (hregistered _).mp (hall .mBroadcastReceiver2)
      · cases heq
      · cases a with
        | enableDiscoverable => exact ha
        | onOff => cases hr.1
        | _ => cases hr
    · obtain heq | ⟨a, ha, hr⟩ := (hregistered _).mp (hall .mBroadcastReceiver3)
      · cases heq
      · cases a with
        | discover => exact ha
        | onOff => cases hr.1
        | _ => cases hr
  · rintro ⟨⟨isEnabled, isEnabledThen, honOff, hon⟩, hdiscoverable, hdiscover⟩ r
    rw [hregistered]
    cases r with
    | mBroadcastReceiver1 => exact .inr ⟨_, honOff, rfl, hon⟩
    | mBroadcastReceiver2 => exact .inr ⟨_, hdiscoverable, rfl⟩
    | mBroadcastReceiver3 => exact .inr ⟨_, hdiscover, rfl⟩
    | mBroadcastReceiver4 => exact .inl rfl

/-- A discovery alone is not enough. -/
theorem destroy_after_discovery :
    ∃ s : MainActivity Unit, (system 29).run (onCreate true) [.discover] = some s ∧
      s.onDestroy.crashed = true := by
  have hrun : (system 29).run (onCreate (δ := Unit) true) [.discover] = some _ := rfl
  refine ⟨_, hrun, ?_⟩
  refine (destroy_throws_iff hrun rfl rfl).1.mpr ?_
  rintro ⟨-, hdiscoverable, -⟩
  cases List.mem_singleton.mp hdiscoverable

/-! ### What a step does to the services -/

/-- The services stay as they are. -/
structure SameServices (s t : MainActivity δ) : Prop where
  services : t.services = s.services
  mBluetoothConnection : t.mBluetoothConnection = s.mBluetoothConnection
  clicked : t.clicked = s.clicked
  crashed : t.crashed = false → s.crashed = false

/-- What a step does to the services and to `mBTDevice`. -/
inductive Change (sdkInt : ℕ) (s : MainActivity δ) : Action δ → MainActivity δ → Prop
  /-- A service is made for a device. -/
  | made {position : ℕ} {listening : Bool} {device : δ} (hsdk : 18 < sdkInt)
    (hget : s.mBTDevices[position]? = some device) :
    Change sdkInt s (.itemClick position listening) (s.onItemClick sdkInt device listening)
  /-- A service takes a step, which is not a call of `startClient`. -/
  | stepped {k : ℕ} {a : Service.Action} {t : MainActivity δ}
    (h : s.serviceStep k (.other a) = some t) : Change sdkInt s (.thread k a) t
  /-- A call of `startClient` of the service in the field. -/
  | started {k : ℕ} {t : MainActivity δ} (hk : s.mBluetoothConnection = some k)
    (h : s.serviceStep k (.startClient s.mBTDevice) = some t) : Change sdkInt s .startConnection t
  /-- A bond has been made. -/
  | bonded {device : δ} :
    Change sdkInt s (.bondStateChanged device true) (s.onReceiveBondStateChanged device true)
  /-- Anything else. -/
  | same {a : Action δ} {t : MainActivity δ} (h : SameServices s t)
    (hdevice : t.mBTDevice = s.mBTDevice)
    (hclick : ∀ position listening, a = .itemClick position listening → sdkInt ≤ 18)
    (hbond : ∀ device, a ≠ .bondStateChanged device true) : Change sdkInt s a t

theorem sameServices_unregisterReceiver (s : MainActivity δ) (r : Receiver) :
    SameServices s (s.unregisterReceiver r) ∧
      (s.unregisterReceiver r).mBTDevice = s.mBTDevice := by
  rw [unregisterReceiver]
  split_ifs
  · exact ⟨⟨rfl, rfl, rfl, id⟩, rfl⟩
  · exact ⟨⟨rfl, rfl, rfl, id⟩, rfl⟩
  · exact ⟨⟨rfl, rfl, rfl, nofun⟩, rfl⟩

theorem SameServices.trans {s t u : MainActivity δ} (h : SameServices s t)
    (h' : SameServices t u) : SameServices s u :=
  ⟨h'.services.trans h.services, h'.mBluetoothConnection.trans h.mBluetoothConnection,
    h'.clicked.trans h.clicked, h.crashed ∘ h'.crashed⟩

theorem sameServices_foldl (rs : List Receiver) (s : MainActivity δ) :
    SameServices s (rs.foldl unregisterReceiver s) ∧
      (rs.foldl unregisterReceiver s).mBTDevice = s.mBTDevice := by
  induction rs generalizing s with
  | nil => exact ⟨⟨rfl, rfl, rfl, id⟩, rfl⟩
  | cons r rs ih =>
    obtain ⟨hr, hdevice⟩ := sameServices_unregisterReceiver s r
    obtain ⟨hrs, hdevices⟩ := ih (s.unregisterReceiver r)
    exact ⟨hr.trans hrs, hdevices.trans hdevice⟩

theorem change_of_step {sdkInt : ℕ} {s t : MainActivity δ} {a : Action δ}
    (h : (system sdkInt).step s a = some t) : Change sdkInt s a t := by
  cases effect_of_step h with
  | thread h => exact .stepped h
  | screen hshown h =>
    cases a with
    | onOff isEnabled isEnabledThen =>
      obtain rfl := Option.some.inj h
      cases isEnabled <;> cases isEnabledThen <;>
        exact .same ⟨rfl, rfl, rfl, id⟩ rfl nofun nofun
    | enableDiscoverable =>
      obtain rfl := Option.some.inj h
      exact .same ⟨rfl, rfl, rfl, id⟩ rfl nofun nofun
    | discover =>
      obtain rfl := Option.some.inj h
      exact .same ⟨rfl, rfl, rfl, id⟩ rfl nofun nofun
    | found device =>
      obtain ⟨-, h⟩ := Option.ite_none_right_eq_some.mp h
      obtain rfl := Option.some.inj h
      exact .same ⟨rfl, rfl, rfl, id⟩ rfl nofun nofun
    | bondStateChanged device bonded =>
      obtain ⟨-, h⟩ := Option.ite_none_right_eq_some.mp h
      obtain rfl := Option.some.inj h
      cases bonded with
      | false => exact .same ⟨rfl, rfl, rfl, id⟩ rfl nofun nofun
      | true => exact .bonded
    | itemClick position listening =>
      obtain ⟨device, hget, rfl⟩ := itemClick_eq_some.mp h
      by_cases hsdk : 18 < sdkInt
      · exact .made hsdk hget
      · rw [onItemClick, if_neg hsdk]
        exact .same ⟨rfl, rfl, rfl, id⟩ rfl (fun _ _ _ => Nat.le_of_not_lt hsdk) nofun
    | startConnection =>
      replace h : s.startConnection = some t := h
      rw [startConnection] at h
      split at h
      · obtain rfl := Option.some.inj h
        exact .same ⟨rfl, rfl, rfl, nofun⟩ rfl nofun nofun
      · next k hk => exact .started hk h
    | destroy =>
      obtain rfl := Option.some.inj h
      obtain ⟨hsame, hdevice⟩ := sameServices_foldl [.mBroadcastReceiver1, .mBroadcastReceiver2,
        .mBroadcastReceiver3, .mBroadcastReceiver4] { s with destroyed := true }
      exact .same ⟨hsame.services, hsame.mBluetoothConnection, hsame.clicked, hsame.crashed⟩
        hdevice nofun nofun
    | thread k a => cases h

/-! ### The newest service -/

/-- The field `mBluetoothConnection` is the newest service, and there is a device for it. As long as
the application runs, no service has crashed. -/
structure Newest (s : MainActivity δ) : Prop where
  length : s.services.length = s.mBluetoothConnection.elim 0 Nat.succ
  device : s.services ≠ [] → s.mBTDevice ≠ none
  live : s.crashed = false → ∀ service ∈ s.services, service.service.crashed = false

/-- The service in the field. -/
theorem Newest.getElem? {s : MainActivity δ} (hs : Newest s) (hne : s.services ≠ []) :
    ∃ k services service, s.mBluetoothConnection = some k ∧ s.services = services ++ [service] ∧
      services.length = k := by
  have hlength := hs.length
  cases hk : s.mBluetoothConnection with
  | none =>
    rw [hk] at hlength
    exact absurd (List.length_eq_zero_iff.mp hlength) hne
  | some k =>
    obtain ⟨services, service, heq⟩ := List.eq_nil_or_concat s.services |>.resolve_left hne
    rw [hk, heq, List.concat_eq_append, List.length_append] at hlength
    exact ⟨k, services, service, rfl, heq.trans List.concat_eq_append, Nat.succ.inj hlength⟩

theorem Newest.serviceStep {s t : MainActivity δ} (hs : Newest s) (hlive : s.crashed = false)
    {k : ℕ} {a : DeviceAction (Option δ)} (h : s.serviceStep k a = some t) : Newest t := by
  obtain ⟨service, service', hget, -, rfl⟩ := serviceStep_eq_some.mp h
  have hne : s.services ≠ [] := List.ne_nil_of_mem (List.mem_of_getElem? hget)
  refine ⟨?_, fun _ => hs.device hne, fun hcrashed u hu => ?_⟩
  · show (s.services.set k service').length = _
    rw [List.length_set]
    exact hs.length
  · rcases List.mem_or_eq_of_mem_set hu with hu | rfl
    · exact hs.live hlive u hu
    · exact hcrashed

theorem crashed_of_step {sdkInt : ℕ} {s t : MainActivity δ} {a : Action δ}
    (h : (system sdkInt).step s a = some t) : s.crashed = false := by
  simpa using (Option.ite_none_left_eq_some.mp h).1

theorem Newest.step {sdkInt : ℕ} {s t : MainActivity δ} {a : Action δ} (hs : Newest s)
    (h : (system sdkInt).step s a = some t) : Newest t := by
  have hlive := crashed_of_step h
  cases change_of_step h with
  | @made position listening device hsdk hget =>
    rw [onItemClick, if_pos hsdk]
    refine ⟨List.length_append, nofun, fun _ => ?_⟩
    have hnew : (DeviceService.new (δ := Option δ) listening).service.crashed = false := by
      cases listening <;> rfl
    exact List.forall_mem_append.mpr ⟨hs.live hlive, List.forall_mem_singleton.mpr hnew⟩
  | stepped h => exact hs.serviceStep hlive h
  | started hk h => exact hs.serviceStep hlive h
  | bonded => exact ⟨hs.length, nofun, hs.live⟩
  | same h hdevice =>
    refine ⟨?_, ?_, fun hcrashed => ?_⟩
    · rw [h.services, h.mBluetoothConnection]
      exact hs.length
    · rw [h.services, hdevice]
      exact hs.device
    · rw [h.services]
      exact hs.live (h.crashed hcrashed)

theorem newest_onCreate : Newest (onCreate (δ := δ) true) :=
  ⟨rfl, fun hne => absurd rfl hne, fun _ => List.forall_mem_nil _⟩

/-- The device that a step puts into `mBTDevice`. -/
def chosen (sdkInt : ℕ) : MainActivity δ × Action δ × MainActivity δ → Option δ
  | (s, .itemClick position _, _) => if 18 < sdkInt then s.mBTDevices[position]? else none
  | (_, .bondStateChanged device true, _) => some device
  | _ => none

theorem mBTDevice_step {sdkInt : ℕ} {s t : MainActivity δ} {a : Action δ}
    (h : (system sdkInt).step s a = some t) :
    t.mBTDevice = (chosen sdkInt (s, a, t)).or s.mBTDevice := by
  cases change_of_step h with
  | made hsdk hget => simp [chosen, onItemClick, hsdk, hget]
  | stepped h =>
    obtain ⟨service, service', -, -, rfl⟩ := serviceStep_eq_some.mp h
    rfl
  | started hk h =>
    obtain ⟨service, service', -, -, rfl⟩ := serviceStep_eq_some.mp h
    rfl
  | bonded => rfl
  | same _ hdevice hclick hbond =>
    have hnone : chosen sdkInt (s, a, t) = none := by
      cases a with
      | itemClick position listening => exact if_neg (Nat.not_lt.mpr (hclick _ _ rfl))
      | bondStateChanged device bonded =>
        cases bonded with
        | false => rfl
        | true => exact absurd rfl (hbond device)
      | _ => rfl
    rw [hnone, hdevice, Option.none_or]

/-- The step makes a service: it is a click on the list, above API level 18. -/
def MakesService (sdkInt : ℕ) (a : Action δ) : Prop :=
  18 < sdkInt ∧ ∃ position listening, a = .itemClick position listening

theorem services_ne_nil_step {sdkInt : ℕ} {s t : MainActivity δ} {a : Action δ}
    (h : (system sdkInt).step s a = some t) :
    t.services ≠ [] ↔ s.services ≠ [] ∨ MakesService sdkInt a := by
  have hset : ∀ (k : ℕ) (service : DeviceService (Option δ)),
      s.services.set k service ≠ [] ↔ s.services ≠ [] := fun k service =>
    not_congr (List.set_eq_nil_iff k service)
  cases change_of_step h with
  | made hsdk hget => simp [onItemClick, MakesService, hsdk]
  | stepped h =>
    obtain ⟨service, service', -, -, rfl⟩ := serviceStep_eq_some.mp h
    exact (hset _ _).trans (or_iff_left (by simp [MakesService])).symm
  | started hk h =>
    obtain ⟨service, service', -, -, rfl⟩ := serviceStep_eq_some.mp h
    exact (hset _ _).trans (or_iff_left (by simp [MakesService])).symm
  | bonded => exact (or_iff_left (by simp [MakesService])).symm
  | same h _ hclick =>
    rw [h.services]
    refine (or_iff_left ?_).symm
    rintro ⟨hsdk, position, listening, rfl⟩
    exact absurd (hclick _ _ rfl) (Nat.not_le.mpr hsdk)

/-- A call of `startClient`. -/
theorem startClient_step {service : DeviceService (Option δ)}
    (hlive : service.service.crashed = false) (device : Option δ) :
    ∃ service', DeviceService.system.step service (.startClient device) = some service' ∧
      service'.service.crashed = false := by
  have hstep : Service.system.step service.service .startClient =
      some service.service.startClient := by
    simp [Service.system, hlive]
  exact ⟨_, Option.map_eq_some_iff.mpr ⟨_, hstep, rfl⟩, hlive⟩

/-- With a service, the button calls `startClient` of the newest one. -/
theorem Newest.startConnection_of_ne_nil {s : MainActivity δ} (hs : Newest s)
    (hlive : s.crashed = false) (hne : s.services ≠ []) :
    ∃ services service service' device,
      s.services = services ++ [service] ∧ s.mBTDevice = some device ∧
      DeviceService.system.step service (.startClient (some device)) = some service' ∧
      service'.service.crashed = false ∧
      s.startConnection = some (s.setService services.length service') := by
  obtain ⟨k, services, service, hk, heq, rfl⟩ := hs.getElem? hne
  obtain ⟨device, hsome⟩ := Option.ne_none_iff_exists'.mp (hs.device hne)
  have hservice : service.service.crashed = false :=
    hs.live hlive service (by rw [heq]; exact List.mem_append_right _ List.mem_cons_self)
  obtain ⟨service', hstart, hcrashed⟩ := startClient_step hservice (some device)
  have hget : s.services[services.length]? = some service := by
    rw [heq, List.getElem?_append_right (Nat.le_refl _), Nat.sub_self]
    rfl
  refine ⟨services, service, service', device, heq, hsome, hstart, hcrashed, ?_⟩
  rw [startConnection, hk, hsome]
  exact serviceStep_eq_some.mpr ⟨service, service', hget, hstart, rfl⟩

/-- Without one, it ends the application. -/
theorem Newest.startConnection_of_nil {s : MainActivity δ} (hs : Newest s)
    (hnil : s.services = []) : s.startConnection = some s.crash := by
  have hlength := hs.length
  rw [hnil] at hlength
  rw [startConnection]
  cases hk : s.mBluetoothConnection with
  | none => rfl
  | some k =>
    rw [hk] at hlength
    cases hlength

/-- **The button that starts a connection.** In every run, on every API level, with whatever the
threads of the services do, a click on it ends the application exactly if no device in the list has
been clicked before, or the API level is 18 or below, where a click on a device makes no service.
Otherwise it is a call of `startClient` of the newest service, and of no other one, with the device
that was chosen last: the one clicked or, after that, one that a bond has been made with. -/
theorem start_connection_run {sdkInt : ℕ} {as : List (Action δ)}
    {s : MainActivity δ} (h : (system sdkInt).run (onCreate true) as = some s)
    (hlive : s.crashed = false) (hshown : s.destroyed = false) :
    ∃ t, (system sdkInt).step s .startConnection = some t ∧
      (t.crashed = true ↔
        sdkInt ≤ 18 ∨ ∀ position listening, .itemClick position listening ∉ as) ∧
      (t.crashed = false → ∃ services service service' device,
        s.services = services ++ [service] ∧ t.services = services ++ [service'] ∧
        DeviceService.system.step service (.startClient (some device)) = some service' ∧
        (((system sdkInt).trace (onCreate true) as).filterMap (chosen sdkInt)).getLast? =
          some device) := by
  have hs : Newest s :=
    (system sdkInt).run_invariant (fun _ _ _ hs h => hs.step h) newest_onCreate h
  have hclicked : s.services ≠ [] ↔ ([] : List (DeviceService (Option δ))) ≠ [] ∨
      ∃ a ∈ as, MakesService sdkInt a :=
    (system sdkInt).flag_of_run (P := fun s => s.services ≠ [])
      (fun _ _ _ h => services_ne_nil_step h) h
  have hdevice : s.mBTDevice =
      (((system sdkInt).trace (onCreate true) as).filterMap (chosen sdkInt)).getLast?.or none :=
    (system sdkInt).get_of_run (fun s => s.mBTDevice) (chosen sdkInt)
      (fun _ _ _ h => mBTDevice_step h) h
  rw [Option.or_none] at hdevice
  have hstep : (system sdkInt).step s .startConnection = s.startConnection := by
    simp [system, hlive, hshown, screenStep]
  rw [hstep]
  by_cases hne : s.services ≠ []
  · obtain ⟨services, service, service', device, heq, hsome, hstart, hcrashed, hbutton⟩ :=
      hs.startConnection_of_ne_nil hlive hne
    refine ⟨_, hbutton, ?_, fun _ => ?_⟩
    · obtain habs | ⟨_, ha, hsdk, position, listening, rfl⟩ := hclicked.mp hne
      · exact absurd rfl habs
      · refine iff_of_false ?_ ?_
        · show ¬ service'.service.crashed = true
          simp [hcrashed]
        · rintro (hle | hno)
          · exact absurd hsdk (Nat.not_lt.mpr hle)
          · exact hno position listening ha
    · refine ⟨services, service, service', device, heq, ?_, hstart, hdevice ▸ hsome⟩
      show s.services.set services.length service' = _
      rw [heq, List.set_append_right _ _ (Nat.le_refl _), Nat.sub_self, List.set_cons_zero]
  · refine ⟨s.crash, hs.startConnection_of_nil (not_not.mp hne), ?_, nofun⟩
    refine iff_of_true rfl (or_iff_not_imp_left.mpr fun hsdk position listening ha => hne ?_)
    exact hclicked.mpr (.inr ⟨_, ha, Nat.not_le.mp hsdk, _, _, rfl⟩)

/-- A device is clicked, and then a bond is made with another one. -/
def anotherBond : List (Action Bool) :=
  [.discover, .found false, .itemClick 0 true, .bondStateChanged true true]

theorem start_connection_another_bond :
    ∃ s t : MainActivity Bool, (system 29).run (onCreate true) anotherBond = some s ∧
      (system 29).step s .startConnection = some t ∧ t.crashed = false ∧
      ∃ services service service' device,
        s.services = services ++ [service] ∧ t.services = services ++ [service'] ∧
        DeviceService.system.step service (.startClient (some device)) = some service' ∧
        (((system 29).trace (onCreate true) anotherBond).filterMap (chosen 29)).getLast? =
          some device := by
  have hrun : ∃ s : MainActivity Bool, (system 29).run (onCreate true) anotherBond = some s ∧
      s.crashed = false ∧ s.destroyed = false := by
    refine ⟨_, rfl, ?_, ?_⟩ <;> rfl
  obtain ⟨s, h, hlive, hshown⟩ := hrun
  obtain ⟨t, hstep, hcrashed, hcall⟩ := start_connection_run h hlive hshown
  have hlive' : t.crashed = false := by
    rw [← Bool.not_eq_true, hcrashed]
    rintro (hle | hno)
    · exact absurd hle (by decide)
    · exact hno 0 true (by simp [anotherBond])
  exact ⟨s, t, h, hstep, hlive', hcall hlive'⟩

/-! ### The device of a service -/

/-- All the calls of `startClient` and all the sockets of a service are for one device. -/
structure OnDevice (device : δ) (service : DeviceService (Option δ)) : Prop where
  inv : DeviceService.Inv service
  calls : ∀ call ∈ service.calls, call.2 = some device
  sockets : ∀ socket ∈ service.sockets, socket.2 = some (some device)

theorem OnDevice.new (device : δ) (listening : Bool) :
    OnDevice device (DeviceService.new listening) :=
  ⟨DeviceService.Inv.new listening, List.forall_mem_nil _, List.forall_mem_nil _⟩

/-- The field `mmDevice` of a service whose thread creates a socket. -/
theorem OnDevice.mmDevice {device : δ} {service : DeviceService (Option δ)}
    (h : OnDevice device service) {i : ℕ} {created : Bool} {next : Service}
    (hstep : Service.system.step service.service (.createSocket i created) = some next) :
    service.mmDevice = some (some device) := by
  -- the thread has been started by a call
  have hthread := DeviceService.connectThread_of_createSocket hstep
  have hcalled := (h.inv.called i).mp hthread
  rw [h.inv.device, DeviceService.lastDevice]
  cases hlast : service.calls.getLast? with
  | none =>
    rw [List.getLast?_eq_none_iff.mp hlast] at hcalled
    cases hcalled
  | some call =>
    rw [Option.map_some, h.calls call (List.mem_of_getLast? hlast)]

/-- A step keeps a service on its device, unless it is a call for another one. -/
theorem OnDevice.step {device : δ} {service service' : DeviceService (Option δ)}
    {a : DeviceAction (Option δ)} (h : OnDevice device service)
    (hclient : ∀ d, a = .startClient d → d = some device)
    (hstep : DeviceService.system.step service a = some service') : OnDevice device service' := by
  have hinv := h.inv.step hstep
  cases DeviceService.effect_of_step hstep with
  | startClient d next hnext =>
    refine ⟨hinv, List.forall_mem_append.mpr ⟨h.calls, ?_⟩, h.sockets⟩
    exact List.forall_mem_singleton.mpr (hclient d rfl)
  | createSocket i next hnext =>
    refine ⟨hinv, h.calls, List.forall_mem_append.mpr ⟨h.sockets, ?_⟩⟩
    exact List.forall_mem_singleton.mpr (h.mmDevice hnext)
  | other a next _ _ hnext => exact ⟨hinv, h.calls, h.sockets⟩

/-- Every service is on the device that it was made for, and `mBTDevice` is the device that was
clicked last. -/
structure OnClicked (s : MainActivity δ) : Prop where
  newest : Newest s
  services : List.Forall₂ OnDevice s.clicked s.services
  device : ∀ d ∈ s.clicked.getLast?, s.mBTDevice = some d

/-- A service takes a step. -/
theorem forall₂_set {α β : Type} {R : α → β → Prop} {as : List α} {bs : List β}
    (h : List.Forall₂ R as bs) {k : ℕ} {b : β} (hb : ∀ a, as[k]? = some a → R a b) :
    List.Forall₂ R as (bs.set k b) := by
  induction h generalizing k with
  | nil => exact .nil
  | @cons a b' as bs hab hrest ih =>
    cases k with
    | zero => exact .cons (hb a rfl) hrest
    | succ k => exact .cons hab (ih hb)

theorem forall₂_getElem? {α β : Type} {R : α → β → Prop} {as : List α} {bs : List β}
    (h : List.Forall₂ R as bs) {k : ℕ} {a : α} {b : β} (ha : as[k]? = some a)
    (hb : bs[k]? = some b) : R a b := by
  induction h generalizing k with
  | nil => cases ha
  | cons hab _ ih =>
    cases k with
    | zero =>
      cases ha
      cases hb
      exact hab
    | succ k => exact ih ha hb

theorem OnClicked.serviceStep {s t : MainActivity δ} (hs : OnClicked s) (hlive : s.crashed = false)
    {k : ℕ} {a : DeviceAction (Option δ)} (h : s.serviceStep k a = some t)
    (hclient : ∀ d, a = .startClient d → ∀ c, s.clicked[k]? = some c → d = some c) :
    OnClicked t := by
  have hnewest := hs.newest.serviceStep hlive h
  obtain ⟨service, service', hget, hstep, rfl⟩ := serviceStep_eq_some.mp h
  refine ⟨hnewest, forall₂_set hs.services fun c hc => ?_, hs.device⟩
  exact (forall₂_getElem? hs.services hc hget).step (fun d hd => hclient d hd c hc) hstep

/-- The device that a bond is made with. -/
def bondedDevice : Action δ → Option δ
  | .bondStateChanged device true => some device
  | _ => none

/-- A step in which a bond is made only with the device that was clicked last. -/
def BondsClicked (x : MainActivity δ × Action δ × MainActivity δ) : Prop :=
  ∀ device ∈ bondedDevice x.2.1, ∀ d ∈ x.1.clicked.getLast?, device = d

instance [DecidableEq δ] (x : MainActivity δ × Action δ × MainActivity δ) :
    Decidable (BondsClicked x) :=
  inferInstanceAs (Decidable (∀ device ∈ bondedDevice x.2.1, ∀ d ∈ x.1.clicked.getLast?,
    device = d))

theorem OnClicked.step {sdkInt : ℕ} {s t : MainActivity δ} {a : Action δ} (hs : OnClicked s)
    (hbonds : BondsClicked (s, a, t)) (h : (system sdkInt).step s a = some t) : OnClicked t := by
  have hlive := crashed_of_step h
  have hnewest := hs.newest.step h
  cases change_of_step h with
  | @made position listening device hsdk hget =>
    rw [onItemClick, if_pos hsdk] at hnewest ⊢
    refine ⟨hnewest, ?_, ?_⟩
    · exact List.rel_append hs.services (.cons (.new device listening) .nil)
    · simp
  | stepped h => exact hs.serviceStep hlive h nofun
  | @started k t hk h =>
    refine hs.serviceStep hlive h ?_
    rintro _ ⟨⟩ c hc
    -- the service in the field is the newest one
    have hlength := hs.newest.length
    rw [hk, ← hs.services.length_eq] at hlength
    refine hs.device c ?_
    rw [List.getLast?_eq_getElem?, hlength]
    exact hc
  | @bonded device =>
    refine ⟨hnewest, hs.services, fun d hd => ?_⟩
    exact congrArg some (hbonds device rfl d hd)
  | same h hdevice =>
    refine ⟨hnewest, ?_, ?_⟩
    · rw [h.clicked, h.services]
      exact hs.services
    · rw [h.clicked, hdevice]
      exact hs.device

/-- **Each service connects to the device that it was made for.** In every run in which bonds are
made only with the device that was clicked last, and in every interleaving of the screen with the
threads of all services, every socket that a thread of a service creates is on the device whose
click has made the service, however often the button that starts a connection is clicked. -/
theorem sockets_on_clicked_device {sdkInt : ℕ} {as : List (Action δ)} {s : MainActivity δ}
    (h : (system sdkInt).run (onCreate true) as = some s)
    (hbonds : ∀ x ∈ (system sdkInt).trace (onCreate true) as, BondsClicked x) :
    List.Forall₂ (fun device service =>
      ∀ socket ∈ DeviceService.sockets service, socket.2 = some (some device))
      s.clicked s.services := by
  have hs : OnClicked s := (system sdkInt).run_invariant_of_trace
    (fun _ _ _ hs hbonds h => hs.step hbonds h)
    ⟨newest_onCreate, .nil, nofun⟩ hbonds h
  exact hs.services.imp fun _ _ h => h.sockets

/-- Two devices are clicked, and the threads of both services create their sockets. -/
def twoDevices : List (Action Bool) :=
  [.discover, .found false, .found true, .itemClick 0 true, .bondStateChanged false true,
    .startConnection, .itemClick 1 true, .startConnection, .thread 0 (.createSocket 1 true),
    .thread 1 (.createSocket 1 true)]

theorem sockets_two_devices :
    ∃ s : MainActivity Bool, (system 29).run (onCreate true) twoDevices = some s ∧
      s.clicked = [false, true] ∧ s.services.map DeviceService.sockets =
        [[(1, some (some false))], [(1, some (some true))]] ∧
      List.Forall₂ (fun device service =>
        ∀ socket ∈ DeviceService.sockets service, socket.2 = some (some device))
        s.clicked s.services := by
  have hrun : (system 29).run (onCreate true) twoDevices = some _ := rfl
  refine ⟨_, hrun, rfl, rfl, ?_⟩
  refine sockets_on_clicked_device hrun ?_
  decide

end MainActivity

end BluetoothAuto.App
