import BluetoothAuto.App.Service

/-!
# The device of a connection attempt

`startClient(device, uuid)` constructs a `ConnectThread` and starts it. The constructor does not
keep the device: it stores it in the field `mmDevice` of the service, and the thread reads this
field when it creates its socket. A call of `startClient` in between replaces what the thread is
going to read.

The threads are those of `Service`. Here the calls of `startClient` have their devices, and the
service has the field.

## Main results

* `kinds_step` — which threads an action adds
* `Inv.step` — the field holds the device of the last call of `startClient`
* `own_device_iff` — each thread creates its socket on its own device iff that is the device of the
  last call of `startClient` by then
-/

namespace BluetoothAuto.App

namespace Service

/-! ### The threads that an action adds -/

/-- The kinds of the threads, in the order in which they were started. -/
def kinds (s : Service) : List AttemptKind := s.attempts.map Attempt.kind

/-- The place of the next thread is free. -/
theorem getElem?_kinds_length (s : Service) : s.kinds[s.attempts.length]? = none :=
  List.getElem?_eq_none (Nat.le_of_eq (List.length_map _))

theorem kinds_setAttempt {s : Service} {i : ℕ} {t t' : Attempt} (ht : s.attempts[i]? = some t)
    (hkind : t'.kind = t.kind) : (s.setAttempt i t').kinds = s.kinds := by
  obtain ⟨hi, hget⟩ := List.getElem?_eq_some_iff.mp ht
  have hi' : i < (s.attempts.map Attempt.kind).length := by rwa [List.length_map]
  have hsame : t'.kind = (s.attempts.map Attempt.kind)[i] := by
    rw [List.getElem_map, hget, hkind]
  show (s.attempts.set i t').map Attempt.kind = s.attempts.map Attempt.kind
  rw [List.map_set, hsame, List.set_getElem_self]

theorem kinds_spawn (s : Service) (kind : AttemptKind) :
    (s.spawn kind).kinds = s.kinds ++ [kind] :=
  List.map_append

theorem kinds_cancelConnectThread (s : Service) : s.cancelConnectThread.kinds = s.kinds := by
  obtain heq | ⟨i, t, ht, heq⟩ := cancelConnectThread_cases s
  · rw [heq]
  · have hcancel : (s.cancel i t).kinds = s.kinds := by
      rw [cancel]
      split
      · rfl
      · exact kinds_setAttempt ht rfl
    rw [heq]
    exact hcancel

theorem kinds_start (s : Service) (listening : Bool) :
    (s.start listening).kinds = s.kinds ∨
      (s.start listening).kinds = s.kinds ++ [.acceptThread listening] := by
  have hcancel := kinds_cancelConnectThread s
  obtain heq | heq := start_cases s listening
  · rw [heq]
    exact .inl hcancel
  · have hspawn := kinds_spawn s.cancelConnectThread (.acceptThread listening)
    rw [hcancel] at hspawn
    rw [heq]
    exact .inr hspawn

theorem kinds_accept {s : Service} {i : ℕ} {t : Attempt} (ht : s.attempts[i]? = some t)
    (listening accepted : Bool) : (s.accept i t listening accepted).kinds = s.kinds := by
  rw [accept]
  split_ifs
  · exact kinds_setAttempt ht rfl
  · exact kinds_setAttempt ht rfl
  · rfl

theorem kinds_connect {s s' : Service} {i : ℕ} {t : Attempt} (ht : s.attempts[i]? = some t)
    {succeeds : Bool} (h : s.connect i t succeeds = some s') : s'.kinds = s.kinds := by
  rw [connect] at h
  split at h
  · cases h
    rfl
  · split_ifs at h
    · cases h
      exact kinds_setAttempt ht rfl
    · cases h
      exact kinds_setAttempt ht rfl

theorem kinds_construct {s : Service} {i : ℕ} {t : Attempt} (ht : s.attempts[i]? = some t) :
    (s.construct i t).kinds = s.kinds := by
  rw [construct]
  split
  · rfl
  · exact kinds_setAttempt ht rfl

theorem kinds_startThread {s : Service} {i : ℕ} {t : Attempt} (ht : s.attempts[i]? = some t) :
    (s.startThread i t).kinds = s.kinds := by
  obtain ⟨heq, -⟩ | ⟨k, c, -, -, -, heq⟩ := startThread_cases s i t
  · rw [heq]
    rfl
  · rw [heq]
    exact kinds_setAttempt ht rfl

/-- The step of a thread adds no thread. -/
theorem kinds_threadStep {s s' : Service} {i : ℕ} {t : Attempt} (ht : s.attempts[i]? = some t)
    {a : Action} (h : s.threadStep i t a = some s') : s'.kinds = s.kinds := by
  cases effect_of_threadStep h with
  | accept hpc => exact kinds_accept ht _ _
  | createSocket hkind hpc => exact kinds_setAttempt ht rfl
  | connect hpc hconnect => exact kinds_connect ht hconnect
  | construct hpc => exact kinds_construct ht
  | startThread hpc => exact kinds_startThread ht

/-- **Which threads an action adds**: `startClient` adds a `ConnectThread`, `start` may add an
`AcceptThread`, and nothing else adds a thread. -/
theorem kinds_step {s s' : Service} {a : Action} (h : system.step s a = some s') :
    a = .startClient ∧ s'.kinds = s.kinds ++ [.connectThread] ∨
      a ≠ .startClient ∧
        (s'.kinds = s.kinds ∨ ∃ listening, s'.kinds = s.kinds ++ [.acceptThread listening]) := by
  obtain ⟨-, h⟩ := Option.ite_none_left_eq_some.mp h
  cases a with
  | start listening =>
    obtain rfl := Option.some.inj h
    exact .inr ⟨nofun, (kinds_start s listening).imp_right fun h => ⟨listening, h⟩⟩
  | startClient =>
    obtain rfl := Option.some.inj h
    exact .inl ⟨rfl, kinds_spawn s .connectThread⟩
  | uncheckedException =>
    obtain rfl := Option.some.inj h
    exact .inr ⟨nofun, .inl rfl⟩
  | _ =>
    obtain ⟨t, ht, h⟩ := Option.bind_eq_some_iff.mp h
    exact .inr ⟨nofun, .inl (kinds_threadStep ht h)⟩

end Service

/-! ### The service with its device -/

/-- A `BluetoothConnectionService` with its field `mmDevice`. The calls of `startClient` and the
sockets are kept for the statements about them; no step reads them. -/
structure DeviceService (δ : Type) where
  service : Service
  /-- The field `mmDevice`. -/
  mmDevice : Option δ
  /-- The calls of `startClient`: the place of the thread that was started, and the device. -/
  calls : List (ℕ × δ)
  /-- The sockets created: the place of the thread, and the device they were created on. -/
  sockets : List (ℕ × Option δ)

/-- What can happen next: a call of `startClient` with a device, or another action. -/
inductive DeviceAction (δ : Type) where
  /-- `startClient(device, uuid)`. -/
  | startClient (device : δ)
  | other (a : Service.Action)

namespace DeviceService

variable {δ : Type}

/-- The constructor of the service. -/
def new (listening : Bool) : DeviceService δ where
  service := Service.new listening
  mmDevice := none
  calls := []
  sockets := []

/-- The device that the last call of `startClient` has asked for. -/
def lastDevice (calls : List (ℕ × δ)) : Option δ := calls.getLast?.map Prod.snd

/-- The service and its threads. The constructor of the `ConnectThread` assigns `mmDevice` before
the thread is started; `createRfcommSocket` is invoked on what `mmDevice` then is. -/
def system : ActionSystem (DeviceService δ) (DeviceAction δ) where
  step s
    | .startClient device =>
      (Service.system.step s.service .startClient).map fun service =>
        { s with
          service := service
          mmDevice := some device
          calls := s.calls ++ [(s.service.attempts.length, device)] }
    | .other a =>
      if a = .startClient then none
      else
        (Service.system.step s.service a).map fun service =>
          match a with
          | .createSocket i true =>
            { s with service := service, sockets := s.sockets ++ [(i, s.mmDevice)] }
          | _ => { s with service := service }

/-- What a step does. -/
inductive Effect (s : DeviceService δ) : DeviceAction δ → DeviceService δ → Prop
  /-- A call of `startClient`. -/
  | startClient (device : δ) (service : Service)
    (h : Service.system.step s.service .startClient = some service) :
    Effect s (.startClient device)
      { s with
        service := service
        mmDevice := some device
        calls := s.calls ++ [(s.service.attempts.length, device)] }
  /-- A socket is created. -/
  | createSocket (i : ℕ) (service : Service)
    (h : Service.system.step s.service (.createSocket i true) = some service) :
    Effect s (.other (.createSocket i true))
      { s with service := service, sockets := s.sockets ++ [(i, s.mmDevice)] }
  /-- Any other step. -/
  | other (a : Service.Action) (service : Service) (hclient : a ≠ .startClient)
    (hsocket : ∀ i, a ≠ .createSocket i true)
    (h : Service.system.step s.service a = some service) :
    Effect s (.other a) { s with service := service }

theorem effect_of_step {s s' : DeviceService δ} {a : DeviceAction δ}
    (h : system.step s a = some s') : Effect s a s' := by
  cases a with
  | startClient device =>
    obtain ⟨service, hstep, rfl⟩ := Option.map_eq_some_iff.mp h
    exact .startClient device service hstep
  | other a =>
    obtain ⟨hclient, h⟩ := Option.ite_none_left_eq_some.mp h
    obtain ⟨service, hstep, rfl⟩ := Option.map_eq_some_iff.mp h
    split
    · exact .createSocket _ service hstep
    · next hsocket => exact .other a service hclient (fun i hi => hsocket i hi) hstep

/-! ### The field and the calls -/

/-- The calls of `startClient` are those that have started the `ConnectThread`s, one each, and the
field holds the device of the last of them. -/
structure Inv (s : DeviceService δ) : Prop where
  /-- The field. -/
  device : s.mmDevice = lastDevice s.calls
  /-- A thread is a `ConnectThread` exactly if a call has started it. -/
  called : ∀ i, s.service.kinds[i]? = some .connectThread ↔ i ∈ s.calls.map Prod.fst
  /-- No thread was started by two calls. -/
  unique : (s.calls.map Prod.fst).Nodup
  /-- Only such threads create sockets. -/
  sockets : ∀ x ∈ s.sockets, s.service.kinds[x.1]? = some .connectThread

theorem getElem?_concat_eq_some {α : Type*} {l : List α} {a b : α} {i : ℕ} :
    (l ++ [a])[i]? = some b ↔ l[i]? = some b ∨ i = l.length ∧ a = b := by
  rcases Nat.lt_trichotomy i l.length with hi | rfl | hi
  · rw [List.getElem?_append_left hi]
    exact (or_iff_left fun h => Nat.ne_of_lt hi h.1).symm
  · simp
  · have hout : (l ++ [a]).length ≤ i := by
      rw [List.length_append]
      exact hi
    rw [List.getElem?_eq_none hout, List.getElem?_eq_none (Nat.le_of_lt hi)]
    exact iff_of_false nofun (not_or_intro nofun fun h => Nat.ne_of_gt hi h.1)

/-- A thread that is not a `ConnectThread` does not matter. -/
theorem connectThread_iff {s s' : Service} {i : ℕ}
    (h : s'.kinds = s.kinds ∨ ∃ listening, s'.kinds = s.kinds ++ [.acceptThread listening]) :
    s'.kinds[i]? = some .connectThread ↔ s.kinds[i]? = some .connectThread := by
  obtain heq | ⟨listening, heq⟩ := h
  · rw [heq]
  · rw [heq, getElem?_concat_eq_some]
    exact or_iff_left fun h => nomatch h.2

/-- A thread that creates a socket is a `ConnectThread`. -/
theorem connectThread_of_createSocket {s s' : Service} {i : ℕ} {created : Bool}
    (h : Service.system.step s (.createSocket i created) = some s') :
    s.kinds[i]? = some .connectThread := by
  obtain ⟨-, h⟩ := Option.ite_none_left_eq_some.mp h
  obtain ⟨t, ht, h⟩ := Option.bind_eq_some_iff.mp h
  cases Service.effect_of_threadStep h with
  | createSocket hkind hpc => rw [Service.kinds, List.getElem?_map, ht, Option.map_some, hkind]

theorem lastDevice_concat (calls : List (ℕ × δ)) (call : ℕ × δ) :
    lastDevice (calls ++ [call]) = some call.2 := by
  rw [lastDevice, List.getLast?_concat, Option.map_some]

/-- **Every step keeps the field and the calls as they should be.** -/
theorem Inv.step {s s' : DeviceService δ} {a : DeviceAction δ} (hs : Inv s)
    (h : system.step s a = some s') : Inv s' := by
  cases effect_of_step h with
  | startClient device service hstep =>
    obtain ⟨-, hkinds⟩ | ⟨hne, -⟩ := Service.kinds_step hstep
    · have hlength : s.service.kinds.length = s.service.attempts.length := List.length_map _
      refine ⟨(lastDevice_concat s.calls (_, device)).symm, fun i => ?_, ?_, fun x hx => ?_⟩
      · show service.kinds[i]? = _ ↔ _
        rw [hkinds, getElem?_concat_eq_some, hs.called, List.map_append, List.mem_append, hlength]
        simp
      · rw [List.map_append, List.nodup_append]
        refine ⟨hs.unique, List.pairwise_singleton _ _, fun i hi j hj hij => ?_⟩
        obtain rfl := List.mem_singleton.mp hj
        have hsome := (hs.called i).mpr hi
        rw [hij] at hsome
        cases (Service.getElem?_kinds_length s.service).symm.trans hsome
      · show service.kinds[x.1]? = _
        rw [hkinds, getElem?_concat_eq_some]
        exact .inl (hs.sockets x hx)
    · exact absurd rfl hne
  | createSocket i service hstep =>
    obtain ⟨hclient, -⟩ | ⟨-, hkinds⟩ := Service.kinds_step hstep
    · cases hclient
    · refine ⟨hs.device, fun j => (connectThread_iff hkinds).trans (hs.called j), hs.unique, ?_⟩
      intro x hx
      refine (connectThread_iff hkinds).mpr ?_
      rcases List.mem_append.mp hx with hx | hx
      · exact hs.sockets x hx
      · obtain rfl := List.mem_singleton.mp hx
        exact connectThread_of_createSocket hstep
  | other a service hclient hsocket hstep =>
    obtain ⟨rfl, -⟩ | ⟨-, hkinds⟩ := Service.kinds_step hstep
    · exact absurd rfl hclient
    · exact ⟨hs.device, fun j => (connectThread_iff hkinds).trans (hs.called j), hs.unique,
        fun x hx => (connectThread_iff hkinds).mpr (hs.sockets x hx)⟩

theorem Inv.new (listening : Bool) : Inv (new (δ := δ) listening) := by
  refine ⟨rfl, fun i => ?_, List.nodup_nil, List.forall_mem_nil _⟩
  have hkinds : (Service.new listening).kinds = ({} : Service).kinds ∨
      ∃ b, (Service.new listening).kinds = ({} : Service).kinds ++ [.acceptThread b] :=
    (Service.kinds_start {} listening).imp_right fun h => ⟨listening, h⟩
  exact (connectThread_iff hkinds).trans (iff_of_false nofun List.not_mem_nil)

/-! ### The device of a socket -/

/-- **Each attempt goes to its own device**: every socket that the thread started by a call of
`startClient` has created was created on the device of this call. -/
def OwnDevice (s : DeviceService δ) : Prop :=
  ∀ i device own, (i, device) ∈ s.sockets → (i, own) ∈ s.calls → device = some own

/-- If a thread creates its socket, the last call of `startClient` has asked for the device of the
call that started the thread. -/
def InTime (s : DeviceService δ) (a : DeviceAction δ) : Prop :=
  ∀ i, a = .other (.createSocket i true) → ∀ own, (i, own) ∈ s.calls →
    lastDevice s.calls = some own

/-- One step keeps each attempt on its own device iff a socket that it creates is created in
time. -/
theorem ownDevice_step {s s' : DeviceService δ} {a : DeviceAction δ} (hI : Inv s)
    (hP : OwnDevice s) (h : system.step s a = some s') : OwnDevice s' ↔ InTime s a := by
  cases effect_of_step h with
  | startClient device service hstep =>
    refine iff_of_true (fun i dev own hsocket hcall => ?_) nofun
    rcases List.mem_append.mp hcall with hcall | hcall
    · exact hP i dev own hsocket hcall
    · -- the new thread has created no socket
      obtain ⟨rfl, rfl⟩ := Prod.mk.inj (List.mem_singleton.mp hcall)
      have hsome := hI.sockets _ hsocket
      cases (Service.getElem?_kinds_length s.service).symm.trans hsome
  | createSocket i service hstep =>
    constructor
    · rintro hown _ ⟨⟩ own hcall
      rw [← hI.device]
      exact hown i s.mmDevice own (List.mem_append_right _ (List.mem_singleton_self _)) hcall
    · intro htime j dev own hsocket hcall
      rcases List.mem_append.mp hsocket with hsocket | hsocket
      · exact hP j dev own hsocket hcall
      · obtain ⟨rfl, rfl⟩ := Prod.mk.inj (List.mem_singleton.mp hsocket)
        rw [hI.device]
        exact htime j rfl own hcall
  | other a service hclient hsocket hstep =>
    refine iff_of_true hP ?_
    rintro i ⟨⟩
    exact absurd rfl (hsocket i)

/-- **When each attempt goes to its own device.** For every sequence of calls of `startClient`
with any devices, every outcome and every interleaving of the threads: every socket is created on
the device of its own call iff, whenever a thread creates its socket, the last call of
`startClient` has asked for the device that the thread was started for. -/
theorem own_device_iff (listening : Bool) (as : List (DeviceAction δ)) :
    (∀ x ∈ system.trace (new listening) as, OwnDevice x.2.2) ↔
      ∀ x ∈ system.trace (new listening) as, InTime x.1 x.2.1 :=
  system.forall_trace_iff (I := Inv) (G := InTime) (fun _ _ _ hI h => hI.step h)
    (fun _ _ _ hI hP h => ownDevice_step hI hP h) (Inv.new listening) (fun _ _ _ h => nomatch h) as

/-- The second call comes before the first thread creates its socket. -/
def secondCallFirst : List (DeviceAction Bool) :=
  [.startClient false, .startClient true, .other (.createSocket 1 true)]

/-- The first thread creates its socket on the second device. -/
theorem second_device_used :
    ¬ ∀ x ∈ system.trace (new true) secondCallFirst, OwnDevice x.2.2 := by
  intro h
  have hown := h _ (List.mem_of_getElem? (i := 2) rfl) 1 (some true) false
    (List.mem_singleton_self _) List.mem_cons_self
  cases hown

end DeviceService

end BluetoothAuto.App
