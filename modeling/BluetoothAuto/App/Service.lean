import BluetoothAuto.Lib.ActionSystem

/-!
# The threads of `BluetoothConnectionService`

`start` creates the `AcceptThread`, once; `startClient` creates a `ConnectThread` at every call.
Each of these threads may come to `connected`, which constructs a `ConnectedThread`, stores it in
the field `mConnectedThread` and starts the thread that is in this field. All `ConnectedThread`s
use the buffers of the service, and none of them ever returns from `run`.

A `ConnectThread` goes on to `connected` whether or not its connect call succeeded, and `start`
may close its socket at any moment, also between the two statements of `connected`: a
`ConnectedThread` has the socket of the attempt it comes from, not one of its own. Nothing in
`connected` looks at the sessions there are.

An action is one step of one thread, or a call of `start` or `startClient`. An unchecked exception
ends the application.

## Main results

* `Service.inv_run` — the sockets are in the state the attempts have come to, and a session has
  been started exactly if a call of `connected` has returned
* `Service.one_live_session_iff` — there is at most one session, started over a live socket,
  exactly if each session that is started comes from an attempt that is sound at this moment, and
  is the first
-/

namespace BluetoothAuto.App

/-- A `BluetoothSocket`. -/
structure BtSocket where
  connected : Bool
  closed : Bool
  deriving DecidableEq

/-- Connected and not closed. -/
def BtSocket.Live (socket : BtSocket) : Prop :=
  socket.connected = true ∧ socket.closed = false

/-- The two kinds of threads that call `connected`. -/
inductive AttemptKind where
  /-- An `AcceptThread`; `mmServerSocket` may be null. -/
  | acceptThread (listening : Bool)
  /-- A `ConnectThread`. -/
  | connectThread
  deriving DecidableEq

/-- Where an `AcceptThread` or a `ConnectThread` is. -/
inductive AttemptPc where
  /-- Before `accept`, or before `mmSocket` is assigned. -/
  | created
  /-- Before `mmSocket.connect()`. -/
  | opened
  /-- Before the call of `connected`. -/
  | calling
  /-- In `connected`, before `mConnectedThread.start()`. -/
  | constructed
  /-- `connected` has returned. -/
  | returned
  /-- `run` has returned without a call of `connected`. -/
  | ended
  deriving DecidableEq

/-- An `AcceptThread` or a `ConnectThread`. -/
structure Attempt where
  kind : AttemptKind
  pc : AttemptPc := .created
  /-- `mmSocket` of a `ConnectThread`, `socket` of an `AcceptThread`. -/
  socket : Option BtSocket := none
  /-- `connect` threw an `IOException`. -/
  failed : Bool := false
  /-- `cancel` was called. -/
  cancelled : Bool := false
  deriving DecidableEq

/-- A `ConnectedThread`. -/
structure ConnectedThread where
  /-- The place of the attempt that constructed it. Its `mmSocket` is the socket of this
  attempt. -/
  origin : ℕ
  started : Bool := false
  /-- What the socket was when the thread was started. -/
  startedOver : Option BtSocket := none
  deriving DecidableEq

/-- A `BluetoothConnectionService` with its threads. The fields of the service that refer to a
thread have its place in the list. -/
structure Service where
  attempts : List Attempt := []
  mSecureAcceptThread : Option ℕ := none
  mConnectThread : Option ℕ := none
  connectedThreads : List ConnectedThread := []
  mConnectedThread : Option ℕ := none
  /-- An unchecked exception has ended the application. -/
  crashed : Bool := false
  deriving DecidableEq

namespace Service

/-- An unchecked exception. -/
def crash (s : Service) : Service := { s with crashed := true }

/-- An attempt takes a step of its own. -/
def setAttempt (s : Service) (i : ℕ) (t : Attempt) : Service :=
  { s with attempts := s.attempts.set i t }

/-- A new thread is started. -/
def spawn (s : Service) (kind : AttemptKind) : Service :=
  { s with attempts := s.attempts ++ [{ kind := kind }] }

/-- `ConnectThread.cancel`, for a thread with a socket or without one. -/
def cancel (s : Service) (i : ℕ) (t : Attempt) : Service :=
  match t.socket with
  | none => s.crash
  | some socket =>
    s.setAttempt i { t with socket := some { socket with closed := true }, cancelled := true }

/-- The first part of `start`: cancel any thread attempting to make a connection. -/
def cancelConnectThread (s : Service) : Service :=
  match s.mConnectThread.bind fun i => (s.attempts[i]?).map fun t => (i, t) with
  | none => s
  | some (i, t) => { s.cancel i t with mConnectThread := none }

/-- `start`, where `listening` says whether a new `AcceptThread` gets its server socket. -/
def start (s : Service) (listening : Bool) : Service :=
  let s := s.cancelConnectThread
  if s.crashed then s
  else
    match s.mSecureAcceptThread with
    | none =>
      { s.spawn (.acceptThread listening) with mSecureAcceptThread := some s.attempts.length }
    | some _ => s

/-- `startClient`. -/
def startClient (s : Service) : Service :=
  { s.spawn .connectThread with mConnectThread := some s.attempts.length }

/-- `mmServerSocket.accept()`: a connected socket, or an `IOException`. -/
def accept (s : Service) (i : ℕ) (t : Attempt) (listening accepted : Bool) : Service :=
  if ¬ listening then s.crash
  else if accepted then s.setAttempt i { t with pc := .calling, socket := some ⟨true, false⟩ }
  else s.setAttempt i { t with pc := .ended }

/-- `createRfcommSocket`, and the assignment of `mmSocket`, which is null after an exception. -/
def createSocket (s : Service) (i : ℕ) (t : Attempt) (created : Bool) : Service :=
  s.setAttempt i
    { t with pc := .opened, socket := if created then some ⟨false, false⟩ else none }

/-- `mmSocket.connect()`, and `mmSocket.close()` after an `IOException`. On a closed socket it does
not succeed. -/
def connect (s : Service) (i : ℕ) (t : Attempt) (succeeds : Bool) : Option Service :=
  match t.socket with
  | none => some s.crash
  | some socket =>
    if succeeds then
      if socket.closed then none
      else
        some (s.setAttempt i
          { t with pc := .calling, socket := some { socket with connected := true } })
    else
      some (s.setAttempt i
        { t with pc := .calling, socket := some { socket with closed := true }, failed := true })

/-- `mConnectedThread = new ConnectedThread(mmSocket)`. -/
def construct (s : Service) (i : ℕ) (t : Attempt) : Service :=
  match t.socket with
  | none => s.crash
  | some _ =>
    { s.setAttempt i { t with pc := .constructed } with
      connectedThreads := s.connectedThreads ++ [{ origin := i }]
      mConnectedThread := some s.connectedThreads.length }

/-- The thread in the field `mConnectedThread`, with its place. -/
def inField (s : Service) : Option (ℕ × ConnectedThread) :=
  s.mConnectedThread.bind fun k => (s.connectedThreads[k]?).map fun c => (k, c)

/-- The socket of a `ConnectedThread`, as it is now. -/
def socketOf (s : Service) (c : ConnectedThread) : Option BtSocket :=
  (s.attempts[c.origin]?).bind Attempt.socket

/-- A `ConnectedThread` that is started now. -/
def startedThread (s : Service) (c : ConnectedThread) : ConnectedThread :=
  { c with started := true, startedOver := s.socketOf c }

/-- `mConnectedThread.start()`. A thread that has been started cannot be started again. -/
def startThread (s : Service) (i : ℕ) (t : Attempt) : Service :=
  match s.inField with
  | none => s.crash
  | some (k, c) =>
    if c.started then s.crash
    else
      { s.setAttempt i { t with pc := .returned } with
        connectedThreads := s.connectedThreads.set k (s.startedThread c) }

/-- What can happen next. The steps of a thread have its place in the list. -/
inductive Action where
  /-- A call of `start`. -/
  | start (listening : Bool)
  /-- A call of `startClient`. -/
  | startClient
  | accept (i : ℕ) (accepted : Bool)
  | createSocket (i : ℕ) (created : Bool)
  | connect (i : ℕ) (succeeds : Bool)
  /-- The first statement of `connected`. -/
  | construct (i : ℕ)
  /-- The second statement of `connected`. -/
  | startThread (i : ℕ)
  /-- Any other unchecked exception, in any thread. -/
  | uncheckedException
  deriving DecidableEq

/-- The step of a thread. -/
def threadStep (s : Service) (i : ℕ) (t : Attempt) : Action → Option Service
  | .accept _ accepted =>
    match t.kind, t.pc with
    | .acceptThread listening, .created => some (s.accept i t listening accepted)
    | _, _ => none
  | .createSocket _ created =>
    match t.kind, t.pc with
    | .connectThread, .created => some (s.createSocket i t created)
    | _, _ => none
  | .connect _ succeeds => if t.pc = .opened then s.connect i t succeeds else none
  | .construct _ => if t.pc = .calling then some (s.construct i t) else none
  | .startThread _ => if t.pc = .constructed then some (s.startThread i t) else none
  | _ => none

/-- What the step of a thread can do. -/
inductive ThreadEffect (s : Service) (i : ℕ) (t : Attempt) : Action → Service → Prop where
  | accept {j : ℕ} {listening accepted : Bool} (hpc : t.pc = .created) :
    ThreadEffect s i t (.accept j accepted) (s.accept i t listening accepted)
  | createSocket {j : ℕ} {created : Bool} (hkind : t.kind = .connectThread)
    (hpc : t.pc = .created) :
    ThreadEffect s i t (.createSocket j created) (s.createSocket i t created)
  | connect {j : ℕ} {succeeds : Bool} {s' : Service} (hpc : t.pc = .opened)
    (hconnect : s.connect i t succeeds = some s') : ThreadEffect s i t (.connect j succeeds) s'
  | construct {j : ℕ} (hpc : t.pc = .calling) :
    ThreadEffect s i t (.construct j) (s.construct i t)
  | startThread {j : ℕ} (hpc : t.pc = .constructed) :
    ThreadEffect s i t (.startThread j) (s.startThread i t)

/-- Every step of a thread has one of the effects. -/
theorem effect_of_threadStep {s s' : Service} {i : ℕ} {t : Attempt} {a : Action}
    (h : s.threadStep i t a = some s') : ThreadEffect s i t a s' := by
  unfold threadStep at h
  split at h
  · split at h <;> cases h
    next hpc => exact .accept hpc
  · split at h <;> cases h
    next hkind hpc => exact .createSocket hkind hpc
  · obtain ⟨hpc, hconnect⟩ := Option.ite_none_right_eq_some.mp h
    exact .connect hpc hconnect
  · obtain ⟨hpc, h⟩ := Option.ite_none_right_eq_some.mp h
    cases h
    exact .construct hpc
  · obtain ⟨hpc, h⟩ := Option.ite_none_right_eq_some.mp h
    cases h
    exact .startThread hpc
  · cases h

/-- The threads of a service in an arbitrary environment. -/
def system : ActionSystem Service Action where
  step s a :=
    if s.crashed then none
    else
      match a with
      | .start listening => some (s.start listening)
      | .startClient => some s.startClient
      | .uncheckedException => some s.crash
      | .accept i _ | .createSocket i _ | .connect i _ | .construct i | .startThread i =>
        (s.attempts[i]?).bind fun t => s.threadStep i t a

/-- The constructor of the service, which calls `start`. -/
def new (listening : Bool) : Service := start {} listening

/-! ### The sockets and the attempts -/

/-- A sound attempt: it has neither failed nor been cancelled. -/
def Sound (t : Attempt) : Prop := t.failed = false ∧ t.cancelled = false

/-- The socket of an attempt is in the state that the attempt has come to. -/
def SocketFits (t : Attempt) : Prop :=
  match t.pc with
  | .created => t.socket = none ∧ t.failed = false ∧ t.cancelled = false
  | .opened =>
    t.failed = false ∧ ∀ socket ∈ t.socket, socket.connected = false ∧ socket.closed = t.cancelled
  | .calling | .constructed | .returned =>
    ∀ socket ∈ t.socket, socket.connected = !t.failed ∧ socket.closed = (t.failed || t.cancelled)
  | .ended => True

/-- The attempt has constructed a `ConnectedThread`. -/
def Constructed (t : Attempt) : Prop :=
  (t.pc = .constructed ∨ t.pc = .returned) ∧ t.socket.isSome = true

/-- The socket of an attempt that has constructed a `ConnectedThread` is live exactly if the
attempt is sound. -/
theorem live_iff_sound {t : Attempt} (ht : SocketFits t) (hcon : Constructed t) :
    (∃ socket ∈ t.socket, socket.Live) ↔ Sound t := by
  obtain ⟨hpc, hsome⟩ := hcon
  obtain ⟨socket, hs⟩ := Option.isSome_iff_exists.mp hsome
  have hfits : socket.connected = (!t.failed) ∧ socket.closed = (t.failed || t.cancelled) := by
    obtain hpc | hpc := hpc
    all_goals
      rw [SocketFits, hpc] at ht
      exact ht socket hs
  rw [hs]
  simp only [Option.mem_some_iff, exists_eq_left']
  rw [BtSocket.Live, Sound, hfits.1, hfits.2, Bool.or_eq_false_iff, Bool.not_eq_true']
  exact ⟨And.right, fun h => ⟨h.1, h⟩⟩

/-- The invariant: sockets and attempts fit, each `ConnectedThread` comes from an attempt that has
constructed it, and a session has been started exactly if a call of `connected` has returned. -/
structure Inv (s : Service) : Prop where
  fits : ∀ t ∈ s.attempts, SocketFits t
  origin : ∀ c ∈ s.connectedThreads, ∃ t, s.attempts[c.origin]? = some t ∧ Constructed t
  returned_iff : (∀ t ∈ s.attempts, t.pc ≠ .returned) ↔
    ∀ c ∈ s.connectedThreads, c.started = false

theorem Inv.crash {s : Service} (h : Inv s) : Inv s.crash := ⟨h.fits, h.origin, h.returned_iff⟩

/-- Replacing an element by one that is like it does not change what holds of all elements. -/
theorem forall_mem_set_iff {α : Type} {p : α → Prop} {l : List α} {i : ℕ} {a b : α}
    (h : l[i]? = some a) (hab : p a ↔ p b) : (∀ x ∈ l.set i b, p x) ↔ ∀ x ∈ l, p x := by
  induction l generalizing i with
  | nil => cases h
  | cons y l ih =>
    cases i with
    | zero =>
      obtain rfl := Option.some.inj h
      rw [List.set_cons_zero, List.forall_mem_cons, List.forall_mem_cons, hab]
    | succ i =>
      rw [List.set_cons_succ, List.forall_mem_cons, List.forall_mem_cons, ih h]

/-- What has been constructed stays so when an attempt takes a step. -/
theorem origin_setAttempt {s : Service} {i n : ℕ} {t t' : Attempt}
    (ht : s.attempts[i]? = some t) (hcon : Constructed t → Constructed t')
    (h : ∃ u, s.attempts[n]? = some u ∧ Constructed u) :
    ∃ u, (s.setAttempt i t').attempts[n]? = some u ∧ Constructed u := by
  obtain ⟨u, hu, hconu⟩ := h
  show ∃ u, (s.attempts.set i t')[n]? = some u ∧ _
  obtain rfl | hne := eq_or_ne i n
  · obtain rfl := Option.some.inj (ht.symm.trans hu)
    exact ⟨t', List.getElem?_set_self (List.getElem?_eq_some_iff.mp ht).1, hcon hconu⟩
  · exact ⟨u, (List.getElem?_set_ne hne).trans hu, hconu⟩

/-- A step of a thread that does not end in the return of `connected`. -/
theorem Inv.setAttempt {s : Service} (h : Inv s) {i : ℕ} {t t' : Attempt}
    (ht : s.attempts[i]? = some t) (hfits : SocketFits t') (hcon : Constructed t → Constructed t')
    (hpc : t.pc = .returned ↔ t'.pc = .returned) : Inv (s.setAttempt i t') := by
  refine ⟨fun u hu => ?_, fun c hc => origin_setAttempt ht hcon (h.origin c hc), ?_⟩
  · rcases List.mem_or_eq_of_mem_set hu with hu | rfl
    · exact h.fits u hu
    · exact hfits
  · exact (forall_mem_set_iff ht (not_congr hpc)).trans h.returned_iff

/-- A new thread. -/
theorem Inv.spawn {s : Service} (h : Inv s) (kind : AttemptKind) : Inv (s.spawn kind) := by
  refine ⟨?_, fun c hc => ?_, Iff.trans ?_ h.returned_iff⟩
  · exact List.forall_mem_append.mpr ⟨h.fits, by simp [SocketFits]⟩
  · obtain ⟨t, ht, hcon⟩ := h.origin c hc
    refine ⟨t, ?_, hcon⟩
    exact (List.getElem?_append_left (List.getElem?_eq_some_iff.mp ht).1).trans ht
  · show (∀ t ∈ s.attempts ++ [_], _) ↔ _
    rw [List.forall_mem_append]
    exact and_iff_left (by simp)

/-- The fields of the service that refer to threads do not matter. -/
theorem Inv.congr {s s' : Service} (h : Inv s) (hattempts : s'.attempts = s.attempts)
    (hthreads : s'.connectedThreads = s.connectedThreads) : Inv s' :=
  ⟨hattempts ▸ h.fits, hattempts ▸ hthreads ▸ h.origin, hattempts ▸ hthreads ▸ h.returned_iff⟩

/-- An attempt that is still before the construction has constructed nothing. -/
theorem not_constructed {t : Attempt} (h : t.pc ≠ .constructed) (h' : t.pc ≠ .returned) :
    ¬ Constructed t :=
  fun hcon => hcon.1.elim h h'

/-! ### The steps -/

theorem fits_of_getElem? {s : Service} (h : Inv s) {i : ℕ} {t : Attempt}
    (ht : s.attempts[i]? = some t) : SocketFits t :=
  h.fits t (List.mem_of_getElem? ht)

theorem inv_cancel {s : Service} (h : Inv s) {i : ℕ} {t : Attempt}
    (ht : s.attempts[i]? = some t) : Inv (s.cancel i t) := by
  rw [cancel]
  split
  · exact h.crash
  · next socket hs =>
    refine h.setAttempt ht ?_ (fun hcon => ⟨hcon.1, rfl⟩) Iff.rfl
    have hfits := fits_of_getElem? h ht
    rw [SocketFits] at hfits ⊢
    cases hpc : t.pc with
    | created => simp [hpc, hs] at hfits
    | opened =>
      simp only [hpc, hs, Option.mem_some_iff, forall_eq'] at hfits ⊢
      exact ⟨hfits.1, hfits.2.1, trivial⟩
    | calling | constructed | returned =>
      simp only [hpc, hs, Option.mem_some_iff, forall_eq'] at hfits ⊢
      exact ⟨hfits.1, (Bool.or_true t.failed).symm⟩
    | ended => trivial

@[simp] theorem connectedThreads_cancel (s : Service) (i : ℕ) (t : Attempt) :
    (s.cancel i t).connectedThreads = s.connectedThreads := by
  rw [cancel]
  split <;> rfl

/-- What the first part of `start` does: nothing, or one call of `cancel`. -/
theorem cancelConnectThread_cases (s : Service) :
    s.cancelConnectThread = s ∨ ∃ i t, s.attempts[i]? = some t ∧
      s.cancelConnectThread = { s.cancel i t with mConnectThread := none } := by
  rw [cancelConnectThread]
  split
  · exact .inl rfl
  · next i t hfield =>
    obtain ⟨j, -, hj⟩ := Option.bind_eq_some_iff.mp hfield
    obtain ⟨u, hu, hpair⟩ := Option.map_eq_some_iff.mp hj
    obtain ⟨rfl, rfl⟩ := Prod.mk.inj hpair
    exact .inr ⟨j, u, hu, rfl⟩

theorem inv_cancelConnectThread {s : Service} (h : Inv s) : Inv s.cancelConnectThread := by
  obtain heq | ⟨i, t, ht, heq⟩ := cancelConnectThread_cases s
  · rw [heq]
    exact h
  · rw [heq]
    exact (inv_cancel h ht).congr rfl rfl

@[simp] theorem connectedThreads_cancelConnectThread (s : Service) :
    s.cancelConnectThread.connectedThreads = s.connectedThreads := by
  obtain heq | ⟨i, t, -, heq⟩ := cancelConnectThread_cases s
  · rw [heq]
  · rw [heq]
    exact connectedThreads_cancel s i t

/-- What the second part of `start` does: nothing, or one new thread. -/
theorem start_cases (s : Service) (listening : Bool) :
    s.start listening = s.cancelConnectThread ∨
      s.start listening = { s.cancelConnectThread.spawn (.acceptThread listening) with
        mSecureAcceptThread := some s.cancelConnectThread.attempts.length } := by
  rw [start]
  simp only
  split_ifs
  · exact .inl rfl
  · split
    · exact .inr rfl
    · exact .inl rfl

theorem inv_start {s : Service} (h : Inv s) (listening : Bool) : Inv (s.start listening) := by
  have hcancel := inv_cancelConnectThread h
  obtain heq | heq := start_cases s listening
  · rw [heq]
    exact hcancel
  · rw [heq]
    exact (hcancel.spawn _).congr rfl rfl

@[simp] theorem connectedThreads_start (s : Service) (listening : Bool) :
    (s.start listening).connectedThreads = s.connectedThreads := by
  obtain heq | heq := start_cases s listening
  · rw [heq, connectedThreads_cancelConnectThread]
  · rw [heq]
    exact connectedThreads_cancelConnectThread s

theorem inv_accept {s : Service} (h : Inv s) {i : ℕ} {t : Attempt} (ht : s.attempts[i]? = some t)
    (hpc : t.pc = .created) (listening accepted : Bool) :
    Inv (s.accept i t listening accepted) := by
  have hfits := fits_of_getElem? h ht
  rw [SocketFits, hpc] at hfits
  obtain ⟨-, hfailed, hcancelled⟩ := hfits
  have hcon : ¬ Constructed t := not_constructed (by simp [hpc]) (by simp [hpc])
  rw [accept]
  split_ifs
  · refine h.setAttempt ht ?_ (absurd · hcon) (by simp [hpc])
    simp [SocketFits, hfailed, hcancelled]
  · exact h.setAttempt ht trivial (absurd · hcon) (by simp [hpc])
  · exact h.crash

theorem inv_createSocket {s : Service} (h : Inv s) {i : ℕ} {t : Attempt}
    (ht : s.attempts[i]? = some t) (hpc : t.pc = .created) (created : Bool) :
    Inv (s.createSocket i t created) := by
  have hfits := fits_of_getElem? h ht
  rw [SocketFits, hpc] at hfits
  obtain ⟨-, hfailed, hcancelled⟩ := hfits
  have hcon : ¬ Constructed t := not_constructed (by simp [hpc]) (by simp [hpc])
  refine h.setAttempt ht ?_ (absurd · hcon) (by simp [hpc])
  simp [SocketFits, hfailed, hcancelled]

theorem inv_connect {s s' : Service} (h : Inv s) {i : ℕ} {t : Attempt}
    (ht : s.attempts[i]? = some t) (hpc : t.pc = .opened) {succeeds : Bool}
    (hconnect : s.connect i t succeeds = some s') :
    Inv s' ∧ s'.connectedThreads = s.connectedThreads := by
  have hfits := fits_of_getElem? h ht
  rw [SocketFits, hpc] at hfits
  obtain ⟨hfailed, hfits⟩ := hfits
  have hcon : ¬ Constructed t := not_constructed (by simp [hpc]) (by simp [hpc])
  rw [connect] at hconnect
  split at hconnect
  · cases hconnect
    exact ⟨h.crash, rfl⟩
  · next socket hs =>
    obtain ⟨hconnected, hclosed⟩ := hfits socket hs
    split_ifs at hconnect
    · cases hconnect
      refine ⟨h.setAttempt ht ?_ (absurd · hcon) (by simp [hpc]), rfl⟩
      simp [SocketFits, hfailed, hclosed]
    · cases hconnect
      refine ⟨h.setAttempt ht ?_ (absurd · hcon) (by simp [hpc]), rfl⟩
      simp [SocketFits, hconnected]

/-- The statements of `connected` leave the socket as it is. -/
theorem socketFits_connected {t : Attempt} (h : SocketFits t) {pc : AttemptPc}
    (hpc : t.pc = .calling ∨ t.pc = .constructed) (hpc' : pc = .constructed ∨ pc = .returned) :
    SocketFits { t with pc := pc } := by
  obtain hpc | hpc := hpc
  all_goals
    rw [SocketFits, hpc] at h
    obtain rfl | rfl := hpc' <;> exact h

/-- A session that is constructed is not yet started. -/
theorem inv_construct {s : Service} (h : Inv s) {i : ℕ} {t : Attempt}
    (ht : s.attempts[i]? = some t) (hpc : t.pc = .calling) : Inv (s.construct i t) := by
  rw [construct]
  split
  · exact h.crash
  · next socket hs =>
    have hcon : ¬ Constructed t := not_constructed (by simp [hpc]) (by simp [hpc])
    have hset : Inv (s.setAttempt i { t with pc := .constructed }) :=
      h.setAttempt ht (socketFits_connected (fits_of_getElem? h ht) (.inl hpc) (.inl rfl))
        (absurd · hcon) (by simp [hpc])
    refine ⟨hset.fits, ?_, hset.returned_iff.trans ?_⟩
    · refine List.forall_mem_append.mpr ⟨hset.origin, ?_⟩
      rw [List.forall_mem_singleton]
      refine ⟨{ t with pc := .constructed }, ?_, .inl rfl, Option.isSome_iff_exists.mpr ⟨_, hs⟩⟩
      exact List.getElem?_set_self (List.getElem?_eq_some_iff.mp ht).1
    · show _ ↔ ∀ c ∈ s.connectedThreads ++ [_], _
      rw [List.forall_mem_append]
      exact (and_iff_left (by simp)).symm

/-- What a call of `mConnectedThread.start()` does: it starts the thread in the field, unless this
thread has been started, or there is none. -/
theorem startThread_cases (s : Service) (i : ℕ) (t : Attempt) :
    (s.startThread i t = s.crash ∧ ∀ k c, s.inField = some (k, c) → c.started = true) ∨
      ∃ k c, s.inField = some (k, c) ∧ s.connectedThreads[k]? = some c ∧ c.started = false ∧
        s.startThread i t = { s.setAttempt i { t with pc := .returned } with
          connectedThreads := s.connectedThreads.set k (s.startedThread c) } := by
  rw [startThread]
  split
  · next hfield => exact .inl ⟨rfl, fun k c h => by rw [hfield] at h; cases h⟩
  · next k c hfield =>
    split_ifs with hstarted
    · refine .inl ⟨rfl, fun k' c' h => ?_⟩
      rw [hfield] at h
      cases h
      exact hstarted
    · refine .inr ⟨k, c, hfield, ?_, Bool.eq_false_iff.mpr hstarted, rfl⟩
      obtain ⟨j, -, hj⟩ := Option.bind_eq_some_iff.mp hfield
      obtain ⟨d, hd, hpair⟩ := Option.map_eq_some_iff.mp hj
      obtain ⟨rfl, rfl⟩ := Prod.mk.inj hpair
      exact hd

/-- A session that is started and an attempt that returns from `connected`. -/
theorem inv_started {s : Service} (h : Inv s) {i k : ℕ} {t : Attempt} {c : ConnectedThread}
    (ht : s.attempts[i]? = some t) (hpc : t.pc = .constructed)
    (hc : s.connectedThreads[k]? = some c) :
    Inv { s.setAttempt i { t with pc := .returned } with
      connectedThreads := s.connectedThreads.set k (s.startedThread c) } := by
  have hi : i < s.attempts.length := (List.getElem?_eq_some_iff.mp ht).1
  have hk : k < s.connectedThreads.length := (List.getElem?_eq_some_iff.mp hc).1
  refine ⟨fun u hu => ?_, fun d hd => ?_, iff_of_false ?_ ?_⟩
  · rcases List.mem_or_eq_of_mem_set hu with hu | rfl
    · exact h.fits u hu
    · exact socketFits_connected (fits_of_getElem? h ht) (.inr hpc) (.inr rfl)
  · have horigin : ∃ u, s.attempts[d.origin]? = some u ∧ Constructed u := by
      rcases List.mem_or_eq_of_mem_set hd with hd | rfl
      · exact h.origin d hd
      · exact h.origin c (List.mem_of_getElem? hc)
    exact origin_setAttempt ht (fun hcon => ⟨.inr rfl, hcon.2⟩) horigin
  · intro hall
    exact hall _ (List.mem_set hi _) rfl
  · intro hall
    exact Bool.noConfusion (hall _ (List.mem_set hk _))

theorem inv_startThread {s : Service} (h : Inv s) {i : ℕ} {t : Attempt}
    (ht : s.attempts[i]? = some t) (hpc : t.pc = .constructed) : Inv (s.startThread i t) := by
  obtain ⟨heq, -⟩ | ⟨k, c, -, hc, -, heq⟩ := startThread_cases s i t
  · rw [heq]
    exact h.crash
  · rw [heq]
    exact inv_started h ht hpc hc

theorem connectedThreads_accept (s : Service) (i : ℕ) (t : Attempt) (listening accepted : Bool) :
    (s.accept i t listening accepted).connectedThreads = s.connectedThreads := by
  rw [accept]
  split_ifs <;> rfl

/-- What a construction adds: one session that is not started, or nothing. -/
theorem connectedThreads_construct (s : Service) (i : ℕ) (t : Attempt) :
    (s.construct i t).connectedThreads = s.connectedThreads ∨
      ∃ c, c.started = false ∧ (s.construct i t).connectedThreads = s.connectedThreads ++ [c] := by
  rw [construct]
  split
  · exact .inl rfl
  · exact .inr ⟨_, rfl, rfl⟩

/-- The sessions stay as they are, apart from one that is constructed and not started. -/
def NoneStarted (s s' : Service) : Prop :=
  s'.connectedThreads = s.connectedThreads ∨
    ∃ c, c.started = false ∧ s'.connectedThreads = s.connectedThreads ++ [c]

/-- What a step of a thread does. -/
theorem threadStep_cases {s s' : Service} (h : Inv s) {i : ℕ} {t : Attempt}
    (ht : s.attempts[i]? = some t) {a : Action} (hstep : s.threadStep i t a = some s') :
    Inv s' ∧ ((∃ j, a = .startThread j ∧ s' = s.startThread i t) ∨
      (∀ j, a ≠ .startThread j) ∧ NoneStarted s s') := by
  cases effect_of_threadStep hstep with
  | accept hpc =>
    exact ⟨inv_accept h ht hpc _ _, .inr ⟨nofun, .inl (connectedThreads_accept s i t _ _)⟩⟩
  | createSocket hkind hpc => exact ⟨inv_createSocket h ht hpc _, .inr ⟨nofun, .inl rfl⟩⟩
  | connect hpc hconnect =>
    obtain ⟨hinv, hsame⟩ := inv_connect h ht hpc hconnect
    exact ⟨hinv, .inr ⟨nofun, .inl hsame⟩⟩
  | construct hpc =>
    exact ⟨inv_construct h ht hpc, .inr ⟨nofun, connectedThreads_construct s i t⟩⟩
  | startThread hpc => exact ⟨inv_startThread h ht hpc, .inl ⟨_, rfl, rfl⟩⟩

/-- What an action does: it keeps the invariant, and it is a call of `mConnectedThread.start()` or
starts no session. -/
theorem step_cases {s s' : Service} {a : Action} (h : Inv s) (hstep : system.step s a = some s') :
    Inv s' ∧ ((∃ i t, a = .startThread i ∧ s.attempts[i]? = some t ∧ s' = s.startThread i t) ∨
      (∀ i, a ≠ .startThread i) ∧ NoneStarted s s') := by
  obtain ⟨-, hstep⟩ := Option.ite_none_left_eq_some.mp hstep
  cases a with
  | start listening =>
    obtain rfl := Option.some.inj hstep
    exact ⟨inv_start h listening, .inr ⟨nofun, .inl (connectedThreads_start s listening)⟩⟩
  | startClient =>
    obtain rfl := Option.some.inj hstep
    exact ⟨(h.spawn .connectThread).congr rfl rfl, .inr ⟨nofun, .inl rfl⟩⟩
  | uncheckedException =>
    obtain rfl := Option.some.inj hstep
    exact ⟨h.crash, .inr ⟨nofun, .inl rfl⟩⟩
  | startThread i =>
    obtain ⟨t, ht, hthread⟩ := Option.bind_eq_some_iff.mp hstep
    obtain ⟨hinv, ⟨j, -, heq⟩ | ⟨hne, -⟩⟩ := threadStep_cases h ht hthread
    · exact ⟨hinv, .inl ⟨i, t, rfl, ht, heq⟩⟩
    · exact absurd rfl (hne i)
  | _ =>
    obtain ⟨t, ht, hthread⟩ := Option.bind_eq_some_iff.mp hstep
    obtain ⟨hinv, ⟨j, hj, -⟩ | hnone⟩ := threadStep_cases h ht hthread
    · cases hj
    · exact ⟨hinv, .inr hnone⟩

theorem inv_new (listening : Bool) : Inv (new listening) :=
  inv_start ⟨List.forall_mem_nil _, List.forall_mem_nil _,
    iff_of_true (List.forall_mem_nil _) (List.forall_mem_nil _)⟩ listening

/-- **The sockets and the attempts.** After every run the sockets are in the state that the
attempts have come to, and a session has been started exactly if a call of `connected` has
returned. -/
theorem inv_run {listening : Bool} {as : List Action} {s : Service}
    (h : system.run (new listening) as = some s) : Inv s :=
  system.run_invariant (fun _ _ _ hs hstep => (step_cases hs hstep).1) (inv_new listening) h

/-! ### One live session -/

/-- **One live session**: at most one `ConnectedThread` is running, and each that was started was
started over a socket that was then connected and not closed. -/
structure OneLiveSession (s : Service) : Prop where
  atMostOne : s.connectedThreads.countP ConnectedThread.started ≤ 1
  live : ∀ c ∈ s.connectedThreads, c.started = true → ∃ socket ∈ c.startedOver, socket.Live

/-- If an action is a call of `mConnectedThread.start()`, and the thread in the field is one that
has not been started, then the attempt this thread comes from is sound at this moment, and no call
of `connected` has returned before. -/
def FirstAndSound (s : Service) (a : Action) : Prop :=
  ∀ i, a = .startThread i → ∀ k c, s.inField = some (k, c) → c.started = false →
    (∃ t, s.attempts[c.origin]? = some t ∧ Sound t) ∧ ∀ t ∈ s.attempts, t.pc ≠ .returned

/-- The socket of a `ConnectedThread` is live exactly if the attempt it comes from is sound. -/
theorem Inv.live_iff {s : Service} (h : Inv s) {c : ConnectedThread}
    (hc : c ∈ s.connectedThreads) :
    (∃ socket ∈ s.socketOf c, socket.Live) ↔ ∃ t, s.attempts[c.origin]? = some t ∧ Sound t := by
  obtain ⟨t, ht, hcon⟩ := h.origin c hc
  have hsocket : s.socketOf c = t.socket := by rw [socketOf, ht, Option.bind_some]
  rw [hsocket, live_iff_sound (fits_of_getElem? h ht) hcon, ht]
  simp only [Option.some.injEq, exists_eq_left']

theorem NoneStarted.oneLiveSession {s s' : Service} (h : NoneStarted s s')
    (hs : OneLiveSession s) : OneLiveSession s' := by
  obtain heq | ⟨c, hc, heq⟩ := h
  · exact ⟨heq ▸ hs.atMostOne, heq ▸ hs.live⟩
  · refine ⟨?_, ?_⟩
    · rw [heq, List.countP_append, List.countP_singleton, hc, if_neg Bool.false_ne_true]
      exact hs.atMostOne
    · rw [heq, List.forall_mem_append, List.forall_mem_singleton]
      exact ⟨hs.live, fun hstarted => absurd (hc.symm.trans hstarted) Bool.false_ne_true⟩

/-- The start of a new session keeps there being one live session exactly if none has been started
before and the socket of the new one is live. -/
theorem oneLiveSession_set {s s' : Service} {k : ℕ} {c : ConnectedThread}
    (hc : s.connectedThreads[k]? = some c) (hnew : c.started = false)
    (hset : s'.connectedThreads = s.connectedThreads.set k (s.startedThread c)) :
    OneLiveSession s' ↔
      (∃ socket ∈ s.socketOf c, socket.Live) ∧ ∀ d ∈ s.connectedThreads, d.started = false := by
  obtain ⟨hk, hget⟩ := List.getElem?_eq_some_iff.mp hc
  have hstarted : (s.startedThread c).started = true := rfl
  have hcount : s'.connectedThreads.countP ConnectedThread.started =
      s.connectedThreads.countP ConnectedThread.started + 1 := by
    rw [hset, List.countP_set hk, hget, if_neg (Bool.eq_false_iff.mp hnew), if_pos hstarted,
      Nat.sub_zero]
  have hzero : s.connectedThreads.countP ConnectedThread.started = 0 ↔
      ∀ d ∈ s.connectedThreads, d.started = false := by
    simp only [List.countP_eq_zero, Bool.not_eq_true]
  constructor
  · rintro ⟨hone, hlive⟩
    refine ⟨hlive (s.startedThread c) ?_ hstarted, hzero.mp (by omega)⟩
    rw [hset]
    exact List.mem_set hk _
  · rintro ⟨hlive, hnone⟩
    have hcount' := hzero.mpr hnone
    refine ⟨by omega, fun d hd hdstarted => ?_⟩
    rw [hset] at hd
    rcases List.mem_or_eq_of_mem_set hd with hd | rfl
    · exact absurd ((hnone d hd).symm.trans hdstarted) Bool.false_ne_true
    · exact hlive

/-- One action keeps there being one live session exactly if the session it starts is the first and
comes from a sound attempt. -/
theorem oneLiveSession_step {s s' : Service} {a : Action} (hI : Inv s) (hP : OneLiveSession s)
    (hstep : system.step s a = some s') : OneLiveSession s' ↔ FirstAndSound s a := by
  obtain ⟨-, ⟨i, t, rfl, -, rfl⟩ | ⟨hne, hnone⟩⟩ := step_cases hI hstep
  · obtain ⟨heq, hstarted⟩ | ⟨k, c, hfield, hc, hnew, heq⟩ := startThread_cases s i t
    · rw [heq]
      refine iff_of_true ⟨hP.atMostOne, hP.live⟩ fun j _ k c hfield hnew => ?_
      exact absurd (hnew.symm.trans (hstarted k c hfield)) Bool.false_ne_true
    · rw [heq, oneLiveSession_set hc hnew rfl, hI.live_iff (List.mem_of_getElem? hc),
        ← hI.returned_iff]
      constructor
      · intro hgood j _ k' c' hfield' _
        rw [hfield] at hfield'
        cases hfield'
        exact hgood
      · intro hgood
        exact hgood i rfl k c hfield hnew
  · exact iff_of_true (hnone.oneLiveSession hP) fun i hi => absurd hi (hne i)

/-- **When there is one live session.** For every sequence of calls of `start` and `startClient`,
every outcome of `accept` and `connect` and every interleaving of the threads, there is at every
moment at most one session, started over a live socket, exactly if each session, when it is
started, comes from an attempt that has neither failed nor been cancelled so far, and no call of
`connected` has returned before. -/
theorem one_live_session_iff (listening : Bool) (as : List Action) :
    (∀ x ∈ system.trace (new listening) as, OneLiveSession x.2.2) ↔
      ∀ x ∈ system.trace (new listening) as, FirstAndSound x.1 x.2.1 := by
  have hthreads : (new listening).connectedThreads = [] := connectedThreads_start {} listening
  refine system.forall_trace_iff (I := Inv) (G := FirstAndSound)
    (fun _ _ _ hI hstep => (step_cases hI hstep).1)
    (fun _ _ _ hI hP hstep => oneLiveSession_step hI hP hstep) (inv_new listening) ?_ as
  refine ⟨?_, ?_⟩
  · rw [hthreads]
    exact Nat.zero_le 1
  · rw [hthreads]
    exact List.forall_mem_nil _

/-- The only connection attempt fails, and `connected` is called all the same. -/
def failedAttempt : List Action :=
  [.startClient, .createSocket 1 true, .connect 1 false, .construct 1, .startThread 1]

/-- The only connection attempt succeeds, and `start` is called between the two statements of
`connected`. -/
def cancelledAttempt : List Action :=
  [.startClient, .createSocket 1 true, .connect 1 true, .construct 1, .start true, .startThread 1]

/-- A connection is accepted while another one is made. -/
def twoAttempts : List Action :=
  [.startClient, .createSocket 1 true, .accept 0 true, .construct 0, .startThread 0,
    .connect 1 true, .construct 1, .startThread 1]

/-- **A session over a closed socket, and two sessions.** In the first two runs the socket of the
only attempt is closed, and its session is started. In the third run both sessions are started. -/
theorem failed_attempt_started :
    (∃ s c, system.run (new true) failedAttempt = some s ∧ c ∈ s.connectedThreads ∧
      c.started = true ∧ c.startedOver = some ⟨false, true⟩ ∧ ¬ OneLiveSession s) ∧
      (∃ s c, system.run (new true) cancelledAttempt = some s ∧ c ∈ s.connectedThreads ∧
        c.started = true ∧ c.startedOver = some ⟨true, true⟩ ∧ ¬ OneLiveSession s) ∧
      ∃ s, system.run (new true) twoAttempts = some s ∧
        s.connectedThreads.countP ConnectedThread.started = 2 ∧ ¬ OneLiveSession s := by
  refine ⟨⟨_, ⟨1, true, some ⟨false, true⟩⟩, rfl, ?_, rfl, rfl, fun h => ?_⟩,
    ⟨_, ⟨1, true, some ⟨true, true⟩⟩, rfl, ?_, rfl, rfl, fun h => ?_⟩, _, rfl, rfl, fun h => ?_⟩
  · exact List.mem_singleton_self _
  · obtain ⟨socket, hs, hlive⟩ := h.live _ (List.mem_singleton_self _) rfl
    cases hs
    exact Bool.false_ne_true hlive.1
  · exact List.mem_singleton_self _
  · obtain ⟨socket, hs, hlive⟩ := h.live _ (List.mem_singleton_self _) rfl
    cases hs
    exact Bool.false_ne_true hlive.2.symm
  · exact absurd h.atMostOne (by decide)

end Service

end BluetoothAuto.App
