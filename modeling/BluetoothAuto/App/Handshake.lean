import BluetoothAuto.App.Engine
import BluetoothAuto.Lib.Iterate

/-!
# `ConnectedThread.doHandshake`

The handshake is a loop around a `switch` on the engine's handshake status. One round reads from
the peer and unwraps what arrived, or wraps and sends, or runs delegated tasks. The loop ends when
the engine says that it is not (or no longer) handshaking; nothing bounds the number of its rounds,
nor of those of the loop around `unwrap` inside.

`doHandshake` is therefore a machine that takes one step at a time: `Handshake.step` is one
round, except that every call of `unwrap` and every call of `getDelegatedTask` is a step of its
own. The states of a run are the iterates of the step; `done` states stay as they are.

`peerBTData` is filled and drained in turns. Which of the two it is ready for is not stored
anywhere in the program, it follows from the last of `flip`, `compact`, `clear` and `allocate`
that was called; the model keeps it as `mode`.

## Main definitions

* `Handshake.step` — one step
* `Handshake.enter`, `Handshake.run` — the state in which the loop is entered, and those after it
* `Handshake.attempt` — the same with a log of their own

## Main results

* `Handshake.step_rule` — the cases of a step
-/

namespace BluetoothAuto.App

/-- What `peerBTData` is ready for. -/
inductive BufferMode where
  /-- To be filled: after `clear`, `compact` or `allocate`. -/
  | fill
  /-- To be drained: after `flip`. -/
  | drain
deriving DecidableEq

/-- How `doHandshake` can end. -/
inductive HandshakeOutcome where
  /-- It returned. -/
  | returned (b : Bool)
  /-- It threw `IOException`, or `SSLException`, which is one. -/
  | ioException
  /-- It threw an unchecked exception. -/
  | runtimeException
deriving DecidableEq

/-- Where `doHandshake` is. -/
inductive HandshakePc where
  /-- At the head of the outer loop. -/
  | loop
  /-- Before a call of `unwrap`. -/
  | unwrap
  /-- Behind the loop around `unwrap`, whose last call had this result. -/
  | unwrapped (status : Status) (handshakeStatus : HandshakeStatus)
  /-- At the end. -/
  | done (o : HandshakeOutcome)

/-- The state of `doHandshake`. -/
structure Handshake (σ : Type*) extends ThreadState σ where
  /-- Where it is. -/
  pc : HandshakePc
  /-- `handshakeStatus`. -/
  handshakeStatus : HandshakeStatus
  /-- The local `myAppData`. -/
  localAppData : ByteBuffer
  /-- The local `peerAppData`. -/
  peerAppData : ByteBuffer
  /-- What `peerBTData` is ready for. -/
  mode : BufferMode

namespace Handshake

variable {σ : Type*} (E : Environment σ)

/-! ### The parts of a round -/

/-- `handshakeStatus = ssl.getHandshakeStatus();` and on to the next round. -/
def refresh (s : Handshake σ) : Handshake σ :=
  let (h, env) := E.getHandshakeStatus s.env
  { s with env := env, pc := .loop, handshakeStatus := h, log := s.log ++ [.status h] }

/-- `ssl.closeOutbound();` before `refresh`. -/
def closeAndRefresh (s : Handshake σ) : Handshake σ :=
  refresh E { s with env := E.closeOutbound s.env }

/-- The end of the stream. -/
def onEndOfStream (s : Handshake σ) : Handshake σ :=
  let (inboundDone, env) := E.isInboundDone s.env
  if inboundDone then
    let (outboundDone, env) := E.isOutboundDone env
    if outboundDone then { s with env := env, pc := .done (.returned false) }
    else closeAndRefresh E { s with env := E.closeInbound env }
  else closeAndRefresh E { s with env := E.closeInbound env }

/-- `read` has delivered `d`. -/
def deliver (s : Handshake σ) (env : σ) (d : Delivery) : Handshake σ :=
  { s with env := env, log := s.log ++ [.received d.bytes] }

/-- `peerBTData.put(peerBTDataArray); peerBTData.flip();` after `read` has delivered `d`: the whole
array is put into the buffer, however much of it was filled. -/
def putArray (s : Handshake σ) (d : Delivery) : Handshake σ :=
  match s.peerBTData.put d.array with
  | none => { s with pc := .done .runtimeException }
  | some peerBTData => { s with pc := .unwrap, peerBTData := peerBTData.flip, mode := .drain }

/-- `case NEED_UNWRAP` up to the first call of `unwrap`. -/
def read (s : Handshake σ) : Handshake σ :=
  match E.read s.env with
  | (.ioException, env) => { s with env := env, pc := .done .ioException }
  | (.endOfStream, env) => onEndOfStream E { s with env := env, log := s.log ++ [.endOfStream] }
  | (.data d, env) => putArray (deliver s env d) d

/-- `result = ssl.unwrap(peerBTData, peerAppData);`, with whether bytes were produced and with the
result. -/
def callUnwrap (s : Handshake σ) : Handshake σ × Bool × Option (Status × HandshakeStatus) :=
  let (a, env) := E.unwrap s.env s.peerBTData s.peerAppData
  ({ s with
    env := env
    peerBTData := a.nextSrc
    peerAppData := a.nextDst
    log := s.log ++ [.unwrap a.consumedBytes a.produced a.result] }, !a.produced.isEmpty, a.result)

/-- One round of the loop around `unwrap`. If the call throws, the round of the outer loop ends
before `compact`. -/
def unwrap (s : Handshake σ) : Handshake σ :=
  match callUnwrap E s with
  | (s, _, none) => closeAndRefresh E s
  | (s, produced, some (status, h)) =>
    if s.peerBTData.hasRemaining || produced then s else { s with pc := .unwrapped status h }

/-- What follows the loop around `unwrap`. -/
def afterUnwrap (s : Handshake σ) (status : Status) (h : HandshakeStatus) : Handshake σ :=
  let s := { s with
    pc := .loop
    handshakeStatus := h
    peerBTData := s.peerBTData.compact
    mode := .fill }
  match status with
  | .ok => s
  | .bufferOverflow =>
    match enlargeApplicationBuffer E s.env s.peerAppData with
    | none => { s with pc := .done .runtimeException }
    | some peerAppData => { s with peerAppData := peerAppData }
  | .bufferUnderflow =>
    match handleBufferUnderflow E s.env s.peerBTData with
    | none => { s with pc := .done .runtimeException }
    | some peerBTData => { s with peerBTData := peerBTData }
  | .closed =>
    let (outboundDone, env) := E.isOutboundDone s.env
    if outboundDone then { s with env := env, pc := .done (.returned false) }
    else closeAndRefresh E { s with env := env }

/-- The two loops that write out `myBTData`. -/
def send (s : Handshake σ) : Handshake σ × Bool :=
  let (t, ok) := sendLoop E true { s.toThreadState with myBTData := s.myBTData.flip }
  ({ s with toThreadState := t }, ok)

/-- `myBTData.clear(); result = ssl.wrap(myAppData, myBTData);`, with the result. -/
def callWrap (s : Handshake σ) : Handshake σ × Option (Status × HandshakeStatus) :=
  let (a, env) := E.wrap s.env s.localAppData s.myBTData.clear
  ({ s with
    env := env
    localAppData := a.nextSrc
    myBTData := a.nextDst
    log := s.log ++ [.wrap a.consumedBytes a.produced a.result] }, a.result)

/-- What follows a call of `wrap` that did not throw. -/
def afterWrap (s : Handshake σ) (status : Status) (h : HandshakeStatus) : Handshake σ :=
  let s := { s with pc := .loop, handshakeStatus := h }
  match status with
  | .ok =>
    let (s, ok) := send E s
    if ok then s else { s with pc := .done .ioException }
  | .bufferOverflow =>
    match enlargePacketBuffer E s.env s.myBTData with
    | none => { s with pc := .done .runtimeException }
    | some myBTData => { s with myBTData := myBTData }
  -- `throw new SSLException(...)`
  | .bufferUnderflow => { s with pc := .done .ioException }
  | .closed =>
    let (s, ok) := send E s
    if ok then { s with peerBTData := s.peerBTData.clear, mode := .fill } else refresh E s

/-- `case NEED_WRAP`. -/
def wrap (s : Handshake σ) : Handshake σ :=
  match callWrap E s with
  | (s, none) => closeAndRefresh E s
  | (s, some (status, h)) => afterWrap E s status h

/-- `case NEED_TASK`: one round of its loop. While there is a task, `handshakeStatus` keeps its
value, and the next step asks for another one. -/
def task (s : Handshake σ) : Handshake σ :=
  let (isTask, env) := E.getDelegatedTask s.env
  if isTask then { s with env := env } else refresh E { s with env := env }

/-! ### The machine -/

/-- One step of `doHandshake`. -/
def step (s : Handshake σ) : Handshake σ :=
  match s.pc with
  | .done _ => s
  | .unwrap => unwrap E s
  | .unwrapped status h => afterUnwrap E s status h
  | .loop =>
    match s.handshakeStatus with
    | .finished => { s with pc := .done (.returned true) }
    | .notHandshaking => { s with pc := .done (.returned true) }
    | .needUnwrap => read E s
    | .needWrap => wrap E s
    | .needTask => task E s
    -- `throw new IllegalStateException(...)`
    | .needUnwrapAgain => { s with pc := .done .runtimeException }

/-- The state in which the loop is entered. -/
def enter (t : ThreadState σ) : Handshake σ :=
  let (h, env) := E.getHandshakeStatus t.env
  { env := env
    myAppData := t.myAppData
    myBTData := t.myBTData.clear
    peerBTData := t.peerBTData.clear
    log := t.log ++ [.status h]
    pc := .loop
    handshakeStatus := h
    localAppData := .allocate (E.applicationBufferSize t.env)
    peerAppData := .allocate (E.applicationBufferSize t.env)
    mode := .fill }

/-- The state after `k` steps of `doHandshake`. -/
def run (t : ThreadState σ) (k : ℕ) : Handshake σ := (step E)^[k] (enter E t)

/-- The state after `k` steps of `doHandshake` entered from `t`, with a log that begins there. -/
def attempt (t : ThreadState σ) (k : ℕ) : Handshake σ := run E { t with log := [] } k

theorem attempt_succ (t : ThreadState σ) (k : ℕ) : attempt E t (k + 1) = step E (attempt E t k) :=
  Function.iterate_succ_apply' _ _ _

/-- A run that has ended stays as it is. -/
theorem step_done {s : Handshake σ} {o : HandshakeOutcome} (h : s.pc = .done o) :
    step E s = s := by
  rw [step, h]

/-- **The cases of a step.** A property holds after a step if it holds after the part of a round
that the step takes, in the state in which that part is taken. -/
theorem step_rule {P : Handshake σ → Prop} {s : Handshake σ}
    (done : ∀ o, s.pc = .done o → P s)
    (unwrap : s.pc = .unwrap → P (unwrap E s))
    (afterUnwrap : ∀ status h, s.pc = .unwrapped status h → P (afterUnwrap E s status h))
    (read : s.pc = .loop → s.handshakeStatus = .needUnwrap → P (read E s))
    (wrap : s.pc = .loop → s.handshakeStatus = .needWrap → P (wrap E s))
    (task : s.pc = .loop → s.handshakeStatus = .needTask → P (task E s))
    (leave : s.pc = .loop → s.handshakeStatus = .finished ∨ s.handshakeStatus = .notHandshaking →
      P { s with pc := .done (.returned true) })
    (unknown : s.pc = .loop → s.handshakeStatus = .needUnwrapAgain →
      P { s with pc := .done .runtimeException }) : P (step E s) := by
  cases hpc : s.pc with
  | done o =>
    rw [step_done E hpc]
    exact done o hpc
  | unwrap =>
    simp only [step, hpc]
    exact unwrap hpc
  | unwrapped status h =>
    simp only [step, hpc]
    exact afterUnwrap status h hpc
  | loop =>
    cases hstatus : s.handshakeStatus with
    | needUnwrap => simpa only [step, hpc, hstatus] using read hpc hstatus
    | needWrap => simpa only [step, hpc, hstatus] using wrap hpc hstatus
    | needTask => simpa only [step, hpc, hstatus] using task hpc hstatus
    | finished => simpa only [step, hpc, hstatus] using leave hpc (.inl hstatus)
    | notHandshaking => simpa only [step, hpc, hstatus] using leave hpc (.inr hstatus)
    | needUnwrapAgain => simpa only [step, hpc, hstatus] using unknown hpc hstatus

end Handshake

end BluetoothAuto.App
