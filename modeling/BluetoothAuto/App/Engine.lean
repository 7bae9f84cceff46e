import BluetoothAuto.Lib.ByteBuffer

/-!
# What `ConnectedThread` talks to

`ConnectedThread` owns an `SSLEngine` and the two streams of the Bluetooth socket. None of them is
part of the repository. They enter as an `Environment`: a state of any type, and for every method
that the thread calls a function of that state. Nothing is assumed of these functions, except that
`wrap` and `unwrap` do not consume more than the source holds nor produce more than the
destination takes. The delegated tasks run on another thread; what they change is part of the
state.

The thread's calls and their answers are logged. What the claims of a correct connection are about
(the bytes received, consumed, produced, written) are functions of the log.

## Main definitions

* `Environment` — the engine and the two streams
* `SslEvent` — an entry of the log
* `ThreadState` — the fields of `ConnectedThread` that its methods share
* `enlargeBuffer`, `handleBufferUnderflow` — how the thread replaces its buffers
* `sendLoop` — how it writes out what `wrap` has produced
-/

namespace BluetoothAuto.App

/-! ### The engine and the streams -/

/-- `SSLEngineResult.Status`. -/
inductive Status where
  /-- The operation completed. -/
  | ok
  /-- The destination was too small. -/
  | bufferOverflow
  /-- The source did not hold a complete record. -/
  | bufferUnderflow
  /-- The operation closed this side of the engine. -/
  | closed
deriving DecidableEq

/-- `SSLEngineResult.HandshakeStatus`. -/
inductive HandshakeStatus where
  /-- No handshake is in progress. -/
  | notHandshaking
  /-- The handshake has just been completed. -/
  | finished
  /-- A delegated task has to be run. -/
  | needTask
  /-- Data has to be sent. -/
  | needWrap
  /-- Data has to be received. -/
  | needUnwrap
  /-- Data that was received has to be unwrapped again. -/
  | needUnwrapAgain
deriving DecidableEq

/-- What a call of `wrap` or `unwrap` did. -/
structure EngineAnswer (src dst : ByteBuffer) where
  /-- The number of bytes taken from the source. -/
  consumed : ℕ
  /-- The bytes put into the destination. -/
  produced : List UInt8
  /-- The result, or `none` if the call threw `SSLException`. -/
  result : Option (Status × HandshakeStatus)
  /-- Only what the source holds is consumed. -/
  consumed_le : consumed ≤ src.remaining
  /-- What is produced fits into the destination. -/
  produced_le : produced.length ≤ dst.remaining

namespace EngineAnswer

/-- An answer that takes and puts nothing. -/
def empty {src dst : ByteBuffer} (result : Option (Status × HandshakeStatus)) :
    EngineAnswer src dst :=
  ⟨0, [], result, Nat.zero_le _, Nat.zero_le _⟩

/-- An answer that puts as much of `bs` as there is room for. -/
def producing {src dst : ByteBuffer} (bs : List UInt8)
    (result : Option (Status × HandshakeStatus)) : EngineAnswer src dst :=
  ⟨0, bs.take dst.remaining, result, Nat.zero_le _, List.length_take_le _ _⟩

variable {src dst : ByteBuffer} (a : EngineAnswer src dst)

/-- The bytes taken from the source. -/
def consumedBytes : List UInt8 := src.pending.take a.consumed

/-- The source after the call. -/
def nextSrc : ByteBuffer := src.advance a.consumed a.consumed_le

/-- The destination after the call. -/
def nextDst : ByteBuffer := dst.store a.produced a.produced_le

@[simp] theorem limit_nextSrc : a.nextSrc.limit = src.limit := rfl

@[simp] theorem remaining_nextSrc : a.nextSrc.remaining = src.remaining - a.consumed :=
  ByteBuffer.remaining_advance _ _ a.consumed_le

@[simp] theorem remaining_nextDst : a.nextDst.remaining = dst.remaining - a.produced.length :=
  ByteBuffer.remaining_store _ _ a.produced_le

/-- What was pending has been consumed or still is pending. -/
@[simp] theorem consumedBytes_append_pending :
    a.consumedBytes ++ a.nextSrc.pending = src.pending := by
  rw [nextSrc, ByteBuffer.pending_advance, consumedBytes, List.take_append_drop]

end EngineAnswer

/-- The length of the arrays that the thread reads into. -/
def readSize : ℕ := 1024

/-- What one `read` delivers into a new array. -/
structure Delivery where
  /-- The bytes delivered. -/
  bytes : List UInt8
  /-- A `read` into an array that is not empty waits for a byte. -/
  ne_nil : bytes ≠ []
  /-- They fit into the array. -/
  length_le : bytes.length ≤ readSize

/-- The array after the `read`. Its elements behind the bytes delivered are zero. -/
def Delivery.array (d : Delivery) : List UInt8 :=
  d.bytes ++ List.replicate (readSize - d.bytes.length) 0

@[simp] theorem Delivery.length_array (d : Delivery) : d.array.length = readSize := by
  rw [array, List.length_append, List.length_replicate]
  exact Nat.add_sub_cancel' d.length_le

/-- The array is what was delivered iff it was filled. -/
theorem Delivery.array_eq_iff (d : Delivery) : d.array = d.bytes ↔ d.bytes.length = readSize := by
  constructor
  · intro h
    rw [← d.length_array, h]
  · intro h
    rw [array, h, Nat.sub_self, List.replicate_zero, List.append_nil]

/-- The outcome of `mmInStream.read`. -/
inductive ReadAnswer where
  /-- Bytes were delivered. -/
  | data (d : Delivery)
  /-- The call returned `-1`. -/
  | endOfStream
  /-- The call threw `IOException`. -/
  | ioException

/-- The outcome of `ssl.beginHandshake`. -/
inductive BeginAnswer where
  /-- The call returned. -/
  | returned
  /-- The call threw `SSLException`. -/
  | sslException
  /-- The call threw an unchecked exception. -/
  | runtimeException
deriving DecidableEq

/-- An `SSLEngine` and two streams. -/
structure Environment (σ : Type*) where
  /-- `ssl.beginHandshake()`. -/
  beginHandshake : σ → BeginAnswer × σ
  /-- `ssl.getHandshakeStatus()`. -/
  getHandshakeStatus : σ → HandshakeStatus × σ
  /-- `ssl.unwrap(src, dst)`. -/
  unwrap : σ → (src dst : ByteBuffer) → EngineAnswer src dst × σ
  /-- `ssl.wrap(src, dst)`. -/
  wrap : σ → (src dst : ByteBuffer) → EngineAnswer src dst × σ
  /-- `ssl.getDelegatedTask()`, with whether there was a task. If so it has been executed. -/
  getDelegatedTask : σ → Bool × σ
  /-- `ssl.isInboundDone()`. -/
  isInboundDone : σ → Bool × σ
  /-- `ssl.isOutboundDone()`. -/
  isOutboundDone : σ → Bool × σ
  /-- `ssl.closeInbound()`. An `SSLException` from it is only logged. -/
  closeInbound : σ → σ
  /-- `ssl.closeOutbound()`. -/
  closeOutbound : σ → σ
  /-- `ssl.getSession().getPacketBufferSize()`. -/
  packetBufferSize : σ → ℕ
  /-- `ssl.getSession().getApplicationBufferSize()`. -/
  applicationBufferSize : σ → ℕ
  /-- `mmInStream.read(new byte[1024])`. -/
  read : σ → ReadAnswer × σ
  /-- `mmOutStream.write(bs)`, with whether it returned and did not throw `IOException`. -/
  write : σ → List UInt8 → Bool × σ

/-! ### The log -/

/-- A call of the thread, with its answer. -/
inductive SslEvent where
  /-- `mmInStream.read` delivered bytes. -/
  | received (bs : List UInt8)
  /-- `mmInStream.read` met the end of the stream. -/
  | endOfStream
  /-- A call of `unwrap`. -/
  | unwrap (consumed produced : List UInt8) (result : Option (Status × HandshakeStatus))
  /-- A call of `wrap`. -/
  | wrap (consumed produced : List UInt8) (result : Option (Status × HandshakeStatus))
  /-- A call of `mmOutStream.write`, with whether it returned. -/
  | written (bs : List UInt8) (ok : Bool)
  /-- A call of `getHandshakeStatus`. -/
  | status (h : HandshakeStatus)

namespace SslEvent

/-- The bytes received with this call. -/
def receivedBytes : SslEvent → List UInt8
  | received bs => bs
  | _ => []

/-- The bytes that `unwrap` consumed in this call. -/
def unwrapConsumed : SslEvent → List UInt8
  | unwrap consumed _ _ => consumed
  | _ => []

/-- The bytes that `wrap` consumed in this call. -/
def wrapConsumed : SslEvent → List UInt8
  | wrap consumed _ _ => consumed
  | _ => []

/-- The bytes that `wrap` produced in this call. -/
def wrapProduced : SslEvent → List UInt8
  | wrap _ produced _ => produced
  | _ => []

/-- The bytes that `mmOutStream` accepted in this call. -/
def acceptedBytes : SslEvent → List UInt8
  | written bs true => bs
  | _ => []

/-- The call met the end of the stream, or its result was `CLOSED`. -/
def isEnd : SslEvent → Bool
  | endOfStream => true
  | unwrap _ _ (some (.closed, _)) => true
  | wrap _ _ (some (.closed, _)) => true
  | _ => false

end SslEvent

/-! ### The thread -/

/-- The fields of `ConnectedThread` and of its service that `write` and `doHandshake` share. -/
structure ThreadState (σ : Type*) where
  /-- The engine and the streams. -/
  env : σ
  /-- Data to be sent. -/
  myAppData : ByteBuffer
  /-- Records to be sent. -/
  myBTData : ByteBuffer
  /-- Records received. -/
  peerBTData : ByteBuffer
  /-- What has happened, the last event last. -/
  log : List SslEvent

variable {σ : Type*} (E : Environment σ)

/-- The state that the constructor of `ConnectedThread` leaves. -/
def ThreadState.init (env : σ) : ThreadState σ where
  env := env
  myAppData := .wrap (List.replicate 1024 0)
  myBTData := .wrap (List.replicate 1024 0)
  peerBTData := .wrap (List.replicate 1024 0)
  log := []

/-- The largest `int`. -/
def intMax : ℕ := 2147483647

/-- `enlargeBuffer`, or `none` where `ByteBuffer.allocate` throws: twice the capacity of a buffer,
when it does not fit into an `int`, is a negative `int`. -/
def enlargeBuffer (buffer : ByteBuffer) (sessionProposedCapacity : ℕ) : Option ByteBuffer :=
  if sessionProposedCapacity > buffer.capacity then
    some (.allocate sessionProposedCapacity)
  else if buffer.capacity * 2 ≤ intMax then
    some (.allocate (buffer.capacity * 2))
  else none

/-- Where it does not throw, it allocates no less than there was and no less than was asked for. -/
theorem enlargeBuffer_eq_some {b b' : ByteBuffer} {n : ℕ} (h : enlargeBuffer b n = some b') :
    ∃ c, b' = .allocate c ∧ b.capacity ≤ c ∧ n ≤ c := by
  rw [enlargeBuffer] at h
  split at h
  · next hn => exact ⟨n, (Option.some.inj h).symm, hn.le, le_rfl⟩
  · next hn =>
    obtain ⟨-, h⟩ := Option.ite_none_right_eq_some.mp h
    exact ⟨b.capacity * 2, (Option.some.inj h).symm, by omega, by omega⟩

/-- `enlargePacketBuffer`. -/
def enlargePacketBuffer (env : σ) (buffer : ByteBuffer) : Option ByteBuffer :=
  enlargeBuffer buffer (E.packetBufferSize env)

/-- `enlargeApplicationBuffer`. -/
def enlargeApplicationBuffer (env : σ) (buffer : ByteBuffer) : Option ByteBuffer :=
  enlargeBuffer buffer (E.applicationBufferSize env)

/-- `handleBufferUnderflow`, or `none` where it throws. -/
def handleBufferUnderflow (env : σ) (buffer : ByteBuffer) : Option ByteBuffer :=
  if E.packetBufferSize env < buffer.limit then some buffer
  else (enlargePacketBuffer E env buffer).bind fun replaceBuffer =>
    replaceBuffer.put buffer.flip.pending

/-- The body of the loops that write out `myBTData`, with whether the stream accepted it. -/
def sendRemaining (s : ThreadState σ) : ThreadState σ × Bool :=
  let myBTDataArray := s.myBTData.pending
  let (ok, env) := E.write s.env myBTDataArray
  ({ s with
    env := env
    myBTData := s.myBTData.drained
    log := s.log ++ [.written myBTDataArray ok] }, ok)

/-- `while (myBTData.hasRemaining()) { ... }`, with whether it ended without an exception. In
`write` an `IOException` is caught inside the loop, in `doHandshake` it leaves the loop. -/
def sendLoop (rethrow : Bool) (s : ThreadState σ) : ThreadState σ × Bool :=
  if 0 < s.myBTData.remaining then
    if rethrow && !(sendRemaining E s).2 then ((sendRemaining E s).1, false)
    else sendLoop rethrow (sendRemaining E s).1
  else (s, true)
termination_by s.myBTData.remaining
decreasing_by
  have hs : (sendRemaining E s).1.myBTData = s.myBTData.drained := rfl
  rw [hs, ByteBuffer.remaining_drained]
  assumption

/-- The loop writes everything with its first call. -/
theorem sendLoop_eq (rethrow : Bool) (s : ThreadState σ) :
    sendLoop E rethrow s =
      if 0 < s.myBTData.remaining then
        ((sendRemaining E s).1, !rethrow || (sendRemaining E s).2)
      else (s, true) := by
  have hdrained : ¬ 0 < (sendRemaining E s).1.myBTData.remaining := by
    have hs : (sendRemaining E s).1.myBTData = s.myBTData.drained := rfl
    rw [hs, ByteBuffer.remaining_drained]
    exact Nat.lt_irrefl 0
  rw [sendLoop]
  refine if_congr Iff.rfl ?_ rfl
  cases rethrow <;> cases hok : (sendRemaining E s).2 <;>
    simp [sendLoop, hdrained]

/-! ### An environment -/

/-- An engine that is done with its handshake and encrypts nothing: a record is its plaintext. No
peer answers. -/
def plainEnvironment : Environment Unit where
  beginHandshake _ := (.returned, ())
  getHandshakeStatus _ := (.notHandshaking, ())
  unwrap _ _ _ :=
    (⟨0, [], some (.bufferUnderflow, .notHandshaking), Nat.zero_le _, Nat.zero_le _⟩, ())
  wrap _ src dst :=
    if h : src.pending.length ≤ dst.remaining then
      (⟨src.pending.length, src.pending, some (.ok, .notHandshaking), src.length_pending.le, h⟩, ())
    else (⟨0, [], some (.bufferOverflow, .notHandshaking), Nat.zero_le _, Nat.zero_le _⟩, ())
  getDelegatedTask _ := (false, ())
  isInboundDone _ := (false, ())
  isOutboundDone _ := (false, ())
  closeInbound _ := ()
  closeOutbound _ := ()
  packetBufferSize _ := 16384
  applicationBufferSize _ := 16384
  read _ := (.endOfStream, ())
  write _ _ := (true, ())

end BluetoothAuto.App
