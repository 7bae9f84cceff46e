import BluetoothAuto.App.Engine

/-!
# `ConnectedThread.write`

`write` is meant to encrypt its argument and send it. It clears `myAppData`, wraps the argument,
and flips the buffer. But `wrap` is a static method: it makes a new buffer, which the statement
drops. `myAppData` is flipped right after it was cleared, so its limit is zero and the loop that
would call the engine is not entered.

The loop is modelled with fuel, since an engine may keep it going for ever.

## Main results

* `write_eq` — what `write` does, for every argument, engine and state
* `write_exact_iff` — it sends exactly its argument iff there is nothing to send
-/

namespace BluetoothAuto.App

variable {σ : Type*} (E : Environment σ)

/-- How `write` can end. -/
inductive WriteOutcome where
  /-- It returned. -/
  | returned
  /-- It threw `SSLException`. -/
  | sslException
  /-- It threw an unchecked exception. -/
  | runtimeException
deriving DecidableEq

/-- The body of the loop of `write`, with how `write` ends there if it does. -/
def writeOnce (s : ThreadState σ) : ThreadState σ × Option WriteOutcome :=
  let s := { s with myBTData := s.myBTData.clear }
  let (a, env) := E.wrap s.env s.myAppData s.myBTData
  let s := { s with
    env := env
    myAppData := a.nextSrc
    myBTData := a.nextDst
    log := s.log ++ [.wrap a.consumedBytes a.produced a.result] }
  match a.result with
  -- the exception was caught, `result` is still `null`
  | none => (s, some .runtimeException)
  | some (.ok, _) => ((sendLoop E false { s with myBTData := s.myBTData.flip }).1, none)
  | some (.bufferOverflow, _) =>
    match enlargePacketBuffer E s.env s.myBTData with
    | none => (s, some .runtimeException)
    | some myBTData => ({ s with myBTData := myBTData }, none)
  | some (.bufferUnderflow, _) => (s, some .sslException)
  | some (.closed, _) => (s, some .runtimeException)

/-- `while (myAppData.hasRemaining()) { ... }`, or `none` if that takes more than the given number
of rounds. -/
def writeLoop : ℕ → ThreadState σ → Option (ThreadState σ × WriteOutcome)
  | fuel, s =>
    if s.myAppData.hasRemaining then
      match fuel with
      | 0 => none
      | fuel + 1 =>
        match writeOnce E s with
        | (s, some o) => some (s, o)
        | (s, none) => writeLoop fuel s
    else some (s, .returned)

/-- `write(bytes)`. -/
def write (fuel : ℕ) (bytes : List UInt8) (s : ThreadState σ) :
    Option (ThreadState σ × WriteOutcome) :=
  let s := { s with myAppData := s.myAppData.clear }
  -- `myAppData.wrap(bytes)` evaluates to a buffer that is not used
  let _ := ByteBuffer.wrap bytes
  let s := { s with myAppData := s.myAppData.flip }
  writeLoop E fuel s

/-- With nothing to send the loop is not entered. -/
theorem writeLoop_of_empty {s : ThreadState σ} (h : s.myAppData.hasRemaining = false) (fuel : ℕ) :
    writeLoop E fuel s = some (s, .returned) := by
  cases fuel <;> simp [writeLoop, h]

/-- A buffer that was cleared and then flipped is empty. -/
theorem hasRemaining_clear_flip (b : ByteBuffer) : b.clear.flip.hasRemaining = false := rfl

/-- **`write` returns at once**, whatever it was to send. -/
theorem write_eq (fuel : ℕ) (bytes : List UInt8) (s : ThreadState σ) :
    write E fuel bytes s = some ({ s with myAppData := s.myAppData.clear.flip }, .returned) :=
  writeLoop_of_empty E (hasRemaining_clear_flip s.myAppData) fuel

/-- If `write` returns, the plaintext that the engine consumed is the argument, and the records it
produced are what the stream accepted. -/
def SendsExactly (bytes : List UInt8) (s : ThreadState σ) : Prop :=
  ∀ fuel s', write E fuel bytes s = some (s', .returned) →
    ∃ events, s'.log = s.log ++ events ∧
      events.flatMap SslEvent.wrapConsumed = bytes ∧
      events.flatMap SslEvent.acceptedBytes = events.flatMap SslEvent.wrapProduced

/-- **`write` sends exactly its argument** iff the argument is empty. -/
theorem write_exact_iff (bytes : List UInt8) (s : ThreadState σ) :
    SendsExactly E bytes s ↔ bytes = [] := by
  constructor
  · intro h
    obtain ⟨events, hlog, hconsumed, -⟩ := h 0 _ (write_eq E 0 bytes s)
    obtain rfl : events = [] := List.self_eq_append_right.mp hlog
    exact hconsumed.symm
  · rintro rfl fuel s' h
    rw [write_eq] at h
    cases h
    exact ⟨[], (List.append_nil _).symm, rfl, rfl⟩

/-- `"test".getBytes()`, the message of `run`. -/
def testMessage : List UInt8 := [0x74, 0x65, 0x73, 0x74]

/-- The message of `run` is not sent. -/
theorem test_not_sent : ¬ SendsExactly plainEnvironment testMessage (ThreadState.init ()) := by
  intro h
  obtain ⟨events, hlog, hconsumed, -⟩ := h 0 _ (write_eq plainEnvironment 0 _ _)
  obtain rfl : events = [] := List.self_eq_append_right.mp hlog
  cases hconsumed

end BluetoothAuto.App
