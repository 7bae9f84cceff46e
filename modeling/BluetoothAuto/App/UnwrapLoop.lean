import BluetoothAuto.App.Handshake

/-!
# The loop around `unwrap`

In `case NEED_UNWRAP`, `doHandshake` calls `unwrap` again and again as long as bytes remain in
`peerBTData` or the last call produced some; the status of the last call is looked at behind the
loop. An engine can refuse to go on while bytes remain: the record is not complete, the destination
is too small, a task has to be run first, data has to be sent first, or the connection is closed.
The code for each of these stands behind the loop, and the loop is not left.

A call that makes progress takes bytes from one finite buffer or puts bytes into another, so
refusals are all that can keep the loop going for ever.

## Main results

* `rounds_of_stall` — a refusal with bytes remaining is repeated for ever
* `unwrap_loop_iff` — the loop ends, and refusals reach the `switch`, iff no call is refused while
  bytes remain
-/

namespace BluetoothAuto.App

/-- Nothing was consumed and nothing was produced. -/
def EngineAnswer.NoProgress {src dst : ByteBuffer} (a : EngineAnswer src dst) : Prop :=
  a.consumed = 0 ∧ a.produced = []

/-- The call made no progress, and said so with this result. -/
def EngineAnswer.Refuses {src dst : ByteBuffer} (a : EngineAnswer src dst) (status : Status)
    (h : HandshakeStatus) : Prop :=
  a.NoProgress ∧ a.result = some (status, h)

/-- An environment whose engine obeys the contract of `SSLEngine.unwrap`. -/
structure ObeyingEngine (σ : Type*) extends Environment σ where
  /-- A call that makes no progress says why. -/
  says_why : ∀ env src dst status h, (unwrap env src dst).1.Refuses status h →
    status = .bufferUnderflow ∨ status = .bufferOverflow ∨ status = .closed ∨
      h = .needTask ∨ h = .needWrap
  /-- It answers the same as long as nothing else changes. -/
  repeats : ∀ env src dst status h, (unwrap env src dst).1.Refuses status h →
    (unwrap (unwrap env src dst).2 src dst).1.Refuses status h

namespace Handshake

variable {σ : Type*} (E : Environment σ)

/-- `peerBTData` holds what it holds, and the loop is entered. -/
def enterUnwrapLoop (s : Handshake σ) : Handshake σ := { s with pc := .unwrap }

/-- One round of the loop, until it is left. -/
def round (s : Handshake σ) : Handshake σ :=
  match s.pc with
  | .unwrap => step E s
  | _ => s

/-- The state after `k` rounds of the loop. -/
def rounds (s : Handshake σ) (k : ℕ) : Handshake σ := (round E)^[k] (enterUnwrapLoop s)

/-- What the engine answers to the call of `unwrap`. -/
def unwrapAnswer (s : Handshake σ) : EngineAnswer s.peerBTData s.peerAppData :=
  (E.unwrap s.env s.peerBTData s.peerAppData).1

/-- The loop does what it is there for. -/
structure UnwrapLoopCorrect (s : Handshake σ) : Prop where
  /-- It ends. -/
  ends : ∃ k, (rounds E s k).pc ≠ .unwrap
  /-- A refusal reaches the `switch` on the status. -/
  reaches : ∀ k status h, (rounds E s k).pc = .unwrap →
    (unwrapAnswer E (rounds E s k)).Refuses status h →
      (rounds E s (k + 1)).pc = .unwrapped status h

/-- The next call of `unwrap` is refused while bytes remain. -/
def Stalls (s : Handshake σ) : Prop :=
  s.pc = .unwrap ∧ s.peerBTData.hasRemaining = true ∧
    ∃ status h, (unwrapAnswer E s).Refuses status h

/-! ### One round -/

variable {E} {s : Handshake σ}

theorem rounds_succ (s : Handshake σ) (k : ℕ) : rounds E s (k + 1) = round E (rounds E s k) :=
  Function.iterate_succ_apply' _ _ _

theorem round_of_unwrap (h : s.pc = .unwrap) : round E s = unwrap E s := by
  rw [round, h]
  simp only
  rw [step, h]

/-- A call that throws leaves the loop. -/
theorem pc_round_of_throw (hpc : s.pc = .unwrap) (hres : (unwrapAnswer E s).result = none) :
    (round E s).pc = .loop := by
  have hcall : (callUnwrap E s).2.2 = none := hres
  rw [round_of_unwrap hpc, unwrap]
  split
  · rfl
  · next heq => cases hcall.symm.trans (congrArg (·.2.2) heq)

/-- A call that returns is followed by another one as long as bytes remain or were produced. -/
theorem round_of_result {status : Status} {h : HandshakeStatus} (hpc : s.pc = .unwrap)
    (hres : (unwrapAnswer E s).result = some (status, h)) :
    round E s =
      if (unwrapAnswer E s).nextSrc.hasRemaining || !(unwrapAnswer E s).produced.isEmpty then
        (callUnwrap E s).1
      else { (callUnwrap E s).1 with pc := .unwrapped status h } := by
  have hcall : (callUnwrap E s).2.2 = some (status, h) := hres
  rw [round_of_unwrap hpc, unwrap]
  split
  · next heq => cases hcall.symm.trans (congrArg (·.2.2) heq)
  · next t produced status' h' heq =>
    obtain ⟨rfl, rfl⟩ : status' = status ∧ h' = h := by
      simpa using (congrArg (·.2.2) heq).symm.trans hcall
    have hs : (callUnwrap E s).1 = t := congrArg (·.1) heq
    have hproduced : (!(unwrapAnswer E s).produced.isEmpty) = produced := congrArg (·.2.1) heq
    have hsrc : (unwrapAnswer E s).nextSrc = t.peerBTData := congrArg (·.1.peerBTData) heq
    rw [hs, hproduced, hsrc]

/-- A call without progress leaves the source as it is. -/
theorem nextSrc_of_noProgress (h : (unwrapAnswer E s).NoProgress) :
    (unwrapAnswer E s).nextSrc = s.peerBTData := by
  simp only [EngineAnswer.nextSrc, h.1, ByteBuffer.advance_zero]

/-- It leaves the destination as it is. -/
theorem nextDst_of_noProgress (h : (unwrapAnswer E s).NoProgress) :
    (unwrapAnswer E s).nextDst = s.peerAppData := by
  simp only [EngineAnswer.nextDst, h.2, ByteBuffer.store_nil]

/-- A refusal ends the loop when nothing remains, and the `switch` sees its status. -/
theorem pc_round_of_refusal {status : Status} {h : HandshakeStatus} (hpc : s.pc = .unwrap)
    (hrefuses : (unwrapAnswer E s).Refuses status h)
    (hempty : s.peerBTData.hasRemaining = false) : (round E s).pc = .unwrapped status h := by
  rw [round_of_result hpc hrefuses.2, nextSrc_of_noProgress hrefuses.1, hempty, hrefuses.1.2]
  rfl

/-! ### Refusals while bytes remain -/

/-- A refusal while bytes remain is followed by the next call. -/
theorem round_of_stall {status : Status} {h : HandshakeStatus} (hpc : s.pc = .unwrap)
    (hrefuses : (unwrapAnswer E s).Refuses status h) (hrem : s.peerBTData.hasRemaining = true) :
    round E s = (callUnwrap E s).1 := by
  rw [round_of_result hpc hrefuses.2, nextSrc_of_noProgress hrefuses.1, hrem]
  rfl

/-- The next call is refused as well: the engine is asked the same again. -/
theorem Stalls.round {E : ObeyingEngine σ} (hs : Stalls E.toEnvironment s) :
    Stalls E.toEnvironment (round E.toEnvironment s) := by
  obtain ⟨hpc, hrem, status, h, hrefuses⟩ := hs
  have hsrc : (callUnwrap E.toEnvironment s).1.peerBTData = s.peerBTData :=
    nextSrc_of_noProgress hrefuses.1
  have hdst : (callUnwrap E.toEnvironment s).1.peerAppData = s.peerAppData :=
    nextDst_of_noProgress hrefuses.1
  have hagain : ∀ src dst, src = s.peerBTData → dst = s.peerAppData →
      (E.unwrap (callUnwrap E.toEnvironment s).1.env src dst).1.Refuses status h := by
    rintro src dst rfl rfl
    exact E.repeats _ _ _ _ _ hrefuses
  rw [round_of_stall hpc hrefuses hrem]
  exact ⟨hpc, by rw [hsrc, hrem], status, h, hagain _ _ hsrc hdst⟩

/-- **A refusal while bytes remain is repeated for ever.** -/
theorem rounds_of_stall {E : ObeyingEngine σ} {k : ℕ}
    (hs : Stalls E.toEnvironment (rounds E.toEnvironment s k)) (n : ℕ) :
    Stalls E.toEnvironment (rounds E.toEnvironment s (k + n)) := by
  induction n with
  | zero => exact hs
  | succ n ih =>
    rw [← Nat.add_assoc, rounds_succ]
    exact ih.round

/-- A loop that has been left stays left. -/
theorem pc_rounds_of_le {j k : ℕ} (hjk : j ≤ k) (h : (rounds E s j).pc ≠ .unwrap) :
    (rounds E s k).pc ≠ .unwrap := by
  have hfix : round E (rounds E s j) = rounds E s j := by
    rw [round]
    split
    · next hpc => exact absurd hpc h
    · rfl
  have hstay : rounds E s k = rounds E s j := Iterate.fixed hfix hjk
  rwa [hstay]

/-! ### Progress -/

/-- The bytes to be consumed and the room for bytes to be produced. -/
def room (s : Handshake σ) : ℕ := s.peerBTData.remaining + s.peerAppData.remaining

/-- Progress uses up some of the room. -/
theorem room_callUnwrap_lt (h : ¬ (unwrapAnswer E s).NoProgress) :
    room (callUnwrap E s).1 < room s := by
  have hsrc : (callUnwrap E s).1.peerBTData.remaining =
      s.peerBTData.remaining - (unwrapAnswer E s).consumed :=
    (unwrapAnswer E s).remaining_nextSrc
  have hdst : (callUnwrap E s).1.peerAppData.remaining =
      s.peerAppData.remaining - (unwrapAnswer E s).produced.length :=
    (unwrapAnswer E s).remaining_nextDst
  have hconsumed := (unwrapAnswer E s).consumed_le
  have hproduced := (unwrapAnswer E s).produced_le
  have hsome : 0 < (unwrapAnswer E s).consumed ∨ 0 < (unwrapAnswer E s).produced.length := by
    rw [List.length_pos_iff, Nat.pos_iff_ne_zero]
    exact not_and_or.mp h
  rw [room, room, hsrc, hdst]
  omega

/-- A round that does not leave the loop uses up room, unless it stalls. -/
theorem room_round_lt (hpc : s.pc = .unwrap) (hstay : (round E s).pc = .unwrap)
    (hstall : ¬ Stalls E s) : room (round E s) < room s := by
  cases hres : (unwrapAnswer E s).result with
  | none => cases (pc_round_of_throw hpc hres).symm.trans hstay
  | some r =>
    obtain ⟨status, h⟩ := r
    by_cases hno : (unwrapAnswer E s).NoProgress
    · cases hrem : s.peerBTData.hasRemaining with
      | true => exact absurd ⟨hpc, hrem, status, h, hno, hres⟩ hstall
      | false => cases (pc_round_of_refusal hpc ⟨hno, hres⟩ hrem).symm.trans hstay
    · rw [round_of_result hpc hres] at hstay ⊢
      split at hstay
      · next hgo =>
        rw [if_pos hgo]
        exact room_callUnwrap_lt hno
      · cases hstay

/-- **When the loop is correct.** For every engine that obeys its contract and every content of
the buffers: the loop ends, and every refusal reaches the `switch`, iff no call of the loop is
refused while bytes remain. -/
theorem unwrap_loop_iff (E : ObeyingEngine σ) (s : Handshake σ) :
    UnwrapLoopCorrect E.toEnvironment s ↔
      ∀ k, ¬ Stalls E.toEnvironment (rounds E.toEnvironment s k) := by
  constructor
  · rintro ⟨⟨n, hn⟩, -⟩ k hstall
    exact pc_rounds_of_le (Nat.le_add_left n k) hn (rounds_of_stall hstall n).1
  · intro hstall
    refine ⟨?_, ?_⟩
    · refine Iterate.exists_not (f := round E.toEnvironment) (s := enterUnwrapLoop s)
        (P := fun t => t.pc = .unwrap) room fun k hk hk' => ?_
      rw [Function.iterate_succ_apply'] at hk' ⊢
      exact room_round_lt hk hk' (hstall k)
    · intro k status h hpc hrefuses
      rw [rounds_succ]
      refine pc_round_of_refusal hpc hrefuses (Bool.eq_false_iff.mpr fun hrem => ?_)
      exact hstall k ⟨hpc, hrem, status, h, hrefuses⟩

/-- An engine that waits for the rest of a record. -/
def waitingEngine : ObeyingEngine Unit where
  toEnvironment := plainEnvironment
  says_why := by
    rintro env src dst status h ⟨-, hres⟩
    cases hres
    exact .inl rfl
  repeats _ _ _ _ _ h := h

/-- The first 1024 bytes of a record that announces 16384 bytes behind its header. -/
def beginningOfRecord : List UInt8 := [0x16, 3, 3, 0x40, 0] ++ List.replicate (readSize - 5) 0

/-- `read` has filled its array, and the array has been put into `peerBTData`. -/
def beginningRead : Handshake Unit where
  toThreadState := { ThreadState.init () with peerBTData := .wrap beginningOfRecord }
  pc := .loop
  handshakeStatus := .needUnwrap
  localAppData := .allocate 16384
  peerAppData := .allocate 16384
  mode := .drain

/-- The loop asks for ever for the record of which the beginning has arrived. -/
theorem incomplete_record_loops :
    ¬ ∀ (E : ObeyingEngine Unit) (s : Handshake Unit), UnwrapLoopCorrect E.toEnvironment s := by
  intro h
  obtain ⟨n, hn⟩ := (h waitingEngine beginningRead).ends
  have hremaining : (ByteBuffer.wrap beginningOfRecord).hasRemaining = true :=
    ByteBuffer.hasRemaining_iff.mpr (by simp [ByteBuffer.remaining, ByteBuffer.wrap,
      beginningOfRecord])
  have hstall :
      Stalls waitingEngine.toEnvironment (rounds waitingEngine.toEnvironment beginningRead 0) :=
    ⟨rfl, hremaining, .bufferUnderflow, .notHandshaking, ⟨rfl, rfl⟩, rfl⟩
  have hforever := rounds_of_stall hstall n
  rw [Nat.zero_add] at hforever
  exact hn hforever.1

end Handshake

end BluetoothAuto.App
