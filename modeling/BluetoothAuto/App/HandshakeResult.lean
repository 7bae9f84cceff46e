import BluetoothAuto.App.Handshake

/-!
# What the result of `doHandshake` says

The loop of `doHandshake` is left when `handshakeStatus` is `FINISHED` or `NOT_HANDSHAKING`, and
what follows it is `return true`. An engine says `NOT_HANDSHAKING` also when it has been closed
without a handshake. The branches for the end of the stream, for an `SSLException` and for a result
`CLOSED` close the engine, ask for its status and go on with the loop, so that an aborted handshake
leaves the loop where a completed one does, or does not leave it at all.

At every test of the loop `handshakeStatus` is what the engine has said last, and there are few
answers that end the method elsewhere. Hence the result is sound iff the engine does not say at a
test that it is done after an abort, says `NOT_HANDSHAKING` only after `FINISHED`, and after an
abort one of those answers comes.

## Main results

* `Tracks.step` — `handshakeStatus` is the status that was reported last
* `ended_step_iff` — which answers end the method by `return false` or an exception
* `result_sound_iff` — when the result of `doHandshake` is sound
* `returns_true_after_close_iff` — what the branches for errors make of the engine's next answer
-/

namespace BluetoothAuto.App

/-! ### What the engine has reported -/

/-- The statuses at which the loop of `doHandshake` is left. -/
def HandshakeStatus.leaves : HandshakeStatus → Bool
  | finished => true
  | notHandshaking => true
  | _ => false

namespace SslEvent

/-- The handshake status that this call has reported. -/
def report : SslEvent → Option HandshakeStatus
  | unwrap _ _ (some (_, h)) => some h
  | wrap _ _ (some (_, h)) => some h
  | status h => some h
  | _ => none

/-- The call met the end of the stream, threw `SSLException`, or its result was `CLOSED`. -/
def isAbort : SslEvent → Bool
  | endOfStream => true
  | unwrap _ _ none => true
  | unwrap _ _ (some (.closed, _)) => true
  | wrap _ _ none => true
  | wrap _ _ (some (.closed, _)) => true
  | _ => false

end SslEvent

namespace Handshake

/-- The status reported last. -/
def lastReport (log : List SslEvent) : Option HandshakeStatus :=
  (log.filterMap SslEvent.report).getLast?

/-- There was an end of the stream, an `SSLException` or a result `CLOSED`. -/
def aborted (log : List SslEvent) : Bool := log.any SslEvent.isAbort

/-- The engine has reported `FINISHED`. -/
def completed (log : List SslEvent) : Bool := log.any fun e => e.report == some .finished

theorem lastReport_append_of_some (log : List SslEvent) {e : SslEvent} {h : HandshakeStatus}
    (he : e.report = some h) : lastReport (log ++ [e]) = some h := by
  rw [lastReport, List.filterMap_append, List.filterMap_cons, he]
  exact List.getLast?_concat

theorem lastReport_append_of_none (log : List SslEvent) {e : SslEvent} (he : e.report = none) :
    lastReport (log ++ [e]) = lastReport log := by
  rw [lastReport, List.filterMap_append, List.filterMap_cons, he]
  exact congrArg List.getLast? (List.append_nil _)

variable {σ : Type*} {E : Environment σ} {s : Handshake σ}

/-! ### `handshakeStatus` is the status reported last -/

/-- `true` has not been returned, and what `handshakeStatus` is, or is about to become, is what the
engine has reported last. -/
structure Tracks (s : Handshake σ) : Prop where
  /-- At the head of the loop. -/
  loop : s.pc = .loop → lastReport s.log = some s.handshakeStatus
  /-- Behind the loop around `unwrap`. -/
  unwrapped : ∀ st h, s.pc = .unwrapped st h → lastReport s.log = some h
  /-- Until the loop is left. -/
  not_true : s.pc ≠ .done (.returned true)

theorem tracks_loop (hpc : s.pc = .loop) (h : lastReport s.log = some s.handshakeStatus) :
    Tracks s :=
  ⟨fun _ => h, fun _ _ hpc' => absurd (hpc.symm.trans hpc') nofun,
    fun hpc' => absurd (hpc.symm.trans hpc') nofun⟩

theorem tracks_done {o : HandshakeOutcome} (hpc : s.pc = .done o) (ho : o ≠ .returned true) :
    Tracks s := by
  refine ⟨fun hpc' => absurd (hpc.symm.trans hpc') nofun,
    fun _ _ hpc' => absurd (hpc.symm.trans hpc') nofun, fun hpc' => ho ?_⟩
  rw [hpc] at hpc'
  exact HandshakePc.done.inj hpc'

theorem tracks_refresh (s : Handshake σ) : Tracks (refresh E s) :=
  tracks_loop rfl (lastReport_append_of_some _ rfl)

theorem tracks_closeAndRefresh (s : Handshake σ) : Tracks (closeAndRefresh E s) :=
  tracks_refresh _

theorem tracks_onEndOfStream (s : Handshake σ) : Tracks (onEndOfStream E s) := by
  simp only [onEndOfStream]
  split
  · split
    · exact tracks_done rfl nofun
    · exact tracks_closeAndRefresh _
  · exact tracks_closeAndRefresh _

theorem tracks_read (s : Handshake σ) : Tracks (read E s) := by
  simp only [read]
  split
  · exact tracks_done rfl nofun
  · exact tracks_onEndOfStream _
  · simp only [putArray]
    split
    · exact tracks_done rfl nofun
    · exact ⟨nofun, nofun, nofun⟩

theorem tracks_unwrap (hpc : s.pc = .unwrap) : Tracks (unwrap E s) := by
  have hcall : (callUnwrap E s).1.pc = .unwrap := hpc
  have hlog : ∃ bs bs', (callUnwrap E s).1.log =
      s.log ++ [.unwrap bs bs' (callUnwrap E s).2.2] := ⟨_, _, rfl⟩
  simp only [unwrap]
  split
  · exact tracks_closeAndRefresh _
  · next u produced status h hresult =>
    rw [hresult] at hcall hlog
    obtain ⟨bs, bs', hlog⟩ := hlog
    split
    · exact ⟨fun hpc' => absurd (hcall.symm.trans hpc') nofun,
        fun _ _ hpc' => absurd (hcall.symm.trans hpc') nofun,
        fun hpc' => absurd (hcall.symm.trans hpc') nofun⟩
    · refine ⟨nofun, ?_, nofun⟩
      rintro st h' ⟨⟩
      show lastReport u.log = some h
      rw [hlog]
      exact lastReport_append_of_some _ rfl

theorem tracks_afterUnwrap {status : Status} {h : HandshakeStatus}
    (hlast : lastReport s.log = some h) : Tracks (afterUnwrap E s status h) := by
  cases status with
  | ok => exact tracks_loop rfl hlast
  | bufferOverflow =>
    simp only [afterUnwrap]
    split
    · exact tracks_done rfl nofun
    · exact tracks_loop rfl hlast
  | bufferUnderflow =>
    simp only [afterUnwrap]
    split
    · exact tracks_done rfl nofun
    · exact tracks_loop rfl hlast
  | closed =>
    simp only [afterUnwrap]
    split
    · exact tracks_done rfl nofun
    · exact tracks_closeAndRefresh _

/-- Writing reports nothing. -/
theorem lastReport_send (s : Handshake σ) : lastReport (send E s).1.log = lastReport s.log := by
  simp only [send, sendLoop_eq]
  split
  · exact lastReport_append_of_none _ rfl
  · rfl

theorem tracks_afterWrap (status : Status) {h : HandshakeStatus}
    (hlast : lastReport s.log = some h) : Tracks (afterWrap E s status h) := by
  have hsend := (lastReport_send (E := E) { s with pc := .loop, handshakeStatus := h }).trans hlast
  cases status with
  | ok =>
    simp only [afterWrap]
    split
    · exact tracks_loop rfl hsend
    · exact tracks_done rfl nofun
  | bufferOverflow =>
    simp only [afterWrap]
    split
    · exact tracks_done rfl nofun
    · exact tracks_loop rfl hlast
  | bufferUnderflow => exact tracks_done rfl nofun
  | closed =>
    simp only [afterWrap]
    split
    · exact tracks_loop rfl hsend
    · exact tracks_refresh _

theorem tracks_wrap (s : Handshake σ) : Tracks (wrap E s) := by
  have hlog : ∃ bs bs', (callWrap E s).1.log = s.log ++ [.wrap bs bs' (callWrap E s).2] :=
    ⟨_, _, rfl⟩
  simp only [wrap]
  split
  · exact tracks_closeAndRefresh _
  · next u status h hresult =>
    rw [hresult] at hlog
    obtain ⟨bs, bs', hlog⟩ := hlog
    refine tracks_afterWrap status ?_
    rw [hlog]
    exact lastReport_append_of_some _ rfl

theorem tracks_task (hs : Tracks s) (hpc : s.pc = .loop) : Tracks (task E s) := by
  simp only [task]
  split
  · exact tracks_loop hpc (hs.loop hpc)
  · exact tracks_refresh _

/-- `s` is at the head of the loop, with a status that leaves it. -/
def LeavesLoop (s : Handshake σ) : Prop := s.pc = .loop ∧ s.handshakeStatus.leaves = true

/-- **Every step but the one that leaves the loop keeps `handshakeStatus` the status that was
reported last.** -/
theorem Tracks.step (hs : Tracks s) (hstay : ¬ LeavesLoop s) : Tracks (step E s) := by
  apply step_rule E (P := Tracks)
  case done => exact fun _ _ => hs
  case unwrap => exact tracks_unwrap
  case afterUnwrap => exact fun status h hpc => tracks_afterUnwrap (hs.unwrapped status h hpc)
  case read => exact fun _ _ => tracks_read s
  case wrap => exact fun _ _ => tracks_wrap s
  case task => exact fun hpc _ => tracks_task hs hpc
  case leave =>
    rintro hpc (hstatus | hstatus)
    · exact absurd ⟨hpc, congrArg HandshakeStatus.leaves hstatus⟩ hstay
    · exact absurd ⟨hpc, congrArg HandshakeStatus.leaves hstatus⟩ hstay
  case unknown => exact fun _ _ => tracks_done rfl (by rintro ⟨⟩)

/-- That step returns `true`. -/
theorem step_of_leavesLoop (h : LeavesLoop s) :
    step E s = { s with pc := .done (.returned true) } := by
  obtain ⟨hpc, hleaves⟩ := h
  cases hstatus : s.handshakeStatus <;> simp only [step, hpc, hstatus]
  all_goals
    rw [hstatus] at hleaves
    cases hleaves

/-- A run follows the engine's reports, until it has left the loop and returned `true`. -/
theorem attempt_cases (E : Environment σ) (t : ThreadState σ) (k : ℕ) :
    Tracks (attempt E t k) ∨
      ∃ j, Tracks (attempt E t j) ∧ LeavesLoop (attempt E t j) ∧
        attempt E t k = { attempt E t j with pc := .done (.returned true) } := by
  induction k with
  | zero => exact .inl (tracks_loop rfl (lastReport_append_of_some _ rfl))
  | succ k ih =>
    rcases ih with htracks | ⟨j, htracks, hleaves, hk⟩
    · by_cases hleaves : LeavesLoop (attempt E t k)
      · exact .inr ⟨k, htracks, hleaves, (attempt_succ E t k).trans (step_of_leavesLoop hleaves)⟩
      · rw [attempt_succ]
        exact .inl (htracks.step hleaves)
    · refine .inr ⟨j, htracks, hleaves, ?_⟩
      rw [attempt_succ, step_done E (congrArg pc hk), hk]

/-! ### The answers that end the method -/

/-- `doHandshake` has returned `false` or thrown an exception. -/
def Ended (s : Handshake σ) : Prop := ∃ o, s.pc = .done o ∧ o ≠ .returned true

theorem ended_of_done {o : HandshakeOutcome} (hpc : s.pc = .done o) (ho : o ≠ .returned true) :
    Ended s :=
  ⟨o, hpc, ho⟩

theorem not_ended {pc : HandshakePc} (hpc : s.pc = pc) (hne : ∀ o, pc ≠ .done o) : ¬ Ended s := by
  rintro ⟨o, ho, -⟩
  exact hne o (hpc.symm.trans ho)

theorem not_ended_of_true (hpc : s.pc = .done (.returned true)) : ¬ Ended s := by
  rintro ⟨o, ho, hne⟩
  exact hne (HandshakePc.done.inj (ho.symm.trans hpc))

theorem not_ended_loop (hpc : s.pc = .loop) : ¬ Ended s := not_ended hpc nofun

theorem not_ended_refresh (s : Handshake σ) : ¬ Ended (refresh E s) := not_ended_loop rfl

/-- With a buffer the method goes on. -/
theorem ended_iff_none {α : Type} {r : Option α} {buffer : α} (hsome : r = some buffer)
    (hs : ¬ Ended s) : Ended s ↔ r = none := by
  refine iff_of_false hs fun hnone => ?_
  cases hsome.symm.trans hnone

/-- `read` throws; or it meets the end of the stream and the engine is done in both directions; or
the array does not fit into `peerBTData`. -/
def ReadEnds (E : Environment σ) (s : Handshake σ) : Prop :=
  match E.read s.env with
  | (.ioException, _) => True
  | (.endOfStream, env) =>
    (E.isInboundDone env).1 = true ∧ (E.isOutboundDone (E.isInboundDone env).2).1 = true
  | (.data d, _) => s.peerBTData.put d.array = none

/-- After the loop around `unwrap`: the next buffer cannot be allocated, or the result was `CLOSED`
and the engine is done in the other direction too. -/
def UnwrapEnds (E : Environment σ) (s : Handshake σ) : Status → Prop
  | .ok => False
  | .bufferOverflow => enlargeApplicationBuffer E s.env s.peerAppData = none
  | .bufferUnderflow => handleBufferUnderflow E s.env s.peerBTData.compact = none
  | .closed => (E.isOutboundDone s.env).1 = true

/-- After a call of `wrap`: what it has produced cannot be written, the next buffer cannot be
allocated, or the result was `BUFFER_UNDERFLOW`. -/
def WrapEnds (E : Environment σ) (s : Handshake σ) : Status → HandshakeStatus → Prop
  | .ok, h => (send E { s with pc := .loop, handshakeStatus := h }).2 = false
  | .bufferOverflow, _ => enlargePacketBuffer E s.env s.myBTData = none
  | .bufferUnderflow, _ => True
  | .closed, _ => False

/-- The answers that the next step gets from the engine and the stream end the method by
`return false` or an exception. -/
def GivesUp (E : Environment σ) (s : Handshake σ) : Prop :=
  match s.pc with
  | .done _ | .unwrap => False
  | .unwrapped status _ => UnwrapEnds E s status
  | .loop =>
    match s.handshakeStatus with
    | .needUnwrap => ReadEnds E s
    | .needWrap =>
      match (callWrap E s).2 with
      | none => False
      | some (status, h) => WrapEnds E (callWrap E s).1 status h
    | .needUnwrapAgain => True
    | .needTask | .finished | .notHandshaking => False

theorem ended_onEndOfStream_iff (s : Handshake σ) :
    Ended (onEndOfStream E s) ↔
      (E.isInboundDone s.env).1 = true ∧
        (E.isOutboundDone (E.isInboundDone s.env).2).1 = true := by
  simp only [onEndOfStream]
  split_ifs with hin hout
  · exact iff_of_true (ended_of_done rfl (by decide)) ⟨hin, hout⟩
  · exact iff_of_false (not_ended_refresh _) fun h => hout h.2
  · exact iff_of_false (not_ended_refresh _) fun h => hin h.1

theorem ended_putArray_iff (s : Handshake σ) (d : Delivery) :
    Ended (putArray s d) ↔ s.peerBTData.put d.array = none := by
  rw [putArray]
  split
  · next hnone => exact iff_of_true (ended_of_done rfl (by decide)) hnone
  · next buffer hsome => exact ended_iff_none hsome (not_ended rfl nofun)

theorem ended_read_iff (s : Handshake σ) : Ended (read E s) ↔ ReadEnds E s := by
  rw [read, ReadEnds]
  obtain ⟨answer, env⟩ := E.read s.env
  cases answer with
  | ioException => exact iff_of_true (ended_of_done rfl (by decide)) trivial
  | endOfStream => exact ended_onEndOfStream_iff _
  | data d => exact ended_putArray_iff _ d

theorem not_ended_unwrap (hpc : s.pc = .unwrap) : ¬ Ended (unwrap E s) := by
  have hcall : (callUnwrap E s).1.pc = .unwrap := hpc
  simp only [unwrap]
  split
  · exact not_ended_refresh _
  · next hresult =>
    rw [hresult] at hcall
    split
    · exact not_ended hcall nofun
    · exact not_ended rfl nofun

theorem ended_afterUnwrap_iff (s : Handshake σ) (status : Status) (h : HandshakeStatus) :
    Ended (afterUnwrap E s status h) ↔ UnwrapEnds E s status := by
  cases status with
  | ok => exact iff_of_false (not_ended_loop rfl) id
  | bufferOverflow =>
    simp only [afterUnwrap, UnwrapEnds]
    split
    · next hnone => exact iff_of_true (ended_of_done rfl (by decide)) hnone
    · next buffer hsome => exact ended_iff_none hsome (not_ended_loop rfl)
  | bufferUnderflow =>
    simp only [afterUnwrap, UnwrapEnds]
    split
    · next hnone => exact iff_of_true (ended_of_done rfl (by decide)) hnone
    · next buffer hsome => exact ended_iff_none hsome (not_ended_loop rfl)
  | closed =>
    simp only [afterUnwrap, UnwrapEnds]
    split_ifs with hout
    · exact iff_of_true (ended_of_done rfl (by decide)) hout
    · exact iff_of_false (not_ended_refresh _) hout

theorem ended_afterWrap_iff (s : Handshake σ) (status : Status) (h : HandshakeStatus) :
    Ended (afterWrap E s status h) ↔ WrapEnds E s status h := by
  cases status with
  | ok =>
    simp only [afterWrap, WrapEnds]
    split_ifs with hsend
    · exact iff_of_false (not_ended_loop rfl) (by simp [hsend])
    · exact iff_of_true (ended_of_done rfl (by decide)) (Bool.eq_false_iff.mpr hsend)
  | bufferOverflow =>
    simp only [afterWrap, WrapEnds]
    split
    · next hnone => exact iff_of_true (ended_of_done rfl (by decide)) hnone
    · next buffer hsome => exact ended_iff_none hsome (not_ended_loop rfl)
  | bufferUnderflow => exact iff_of_true (ended_of_done rfl (by decide)) trivial
  | closed =>
    simp only [afterWrap, WrapEnds]
    split_ifs
    · exact iff_of_false (not_ended_loop rfl) id
    · exact iff_of_false (not_ended_refresh _) id

theorem ended_wrap_iff (s : Handshake σ) :
    Ended (wrap E s) ↔
      match (callWrap E s).2 with
      | none => False
      | some (status, h) => WrapEnds E (callWrap E s).1 status h := by
  simp only [wrap]
  split
  · next hresult =>
    rw [hresult]
    exact iff_of_false (not_ended_refresh _) id
  · next hresult =>
    rw [hresult]
    exact ended_afterWrap_iff _ _ _

theorem not_ended_task (hpc : s.pc = .loop) : ¬ Ended (task E s) := by
  simp only [task]
  split_ifs
  · exact not_ended hpc nofun
  · exact not_ended_refresh _

/-- **The answers that end the method**: a step that is taken ends it by `return false` or an
exception iff it gets one of them. -/
theorem ended_step_iff (E : Environment σ) (hs : ∀ o, s.pc ≠ .done o) :
    Ended (step E s) ↔ GivesUp E s := by
  rw [GivesUp]
  cases hpc : s.pc with
  | done o => exact absurd hpc (hs o)
  | unwrap =>
    simp only [step, hpc]
    exact iff_of_false (not_ended_unwrap hpc) id
  | unwrapped status h =>
    simp only [step, hpc]
    exact ended_afterUnwrap_iff s status h
  | loop =>
    cases hstatus : s.handshakeStatus with
    | needUnwrap => simpa only [step, hpc, hstatus] using ended_read_iff s
    | needWrap => simpa only [step, hpc, hstatus] using ended_wrap_iff s
    | needTask => simpa only [step, hpc, hstatus] using iff_of_false (not_ended_task hpc) id
    | needUnwrapAgain =>
      simp only [step, hpc, hstatus]
      exact iff_of_true (ended_of_done rfl (by decide)) trivial
    | finished | notHandshaking =>
      simp only [step, hpc, hstatus]
      exact iff_of_false (not_ended_of_true rfl) id

/-- A run ends by `return false` or an exception iff it comes to a step with such an answer. -/
theorem ended_run_iff (E : Environment σ) (t : ThreadState σ) :
    (∃ k, Ended (attempt E t k)) ↔ ∃ k, GivesUp E (attempt E t k) := by
  constructor
  · rintro ⟨k, hk⟩
    induction k with
    | zero => exact absurd hk (not_ended rfl nofun)
    | succ k ih =>
      by_cases hdone : ∃ o, (attempt E t k).pc = .done o
      · obtain ⟨o, ho⟩ := hdone
        rw [attempt_succ, step_done E ho] at hk
        exact ih hk
      · rw [attempt_succ] at hk
        exact ⟨k, (ended_step_iff E (not_exists.mp hdone)).mp hk⟩
  · rintro ⟨k, hk⟩
    have hgoing : ∀ o, (attempt E t k).pc ≠ .done o := by
      intro o ho
      rw [GivesUp, ho] at hk
      exact hk
    refine ⟨k + 1, ?_⟩
    rw [attempt_succ]
    exact (ended_step_iff E hgoing).mpr hk

/-! ### When the result is sound -/

/-- What a result `true` says: the engine completed the handshake, and it was not aborted. -/
def Sound (log : List SslEvent) : Prop := aborted log = false ∧ completed log = true

/-- A handshake is in progress when `doHandshake` is entered. -/
def InProgress (E : Environment σ) (t : ThreadState σ) : Prop :=
  (E.getHandshakeStatus t.env).1.leaves = false

/-- **The result of `doHandshake` is sound.** -/
structure ResultSound (E : Environment σ) (t : ThreadState σ) : Prop where
  /-- If it returns `true` then the engine has completed the handshake, and there was no end of the
  stream, no `SSLException` and no result `CLOSED`. -/
  of_true : ∀ k, (attempt E t k).pc = .done (.returned true) → Sound (attempt E t k).log
  /-- If there was one then it returns `false` or throws. -/
  of_aborted : ∀ k, aborted (attempt E t k).log = true → ∃ j, Ended (attempt E t j)

/-- What the engine and the stream answer when the result is sound. -/
structure AnswersFit (E : Environment σ) (t : ThreadState σ) : Prop where
  /-- At a test of the loop after an abort the engine has not said last that it is done. -/
  afterAbort : ∀ k h, (attempt E t k).pc = .loop → aborted (attempt E t k).log = true →
    lastReport (attempt E t k).log = some h → h.leaves = false
  /-- At a test before `FINISHED` it has not said last that it is not handshaking. -/
  beforeFinished : ∀ k, (attempt E t k).pc = .loop → completed (attempt E t k).log = false →
    lastReport (attempt E t k).log ≠ some .notHandshaking
  /-- After an abort there comes an answer that ends the method. -/
  givesUp : ∀ k, aborted (attempt E t k).log = true → ∃ j, GivesUp E (attempt E t j)

/-- What was reported last has been reported. -/
theorem completed_of_lastReport {log : List SslEvent} (h : lastReport log = some .finished) :
    completed log = true := by
  obtain ⟨e, he, hreport⟩ := List.mem_filterMap.mp (List.mem_of_getLast? h)
  exact List.any_eq_true.mpr ⟨e, he, beq_iff_eq.mpr hreport⟩

/-- At a test of the loop, what was reported last decides whether the next step returns `true`. -/
theorem returns_true_of_lastReport {t : ThreadState σ} {k : ℕ} {h : HandshakeStatus}
    (hpc : (attempt E t k).pc = .loop) (hlast : lastReport (attempt E t k).log = some h)
    (hleaves : h.leaves = true) :
    attempt E t (k + 1) = { attempt E t k with pc := .done (.returned true) } := by
  rcases attempt_cases E t k with htracks | ⟨j, -, -, hk⟩
  · obtain rfl := Option.some.inj ((htracks.loop hpc).symm.trans hlast)
    exact (attempt_succ E t k).trans (step_of_leavesLoop ⟨hpc, hleaves⟩)
  · exact absurd (hpc.symm.trans (congrArg pc hk)) nofun

/-- At such a test the log is sound if the result is. -/
theorem ResultSound.sound_of_lastReport {t : ThreadState σ} (hsound : ResultSound E t) {k : ℕ}
    {h : HandshakeStatus} (hpc : (attempt E t k).pc = .loop)
    (hlast : lastReport (attempt E t k).log = some h) (hleaves : h.leaves = true) :
    Sound (attempt E t k).log := by
  have hnext := returns_true_of_lastReport hpc hlast hleaves
  have htrue := hsound.of_true (k + 1) (congrArg pc hnext)
  rwa [hnext] at htrue

theorem ResultSound.answersFit {t : ThreadState σ} (hsound : ResultSound E t) :
    AnswersFit E t where
  afterAbort k h hpc haborted hlast := by
    by_contra hleaves
    have hlog := hsound.sound_of_lastReport hpc hlast (Bool.not_eq_false _ ▸ hleaves)
    exact absurd (haborted.symm.trans hlog.1) nofun
  beforeFinished k hpc hcompleted hlast := by
    have hlog := hsound.sound_of_lastReport hpc hlast rfl
    exact absurd (hlog.2.symm.trans hcompleted) nofun
  givesUp k haborted := (ended_run_iff E t).mp (hsound.of_aborted k haborted)

theorem AnswersFit.resultSound {t : ThreadState σ} (hfit : AnswersFit E t) : ResultSound E t where
  of_true k hpc := by
    rcases attempt_cases E t k with htracks | ⟨j, htracks, ⟨hloop, hleaves⟩, hk⟩
    · exact absurd hpc htracks.not_true
    · rw [hk]
      have hlast := htracks.loop hloop
      refine ⟨Bool.eq_false_iff.mpr fun haborted => ?_, ?_⟩
      · exact absurd (hleaves.symm.trans (hfit.afterAbort j _ hloop haborted hlast)) nofun
      · by_contra hcompleted
        have hnot := hfit.beforeFinished j hloop (Bool.eq_false_iff.mpr hcompleted)
        cases hstatus : (attempt E t j).handshakeStatus <;> rw [hstatus] at hleaves hlast
        case notHandshaking => exact hnot hlast
        case finished => exact hcompleted (completed_of_lastReport hlast)
        all_goals cases hleaves
  of_aborted k haborted := (ended_run_iff E t).mpr (hfit.givesUp k haborted)

/-- **When the result of `doHandshake` is sound**, if it is entered with a handshake in progress:
iff the answers fit. After an end of the stream, an `SSLException` or a result `CLOSED` the engine
does not say at a test of the loop that it is done, and an answer comes which ends the method; and
the engine says `NOT_HANDSHAKING` at a test only after `FINISHED`. -/
theorem result_sound_iff (E : Environment σ) (t : ThreadState σ) :
    (InProgress E t → ResultSound E t) ↔ (InProgress E t → AnswersFit E t) :=
  imp_congr_right fun _ => ⟨ResultSound.answersFit, AnswersFit.resultSound⟩

/-- The branches for the end of the stream, for an `SSLException` and for a result `CLOSED` of
`unwrap` end in `closeAndRefresh`. The next step returns `true` iff the engine, now closed, says
that it is not handshaking. -/
theorem returns_true_after_close_iff (s : Handshake σ) :
    (step E (closeAndRefresh E s)).pc = .done (.returned true) ↔
      (E.getHandshakeStatus (E.closeOutbound s.env)).1.leaves = true := by
  constructor
  · intro htrue
    by_contra hstay
    exact ((tracks_closeAndRefresh s).step fun hleaves => hstay hleaves.2).not_true htrue
  · intro hleaves
    rw [step_of_leavesLoop ⟨rfl, hleaves⟩]

/-! ### A peer that hangs up -/

/-- How far an engine has come whose peer has hung up. -/
inductive HungUp where
  /-- It waits for the first record of the peer. -/
  | waiting
  /-- It has been closed and owes the peer a message that says so. -/
  | closing
  /-- It is closed. -/
  | closed

/-- An engine and a stream whose peer hangs up before it has sent anything. -/
def hungUpEnvironment : Environment HungUp where
  beginHandshake env := (.returned, env)
  getHandshakeStatus env :=
    match env with
    | .waiting => (.needUnwrap, env)
    | .closing => (.needWrap, env)
    | .closed => (.notHandshaking, env)
  unwrap env _ _ := (.empty (some (.closed, .needWrap)), env)
  wrap _ _ _ := (.producing [0x15, 3, 1, 0, 2, 1, 0] (some (.closed, .notHandshaking)), .closed)
  getDelegatedTask env := (false, env)
  isInboundDone env :=
    match env with
    | .waiting => (false, env)
    | _ => (true, env)
  isOutboundDone env :=
    match env with
    | .closed => (true, env)
    | _ => (false, env)
  closeInbound env := env
  closeOutbound env :=
    match env with
    | .waiting => .closing
    | env => env
  packetBufferSize _ := 16384
  applicationBufferSize _ := 16384
  read env := (.endOfStream, env)
  write env _ := (true, env)

/-- It can always send, and what is sent is not an end of the handshake. -/
theorem send_hungUp (s : Handshake HungUp) :
    (send hungUpEnvironment s).2 = true ∧
      aborted (send hungUpEnvironment s).1.log = aborted s.log := by
  simp only [send, sendLoop_eq]
  split
  · exact ⟨rfl, List.any_append.trans (Bool.or_false _)⟩
  · exact ⟨rfl, rfl⟩

/-- The round in which it says that it is closed is the last one. -/
theorem wrap_hungUp (s : Handshake HungUp) :
    LeavesLoop (wrap hungUpEnvironment s) ∧ aborted (wrap hungUpEnvironment s).log = true := by
  obtain ⟨hok, haborted⟩ := send_hungUp
    { (callWrap hungUpEnvironment s).1 with pc := .loop, handshakeStatus := .notHandshaking }
  have hwrap : wrap hungUpEnvironment s =
      afterWrap hungUpEnvironment (callWrap hungUpEnvironment s).1 .closed .notHandshaking := rfl
  simp only [hwrap, afterWrap]
  rw [if_pos hok]
  refine ⟨⟨rfl, rfl⟩, haborted.trans ?_⟩
  exact List.any_append.trans (Bool.or_true _)

/-- The handshake with this peer is reported as successful. -/
theorem returns_true_hungUp : ¬ ResultSound hungUpEnvironment (.init .waiting) := by
  intro h
  -- the end of the stream, then the message that says so, then the exit of the loop
  obtain ⟨hleaves, haborted⟩ := wrap_hungUp (attempt hungUpEnvironment (.init .waiting) 1)
  have hexit : attempt hungUpEnvironment (.init .waiting) 3 =
      { wrap hungUpEnvironment (attempt hungUpEnvironment (.init .waiting) 1) with
        pc := .done (.returned true) } :=
    step_of_leavesLoop hleaves
  have hsound := (h.of_true 3 (congrArg pc hexit)).1
  rw [hexit] at hsound
  exact absurd (haborted.symm.trans hsound) nofun

/-- The same peer, and an engine that waits for its records all the same. -/
def waitingEnvironment : Environment HungUp :=
  { hungUpEnvironment with
    getHandshakeStatus := fun env => (.needUnwrap, env)
    isInboundDone := fun env => (false, env) }

/-- Each of its rounds meets the end of the stream once more. -/
theorem attempt_waiting (k : ℕ) :
    (attempt waitingEnvironment (.init .waiting) k).pc = .loop ∧
      (attempt waitingEnvironment (.init .waiting) k).handshakeStatus = .needUnwrap := by
  induction k with
  | zero => exact ⟨rfl, rfl⟩
  | succ k ih =>
    obtain ⟨hpc, hstatus⟩ := ih
    rw [attempt_succ, step, hpc]
    simp only [hstatus]
    exact ⟨rfl, rfl⟩

/-- The handshake with this engine never ends. -/
theorem not_ended_waiting : ¬ ResultSound waitingEnvironment (.init .waiting) := by
  intro h
  obtain ⟨k, hk⟩ := h.of_aborted 1 rfl
  exact not_ended (attempt_waiting k).1 nofun hk

/-- **A peer that hangs up**: with the one engine the handshake is reported as successful, with the
other one it does not end. -/
theorem end_of_stream_returns_true :
    (InProgress hungUpEnvironment (.init .waiting) ∧
      ¬ ResultSound hungUpEnvironment (.init .waiting)) ∧
      InProgress waitingEnvironment (.init .waiting) ∧
        ¬ ResultSound waitingEnvironment (.init .waiting) :=
  ⟨⟨rfl, returns_true_hungUp⟩, rfl, not_ended_waiting⟩

end Handshake

end BluetoothAuto.App
