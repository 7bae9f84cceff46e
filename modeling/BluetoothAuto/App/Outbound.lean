import BluetoothAuto.App.Handshake

/-!
# The bytes that leave `doHandshake`

What `wrap` produces goes through `myBTData` to the stream. The buffer is cleared before every call
of `wrap`, and what it holds after the call is written out before anything else happens, so nothing
of an earlier round is written again. An engine that needs more room than `myBTData` has gets a
buffer of the size that its session asks for, and the buffer never becomes smaller.

Both rest on what `SSLEngine` promises about `wrap`: bytes are produced only with a result `OK` or
`CLOSED`, and a buffer of the session's packet size never is too small.

## Main results

* `Sends.step` — what a step does to `myBTData` and to the stream
* `outbound_exact` — the bytes written are the bytes produced, and a packet buffer of a given size
  is asked for only once
-/

namespace BluetoothAuto.App

/-- An environment whose engine obeys the contract of `SSLEngine.wrap`. -/
structure WrappingEngine (σ : Type*) extends Environment σ where
  /-- Bytes are produced only with a result `OK` or `CLOSED`. -/
  produces : ∀ env src dst, (wrap env src dst).1.produced ≠ [] →
    ∃ h, (wrap env src dst).1.result = some (.ok, h) ∨
      (wrap env src dst).1.result = some (.closed, h)
  /-- The destination is too small only if it is smaller than a packet. -/
  overflows : ∀ env src dst h, (wrap env src dst).1.result = some (.bufferOverflow, h) →
    dst.capacity < packetBufferSize env

namespace Handshake

/-! ### What was produced, and what was written -/

/-- The bytes produced by `wrap`. -/
def produced (log : List SslEvent) : List UInt8 := log.flatMap SslEvent.wrapProduced

/-- The bytes that the stream accepted. -/
def accepted (log : List SslEvent) : List UInt8 := log.flatMap SslEvent.acceptedBytes

/-- No call of `mmOutStream.write` threw. -/
def WritesSucceed (log : List SslEvent) : Prop := ∀ bs, SslEvent.written bs false ∉ log

/-- If no call of `mmOutStream.write` threw, the bytes produced were written. -/
def ExactLog (log : List SslEvent) : Prop := WritesSucceed log → accepted log = produced log

@[simp] theorem produced_append (log events : List SslEvent) :
    produced (log ++ events) = produced log ++ produced events :=
  List.flatMap_append

@[simp] theorem accepted_append (log events : List SslEvent) :
    accepted (log ++ events) = accepted log ++ accepted events :=
  List.flatMap_append

theorem writesSucceed_append {log events : List SslEvent} (h : WritesSucceed (log ++ events)) :
    WritesSucceed log ∧ WritesSucceed events :=
  ⟨fun bs hmem => h bs (List.mem_append_left _ hmem),
    fun bs hmem => h bs (List.mem_append_right _ hmem)⟩

theorem ExactLog.append {log events : List SslEvent} (h : ExactLog log) (h' : ExactLog events) :
    ExactLog (log ++ events) := by
  intro hok
  obtain ⟨hlog, hevents⟩ := writesSucceed_append hok
  rw [accepted_append, produced_append, h hlog, h' hevents]

/-- The log of a call that neither wraps nor writes. -/
theorem exactLog_singleton {e : SslEvent} (hproduced : e.wrapProduced = [])
    (haccepted : e.acceptedBytes = []) : ExactLog [e] := by
  intro _
  rw [accepted, produced, List.flatMap_singleton, List.flatMap_singleton, hproduced, haccepted]

variable {σ : Type*} {E : Environment σ} {s t u : Handshake σ}

/-- What happens between `s` and `t`: `myBTData` does not become smaller, and the bytes that are
produced are written. -/
structure Sends (s t : Handshake σ) : Prop where
  /-- The buffer is as large as it was. -/
  capacity_le : s.myBTData.capacity ≤ t.myBTData.capacity
  /-- The new events are exact. -/
  log : ∃ events, t.log = s.log ++ events ∧ ExactLog events

theorem Sends.of_eq (hbuffer : t.myBTData = s.myBTData) (hlog : t.log = s.log) : Sends s t :=
  ⟨(congrArg ByteBuffer.capacity hbuffer).ge, [], hlog.trans (List.append_nil _).symm, fun _ => rfl⟩

theorem Sends.of_event {e : SslEvent} (hbuffer : t.myBTData = s.myBTData)
    (hlog : t.log = s.log ++ [e]) (hproduced : e.wrapProduced = [])
    (haccepted : e.acceptedBytes = []) : Sends s t :=
  ⟨(congrArg ByteBuffer.capacity hbuffer).ge, [e], hlog, exactLog_singleton hproduced haccepted⟩

theorem Sends.trans (h : Sends s t) (h' : Sends t u) : Sends s u := by
  obtain ⟨events, hlog, hexact⟩ := h.log
  obtain ⟨events', hlog', hexact'⟩ := h'.log
  refine ⟨h.capacity_le.trans h'.capacity_le, events ++ events', ?_, hexact.append hexact'⟩
  rw [hlog', hlog, List.append_assoc]

/-! ### The steps that neither wrap nor write -/

theorem sends_refresh (s : Handshake σ) : Sends s (refresh E s) := .of_event rfl rfl rfl rfl

theorem sends_closeAndRefresh (s : Handshake σ) : Sends s (closeAndRefresh E s) :=
  .of_event rfl rfl rfl rfl

theorem sends_onEndOfStream (s : Handshake σ) : Sends s (onEndOfStream E s) := by
  simp only [onEndOfStream]
  split
  · split
    · exact .of_eq rfl rfl
    · exact .of_event rfl rfl rfl rfl
  · exact .of_event rfl rfl rfl rfl

theorem sends_read (s : Handshake σ) : Sends s (read E s) := by
  simp only [read]
  split
  · exact .of_eq rfl rfl
  · next env _ =>
    have hend : Sends s { s with env := env, log := s.log ++ [.endOfStream] } :=
      .of_event rfl rfl rfl rfl
    exact hend.trans (sends_onEndOfStream _)
  · simp only [putArray]
    split
    · exact .of_event rfl rfl rfl rfl
    · exact .of_event rfl rfl rfl rfl

theorem sends_unwrap (s : Handshake σ) : Sends s (unwrap E s) := by
  have hcall : Sends s (callUnwrap E s).1 := .of_event rfl rfl rfl rfl
  simp only [unwrap]
  split
  · next u _ hresult =>
    rw [hresult] at hcall
    exact hcall.trans (sends_closeAndRefresh u)
  · next u _ _ _ hresult =>
    rw [hresult] at hcall
    split
    · exact hcall
    · exact hcall.trans (.of_eq rfl rfl)

theorem sends_afterUnwrap (s : Handshake σ) (status : Status) (h : HandshakeStatus) :
    Sends s (afterUnwrap E s status h) := by
  cases status with
  | ok => exact .of_eq rfl rfl
  | bufferOverflow =>
    simp only [afterUnwrap]
    split
    · exact .of_eq rfl rfl
    · exact .of_eq rfl rfl
  | bufferUnderflow =>
    simp only [afterUnwrap]
    split
    · exact .of_eq rfl rfl
    · exact .of_eq rfl rfl
  | closed =>
    simp only [afterUnwrap]
    split
    · exact .of_eq rfl rfl
    · exact .of_event rfl rfl rfl rfl

theorem sends_task (s : Handshake σ) : Sends s (task E s) := by
  simp only [task]
  split
  · exact .of_eq rfl rfl
  · exact .of_event rfl rfl rfl rfl

/-! ### The step that wraps and writes -/

/-- The bytes in `myBTData` are written out. -/
theorem send_log (s : Handshake σ) :
    (send E s).1.myBTData.capacity = s.myBTData.capacity ∧
      ∃ events, (send E s).1.log = s.log ++ events ∧ produced events = [] ∧
        (WritesSucceed events → accepted events = s.myBTData.written) := by
  simp only [send, sendLoop_eq]
  split
  · refine ⟨rfl, _, rfl, rfl, fun hok => ?_⟩
    -- the only call that can have thrown is this one
    have htrue : (E.write s.env s.myBTData.written).1 = true := by
      by_contra hfalse
      rw [Bool.not_eq_true] at hfalse
      refine hok s.myBTData.written (List.mem_singleton.mpr ?_)
      exact congrArg _ hfalse.symm
    show accepted [.written s.myBTData.written (E.write s.env s.myBTData.written).1] = _
    rw [htrue]
    exact List.append_nil _
  · next hempty =>
    refine ⟨rfl, [], (List.append_nil _).symm, rfl, fun _ => ?_⟩
    exact (List.eq_nil_of_length_eq_zero
      (s.myBTData.length_written.trans (Nat.eq_zero_of_not_pos hempty))).symm

/-- What `wrap` answers in this state. -/
def wrapAnswer (E : Environment σ) (s : Handshake σ) :
    EngineAnswer s.localAppData s.myBTData.clear :=
  (E.wrap s.env s.localAppData s.myBTData.clear).1

/-- After a call of `wrap` the buffer holds what the call produced, and nothing else. -/
theorem written_callWrap (s : Handshake σ) :
    (callWrap E s).1.myBTData.written = (wrapAnswer E s).produced :=
  ByteBuffer.written_store _ _ (wrapAnswer E s).produced_le

theorem capacity_callWrap (s : Handshake σ) :
    (callWrap E s).1.myBTData.capacity = s.myBTData.capacity :=
  ByteBuffer.capacity_store _ _ (wrapAnswer E s).produced_le

/-- A call that produces nothing has nothing to be written. -/
theorem sends_callWrap (h : (wrapAnswer E s).produced = []) : Sends s (callWrap E s).1 :=
  ⟨(capacity_callWrap s).ge, _, rfl, exactLog_singleton h rfl⟩

/-- After a call of `wrap` what it produced is written. -/
theorem sends_callWrap_send (hbuffer : t.myBTData = (callWrap E s).1.myBTData)
    (hlog : t.log = (callWrap E s).1.log) : Sends s (send E t).1 := by
  obtain ⟨hcapacity, events, hevents, hproduced, haccepted⟩ := send_log (E := E) t
  rw [hbuffer, capacity_callWrap] at hcapacity
  rw [hbuffer, written_callWrap] at haccepted
  refine ⟨hcapacity.ge, .wrap (wrapAnswer E s).consumedBytes (wrapAnswer E s).produced
    (wrapAnswer E s).result :: events, ?_, fun hok => ?_⟩
  · rw [hevents, hlog]
    exact List.append_assoc _ _ _
  · have hok' : WritesSucceed events := fun bs hmem => hok bs (List.mem_cons_of_mem _ hmem)
    show accepted events = (wrapAnswer E s).produced ++ produced events
    rw [haccepted hok', hproduced, List.append_nil]

/-- `enlargeBuffer` makes a buffer that is as large as it was and as was asked for. -/
theorem capacity_enlargeBuffer {b b' : ByteBuffer} {n : ℕ} (h : enlargeBuffer b n = some b') :
    b.capacity ≤ b'.capacity ∧ n ≤ b'.capacity := by
  obtain ⟨c, rfl, hle⟩ := enlargeBuffer_eq_some h
  rwa [ByteBuffer.capacity_allocate]

/-- `wrap` has answered `BUFFER_OVERFLOW` in this state. -/
def Overflows (E : Environment σ) (s : Handshake σ) : Prop :=
  s.pc = .loop ∧ s.handshakeStatus = .needWrap ∧
    ∃ h, (wrapAnswer E s).result = some (.bufferOverflow, h)

section WrappingEngine

variable {W : WrappingEngine σ}

/-- A call whose result is neither `OK` nor `CLOSED` produces nothing. -/
theorem produced_eq_nil {r : Option (Status × HandshakeStatus)}
    (hres : (wrapAnswer W.toEnvironment s).result = r) (hok : ∀ h, r ≠ some (.ok, h))
    (hclosed : ∀ h, r ≠ some (.closed, h)) : (wrapAnswer W.toEnvironment s).produced = [] := by
  by_contra hne
  obtain ⟨h, hres' | hres'⟩ := W.produces _ _ _ hne
  · exact hok h (hres.symm.trans hres')
  · exact hclosed h (hres.symm.trans hres')

/-- A call that throws. -/
theorem sends_wrap_of_throw (hres : (wrapAnswer W.toEnvironment s).result = none) :
    Sends s (wrap W.toEnvironment s) := by
  have hcall : callWrap W.toEnvironment s = ((callWrap W.toEnvironment s).1, none) :=
    Prod.ext rfl hres
  have hnil := produced_eq_nil hres nofun nofun
  rw [wrap, hcall]
  exact (sends_callWrap hnil).trans (sends_closeAndRefresh _)

/-- A call that returns. -/
theorem sends_afterWrap {status : Status} {h : HandshakeStatus}
    (hres : (wrapAnswer W.toEnvironment s).result = some (status, h)) :
    Sends s (afterWrap W.toEnvironment (callWrap W.toEnvironment s).1 status h) := by
  cases status with
  | ok =>
    simp only [afterWrap]
    split
    · exact sends_callWrap_send rfl rfl
    · exact (sends_callWrap_send rfl rfl).trans (.of_eq rfl rfl)
  | bufferOverflow =>
    have hnil := produced_eq_nil hres nofun nofun
    have hcall := sends_callWrap hnil
    simp only [afterWrap]
    split
    · exact hcall.trans (.of_eq rfl rfl)
    · next b hb => exact ⟨hcall.capacity_le.trans (capacity_enlargeBuffer hb).1, hcall.log⟩
  | bufferUnderflow =>
    have hnil := produced_eq_nil hres nofun nofun
    exact (sends_callWrap hnil).trans (.of_eq rfl rfl)
  | closed =>
    simp only [afterWrap]
    split
    · exact (sends_callWrap_send rfl rfl).trans (.of_eq rfl rfl)
    · exact (sends_callWrap_send rfl rfl).trans (sends_refresh _)

theorem wrap_of_result {status : Status} {h : HandshakeStatus}
    (hres : (wrapAnswer E s).result = some (status, h)) :
    wrap E s = afterWrap E (callWrap E s).1 status h := by
  have hcall : callWrap E s = ((callWrap E s).1, some (status, h)) := Prod.ext rfl hres
  rw [wrap, hcall]

/-- **What a step does to `myBTData` and to the stream.** -/
theorem Sends.step (W : WrappingEngine σ) (s : Handshake σ) : Sends s (step W.toEnvironment s) := by
  apply step_rule W.toEnvironment (P := Sends s)
  case done => exact fun _ _ => .of_eq rfl rfl
  case unwrap => exact fun _ => sends_unwrap s
  case afterUnwrap => exact fun status h _ => sends_afterUnwrap s status h
  case read => exact fun _ _ => sends_read s
  case wrap =>
    intro _ _
    cases hres : (wrapAnswer W.toEnvironment s).result with
    | none => exact sends_wrap_of_throw hres
    | some r =>
      rw [wrap_of_result hres]
      exact sends_afterWrap hres
  case task => exact fun _ _ => sends_task s
  case leave => exact fun _ _ => .of_eq rfl rfl
  case unknown => exact fun _ _ => .of_eq rfl rfl

/-- An overflow is answered with a buffer of the size of a packet, unless `allocate` throws. -/
theorem packetBufferSize_le_of_overflows (h : Overflows E s) :
    (∃ o, (Handshake.step E s).pc = .done o) ∨
      E.packetBufferSize (Handshake.step E s).env ≤ (Handshake.step E s).myBTData.capacity := by
  obtain ⟨hpc, hstatus, h, hres⟩ := h
  have hstep : Handshake.step E s = wrap E s := by
    simp only [Handshake.step, hpc, hstatus]
  rw [hstep, wrap_of_result hres]
  simp only [afterWrap]
  split
  · exact .inl ⟨_, rfl⟩
  · next b hb => exact .inr (capacity_enlargeBuffer hb).2

end WrappingEngine

/-! ### Runs -/

/-- The outbound side of a handshake: at every point of a run in which all writes so far have
succeeded, the bytes written are those produced, and while the packet size stays the same `wrap`
does not answer `BUFFER_OVERFLOW` twice. -/
structure OutboundExact (E : Environment σ) (t : ThreadState σ) : Prop where
  /-- The bytes written are those produced. -/
  bytes : ∀ k, WritesSucceed (attempt E t k).log →
    accepted (attempt E t k).log = produced (attempt E t k).log
  /-- The answers `BUFFER_OVERFLOW` for one packet size are at most one. -/
  series : ∀ size i j, i ≤ j → Overflows E (attempt E t i) → Overflows E (attempt E t j) →
    (∀ m, i ≤ m → m ≤ j → E.packetBufferSize (attempt E t m).env = size) → i = j

/-- What happens between two points of a run. -/
theorem sends_attempt (W : WrappingEngine σ) (t : ThreadState σ) {i j : ℕ} (hij : i ≤ j) :
    Sends (attempt W.toEnvironment t i) (attempt W.toEnvironment t j) := by
  induction hij with
  | refl => exact .of_eq rfl rfl
  | step _ ih =>
    rw [attempt_succ]
    exact ih.trans (.step W _)

/-- A run that goes on has not ended. -/
theorem not_done_of_overflows {t : ThreadState σ} {i j : ℕ} (hij : i ≤ j)
    (hj : Overflows E (attempt E t j)) (o : HandshakeOutcome) : (attempt E t i).pc ≠ .done o := by
  intro hdone
  have hfixed : attempt E t j = attempt E t i := Iterate.fixed (step_done E hdone) hij
  rw [hfixed] at hj
  exact absurd (hj.1.symm.trans hdone) nofun

/-- **Between two overflows the packet size has grown.** -/
theorem packetBufferSize_lt_of_overflows {W : WrappingEngine σ} {t : ThreadState σ} {i j : ℕ}
    (hij : i < j) (hi : Overflows W.toEnvironment (attempt W.toEnvironment t i))
    (hj : Overflows W.toEnvironment (attempt W.toEnvironment t j)) :
    W.packetBufferSize (attempt W.toEnvironment t (i + 1)).env <
      W.packetBufferSize (attempt W.toEnvironment t j).env := by
  have hafter := packetBufferSize_le_of_overflows hi
  rw [← attempt_succ] at hafter
  have hlarge := hafter.resolve_left fun ⟨o, ho⟩ => not_done_of_overflows hij hj o ho
  obtain ⟨-, -, h, hres⟩ := hj
  have hsmall : (attempt W.toEnvironment t j).myBTData.clear.capacity <
      W.packetBufferSize (attempt W.toEnvironment t j).env := W.overflows _ _ _ h hres
  exact (hlarge.trans (sends_attempt W t hij).capacity_le).trans_lt hsmall

/-- **Outbound handshake bytes are exact**, for every engine that obeys the contract of `wrap`,
every stream, and every state in which `doHandshake` is entered. -/
theorem outbound_exact (W : WrappingEngine σ) (t : ThreadState σ) :
    OutboundExact W.toEnvironment t := by
  refine ⟨fun k => ?_, fun size i j hij hi hj hsize => ?_⟩
  · obtain ⟨events, hlog, hexact⟩ := (sends_attempt W t (Nat.zero_le k)).log
    have hstart : ExactLog (attempt W.toEnvironment t 0).log := exactLog_singleton rfl rfl
    rw [hlog]
    exact hstart.append hexact
  · by_contra hne
    have hlt := packetBufferSize_lt_of_overflows (Nat.lt_of_le_of_ne hij hne) hi hj
    rw [hsize _ (Nat.le_succ i) (Nat.lt_of_le_of_ne hij hne), hsize j hij le_rfl] at hlt
    exact Nat.lt_irrefl _ hlt

/-- An engine that sends records of at most seven bytes and wants room for a packet. -/
def recordEngine : WrappingEngine Unit where
  toEnvironment :=
    { plainEnvironment with
      getHandshakeStatus := fun _ => (.needWrap, ())
      wrap := fun _ _ dst =>
        if dst.capacity < 16384 then
          (.empty (some (.bufferOverflow, .needWrap)), ())
        else
          (.producing [0x15, 3, 1, 0, 2, 1, 0] (some (.ok, .needWrap)), ()) }
  produces env src dst h := by
    simp only at h ⊢
    split at h
    · exact absurd rfl h
    · next hroom =>
      rw [if_neg hroom]
      exact ⟨_, .inl rfl⟩
  overflows env src dst h hres := by
    simp only at hres
    split at hres
    · next hroom => exact hroom
    · cases hres

theorem wrapAnswer_recordEngine {s : Handshake Unit} (h : s.myBTData.capacity < 16384) :
    (wrapAnswer recordEngine.toEnvironment s).result = some (.bufferOverflow, .needWrap) := by
  have hroom : s.myBTData.clear.capacity < 16384 := h
  simp only [wrapAnswer, recordEngine, if_pos hroom, EngineAnswer.empty]

/-- With the buffer of the constructor, its first call of `wrap` overflows. -/
example :
    Overflows recordEngine.toEnvironment (attempt recordEngine.toEnvironment (.init ()) 0) :=
  ⟨rfl, rfl, .needWrap, wrapAnswer_recordEngine
    ((ByteBuffer.capacity_allocate 1024).trans_lt (by omega))⟩

end Handshake

end BluetoothAuto.App
