import BluetoothAuto.App.Handshake

/-!
# The bytes that reach the engine in `doHandshake`

What the peer sends goes through `peerBTData` to `unwrap`. Nothing is lost and nothing is added if
the bytes that `unwrap` has consumed, followed by those that are pending in `peerBTData`, are the
bytes received.

Every step keeps that, apart from the one that reads. It puts the whole array of 1024 bytes into
the buffer, so it adds zeros unless `read` has filled the array. And it takes for granted that the
buffer is ready to be filled, but after an `SSLException` from `unwrap` it still is ready to be
drained: then the bytes received overwrite pending ones, or `put` throws.

## Main results

* `Inv.step` — the shape of `peerBTData` at every point of a run
* `exact_step_iff` — the steps that keep the inbound bytes exact
* `inbound_exact_iff` — the runs in which they are exact
-/

namespace BluetoothAuto.App.Handshake

variable {σ : Type*} {E : Environment σ} {s t : Handshake σ}

/-! ### What was received, and where it is -/

/-- The bytes received. -/
def received (log : List SslEvent) : List UInt8 := log.flatMap SslEvent.receivedBytes

/-- The bytes consumed by `unwrap`. -/
def consumed (log : List SslEvent) : List UInt8 := log.flatMap SslEvent.unwrapConsumed

/-- There was an end of the stream or a result `CLOSED`. -/
def ended (log : List SslEvent) : Bool := log.any SslEvent.isEnd

/-- The bytes pending in `peerBTData`. -/
def inPeerBTData (s : Handshake σ) : List UInt8 :=
  match s.mode with
  | .fill => s.peerBTData.written
  | .drain => s.peerBTData.pending

/-- Up to an end of the stream or a result `CLOSED`, the bytes consumed and those pending are the
bytes received. -/
def InboundExact (s : Handshake σ) : Prop :=
  ended s.log = false → consumed s.log ++ inPeerBTData s = received s.log

@[simp] theorem received_append (log events : List SslEvent) :
    received (log ++ events) = received log ++ received events :=
  List.flatMap_append

@[simp] theorem consumed_append (log events : List SslEvent) :
    consumed (log ++ events) = consumed log ++ consumed events :=
  List.flatMap_append

@[simp] theorem ended_append (log events : List SslEvent) :
    ended (log ++ events) = (ended log || ended events) :=
  List.any_append

@[simp] theorem received_singleton (e : SslEvent) : received [e] = e.receivedBytes :=
  List.append_nil _

@[simp] theorem consumed_singleton (e : SslEvent) : consumed [e] = e.unwrapConsumed :=
  List.append_nil _

@[simp] theorem ended_singleton (e : SslEvent) : ended [e] = e.isEnd := Bool.or_false _

theorem inPeerBTData_fill (h : s.mode = .fill) : inPeerBTData s = s.peerBTData.written := by
  rw [inPeerBTData, h]

theorem inPeerBTData_drain (h : s.mode = .drain) : inPeerBTData s = s.peerBTData.pending := by
  rw [inPeerBTData, h]

/-! ### Steps that do not concern the inbound bytes -/

/-- `log'` continues `log` with events that move no inbound bytes. -/
def NoInbound (log log' : List SslEvent) : Prop :=
  ∃ events, log' = log ++ events ∧ received events = [] ∧ consumed events = []

theorem NoInbound.refl (log : List SslEvent) : NoInbound log log :=
  ⟨[], (List.append_nil log).symm, rfl, rfl⟩

/-- Nothing was received or unwrapped between `s` and `t`, and `peerBTData` is what it was. -/
structure Quiet (s t : Handshake σ) : Prop where
  /-- The buffer is the same. -/
  peerBTData : t.peerBTData = s.peerBTData
  /-- It is ready for the same. -/
  mode : t.mode = s.mode
  /-- The new events move no inbound bytes. -/
  log : NoInbound s.log t.log

theorem Quiet.of_log_eq (hbuffer : t.peerBTData = s.peerBTData) (hmode : t.mode = s.mode)
    (hlog : t.log = s.log) : Quiet s t :=
  ⟨hbuffer, hmode, hlog ▸ .refl s.log⟩

theorem Quiet.trans {u : Handshake σ} (h : Quiet s t) (h' : Quiet t u) : Quiet s u := by
  obtain ⟨es, hes, hr, hc⟩ := h.log
  obtain ⟨es', hes', hr', hc'⟩ := h'.log
  refine ⟨h'.peerBTData.trans h.peerBTData, h'.mode.trans h.mode, es ++ es', ?_, ?_, ?_⟩
  · rw [hes', hes, List.append_assoc]
  · rw [received_append, hr, hr', List.append_nil]
  · rw [consumed_append, hc, hc', List.append_nil]

theorem Quiet.exact (h : Quiet s t) (hs : InboundExact s) : InboundExact t := by
  obtain ⟨es, hes, hr, hc⟩ := h.log
  intro hend
  rw [hes, ended_append, Bool.or_eq_false_iff] at hend
  have hsame : inPeerBTData t = inPeerBTData s := by
    rw [inPeerBTData, inPeerBTData, h.mode, h.peerBTData]
  rw [hes, consumed_append, received_append, hr, hc, List.append_nil, List.append_nil, hsame]
  exact hs hend.1

theorem quiet_refresh (s : Handshake σ) : Quiet s (refresh E s) :=
  ⟨rfl, rfl, _, rfl, rfl, rfl⟩

theorem quiet_closeAndRefresh (s : Handshake σ) : Quiet s (closeAndRefresh E s) :=
  ⟨rfl, rfl, _, rfl, rfl, rfl⟩

theorem quiet_onEndOfStream (s : Handshake σ) : Quiet s (onEndOfStream E s) := by
  simp only [onEndOfStream]
  split
  · split
    · exact .of_log_eq rfl rfl rfl
    · exact ⟨rfl, rfl, _, rfl, rfl, rfl⟩
  · exact ⟨rfl, rfl, _, rfl, rfl, rfl⟩

theorem quiet_send (s : Handshake σ) : Quiet s (send E s).1 := by
  simp only [send, sendLoop_eq]
  split
  · exact ⟨rfl, rfl, _, rfl, rfl, rfl⟩
  · exact .of_log_eq rfl rfl rfl

theorem quiet_task (s : Handshake σ) : Quiet s (task E s) := by
  simp only [task]
  split
  · exact .of_log_eq rfl rfl rfl
  · exact ⟨rfl, rfl, _, rfl, rfl, rfl⟩

theorem quiet_callWrap (s : Handshake σ) : Quiet s (callWrap E s).1 :=
  ⟨rfl, rfl, _, rfl, rfl, rfl⟩

theorem callWrap_log (s : Handshake σ) :
    ∃ bs bs', (callWrap E s).1.log = s.log ++ [.wrap bs bs' (callWrap E s).2] :=
  ⟨_, _, rfl⟩

/-- `s` is not inside the loop around `unwrap`. -/
def Outside (s : Handshake σ) : Prop := s.pc = .loop ∨ ∃ o, s.pc = .done o

/-- What follows `wrap` does not concern the inbound bytes, unless the result is `CLOSED`. -/
theorem quiet_afterWrap {status : Status} (hstatus : status ≠ .closed) (s : Handshake σ)
    (h : HandshakeStatus) : Quiet s (afterWrap E s status h) := by
  cases status with
  | ok =>
    have hsend := quiet_send (E := E) { s with pc := .loop, handshakeStatus := h }
    simp only [afterWrap]
    split
    · exact ⟨hsend.peerBTData, hsend.mode, hsend.log⟩
    · exact ⟨hsend.peerBTData, hsend.mode, hsend.log⟩
  | bufferOverflow =>
    simp only [afterWrap]
    split
    · exact .of_log_eq rfl rfl rfl
    · exact .of_log_eq rfl rfl rfl
  | bufferUnderflow => exact .of_log_eq rfl rfl rfl
  | closed => exact absurd rfl hstatus

/-- After a result `CLOSED` the buffer may be cleared. -/
theorem afterWrap_closed (s : Handshake σ) (h : HandshakeStatus) :
    Quiet s (afterWrap E s .closed h) ∨
      (afterWrap E s .closed h).mode = .fill ∧
        (afterWrap E s .closed h).peerBTData = s.peerBTData.clear ∧
        ∃ events, (afterWrap E s .closed h).log = s.log ++ events := by
  have hsend := quiet_send (E := E) { s with pc := .loop, handshakeStatus := h }
  simp only [afterWrap]
  split
  · obtain ⟨events, hlog, -⟩ := hsend.log
    exact .inr ⟨rfl, congrArg ByteBuffer.clear hsend.peerBTData, events, hlog⟩
  · have hrefresh := hsend.trans (quiet_refresh (E := E) _)
    exact .inl ⟨hrefresh.peerBTData, hrefresh.mode, hrefresh.log⟩

theorem outside_afterWrap (s : Handshake σ) (status : Status) (h : HandshakeStatus) :
    Outside (afterWrap E s status h) := by
  cases status <;> simp only [afterWrap]
  case bufferUnderflow => exact .inr ⟨_, rfl⟩
  all_goals split
  all_goals first | exact .inl rfl | exact .inr ⟨_, rfl⟩

/-- A round with `wrap` either does not concern the inbound bytes, or had the result `CLOSED` and
has cleared the buffer. -/
theorem wrap_cases (s : Handshake σ) :
    Outside (wrap E s) ∧
      (Quiet s (wrap E s) ∨
        ended (wrap E s).log = true ∧ (wrap E s).mode = .fill ∧
          (wrap E s).peerBTData = s.peerBTData.clear) := by
  have hcall := quiet_callWrap (E := E) s
  obtain ⟨bs, bs', hlog⟩ := callWrap_log (E := E) s
  simp only [wrap]
  split
  · next u hresult =>
    rw [hresult] at hcall
    exact ⟨.inl rfl, .inl (hcall.trans (quiet_closeAndRefresh u))⟩
  · next u status h hresult =>
    rw [hresult] at hcall hlog
    refine ⟨outside_afterWrap u status h, ?_⟩
    by_cases hstatus : status = .closed
    · subst hstatus
      rcases afterWrap_closed (E := E) u h with hquiet | ⟨hmode, hclear, events, hlog'⟩
      · exact .inl (hcall.trans hquiet)
      · refine .inr ⟨?_, hmode, hclear.trans (congrArg ByteBuffer.clear hcall.peerBTData)⟩
        rw [hlog', hlog]
        simp [ended, SslEvent.isEnd]
    · exact .inl (hcall.trans (quiet_afterWrap hstatus u h))

/-! ### The shape of the buffer -/

/-- The buffer is empty, ready to be filled, and takes a whole array. -/
def Fillable (b : ByteBuffer) : Prop :=
  b.position = 0 ∧ b.limit = b.capacity ∧ readSize ≤ b.capacity

theorem Fillable.written {b : ByteBuffer} (h : Fillable b) : b.written = [] :=
  List.eq_nil_of_length_eq_zero (b.length_written.trans h.1)

theorem Fillable.remaining {b : ByteBuffer} (h : Fillable b) : readSize ≤ b.remaining := by
  rw [ByteBuffer.remaining, h.1, h.2.1]
  exact h.2.2

theorem fillable_clear {b : ByteBuffer} (h : readSize ≤ b.capacity) : Fillable b.clear :=
  ⟨rfl, rfl, h⟩

theorem fillable_compact {b : ByteBuffer} (hempty : b.remaining = 0)
    (h : readSize ≤ b.capacity) : Fillable b.compact :=
  ⟨hempty, b.capacity_compact.symm, h.trans_eq b.capacity_compact.symm⟩

/-- `handleBufferUnderflow` makes room and keeps an empty buffer empty. -/
theorem fillable_handleBufferUnderflow {env : σ} {b b' : ByteBuffer} (hb : Fillable b)
    (h : handleBufferUnderflow E env b = some b') : Fillable b' := by
  rw [handleBufferUnderflow] at h
  split at h
  · cases h
    exact hb
  · obtain ⟨r, hr, hput⟩ := Option.bind_eq_some_iff.mp h
    obtain ⟨c, rfl, hcap, -⟩ := enlargeBuffer_eq_some hr
    rw [ByteBuffer.pending_flip, hb.written] at hput
    rw [ByteBuffer.put_of_le (Nat.zero_le _)] at hput
    cases hput
    refine ⟨rfl, (ByteBuffer.writeMode_allocate c).store _ _, ?_⟩
    rw [ByteBuffer.capacity_store, ByteBuffer.capacity_allocate]
    exact hb.2.2.trans hcap

/-- `peerBTData` at every point of a run. -/
structure Inv (s : Handshake σ) : Prop where
  /-- When it is to be filled it is empty. -/
  fill : s.mode = .fill → Fillable s.peerBTData
  /-- When it is to be drained it was filled with one array. -/
  drain : s.mode = .drain → s.peerBTData.limit = readSize
  /-- `unwrap` is called when it is to be drained. -/
  unwrap : s.pc = .unwrap → s.mode = .drain
  /-- The loop around `unwrap` ends when it has been drained. -/
  unwrapped : ∀ st h, s.pc = .unwrapped st h → s.mode = .drain ∧ s.peerBTData.remaining = 0

theorem Inv.le_capacity (hs : Inv s) : readSize ≤ s.peerBTData.capacity := by
  cases hmode : s.mode with
  | fill => exact (hs.fill hmode).2.2
  | drain => exact (hs.drain hmode).symm.trans_le s.peerBTData.limit_le_capacity

theorem inv_outside (hpc : Outside s) (hfill : s.mode = .fill → Fillable s.peerBTData)
    (hdrain : s.mode = .drain → s.peerBTData.limit = readSize) : Inv s := by
  refine ⟨hfill, hdrain, ?_, ?_⟩
  · rcases hpc with hpc | ⟨o, hpc⟩ <;> rw [hpc] <;> nofun
  · rcases hpc with hpc | ⟨o, hpc⟩ <;> rw [hpc] <;> nofun

theorem Quiet.inv (h : Quiet s t) (hs : Inv s) (hpc : Outside t) : Inv t := by
  refine inv_outside hpc ?_ ?_
  · rw [h.mode, h.peerBTData]
    exact hs.fill
  · rw [h.mode, h.peerBTData]
    exact hs.drain

/-! ### Every step keeps the shape of the buffer -/

theorem inv_enter (E : Environment σ) {t : ThreadState σ} (ht : readSize ≤ t.peerBTData.capacity) :
    Inv (enter E t) :=
  inv_outside (.inl rfl) (fun _ => fillable_clear ht) nofun

/-- `put` succeeds only on a buffer at its beginning. -/
theorem position_of_put (hs : Inv s) {d : Delivery} {b : ByteBuffer}
    (h : s.peerBTData.put d.array = some b) :
    s.peerBTData.position = 0 ∧ b.position = readSize := by
  obtain ⟨hroom, rfl⟩ := ByteBuffer.put_eq_some h
  have hpos : s.peerBTData.position = 0 := by
    cases hmode : s.mode with
    | fill => exact (hs.fill hmode).1
    | drain =>
      have hlimit := hs.drain hmode
      have hle := s.peerBTData.position_le
      rw [Delivery.length_array, ByteBuffer.remaining, hlimit] at hroom
      omega
  rw [ByteBuffer.position_store, hpos, Delivery.length_array, Nat.zero_add]
  exact ⟨rfl, rfl⟩

theorem outside_onEndOfStream (s : Handshake σ) : Outside (onEndOfStream E s) := by
  simp only [onEndOfStream]
  split
  · split
    · exact .inr ⟨_, rfl⟩
    · exact .inl rfl
  · exact .inl rfl

theorem inv_putArray (hs : Inv s) (d : Delivery) : Inv (putArray s d) := by
  simp only [putArray]
  split
  · exact inv_outside (.inr ⟨_, rfl⟩) hs.fill hs.drain
  · next b hput => exact ⟨nofun, fun _ => (position_of_put hs hput).2, fun _ => rfl, nofun⟩

theorem inv_read (hs : Inv s) (hpc : s.pc = .loop) : Inv (read E s) := by
  simp only [read]
  split
  · exact inv_outside (.inr ⟨_, rfl⟩) hs.fill hs.drain
  · next env _ =>
    have hs' : Inv { s with env := env, log := s.log ++ [.endOfStream] } :=
      inv_outside (.inl hpc) hs.fill hs.drain
    exact (quiet_onEndOfStream _).inv hs' (outside_onEndOfStream _)
  · next d env _ =>
    have hs' : Inv (deliver s env d) := inv_outside (.inl hpc) hs.fill hs.drain
    exact inv_putArray hs' d

theorem inv_unwrap (hs : Inv s) (hpc : s.pc = .unwrap) : Inv (unwrap E s) := by
  have hmode : (callUnwrap E s).1.mode = .drain := hs.unwrap hpc
  have hlimit : (callUnwrap E s).1.peerBTData.limit = readSize := hs.drain (hs.unwrap hpc)
  have hpc : (callUnwrap E s).1.pc = .unwrap := hpc
  simp only [unwrap]
  split
  · next u produced hresult =>
    rw [hresult] at hmode hlimit
    exact inv_outside (.inl rfl) (fun hfill => absurd (hmode.symm.trans hfill) nofun)
      (fun _ => hlimit)
  · next u produced status h hresult =>
    rw [hresult] at hmode hlimit hpc
    split
    · exact ⟨fun hfill => absurd (hmode.symm.trans hfill) nofun, fun _ => hlimit, fun _ => hmode,
        fun st h' hpc' => absurd (hpc.symm.trans hpc') nofun⟩
    · next hdrained =>
      rw [Bool.or_eq_true, not_or, ByteBuffer.hasRemaining_iff] at hdrained
      exact ⟨fun hfill => absurd (hmode.symm.trans hfill) nofun, fun _ => hlimit, nofun,
        fun _ _ _ => ⟨hmode, Nat.eq_zero_of_not_pos hdrained.1⟩⟩

/-- After `compact` the buffer is fillable. -/
theorem fillable_afterUnwrap (hs : Inv s) {status : Status} {h : HandshakeStatus}
    (hpc : s.pc = .unwrapped status h) :
    Outside (afterUnwrap E s status h) ∧ (afterUnwrap E s status h).mode = .fill ∧
      Fillable (afterUnwrap E s status h).peerBTData := by
  have hcompact := fillable_compact (hs.unwrapped status h hpc).2 hs.le_capacity
  cases status with
  | ok => exact ⟨.inl rfl, rfl, hcompact⟩
  | bufferOverflow =>
    simp only [afterUnwrap]
    split
    · exact ⟨.inr ⟨_, rfl⟩, rfl, hcompact⟩
    · exact ⟨.inl rfl, rfl, hcompact⟩
  | bufferUnderflow =>
    simp only [afterUnwrap]
    split
    · exact ⟨.inr ⟨_, rfl⟩, rfl, hcompact⟩
    · next b hb => exact ⟨.inl rfl, rfl, fillable_handleBufferUnderflow hcompact hb⟩
  | closed =>
    simp only [afterUnwrap]
    split
    · exact ⟨.inr ⟨_, rfl⟩, rfl, hcompact⟩
    · exact ⟨.inl rfl, rfl, hcompact⟩

theorem inv_afterUnwrap (hs : Inv s) {status : Status} {h : HandshakeStatus}
    (hpc : s.pc = .unwrapped status h) : Inv (afterUnwrap E s status h) := by
  obtain ⟨hout, hmode, hfill⟩ := fillable_afterUnwrap (E := E) hs hpc
  exact inv_outside hout (fun _ => hfill) (fun hdrain => absurd (hmode.symm.trans hdrain) nofun)

theorem inv_wrap (hs : Inv s) : Inv (wrap E s) := by
  obtain ⟨hout, hquiet | ⟨-, hmode, hclear⟩⟩ := wrap_cases (E := E) s
  · exact hquiet.inv hs hout
  · refine inv_outside hout (fun _ => ?_) (fun hdrain => absurd (hmode.symm.trans hdrain) nofun)
    rw [hclear]
    exact fillable_clear hs.le_capacity

theorem inv_task (hs : Inv s) (hpc : s.pc = .loop) : Inv (task E s) := by
  refine (quiet_task s).inv hs ?_
  simp only [task]
  split
  · exact .inl hpc
  · exact .inl rfl

/-- **Every step keeps the shape of `peerBTData`.** -/
theorem Inv.step (hs : Inv s) : Inv (step E s) := by
  have hended : ∀ o, Inv { s with pc := .done o } :=
    fun o => inv_outside (.inr ⟨o, rfl⟩) hs.fill hs.drain
  apply step_rule E (P := Inv)
  case done => exact fun _ _ => hs
  case unwrap => exact inv_unwrap hs
  case afterUnwrap => exact fun _ _ => inv_afterUnwrap hs
  case read => exact fun hpc _ => inv_read hs hpc
  case wrap => exact fun _ _ => inv_wrap hs
  case task => exact fun hpc _ => inv_task hs hpc
  case leave => exact fun _ _ => hended _
  case unknown => exact fun _ _ => hended _

/-! ### Which steps keep the inbound bytes exact -/

theorem exact_of_ended (h : ended s.log = true) : InboundExact s := by
  intro hend
  rw [h] at hend
  cases hend

/-- If this step reads, `peerBTData` is ready to be filled and the `read` fills the array. -/
def ReadsWell (E : Environment σ) (s : Handshake σ) : Prop :=
  ended s.log = false → s.pc = .loop → s.handshakeStatus = .needUnwrap →
    ∀ d env, E.read s.env = (.data d, env) → s.mode = .fill ∧ d.bytes.length = readSize

theorem readsWell_of_pc (hpc : s.pc ≠ .loop) : ReadsWell E s := by
  intro _ hloop
  exact absurd hloop hpc

theorem readsWell_of_status (hstatus : s.handshakeStatus ≠ .needUnwrap) : ReadsWell E s := by
  intro _ _ hread
  exact absurd hread hstatus

/-- The array fits exactly iff it was filled and goes into an empty buffer. -/
theorem written_put_iff (hs : Inv s) {d : Delivery} {b : ByteBuffer}
    (hput : s.peerBTData.put d.array = some b) :
    b.written = inPeerBTData s ++ d.bytes ↔ s.mode = .fill ∧ d.bytes.length = readSize := by
  obtain ⟨hpos, -⟩ := position_of_put hs hput
  obtain ⟨hroom, rfl⟩ := ByteBuffer.put_eq_some hput
  have hempty : s.peerBTData.written = [] :=
    List.eq_nil_of_length_eq_zero (s.peerBTData.length_written.trans hpos)
  rw [ByteBuffer.written_store, hempty, List.nil_append]
  cases hmode : s.mode with
  | fill =>
    rw [inPeerBTData_fill hmode, hempty, List.nil_append, d.array_eq_iff]
    exact (and_iff_right rfl).symm
  | drain =>
    -- the pending bytes are overwritten: the lengths do not agree
    refine iff_of_false ?_ (fun h => nomatch h.1)
    intro h
    have hlen := congrArg List.length h
    have hlimit := hs.drain hmode
    have hd := List.length_pos_iff.mpr d.ne_nil
    rw [inPeerBTData_drain hmode, List.length_append, ByteBuffer.length_pending,
      ByteBuffer.remaining, hpos, hlimit, d.length_array] at hlen
    omega

/-- Putting the array of `d` into the buffer accounts for `d` iff it was filled and the buffer is
ready to be filled. -/
theorem exact_putArray_iff (hs : Inv s) (d : Delivery) (hend : ended s.log = false)
    (hex : consumed s.log ++ (inPeerBTData s ++ d.bytes) = received s.log) :
    InboundExact (putArray s d) ↔ s.mode = .fill ∧ d.bytes.length = readSize := by
  simp only [putArray]
  split
  · next hnone =>
    -- `put` threw: the bytes received are nowhere
    refine iff_of_false ?_ ?_
    · intro h
      have hlost : consumed s.log ++ inPeerBTData s = received s.log := h hend
      rw [← hex, List.append_right_inj, List.self_eq_append_right] at hlost
      exact d.ne_nil hlost
    · rintro ⟨hmode, -⟩
      have hroom := (hs.fill hmode).remaining
      rw [ByteBuffer.put_of_le (d.length_array.trans_le hroom)] at hnone
      cases hnone
  · next b hput =>
    rw [← written_put_iff hs hput]
    have hiff : InboundExact { s with pc := .unwrap, peerBTData := b.flip, mode := .drain } ↔
        consumed s.log ++ b.written = received s.log :=
      ⟨fun h => h hend, fun h _ => h⟩
    rw [hiff, ← hex, List.append_right_inj]

theorem exact_read_iff (hs : Inv s) (hpc : s.pc = .loop) (hex : InboundExact s) :
    InboundExact (read E s) ↔
      (ended s.log = false → ∀ d env, E.read s.env = (.data d, env) →
        s.mode = .fill ∧ d.bytes.length = readSize) := by
  simp only [read]
  split
  · next env hread =>
    refine iff_of_true ((Quiet.of_log_eq rfl rfl rfl).exact hex) ?_
    intro _ d env' hread'
    cases hread.symm.trans hread'
  · next env hread =>
    refine iff_of_true ((quiet_onEndOfStream _).exact (exact_of_ended ?_)) ?_
    · simp [SslEvent.isEnd]
    · intro _ d env' hread'
      cases hread.symm.trans hread'
  · next d env hread =>
    have hs' : Inv (deliver s env d) := inv_outside (.inl hpc) hs.fill hs.drain
    have hend' : ended (deliver s env d).log = ended s.log := by
      simp [deliver, SslEvent.isEnd]
    cases hend : ended s.log with
    | true =>
      refine iff_of_true (exact_of_ended ?_) nofun
      rw [← hend, ← hend', putArray]
      split <;> rfl
    | false =>
      have hex' : consumed (deliver s env d).log ++ (inPeerBTData (deliver s env d) ++ d.bytes) =
          received (deliver s env d).log := by
        have hlaw := congrArg (· ++ d.bytes) (hex hend)
        simpa [deliver, inPeerBTData, SslEvent.receivedBytes, SslEvent.unwrapConsumed] using hlaw
      rw [exact_putArray_iff hs' d (hend'.trans hend) hex']
      constructor
      · intro h _ d' env' hread'
        cases hread.symm.trans hread'
        exact h
      · exact fun h => h rfl d env hread

/-- What `unwrap` consumed is no longer pending. -/
theorem exact_callUnwrap (hmode : s.mode = .drain) (hex : InboundExact s) :
    InboundExact (callUnwrap E s).1 := by
  intro hend
  have hmode' : (callUnwrap E s).1.mode = .drain := hmode
  rw [inPeerBTData_drain hmode']
  simp only [callUnwrap, consumed_append, received_append, ended_append, Bool.or_eq_false_iff,
    consumed_singleton, received_singleton, SslEvent.unwrapConsumed, SslEvent.receivedBytes,
    List.append_nil, List.append_assoc, EngineAnswer.consumedBytes_append_pending] at hend ⊢
  rw [← inPeerBTData_drain hmode]
  exact hex hend.1

theorem exact_unwrap (hs : Inv s) (hpc : s.pc = .unwrap) (hex : InboundExact s) :
    InboundExact (unwrap E s) := by
  have hcall := exact_callUnwrap (E := E) (hs.unwrap hpc) hex
  simp only [unwrap]
  split
  · next u produced hresult =>
    rw [hresult] at hcall
    exact (quiet_closeAndRefresh u).exact hcall
  · next u produced status h hresult =>
    rw [hresult] at hcall
    split
    · exact hcall
    · exact (Quiet.of_log_eq rfl rfl rfl).exact hcall

theorem noInbound_afterUnwrap (s : Handshake σ) (status : Status) (h : HandshakeStatus) :
    NoInbound s.log (afterUnwrap E s status h).log := by
  cases status with
  | ok => exact .refl _
  | bufferOverflow =>
    simp only [afterUnwrap]
    split <;> exact .refl _
  | bufferUnderflow =>
    simp only [afterUnwrap]
    split <;> exact .refl _
  | closed =>
    simp only [afterUnwrap]
    split
    · exact .refl _
    · exact (quiet_closeAndRefresh _).log

/-- Nothing is pending before `compact` nor after it. -/
theorem exact_afterUnwrap (hs : Inv s) {status : Status} {h : HandshakeStatus}
    (hpc : s.pc = .unwrapped status h) (hex : InboundExact s) :
    InboundExact (afterUnwrap E s status h) := by
  obtain ⟨hmode, hdrained⟩ := hs.unwrapped status h hpc
  obtain ⟨-, hmode', hfill⟩ := fillable_afterUnwrap (E := E) hs hpc
  obtain ⟨events, hlog, hreceived, hconsumed⟩ := noInbound_afterUnwrap (E := E) s status h
  have hbefore : inPeerBTData s = [] := by
    rw [inPeerBTData_drain hmode]
    exact List.eq_nil_of_length_eq_zero (s.peerBTData.length_pending.trans hdrained)
  intro hend
  rw [hlog, ended_append, Bool.or_eq_false_iff] at hend
  rw [hlog, consumed_append, received_append, hconsumed, hreceived, List.append_nil,
    List.append_nil, inPeerBTData_fill hmode', hfill.written, ← hbefore]
  exact hex hend.1

theorem exact_wrap (hex : InboundExact s) : InboundExact (wrap E s) := by
  obtain ⟨-, hquiet | ⟨hend, -, -⟩⟩ := wrap_cases (E := E) s
  · exact hquiet.exact hex
  · exact exact_of_ended hend

/-- **Which steps keep the inbound bytes exact**: all but the reads that fall short of a whole
array, and those into a buffer that an `SSLException` has left to be drained. -/
theorem exact_step_iff (hs : Inv s) (hex : InboundExact s) :
    InboundExact (step E s) ↔ ReadsWell E s := by
  have hended : ∀ o, InboundExact { s with pc := .done o } :=
    fun o => (Quiet.of_log_eq rfl rfl rfl).exact hex
  apply step_rule E (P := fun t => InboundExact t ↔ ReadsWell E s)
  case done =>
    intro o hpc
    exact iff_of_true hex (readsWell_of_pc (by simp [hpc]))
  case unwrap =>
    intro hpc
    exact iff_of_true (exact_unwrap hs hpc hex) (readsWell_of_pc (by simp [hpc]))
  case afterUnwrap =>
    intro status h hpc
    exact iff_of_true (exact_afterUnwrap hs hpc hex) (readsWell_of_pc (by simp [hpc]))
  case read =>
    intro hpc hstatus
    rw [exact_read_iff hs hpc hex]
    exact ⟨fun h hend _ _ => h hend, fun h hend => h hend hpc hstatus⟩
  case wrap =>
    intro _ hstatus
    exact iff_of_true (exact_wrap hex) (readsWell_of_status (by simp [hstatus]))
  case task =>
    intro _ hstatus
    exact iff_of_true ((quiet_task s).exact hex) (readsWell_of_status (by simp [hstatus]))
  case leave =>
    rintro _ (hstatus | hstatus)
    · exact iff_of_true (hended _) (readsWell_of_status (by simp [hstatus]))
    · exact iff_of_true (hended _) (readsWell_of_status (by simp [hstatus]))
  case unknown =>
    intro _ hstatus
    exact iff_of_true (hended _) (readsWell_of_status (by simp [hstatus]))

/-! ### Runs -/

/-- `doHandshake`, entered with what the constructor of `ConnectedThread` leaves. -/
theorem inv_start (E : Environment σ) (env : σ) : Inv (enter E (.init env)) :=
  inv_enter E (List.length_replicate).ge

theorem exact_start (E : Environment σ) (env : σ) : InboundExact (enter E (.init env)) :=
  fun _ => rfl

/-- **Inbound handshake bytes.** At each of the first points of a run the bytes consumed and those
pending are the bytes received, up to the end of the stream or a result `CLOSED`, iff every step
between them that reads fills the array, and puts it into a buffer that is ready to be filled. -/
theorem inbound_exact_iff (E : Environment σ) (env : σ) (k : ℕ) :
    (∀ j ≤ k, InboundExact (run E (.init env) j)) ↔
      ∀ j < k, ReadsWell E (run E (.init env) j) :=
  Iterate.forall_le_iff (fun _ => Inv.step) (fun _ => exact_step_iff) (inv_start E env)
    (exact_start E env) k

/-- A handshake whose peer sends single bytes. -/
def trickleEnvironment : Environment Unit :=
  { plainEnvironment with
    getHandshakeStatus := fun _ => (.needUnwrap, ())
    read := fun _ => (.data ⟨[0x16], List.cons_ne_nil _ _, Nat.le_of_ble_eq_true rfl⟩, ()) }

/-- A `read` that delivers one byte presents 1023 zeros to the engine. -/
theorem short_read_padded :
    ¬ ∀ k, InboundExact (run trickleEnvironment (.init ()) k) := by
  intro h
  have hstep := h 1
  rw [run, Function.iterate_one, exact_step_iff (inv_start _ _) (exact_start _ _)] at hstep
  have hlen : [0x16].length = readSize := (hstep rfl rfl rfl _ _ rfl).2
  exact absurd hlen (by decide)

end BluetoothAuto.App.Handshake
