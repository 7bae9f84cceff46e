import BluetoothAuto.Proxy.AppToCar

/-!
# Where the copy loop of `writeGeonet` stores

The copy loop runs over `buf`, whose size bounds it, and stores into `sendbuf`, which has the same
size. But its index into `sendbuf` starts behind an Ethernet header. So the last stores are as many
bytes behind the end of `sendbuf` as the header is long, and `sendto` is told to send them.

The loop is the one of `WriteGeonet`, with the indices at which it stores. How many bytes were
received does not enter into it.

## Main results

* `tracedCopyLoop_eq` — the indices at which the copy loop stores
* `overrun_bytes` — what the bytes behind `sendbuf` hold after it
* `frame_never_in_bounds` — no frame is assembled within `sendbuf`
-/

namespace BluetoothAuto

/-! ### The indices of the copy loop -/

/-- `copyLoop`, with the indices into `sendbuf` at which it has stored. -/
def tracedCopyLoop (L : WriterFrame) (mem : FlatMemory) (txLen i : ℕ) (stores : List ℕ) :
    FlatMemory × ℕ × List ℕ :=
  if i < sizeofBuf then
    tracedCopyLoop L (mem.store (L.sendbuf + txLen) (mem (L.buf + i))) (txLen + 1) (i + 1)
      (stores ++ [txLen])
  else (mem, txLen, stores)
termination_by sizeofBuf - i

/-- It does what `copyLoop` does, and stores at as many indices as bytes of `buf` are left. -/
theorem tracedCopyLoop_eq (L : WriterFrame) (mem : FlatMemory) (txLen i : ℕ) (stores : List ℕ) :
    tracedCopyLoop L mem txLen i stores =
      ((copyLoop L mem txLen i).1, (copyLoop L mem txLen i).2,
        stores ++ List.range' txLen (sizeofBuf - i)) := by
  fun_induction tracedCopyLoop L mem txLen i stores with
  | case1 mem txLen i stores h ih =>
    have hrange : sizeofBuf - i = (sizeofBuf - (i + 1)) + 1 := by omega
    rw [ih, hrange, List.range'_succ, List.append_assoc]
    conv_rhs => rw [copyLoop, if_pos h]
    rfl
  | case2 mem txLen i stores h =>
    have hrange : sizeofBuf - i = 0 := by omega
    rw [copyLoop, if_neg h, hrange, List.range'_zero, List.append_nil]

/-- How an iteration uses `sendbuf` when it sends. -/
structure FrameAccess where
  /-- The indices at which the copy loop stores. -/
  stores : List ℕ
  /-- The length passed to `sendto`. -/
  length : ℕ

/-- The body of `if (bytes_read > 0)`, as it uses `sendbuf`. -/
def frameAccess (L : WriterFrame) (s : WriterState) : Option FrameAccess :=
  if 0 < s.bytesRead then
    let mem := s.mem.fill L.sendbuf 1024 0
    let (_, txLen, stores) := tracedCopyLoop L mem sizeofEtherHeader 0 []
    some ⟨stores, txLen⟩
  else none

/-- It is the body that `sendIfRead` models: the length is that of the frame sent. -/
theorem length_frameAccess (L : WriterFrame) (s : WriterState) :
    (frameAccess L s).map FrameAccess.length = (sendIfRead L s).2.map List.length := by
  rw [frameAccess, sendIfRead]
  split
  · simp only [tracedCopyLoop_eq, Option.map_some, FlatMemory.length_load]
  · rfl

/-- The indices and the length are the same in every frame. -/
theorem frameAccess_of_pos {L : WriterFrame} {s : WriterState} (h : 0 < s.bytesRead) :
    frameAccess L s =
      some ⟨List.range' sizeofEtherHeader sizeofBuf, sizeofEtherHeader + sizeofBuf⟩ := by
  rw [frameAccess, if_pos h]
  simp only [tracedCopyLoop_eq, copyLoop_eq, List.nil_append, Nat.sub_zero]

/-- The bytes behind `sendbuf` are overwritten with the last bytes of `buf`. -/
theorem overrun_bytes (L : WriterFrame) (mem : FlatMemory) {k : ℕ} (h : k < sizeofEtherHeader) :
    (copyLoop L mem sizeofEtherHeader 0).1 (L.sendbuf + sizeofSendbuf + k) =
      mem (L.buf + (sizeofBuf - sizeofEtherHeader) + k) := by
  have hdis := L.disjoint
  have hbuf : sizeofBuf = 1024 := rfl
  have hsend : sizeofSendbuf = 1024 := rfl
  have hhdr : sizeofEtherHeader = 14 := rfl
  simp only [copyLoop_eq]
  rw [FlatMemory.copy_apply (by omega), if_pos (by omega)]
  congr 1
  omega

/-! ### Frames within `sendbuf` -/

/-- If this state sends, every index at which it stores is below the size of `sendbuf`, and so is
the length passed to `sendto`. -/
def InBounds (L : WriterFrame) (s : WriterState) : Prop :=
  ∀ a, frameAccess L s = some a →
    (∀ j ∈ a.stores, j < sizeofSendbuf) ∧ a.length ≤ sizeofSendbuf

/-- A frame is in bounds only if there is none. -/
theorem inBounds_iff (L : WriterFrame) (s : WriterState) : InBounds L s ↔ ¬ 0 < s.bytesRead := by
  constructor
  · intro h hpos
    -- the length alone is too large
    have hlength := (h _ (frameAccess_of_pos hpos)).2
    exact absurd hlength (by decide)
  · intro hpos a ha
    rw [frameAccess, if_neg hpos] at ha
    cases ha

/-- The first index out of bounds is the one behind the end of `sendbuf`, the last one is the
length of a header away from it. -/
theorem mem_stores_out_of_bounds {L : WriterFrame} {s : WriterState} {a : FrameAccess}
    (h : frameAccess L s = some a) (j : ℕ) :
    j ∈ a.stores ∧ ¬ j < sizeofSendbuf ↔
      sizeofSendbuf ≤ j ∧ j < sizeofSendbuf + sizeofEtherHeader := by
  have hpos : 0 < s.bytesRead := by
    by_contra hpos
    rw [frameAccess, if_neg hpos] at h
    cases h
  obtain rfl := Option.some.inj ((frameAccess_of_pos hpos).symm.trans h)
  have hbuf : sizeofBuf = 1024 := rfl
  have hsend : sizeofSendbuf = 1024 := rfl
  have hhdr : sizeofEtherHeader = 14 := rfl
  rw [List.mem_range'_1]
  omega

namespace Unsecured

/-- The state of the unsecured loop behind its `read`. -/
def afterRead (L : WriterFrame) (s : WriterState) (r : ReadResult) : WriterState :=
  { s with mem := receive L s.mem r, bytesRead := r.count }

theorem step_eq_afterRead (L : WriterFrame) (s : WriterState) (r : ReadResult) :
    (writeGeonet L).step s r = sendIfRead L (afterRead L s r) := rfl

end Unsecured

namespace Secured

/-- The state of the secured loop behind its `SSL_accept` and `SSL_read`. -/
def afterRead (L : WriterFrame) (s : WriterState) : TlsAttempt → WriterState
  | .acceptFailed => { s with mem := s.mem.fill L.buf sizeofBuf 0 }
  | .accepted r =>
    { s with
      mem := (s.mem.fill L.buf sizeofBuf 0).storeBytes L.buf r.bytes
      bytesRead := r.count }

theorem step_eq_afterRead (L : WriterFrame) (s : WriterState) (e : TlsAttempt) :
    (writeGeonet L).step s e = sendIfRead L (afterRead L s e) := by
  cases e with
  | acceptFailed => rfl
  | accepted r => rfl

end Secured

/-- Between 1 and 1024 bytes, as one `read` or `SSL_read` delivers when it returns a positive
count. -/
structure ReceivedBytes extends Chunk where
  /-- The count is positive. -/
  ne_nil : bytes ≠ []

/-- **No frame is assembled within `sendbuf`**: for neither proxy, whatever was received, however
much, in whatever state, and wherever the arrays are. -/
theorem frame_never_in_bounds (L : WriterFrame) (s : WriterState) (b : ReceivedBytes) :
    ¬ InBounds L (Unsecured.afterRead L s (.received b.toChunk)) ∧
      ¬ InBounds L (Secured.afterRead L s (.accepted (.received b.toChunk))) := by
  have hpos : 0 < (ReadResult.received b.toChunk).count := ReadResult.count_pos_iff.mpr b.ne_nil
  exact ⟨fun h => (inBounds_iff L _).mp h hpos, fun h => (inBounds_iff L _).mp h hpos⟩

/-- A single byte from the app is enough for stores behind the end of `sendbuf`. -/
theorem one_byte_overruns :
    ¬ InBounds adjacentFrame (Unsecured.afterRead adjacentFrame
      (writerInit adjacentFrame loopback fun _ => 0) (oneByte 0x74)) :=
  fun h => (inBounds_iff _ _).mp h (by decide)

end BluetoothAuto
