import BluetoothAuto.Lib.FlatMemory
import BluetoothAuto.Lib.ServerLoop
import BluetoothAuto.Proxy.Ethernet

/-!
# `readGeonet`: from the car to the app

Both proxies carry frames from the car to the app with a function `readGeonet` that receives into
one buffer of 65536 bytes, looks at the Ethernet header it finds there, and passes what follows
the header on. The buffer is never cleared and the header is looked at whatever the length of the
frame, so behind the last byte of a frame the buffer still holds earlier ones.

The filter and the length computation are the same text in both copies and are `handleFrame`
here. `unsecured_proxy.c` then calls `write`; `proxy.c` makes an SSL object, and calls `SSL_write`
if its handshake succeeds.

## Main results

* `geonetFilter_iff` — the filter in terms of the bytes it looks at
* `remainingData_eq` — the mixed signed and unsigned subtraction is an ordinary one
* `handleFrame_of_long` — a frame of at least fourteen bytes is handled by its own bytes alone
-/

namespace BluetoothAuto

/-- `sizeof(buffer)`. -/
def sizeofBuffer : ℕ := 65536

/-- A frame as `recvfrom` delivers it, of any length up to the size of the buffer. -/
structure EthFrame where
  /-- The bytes. -/
  bytes : List UInt8
  /-- They fit into `buffer`. -/
  length_le : bytes.length ≤ sizeofBuffer

/-- The outcome of `recvfrom`. -/
inductive RecvResult where
  /-- The call returned `-1`. -/
  | failed
  /-- The call stored a frame and returned its length. -/
  | frame (f : EthFrame)

/-- The source address that `writeGeonet` uses on the loopback interface. -/
def ownSource : MacAddress := ![0x00, 0xff, 0x00, 0x00, 0x00, 0x00]

/-- A call of `write` or `SSL_write`. -/
structure WriteCall where
  /-- Where in `buffer` the data begins. -/
  data : ℕ
  /-- `int remaining_data`, the length passed. -/
  remainingData : ℤ
  /-- The buffer during the call. -/
  buffer : FlatMemory

/-- The bytes the call passes on, provided it accepts whole buffers. A negative length becomes a
`size_t` above `SSIZE_MAX`, which the kernel refuses. -/
def WriteCall.bytes (c : WriteCall) : List UInt8 := c.buffer.load c.data c.remainingData.toNat

/-! ### The filter -/

/-- `eth->h_proto == 18313 && !(eth->h_source[0] == 0x00 && ... )`. -/
def geonetFilter (buffer : FlatMemory) : Bool :=
  hostWord16 (buffer 12) (buffer 13) == 18313 &&
    !(buffer 6 == 0x00 && buffer 7 == 0xff && buffer 8 == 0x00 && buffer 9 == 0x00 &&
      buffer 10 == 0x00 && buffer 11 == 0x00)

theorem geonetFilter_iff {buffer : FlatMemory} :
    geonetFilter buffer = true ↔
      buffer 12 = 0x89 ∧ buffer 13 = 0x47 ∧ ¬ ∀ k : Fin 6, buffer (6 + k) = ownSource k := by
  simp only [geonetFilter, Bool.and_eq_true, beq_iff_eq, hostWord16_eq_geonet, Bool.not_eq_true',
    and_assoc]
  refine and_congr_right fun _ => and_congr_right fun _ => ?_
  rw [← Bool.not_eq_true]
  refine not_congr ?_
  simp [Fin.forall_fin_succ, ownSource, and_assoc]

/-- `int remaining_data = count - sizeof(struct ethhdr)`. The subtraction is unsigned, at the word
size of the target, and the conversion to `int` keeps the value modulo `2 ^ 32`. -/
def remainingData (count : ℤ) : ℤ := (count - sizeofEtherHeader).bmod UInt32.size

/-- For every count `recvfrom` can return here, nothing wraps around. -/
theorem remainingData_eq {n : ℕ} (h : n ≤ sizeofBuffer) :
    remainingData n = n - sizeofEtherHeader := by
  have hbuf : sizeofBuffer = 65536 := rfl
  have hhdr : sizeofEtherHeader = 14 := rfl
  have hint : UInt32.size = 4294967296 := rfl
  rw [remainingData, hhdr, hint]
  exact Int.bmod_eq_of_le (by omega) (by omega)

/-- What happens to a frame: the buffer afterwards, and the call that passes it on unless it is
dropped. This is `proxy.c` from line 401 (`else if (count == sizeof(buffer))`) to line 416
(`int remaining_data = ...`), and `unsecured_proxy.c` from line 291 to line 306: the statements of
the two are the same. -/
def handleFrame (buffer : FlatMemory) (f : EthFrame) : FlatMemory × Option WriteCall :=
  let buffer := buffer.storeBytes 0 f.bytes
  if f.bytes.length = sizeofBuffer then
    -- frame too large for buffer: truncated
    (buffer, none)
  else if geonetFilter buffer then
    (buffer, some ⟨sizeofEtherHeader, remainingData f.bytes.length, buffer⟩)
  else (buffer, none)

/-! ### The loops -/

/-- The variables of `readGeonet` that outlive an iteration. -/
structure ReaderState where
  /-- `char buffer[65536]`. -/
  buffer : FlatMemory
  /-- `exit(1)` was called. -/
  exited : Bool

/-- One iteration up to the call that passes the frame on: from line 391 of `proxy.c`, and from line
283 of `unsecured_proxy.c`. -/
def recvStep (s : ReaderState) : RecvResult → ReaderState × Option WriteCall
  | .failed => ({ s with exited := true }, none)
  | .frame f =>
    if s.exited then (s, none)
    else ({ s with buffer := (handleFrame s.buffer f).1 }, (handleFrame s.buffer f).2)

namespace Unsecured

/-- The loop of `readGeonet` in `unsecured_proxy.c`, with its calls of `write`. -/
def readGeonet : ServerLoop ReaderState RecvResult (Option WriteCall) where
  step := recvStep

end Unsecured

namespace Secured

/-- The loop of `readGeonet` in `proxy.c`, with its calls of `SSL_write`. The second input is
whether `SSL_accept` would succeed; it is called only for a frame that passed the filter. -/
def readGeonet : ServerLoop ReaderState (RecvResult × Bool) (Option WriteCall) where
  step s x :=
    match recvStep s x.1 with
    | (s, none) => (s, none)
    | (s, some c) => (s, if x.2 then some c else none)

end Secured

/-! ### Long frames -/

/-- What a reader of the frame alone would go by: a whole header, the GeoNetworking EtherType,
and a source other than the proxy's own. -/
def Forwardable (bs : List UInt8) : Prop :=
  sizeofEtherHeader ≤ bs.length ∧ bs[12]? = some 0x89 ∧ bs[13]? = some 0x47 ∧
    ¬ ∀ k : Fin 6, bs[6 + (k : ℕ)]? = some (ownSource k)

instance (bs : List UInt8) : Decidable (Forwardable bs) := by
  rw [Forwardable]
  infer_instance

/-- Inside the frame, the buffer holds the frame. -/
theorem storeBytes_eq_iff {buffer : FlatMemory} {bs : List UInt8} {a : ℕ} {v : UInt8}
    (h : a < bs.length) : buffer.storeBytes 0 bs a = v ↔ bs[a]? = some v := by
  have hin := FlatMemory.storeBytes_inside (m := buffer) (p := 0) h
  rw [Nat.zero_add] at hin
  rw [hin, List.getElem?_eq_getElem h, Option.some.injEq]

/-- For a frame with a whole header, the filter asks about the frame alone. -/
theorem geonetFilter_of_long (buffer : FlatMemory) {bs : List UInt8}
    (h : sizeofEtherHeader ≤ bs.length) :
    geonetFilter (buffer.storeBytes 0 bs) = true ↔ Forwardable bs := by
  have h : 14 ≤ bs.length := h
  have hsource : (∀ k : Fin 6, buffer.storeBytes 0 bs (6 + k) = ownSource k) ↔
      ∀ k : Fin 6, bs[6 + (k : ℕ)]? = some (ownSource k) :=
    forall_congr' fun k => storeBytes_eq_iff (by omega)
  rw [geonetFilter_iff, storeBytes_eq_iff (by omega), storeBytes_eq_iff (by omega), hsource,
    Forwardable]
  exact (and_iff_right h).symm

/-- The data behind the header of a frame. -/
theorem bytes_of_long (buffer : FlatMemory) {f : EthFrame}
    (h : sizeofEtherHeader ≤ f.bytes.length) :
    (WriteCall.mk sizeofEtherHeader (remainingData f.bytes.length)
      (buffer.storeBytes 0 f.bytes)).bytes = f.bytes.drop sizeofEtherHeader := by
  have hlen : (remainingData f.bytes.length).toNat = (f.bytes.drop sizeofEtherHeader).length := by
    rw [remainingData_eq f.length_le, List.length_drop]
    omega
  rw [WriteCall.bytes, FlatMemory.load_eq_iff hlen.symm]
  intro k hk
  rw [List.length_drop] at hk
  have hin := FlatMemory.storeBytes_inside (m := buffer) (p := 0)
    (show sizeofEtherHeader + k < f.bytes.length by omega)
  rw [Nat.zero_add] at hin
  exact hin.trans List.getElem_drop.symm

/-- **A frame with a whole header is handled by its own bytes.** What the buffer held before
plays no part. -/
theorem handleFrame_of_long {buffer : FlatMemory} {f : EthFrame}
    (h : sizeofEtherHeader ≤ f.bytes.length) (hlt : f.bytes.length < sizeofBuffer) :
    (handleFrame buffer f).2 =
      if Forwardable f.bytes then
        some ⟨sizeofEtherHeader, f.bytes.length - sizeofEtherHeader, buffer.storeBytes 0 f.bytes⟩
      else none := by
  have hfilter := geonetFilter_of_long buffer h
  simp only [handleFrame, if_neg (Nat.ne_of_lt hlt), remainingData_eq f.length_le]
  by_cases hf : Forwardable f.bytes
  · rw [if_pos (hfilter.mpr hf), if_pos hf]
  · rw [if_neg (mt hfilter.mp hf), if_neg hf]

end BluetoothAuto
