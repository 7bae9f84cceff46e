import BluetoothAuto.Lib.FlatMemory
import BluetoothAuto.Lib.ServerLoop
import BluetoothAuto.Proxy.Ethernet
import Mathlib.Tactic.IntervalCases

/-!
# `writeGeonet`: from the app to the car

Both proxies carry messages from the app to the car with a function `writeGeonet` that assembles
an Ethernet header in `sendbuf` once and then loops forever: clear `buf`, receive into it, and if
something was received, refill `sendbuf` and hand it to `sendto`.

The two copies differ in how they receive. `unsecured_proxy.c` reads from the socket;
`proxy.c` makes a new SSL object in every iteration and reads only if its handshake succeeds. The
part behind `if (bytes_read > 0)` is the same text in both and is `sendIfRead` here.

## Memory

`buf` and `sendbuf` are arrays of 1024 bytes in one flat memory, at any two places where they do
not overlap (`WriterFrame`). The copy loop stores past the end of `sendbuf`, so what lies behind
it matters: `buf` may, and then the loop overwrites the beginning of `buf` while it copies. The
scalars `i`, `tx_len` and `bytes_read` are fields of the state and not part of that memory; the
fourteen bytes behind `sendbuf` are taken not to hold them, which is so in the build of
`unsecured_proxy.c` that stands next to the source.

`sendto`'s result only selects a log line. The model keeps the bytes handed to it.

## Main results

* `sendIfRead_of_pos` — the frame that is sent, whatever the memory layout
* `Unsecured.step_snd` — what one iteration of the unsecured loop sends
* `Secured.step_snd_accepted`, `Secured.step_snd_acceptFailed` — and one of the secured loop
* `Unsecured.answers_writeGeonet` — what every run of the unsecured loop sends
-/

namespace BluetoothAuto

/-- `sizeof(buf)`. -/
def sizeofBuf : ℕ := 1024

/-- `sizeof(sendbuf)`. -/
def sizeofSendbuf : ℕ := 1024

/-- Where `writeGeonet` keeps its two arrays. -/
structure WriterFrame where
  /-- Address of `char buf[1024]`. -/
  buf : ℕ
  /-- Address of `char sendbuf[1024]`. -/
  sendbuf : ℕ
  /-- The arrays are different objects. -/
  disjoint : buf + sizeofBuf ≤ sendbuf ∨ sendbuf + sizeofSendbuf ≤ buf

/-- The variables of `writeGeonet` that outlive an iteration. -/
structure WriterState where
  /-- The stack memory that holds the arrays. -/
  mem : FlatMemory
  /-- `int bytes_read`. -/
  bytesRead : ℤ
  /-- `int tx_len`. -/
  txLen : ℕ

/-- At most 1024 bytes, as one `read` or `SSL_read` into `buf` delivers. -/
structure Chunk where
  /-- The bytes. -/
  bytes : List UInt8
  /-- They fit into `buf`. -/
  length_le : bytes.length ≤ sizeofBuf

/-- The outcome of `read(clientSocket, buf, sizeof(buf))` or `SSL_read(ssl, buf, sizeof(buf))`. -/
inductive ReadResult where
  /-- The call returned `-1`. -/
  | failed
  /-- The call returned the number of bytes received, `0` at the end of the stream. -/
  | received (b : Chunk)

namespace ReadResult

/-- The value returned. -/
def count : ReadResult → ℤ
  | failed => -1
  | received b => b.bytes.length

/-- The bytes left in the buffer. -/
def bytes : ReadResult → List UInt8
  | failed => []
  | received b => b.bytes

theorem length_bytes_le (r : ReadResult) : r.bytes.length ≤ sizeofBuf := by
  cases r with
  | failed => exact Nat.zero_le _
  | received b => exact b.length_le

theorem count_pos_iff {r : ReadResult} : 0 < r.count ↔ r.bytes ≠ [] := by
  cases r with
  | failed => simp [count, bytes]
  | received b => simp [count, bytes, List.length_pos_iff]

end ReadResult

/-! ### Before the loop -/

/-- The header `writeGeonet` assembles in `sendbuf` from the hardware address `m`, store by
store. -/
def assembleHeader (L : WriterFrame) (m : MacAddress) (mem : FlatMemory) : FlatMemory :=
  let eh := L.sendbuf
  -- MAC source
  let mem := mem.store (eh + 6) (m 0)
  let mem := mem.store (eh + 7) 0xff
  let mem := mem.store (eh + 8) (m 2)
  let mem := mem.store (eh + 9) (m 3)
  let mem := mem.store (eh + 10) (m 4)
  let mem := mem.store (eh + 11) (m 5)
  -- MAC de destination
  let mem := mem.store (eh + 0) 0xff
  let mem := mem.store (eh + 1) 0xff
  let mem := mem.store (eh + 2) 0xff
  let mem := mem.store (eh + 3) 0xff
  let mem := mem.store (eh + 4) 0xff
  let mem := mem.store (eh + 5) 0xff
  -- EtherType
  mem.storeBytes (eh + 12) (hostBytes16 0x4789)

/-- The state in which the loop starts. `mem` is the stack as `writeGeonet` finds it. -/
def writerInit (L : WriterFrame) (m : MacAddress) (mem : FlatMemory) : WriterState where
  mem := assembleHeader L m (mem.fill L.buf sizeofBuf 0)
  bytesRead := 0
  txLen := 0

/-- The header a frame from the app should carry. -/
def geonetHeader (m : MacAddress) : List UInt8 :=
  broadcast.octets ++ (rewriteSource m).octets ++ hostBytes16 0x4789

@[simp] theorem length_geonetHeader (m : MacAddress) :
    (geonetHeader m).length = sizeofEtherHeader := by
  simp [geonetHeader, sizeofEtherHeader]

theorem geonetHeader_eq (m : MacAddress) :
    geonetHeader m =
      [0xff, 0xff, 0xff, 0xff, 0xff, 0xff, m 0, 0xff, m 2, m 3, m 4, m 5, 0x89, 0x47] := by
  simp only [geonetHeader, MacAddress.octets_eq]
  rfl

/-- Before the loop the header is as intended. -/
theorem load_assembleHeader (L : WriterFrame) (m : MacAddress) (mem : FlatMemory) :
    (assembleHeader L m mem).load L.sendbuf sizeofEtherHeader = geonetHeader m := by
  rw [FlatMemory.load_eq_iff (by simp), geonetHeader_eq]
  intro k hk
  have hk : k < 14 := hk
  interval_cases k <;> simp [assembleHeader, FlatMemory.storeBytes, FlatMemory.store]

/-! ### Inside the loop -/

/-- `for (i = 0; i < sizeof(buf); i++) sendbuf[tx_len++] = buf[i];`, from given values of `tx_len`
and `i` on. -/
def copyLoop (L : WriterFrame) (mem : FlatMemory) (txLen i : ℕ) : FlatMemory × ℕ :=
  if i < sizeofBuf then
    copyLoop L (mem.store (L.sendbuf + txLen) (mem (L.buf + i))) (txLen + 1) (i + 1)
  else (mem, txLen)
termination_by sizeofBuf - i

/-- The loop copies what is left of `buf`, all of it and not only the bytes received. -/
theorem copyLoop_eq (L : WriterFrame) (mem : FlatMemory) (txLen i : ℕ) :
    copyLoop L mem txLen i =
      (FlatMemory.copy (L.buf + i) (L.sendbuf + txLen) (sizeofBuf - i) mem,
        txLen + (sizeofBuf - i)) := by
  fun_induction copyLoop L mem txLen i with
  | case1 mem txLen i h ih =>
    obtain ⟨n, hn⟩ : ∃ n, sizeofBuf - i = n + 1 := ⟨sizeofBuf - i - 1, by omega⟩
    have hn' : sizeofBuf - (i + 1) = n := by omega
    rw [ih, hn, hn', FlatMemory.copy]
    exact congrArg _ (by omega)
  | case2 mem txLen i h =>
    have hn : sizeofBuf - i = 0 := by omega
    rw [hn, FlatMemory.copy, Nat.add_zero]

/-- The body of `if (bytes_read > 0)`, with the bytes handed to `sendto`. -/
def sendIfRead (L : WriterFrame) (s : WriterState) : WriterState × Option (List UInt8) :=
  if 0 < s.bytesRead then
    let mem := s.mem.fill L.sendbuf 1024 0
    let (mem, txLen) := copyLoop L mem sizeofEtherHeader 0
    ({ s with mem := mem, txLen := txLen }, some (mem.load L.sendbuf txLen))
  else (s, none)

/-- The frame that goes out when `b` was received: no header, then all of `buf`. -/
def wipedFrame (b : List UInt8) : List UInt8 :=
  List.replicate sizeofEtherHeader 0 ++ (b ++ List.replicate (sizeofBuf - b.length) 0)

@[simp] theorem sendIfRead_bytesRead (L : WriterFrame) (s : WriterState) :
    (sendIfRead L s).1.bytesRead = s.bytesRead := by
  rw [sendIfRead]
  split <;> rfl

theorem sendIfRead_of_not_pos {L : WriterFrame} {s : WriterState} (h : ¬ 0 < s.bytesRead) :
    sendIfRead L s = (s, none) :=
  if_neg h

/-- **What is sent.** The header is the one `memset` left, fourteen zeros, and the payload is the
whole of `buf`. The copy loop runs past the end of `sendbuf`, but it never overwrites a byte of
`buf` that it has yet to copy, wherever the arrays are. -/
theorem sendIfRead_of_pos {L : WriterFrame} {s : WriterState} (h : 0 < s.bytesRead) :
    (sendIfRead L s).2 =
      some (List.replicate sizeofEtherHeader 0 ++ s.mem.load L.buf sizeofBuf) := by
  have hdis := L.disjoint
  have hbuf : sizeofBuf = 1024 := rfl
  have hsend : sizeofSendbuf = 1024 := rfl
  have hhdr : sizeofEtherHeader = 14 := rfl
  have hcopy : L.sendbuf + sizeofEtherHeader ≤ L.buf ∨
      L.buf + sizeofBuf ≤ L.sendbuf + sizeofEtherHeader := by omega
  simp only [sendIfRead, if_pos h, copyLoop_eq, Option.some.injEq, Nat.add_zero, Nat.sub_zero]
  rw [FlatMemory.load_add]
  refine congrArg₂ (· ++ ·) ?_ ?_
  · -- the header: inside `memset`, below the first byte the copy loop stores
    rw [FlatMemory.load_eq_iff (by simp)]
    intro k hk
    have hk : k < sizeofEtherHeader := by simpa using hk
    rw [FlatMemory.copy_apply hcopy, if_neg (by omega),
      FlatMemory.fill_inside (by omega) (by omega), List.getElem_replicate]
  · -- the payload: the copy loop's destination, and `memset` did not touch its source
    refine List.map_congr_left fun k hk => ?_
    have hk : k < sizeofBuf := by simpa using hk
    rw [FlatMemory.copy_apply hcopy, if_pos (by omega), FlatMemory.fill_outside (by omega)]
    congr 1
    omega

/-- `memset(buf, 0, sizeof(buf))` and then a read into `buf`. -/
def receive (L : WriterFrame) (mem : FlatMemory) (r : ReadResult) : FlatMemory :=
  (mem.fill L.buf sizeofBuf 0).storeBytes L.buf r.bytes

theorem load_receive (L : WriterFrame) (mem : FlatMemory) (r : ReadResult) :
    (receive L mem r).load L.buf sizeofBuf =
      r.bytes ++ List.replicate (sizeofBuf - r.bytes.length) 0 := by
  have hle := r.length_bytes_le
  rw [receive, FlatMemory.load_storeBytes_of_le _ _ hle]
  exact congrArg _ (FlatMemory.load_fill _ 0 (by omega) (by omega))

/-- A read that delivered bytes has them sent behind a wiped header. -/
theorem sendIfRead_receive {L : WriterFrame} {mem : FlatMemory} {r : ReadResult} {c : ℤ} {t : ℕ}
    (h : 0 < c) : (sendIfRead L ⟨receive L mem r, c, t⟩).2 = some (wipedFrame r.bytes) := by
  rw [sendIfRead_of_pos h, load_receive, wipedFrame]

/-! ### The unsecured loop -/

namespace Unsecured

/-- The loop of `writeGeonet` in `unsecured_proxy.c`. -/
def writeGeonet (L : WriterFrame) : ServerLoop WriterState ReadResult (Option (List UInt8)) where
  step s r := sendIfRead L { s with mem := receive L s.mem r, bytesRead := r.count }

/-- What one iteration sends depends on its own read alone. -/
def sends (r : ReadResult) : Option (List UInt8) :=
  if 0 < r.count then some (wipedFrame r.bytes) else none

theorem step_snd (L : WriterFrame) (s : WriterState) (r : ReadResult) :
    ((writeGeonet L).step s r).2 = sends r := by
  by_cases h : 0 < r.count
  · rw [sends, if_pos h]
    exact sendIfRead_receive h
  · rw [sends, if_neg h]
    exact congrArg Prod.snd (sendIfRead_of_not_pos h)

/-- **Every run of the unsecured loop.** -/
theorem answers_writeGeonet (L : WriterFrame) (s : WriterState) (rs : List ReadResult) :
    (writeGeonet L).answers s rs = rs.map sends :=
  (writeGeonet L).answers_eq_map (P := fun _ => True) trivial (fun _ _ _ => trivial)
    (fun s r _ => step_snd L s r) rs

end Unsecured

/-! ### The secured loop -/

/-- One iteration of the secured loop, as its SSL object sees it. -/
inductive TlsAttempt where
  /-- `SSL_accept` returned `0` or less. -/
  | acceptFailed
  /-- `SSL_accept` succeeded and `SSL_read` was called. -/
  | accepted (r : ReadResult)

/-- What the iteration itself received: nothing if its handshake failed. -/
def TlsAttempt.ownRead : TlsAttempt → ReadResult
  | acceptFailed => .received ⟨[], Nat.zero_le _⟩
  | accepted r => r

namespace Secured

/-- The loop of `writeGeonet` in `proxy.c`. `bytes_read` is assigned only where the handshake
succeeded. -/
def writeGeonet (L : WriterFrame) : ServerLoop WriterState TlsAttempt (Option (List UInt8)) where
  step s e :=
    let s := { s with mem := s.mem.fill L.buf sizeofBuf 0 }
    match e with
    | .acceptFailed => sendIfRead L s
    | .accepted r =>
      sendIfRead L { s with mem := s.mem.storeBytes L.buf r.bytes, bytesRead := r.count }

/-- `bytes_read` after an iteration. -/
def nextCount (c : ℤ) : TlsAttempt → ℤ
  | .acceptFailed => c
  | .accepted r => r.count

@[simp] theorem step_bytesRead (L : WriterFrame) (s : WriterState) (e : TlsAttempt) :
    ((writeGeonet L).step s e).1.bytesRead = nextCount s.bytesRead e := by
  cases e <;> simp [writeGeonet, nextCount]

/-- Where the handshake succeeds, the iteration sends what the unsecured loop would send. -/
theorem step_snd_accepted (L : WriterFrame) (s : WriterState) (r : ReadResult) :
    ((writeGeonet L).step s (.accepted r)).2 = Unsecured.sends r :=
  Unsecured.step_snd L s r

/-- Where the handshake fails, the iteration sends an empty frame if `bytes_read` still holds the
positive count of an earlier one. -/
theorem step_snd_acceptFailed (L : WriterFrame) (s : WriterState) :
    ((writeGeonet L).step s .acceptFailed).2 =
      if 0 < s.bytesRead then some (wipedFrame []) else none := by
  have hmem : s.mem.fill L.buf sizeofBuf 0 = receive L s.mem (TlsAttempt.acceptFailed).ownRead := by
    funext a
    simp [receive, TlsAttempt.ownRead, ReadResult.bytes, FlatMemory.storeBytes]
  split
  · next h =>
    simp only [writeGeonet, hmem]
    exact sendIfRead_receive h
  · next h =>
    have hs : ¬ 0 < ({ s with mem := s.mem.fill L.buf sizeofBuf 0 } : WriterState).bytesRead := h
    exact congrArg Prod.snd (sendIfRead_of_not_pos hs)

end Secured

end BluetoothAuto
