import BluetoothAuto.Proxy.ReadGeonet

/-!
# What the app receives from the car

`readGeonet` should forward exactly the payloads of the GeoNetworking frames that do not come from
the proxy itself. A frame that is too short for an Ethernet header breaks this: the header fields
it does not reach are read from earlier frames. It may then pass the filter, and the length passed
to `write` is negative.

A short frame is harmless only if its own bytes already rule it out, that is if it carries the
whole source address of the proxy, or the first byte of the EtherType and that byte is wrong.

## Main results

* `handleFrame_independent_iff` — the frames whose handling does not depend on earlier ones
* `forwards_exactly_iff` — the sequences of frames that are forwarded exactly
* `delivered_reads` — what the app gets of the frames the kernel hands to the socket
-/

namespace BluetoothAuto

/-- A frame that `recvfrom` did not truncate: between 0 and 65535 bytes. -/
structure CarFrame extends EthFrame where
  /-- It does not fill the buffer. -/
  length_lt : bytes.length < sizeofBuffer

/-- Frames as `recvfrom` delivers them. -/
def arrivals (fs : List CarFrame) : List RecvResult := fs.map fun f => .frame f.toEthFrame

/-- The bytes that reach the app when `write` accepts whole buffers. -/
def delivered (calls : List (Option WriteCall)) : List UInt8 :=
  calls.flatMap fun call => (call.map WriteCall.bytes).getD []

/-- What a call asks for: where the data begins, how long it is, and the bytes. -/
def WriteCall.request (c : WriteCall) : ℕ × ℤ × List UInt8 := (c.data, c.remainingData, c.bytes)

/-- The frames `fs`, arriving in this order at a buffer of any earlier contents, are forwarded
exactly. -/
structure ForwardsExactly (buffer : FlatMemory) (fs : List CarFrame) : Prop where
  /-- The app receives the payloads of the forwardable frames, in order. -/
  delivered_eq :
    delivered (Unsecured.readGeonet.answers ⟨buffer, false⟩ (arrivals fs)) =
      ((fs.map fun f => f.bytes).filter fun bs => Forwardable bs).flatMap
        (·.drop sizeofEtherHeader)
  /-- Every length passed to `write` is non-negative and lies within the frame. -/
  lengths :
    List.Forall₂ (fun (f : CarFrame) call => ∀ c, call = some c →
        0 ≤ c.remainingData ∧ (c.data : ℤ) + c.remainingData ≤ f.bytes.length) fs
      (Unsecured.readGeonet.answers ⟨buffer, false⟩ (arrivals fs))
  /-- The frame would have been handled alike whatever arrived before it. -/
  independent :
    List.Forall₂ (fun (f : CarFrame) call => ∀ buffer',
        (handleFrame buffer' f.toEthFrame).2.map WriteCall.request = call.map WriteCall.request) fs
      (Unsecured.readGeonet.answers ⟨buffer, false⟩ (arrivals fs))

/-! ### One frame -/

/-- The bytes of the frame alone make the filter reject it: it ends inside or behind an EtherType
that begins wrongly, or its source is the proxy's own. -/
def RuledOut (bs : List UInt8) : Prop :=
  (12 < bs.length ∧ bs[12]? ≠ some 0x89) ∨ ∀ k : Fin 6, bs[6 + (k : ℕ)]? = some (ownSource k)

/-- The frame has a whole header, or is ruled out without one. -/
def SelfContained (bs : List UInt8) : Prop := sizeofEtherHeader ≤ bs.length ∨ RuledOut bs

/-- How a frame is handled by its own bytes. -/
def ownRequest (bs : List UInt8) : Option (ℕ × ℤ × List UInt8) :=
  if Forwardable bs then
    some (sizeofEtherHeader, bs.length - sizeofEtherHeader, bs.drop sizeofEtherHeader)
  else none

/-- A frame that rules itself out is rejected, whatever the buffer held. -/
theorem geonetFilter_of_ruledOut (buffer : FlatMemory) {bs : List UInt8} (h : RuledOut bs) :
    geonetFilter (buffer.storeBytes 0 bs) = false := by
  rw [← Bool.not_eq_true, geonetFilter_iff]
  rintro ⟨h12, -, hsource⟩
  rcases h with ⟨hlen, hne⟩ | hown
  · exact hne ((storeBytes_eq_iff hlen).mp h12)
  · refine hsource fun k => ?_
    have hk : 6 + (k : ℕ) < bs.length := (List.getElem?_eq_some_iff.mp (hown k)).1
    exact (storeBytes_eq_iff hk).mpr (hown k)

theorem handleFrame_of_selfContained (buffer : FlatMemory) (f : CarFrame)
    (h : SelfContained f.bytes) :
    (handleFrame buffer f.toEthFrame).2.map WriteCall.request = ownRequest f.bytes := by
  by_cases hlong : sizeofEtherHeader ≤ f.bytes.length
  · have hbytes := bytes_of_long buffer hlong
    rw [handleFrame_of_long hlong f.length_lt, ownRequest]
    rw [remainingData_eq f.length_le] at hbytes
    split
    · rw [Option.map_some, WriteCall.request, hbytes]
    · rfl
  · have hrej := geonetFilter_of_ruledOut buffer (h.resolve_left hlong)
    have hnot : ¬ Forwardable f.bytes := fun hf => hlong hf.1
    simp [handleFrame, Nat.ne_of_lt f.length_lt, hrej, ownRequest, hnot]

/-- A buffer whose header makes up for whatever a short frame leaves open. -/
def lureBuffer : FlatMemory := fun a => if a = 12 then 0x89 else if a = 13 then 0x47 else 0xaa

/-- A short frame that does not rule itself out is accepted from `lureBuffer`. -/
theorem geonetFilter_lureBuffer {bs : List UInt8} (h : ¬ SelfContained bs) :
    geonetFilter (lureBuffer.storeBytes 0 bs) = true := by
  simp only [SelfContained, RuledOut, not_or, not_and, ne_eq, not_not] at h
  obtain ⟨hshort, h12, hsource⟩ := h
  have hshort : bs.length ≤ 13 := by
    have : sizeofEtherHeader = 14 := rfl
    omega
  rw [geonetFilter_iff]
  refine ⟨?_, ?_, fun hown => ?_⟩
  · by_cases hlen : 12 < bs.length
    · exact (storeBytes_eq_iff hlen).mpr (h12 hlen)
    · rw [FlatMemory.storeBytes_outside (by omega)]
      rfl
  · rw [FlatMemory.storeBytes_outside (by omega)]
    rfl
  · by_cases hlen : 12 ≤ bs.length
    · exact hsource fun k => (storeBytes_eq_iff (by omega)).mp (hown k)
    · have h11 := hown 5
      rw [FlatMemory.storeBytes_outside (by simp; omega)] at h11
      exact absurd h11 (by decide)

/-- A short frame is rejected from a buffer of zeros. -/
theorem geonetFilter_zeros {bs : List UInt8} (h : ¬ SelfContained bs) :
    geonetFilter (FlatMemory.storeBytes (fun _ => 0) 0 bs) = false := by
  have hshort : ¬ 14 ≤ bs.length := fun hlong => h (.inl hlong)
  rw [← Bool.not_eq_true, geonetFilter_iff]
  rintro ⟨-, h13, -⟩
  rw [FlatMemory.storeBytes_outside (by omega)] at h13
  exact absurd h13 (by decide)

/-- **Which frames are handled by their own bytes.** Exactly the self-contained ones; any other
is accepted or rejected according to what the buffer held before. -/
theorem handleFrame_independent_iff (f : CarFrame) :
    (∀ buffer buffer', (handleFrame buffer' f.toEthFrame).2.map WriteCall.request =
        (handleFrame buffer f.toEthFrame).2.map WriteCall.request) ↔ SelfContained f.bytes := by
  constructor
  · intro hind
    by_contra hnot
    have hsame := hind lureBuffer fun _ => 0
    simp [handleFrame, Nat.ne_of_lt f.length_lt, geonetFilter_lureBuffer hnot,
      geonetFilter_zeros hnot] at hsame
  · intro h buffer buffer'
    rw [handleFrame_of_selfContained buffer' f h, handleFrame_of_selfContained buffer f h]

/-! ### Runs -/

/-- In a run, each frame meets the buffer its predecessors left. -/
theorem answers_arrivals (buffer : FlatMemory) (fs : List CarFrame) :
    List.Forall₂ (fun (f : CarFrame) call => ∃ b, call = (handleFrame b f.toEthFrame).2) fs
      (Unsecured.readGeonet.answers ⟨buffer, false⟩ (arrivals fs)) := by
  induction fs generalizing buffer with
  | nil => exact .nil
  | cons f fs ih => exact .cons ⟨buffer, rfl⟩ (ih _)

/-- What a call contributes to the delivered bytes is fixed by its request. -/
theorem delivered_of_requests {fs : List CarFrame} {calls : List (Option WriteCall)}
    (h : List.Forall₂ (fun (f : CarFrame) call =>
      call.map WriteCall.request = ownRequest f.bytes) fs calls) :
    delivered calls =
      ((fs.map fun f => f.bytes).filter fun bs => Forwardable bs).flatMap
        (·.drop sizeofEtherHeader) := by
  induction h with
  | nil => rfl
  | @cons f call fs calls hcall _ ih =>
    rw [delivered, List.flatMap_cons, ← delivered, ih, List.map_cons]
    rw [ownRequest] at hcall
    by_cases hf : Forwardable f.bytes
    · rw [if_pos hf, Option.map_eq_some_iff] at hcall
      obtain ⟨c, rfl, hreq⟩ := hcall
      have hbytes : c.bytes = f.bytes.drop sizeofEtherHeader := congrArg (·.2.2) hreq
      rw [List.filter_cons_of_pos (by simpa using hf), List.flatMap_cons, Option.map_some,
        Option.getD_some, hbytes]
    · rw [if_neg hf, Option.map_eq_none_iff] at hcall
      rw [List.filter_cons_of_neg (by simpa using hf), hcall]
      rfl

/-- A request made by a frame's own bytes stays within the frame. -/
theorem lengths_of_request {f : CarFrame} {c : WriteCall}
    (h : some c.request = ownRequest f.bytes) :
    0 ≤ c.remainingData ∧ (c.data : ℤ) + c.remainingData ≤ f.bytes.length := by
  rw [ownRequest] at h
  split at h
  · next hf =>
    have hreq := Option.some.inj h
    have hdata : c.data = sizeofEtherHeader := congrArg (·.1) hreq
    have hrem : c.remainingData = f.bytes.length - sizeofEtherHeader := congrArg (·.2.1) hreq
    have hlen : sizeofEtherHeader ≤ f.bytes.length := hf.1
    exact ⟨by omega, by omega⟩
  · cases h

/-- **Forwarding is exact** iff every frame has a whole header or rules itself out without one. -/
theorem forwards_exactly_iff (buffer : FlatMemory) (fs : List CarFrame) :
    ForwardsExactly buffer fs ↔ ∀ f ∈ fs, SelfContained f.bytes := by
  constructor
  · intro h
    have hself : List.Forall₂ (fun (f : CarFrame) _ => SelfContained f.bytes ∧ True) fs
        (Unsecured.readGeonet.answers ⟨buffer, false⟩ (arrivals fs)) :=
      h.independent.imp fun f call hind =>
        ⟨(handleFrame_independent_iff f).mp fun b b' => (hind b').trans (hind b).symm, trivial⟩
    exact ((List.forall₂_and_left _ _).mp hself).1
  · intro hall
    have hreq : List.Forall₂ (fun (f : CarFrame) call => SelfContained f.bytes ∧
        call.map WriteCall.request = ownRequest f.bytes) fs
        (Unsecured.readGeonet.answers ⟨buffer, false⟩ (arrivals fs)) := by
      refine ((List.forall₂_and_left _ _).mpr ⟨hall, answers_arrivals buffer fs⟩).imp ?_
      rintro f call ⟨hf, b, rfl⟩
      exact ⟨hf, handleFrame_of_selfContained b f hf⟩
    refine ⟨delivered_of_requests (hreq.imp fun _ _ h => h.2), ?_, ?_⟩
    · refine hreq.imp ?_
      rintro f call ⟨-, h⟩ c rfl
      exact lengths_of_request h
    · refine hreq.imp ?_
      rintro f call ⟨hf, h⟩ buffer'
      rw [handleFrame_of_selfContained buffer' f hf, h]

/-- A frame from another car with one byte of payload. -/
def carFrame : CarFrame where
  bytes :=
    [0xff, 0xff, 0xff, 0xff, 0xff, 0xff, 0x00, 0x15, 0x5d, 0xef, 0xfe, 0xe6, 0x89, 0x47, 0x11]
  length_le := Nat.le_of_ble_eq_true rfl
  length_lt := Nat.lt_of_lt_of_le (show 15 < 16 by decide) (Nat.le_of_ble_eq_true rfl)

/-- A frame of which nothing arrived. -/
def emptyFrame : CarFrame where
  bytes := []
  length_le := Nat.zero_le _
  length_lt := Nat.lt_of_lt_of_le (show 0 < 1 by decide) (Nat.le_of_ble_eq_true rfl)

/-- An empty frame behind one from another car passes the filter on that car's header. -/
theorem empty_frame_forwarded : ¬ ForwardsExactly (fun _ => 0) [carFrame, emptyFrame] := by
  intro h
  have hlen := (List.forall₂_cons.mp (List.forall₂_cons.mp h.lengths).2).1
  have hneg := (hlen _ rfl).1
  exact absurd hneg (by decide)

/-! ### The socket -/

/-- The socket of `readGeonet`, bound to the GeoNetworking EtherType: which of the frames on its
interface the kernel hands to it. -/
structure PacketSocket where
  /-- The frame is handed to the socket. -/
  takes : List UInt8 → Bool
  /-- Every frame of the EtherType the socket is bound to. -/
  takes_of_type {bytes : List UInt8} :
    bytes[12]? = some 0x89 → bytes[13]? = some 0x47 → takes bytes = true
  /-- Another one that came before `bind` may still be in its queue, but none without a whole
  header. -/
  length_of_takes {bytes : List UInt8} : takes bytes = true → sizeofEtherHeader ≤ bytes.length

/-- A socket that gets frames of the one EtherType only. -/
def boundSocket : PacketSocket where
  takes bytes := bytes[12]? == some 0x89 && bytes[13]? == some 0x47
  takes_of_type h12 h13 := by rw [h12, h13]; rfl
  length_of_takes h := by
    obtain ⟨-, h13⟩ := (Bool.and_eq_true _ _).mp h
    obtain ⟨hlen, -⟩ := List.getElem?_eq_some_iff.mp (eq_of_beq h13)
    exact hlen

/-- `recvfrom`: what does not fit into the buffer is cut off. -/
def received (bytes : List UInt8) : EthFrame where
  bytes := bytes.take sizeofBuffer
  length_le := List.length_take_le _ _

/-- The calls of `recvfrom` for the frames on the interface. -/
def PacketSocket.reads (socket : PacketSocket) (frames : List (List UInt8)) : List RecvResult :=
  (frames.filter socket.takes).map fun bytes => .frame (received bytes)

theorem PacketSocket.takes_of_forwardable (socket : PacketSocket) {bytes : List UInt8}
    (h : Forwardable bytes) : socket.takes bytes = true :=
  socket.takes_of_type h.2.1 h.2.2.1

/-- A frame is to be forwarded: the filter takes it, and it fits into the buffer. -/
def Fits (bytes : List UInt8) : Prop := Forwardable bytes ∧ bytes.length < sizeofBuffer

instance (bytes : List UInt8) : Decidable (Fits bytes) := by
  rw [Fits]
  infer_instance

/-- What the app gets of a frame with a whole header. -/
theorem delivered_received (buffer : FlatMemory) {bytes : List UInt8}
    (hlong : sizeofEtherHeader ≤ bytes.length) :
    delivered [(handleFrame buffer (received bytes)).2] =
      if Fits bytes then bytes.drop sizeofEtherHeader else [] := by
  rcases Nat.lt_or_ge bytes.length sizeofBuffer with hlt | hge
  · have hbytes : (received bytes).bytes = bytes := List.take_of_length_le hlt.le
    let f : CarFrame := ⟨received bytes, hbytes.symm ▸ hlt⟩
    have hself : SelfContained f.bytes := .inl (hbytes.symm ▸ hlong)
    rw [show received bytes = f.toEthFrame from rfl,
      delivered_of_requests (.cons (handleFrame_of_selfContained buffer f hself) .nil)]
    rw [List.map_singleton, List.filter_singleton, show f.bytes = bytes from hbytes]
    simp only [Fits, hlt, and_true]
    cases hf : decide (Forwardable bytes) with
    | false => rw [if_neg (of_decide_eq_false hf)]; rfl
    | true => rw [if_pos (of_decide_eq_true hf)]; simp
  · have hfull : (received bytes).bytes.length = sizeofBuffer := List.length_take_of_le hge
    rw [handleFrame, if_pos hfull, if_neg fun h => Nat.not_lt.mpr hge h.2]
    rfl

theorem delivered_cons (call : Option WriteCall) (calls : List (Option WriteCall)) :
    delivered (call :: calls) = delivered [call] ++ delivered calls := by
  rw [delivered, List.flatMap_cons, delivered, List.flatMap_singleton, delivered]

/-- **What the app gets of the frames on the interface**, whatever the buffer held before. -/
theorem delivered_reads (socket : PacketSocket) (buffer : FlatMemory) (frames : List (List UInt8)) :
    delivered (Unsecured.readGeonet.answers ⟨buffer, false⟩ (socket.reads frames)) =
      (frames.filter fun bytes => Fits bytes).flatMap (·.drop sizeofEtherHeader) := by
  induction frames generalizing buffer with
  | nil => rfl
  | cons bytes frames ih =>
    rw [PacketSocket.reads, List.filter_cons, List.filter_cons]
    by_cases htakes : socket.takes bytes = true
    · have hone := delivered_received buffer (socket.length_of_takes htakes)
      rw [if_pos htakes, List.map_cons, ServerLoop.answers_cons, delivered_cons,
        ← PacketSocket.reads]
      refine (congrArg₂ (· ++ ·) hone (ih _)).trans ?_
      by_cases hfits : Fits bytes
      · rw [if_pos hfits, if_pos (decide_eq_true hfits), List.flatMap_cons]
      · rw [if_neg hfits, if_neg (by simpa using hfits), List.nil_append]
    · have hfits : ¬ Fits bytes := fun h => htakes (socket.takes_of_forwardable h.1)
      rw [if_neg htakes, if_neg (by simpa using hfits), ← PacketSocket.reads, ih]

end BluetoothAuto
