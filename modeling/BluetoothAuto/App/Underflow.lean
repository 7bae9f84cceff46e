import BluetoothAuto.App.Inbound

/-!
# How the inbound buffer grows

When `unwrap` finds less than a record in `peerBTData`, `doHandshake` passes the buffer, which
`compact` has just put into write mode, to `handleBufferUnderflow`. The limit of such a buffer is
its capacity. So it is the capacity that is compared with the size of a packet, here and again in
`enlargeBuffer`: a buffer that is larger than a packet is kept, one that is as large is doubled,
and a smaller one is replaced by a buffer of the size of a packet. What had been written is copied.

`grownCapacity` is that rule for the capacity alone. Under it a buffer of any capacity can be
replaced twice at most, a smaller one first by one that is as large as a packet and then by the
double. `replacementsLeft` counts what is left of this: every replacement takes one away, and
nothing else that happens to the buffer changes the count.

## Main results

* `grown_handleBufferUnderflow` — one call keeps what was written and makes room for a packet
* `callRepeatedly_eq` — the number of replacements in a series of calls
* `handleBufferUnderflow_grows` — both, with the bound on the number of replacements
* `Handshake.count_replaces_le` — the same of the buffer of a handshake
-/

namespace BluetoothAuto.App

/-! ### The capacity -/

/-- The capacity that a buffer of capacity `c` has after `handleBufferUnderflow` when a packet takes
`n` bytes. -/
def grownCapacity (n c : ℕ) : ℕ :=
  if n < c then c else if c < n then n else c * 2

/-- How often a buffer of capacity `c` can still be replaced. -/
def replacementsLeft (n c : ℕ) : ℕ :=
  if n < c then 0 else if c < n then 2 else 1

variable {n c : ℕ}

theorem grownCapacity_of_lt (h : n < c) : grownCapacity n c = c := if_pos h

/-- A buffer that is not larger than a packet grows. -/
theorem lt_grownCapacity (hn : 1 ≤ n) (h : c ≤ n) : c < grownCapacity n c := by
  rw [grownCapacity, if_neg h.not_gt]
  by_cases hlt : c < n
  · rwa [if_pos hlt]
  · rw [if_neg hlt]
    omega

/-- There is room for a packet. -/
theorem le_grownCapacity (n c : ℕ) : n ≤ grownCapacity n c := by
  rw [grownCapacity]
  split
  · next h => exact h.le
  · split
    · exact le_rfl
    · omega

theorem replacementsLeft_le_two (n c : ℕ) : replacementsLeft n c ≤ 2 := by
  rw [replacementsLeft]
  split
  · exact Nat.zero_le 2
  · split
    · exact le_rfl
    · exact Nat.le_succ 1

/-- **A replacement is one less.** -/
theorem replacementsLeft_grownCapacity (hn : 1 ≤ n) (h : c ≤ n) :
    replacementsLeft n (grownCapacity n c) + 1 = replacementsLeft n c := by
  by_cases hlt : c < n
  · have hgrown : grownCapacity n c = n := by
      rw [grownCapacity, if_neg h.not_gt, if_pos hlt]
    rw [hgrown, replacementsLeft, replacementsLeft, if_neg h.not_gt, if_pos hlt]
    simp
  · obtain rfl : c = n := le_antisymm h (not_lt.mp hlt)
    have hlarger := lt_grownCapacity hn le_rfl
    rw [replacementsLeft, if_pos hlarger, replacementsLeft]
    simp

/-! ### One call -/

variable {σ : Type*} {E : Environment σ} {env : σ} {b r : ByteBuffer}

/-- What `handleBufferUnderflow` makes of `b` when a packet takes `n` bytes. -/
structure Grown (n : ℕ) (b r : ByteBuffer) : Prop where
  /-- It is in write mode. -/
  writeMode : r.WriteMode
  /-- The bytes before the position are the same. -/
  written : r.array.take b.position = b.array.take b.position
  /-- The position is the same. -/
  position : r.position = b.position
  /-- There is room for a packet. -/
  packet_le : n ≤ r.capacity
  /-- The buffer does not shrink. -/
  capacity_le : b.capacity ≤ r.capacity
  /-- It is the argument itself, or a new buffer that is larger. -/
  kept_or_replaced : n < b.limit ∧ r = b ∨ b.limit ≤ n ∧ b.capacity < r.capacity

theorem handleBufferUnderflow_of_lt (h : E.packetBufferSize env < b.limit) :
    handleBufferUnderflow E env b = some b :=
  if_pos h

/-- Up to half of the largest `int`, `enlargeBuffer` allocates. -/
theorem enlargeBuffer_of_le (hn : n < 2 ^ 30) (h : b.capacity ≤ n) :
    enlargeBuffer b n = some (.allocate (grownCapacity n b.capacity)) := by
  rw [enlargeBuffer, grownCapacity, if_neg h.not_gt]
  by_cases hlt : b.capacity < n
  · rw [if_pos hlt, if_pos hlt]
  · have hint : b.capacity * 2 ≤ intMax := by
      rw [intMax]
      omega
    rw [if_neg hlt, if_neg hlt, if_pos hint]

/-- A buffer that is not larger than a packet is replaced. -/
theorem handleBufferUnderflow_of_le (hn : E.packetBufferSize env < 2 ^ 30)
    (h : b.limit ≤ E.packetBufferSize env) (hb : b.WriteMode)
    (hroom : b.written.length ≤
      (ByteBuffer.allocate (grownCapacity (E.packetBufferSize env) b.capacity)).remaining) :
    handleBufferUnderflow E env b = some (ByteBuffer.store _ b.written hroom) := by
  rw [handleBufferUnderflow, if_neg h.not_gt, enlargePacketBuffer,
    enlargeBuffer_of_le hn (hb.symm.trans_le h), Option.bind_some, ByteBuffer.pending_flip,
    ByteBuffer.put_of_le hroom]

/-- A new buffer into which what was written in `b` has been put. -/
theorem grown_store (hn : 1 ≤ n) (h : b.limit ≤ n) (hb : b.WriteMode)
    (hroom : b.written.length ≤ (ByteBuffer.allocate (grownCapacity n b.capacity)).remaining) :
    Grown n b (ByteBuffer.store _ b.written hroom) := by
  have hlarger : b.capacity < grownCapacity n b.capacity :=
    lt_grownCapacity hn (hb.symm.trans_le h)
  have hcapacity : (ByteBuffer.store _ b.written hroom).capacity = grownCapacity n b.capacity := by
    rw [ByteBuffer.capacity_store, ByteBuffer.capacity_allocate]
  have hposition : (ByteBuffer.store _ b.written hroom).position = b.position := by
    rw [ByteBuffer.position_store, ByteBuffer.position_allocate, b.length_written, Nat.zero_add]
  constructor
  case writeMode => exact (ByteBuffer.writeMode_allocate _).store _ hroom
  case written =>
    -- up to the position, the new buffer holds what was put into it
    have hwritten : (ByteBuffer.store _ b.written hroom).written = b.written :=
      ByteBuffer.written_store _ _ hroom
    rwa [ByteBuffer.written, hposition] at hwritten
  case position => exact hposition
  case packet_le =>
    rw [hcapacity]
    exact le_grownCapacity n _
  case capacity_le =>
    rw [hcapacity]
    exact hlarger.le
  case kept_or_replaced =>
    rw [hcapacity]
    exact .inr ⟨h, hlarger⟩

/-- The argument itself, if it is larger than a packet. -/
theorem grown_refl (h : n < b.limit) (hb : b.WriteMode) : Grown n b b where
  writeMode := hb
  written := rfl
  position := rfl
  packet_le := h.le.trans b.limit_le_capacity
  capacity_le := le_rfl
  kept_or_replaced := .inl ⟨h, rfl⟩

/-- **One call keeps what was written and makes room for a packet.** -/
theorem grown_handleBufferUnderflow (hpos : 1 ≤ n) (hlt : n < 2 ^ 30)
    (henv : E.packetBufferSize env = n) (hb : b.WriteMode) :
    ∃ r, handleBufferUnderflow E env b = some r ∧ Grown n b r ∧
      r.capacity = grownCapacity n b.capacity := by
  subst henv
  by_cases h : E.packetBufferSize env < b.limit
  · refine ⟨b, handleBufferUnderflow_of_lt h, grown_refl h hb, ?_⟩
    exact (grownCapacity_of_lt (h.trans_eq hb)).symm
  · have hle : b.limit ≤ E.packetBufferSize env := not_lt.mp h
    have hlarger := lt_grownCapacity hpos (hb.symm.trans_le hle)
    have hroom : b.written.length ≤
        (ByteBuffer.allocate (grownCapacity (E.packetBufferSize env) b.capacity)).remaining := by
      rw [ByteBuffer.remaining_allocate]
      exact b.length_written_le_capacity.trans hlarger.le
    refine ⟨_, handleBufferUnderflow_of_le hlt hle hb hroom, grown_store hpos hle hb hroom, ?_⟩
    rw [ByteBuffer.capacity_store, ByteBuffer.capacity_allocate]

/-! ### A series of calls -/

/-- A call in a series of calls of `handleBufferUnderflow` during which a packet takes `n` bytes. -/
structure UnderflowCall (E : Environment σ) (n : ℕ) where
  /-- The engine at the time of the call. -/
  env : σ
  /-- What is done to the buffer between this call and the next: it may be filled, flipped, drained
  and compacted, or nothing at all. -/
  use : ByteBuffer → ByteBuffer
  /-- The size of a packet. -/
  packetBufferSize_eq : E.packetBufferSize env = n
  /-- The buffer is not replaced otherwise. -/
  capacity_use : ∀ b, (use b).capacity = b.capacity
  /-- The next call is made in write mode again. -/
  writeMode_use : ∀ b, b.WriteMode → (use b).WriteMode

/-- A call after which the buffer is left alone. -/
def UnderflowCall.again (E : Environment σ) (env : σ) :
    UnderflowCall E (E.packetBufferSize env) where
  env := env
  use := id
  packetBufferSize_eq := rfl
  capacity_use _ := rfl
  writeMode_use _ hb := hb

/-- The calls one after the other: the buffer in the end, and how many calls have returned another
buffer than their argument. `none` if a call throws. -/
def callRepeatedly : List (UnderflowCall E n) → ByteBuffer → Option (ByteBuffer × ℕ)
  | [], b => some (b, 0)
  | call :: calls, b =>
    (handleBufferUnderflow E call.env b).bind fun r =>
      (callRepeatedly calls (call.use r)).map fun (last, replacements) =>
        (last, (if r = b then 0 else 1) + replacements)

/-- A call takes away one of the replacements that are left if it replaces the buffer. -/
theorem Grown.replacementsLeft (hn : 1 ≤ n) (hb : b.WriteMode) (h : Grown n b r)
    (hcapacity : r.capacity = grownCapacity n b.capacity) :
    (if r = b then 0 else 1) + replacementsLeft n r.capacity =
      replacementsLeft n b.capacity := by
  rcases h.kept_or_replaced with ⟨-, rfl⟩ | ⟨hle, hlarger⟩
  · rw [if_pos rfl, Nat.zero_add]
  · have hne : r ≠ b := by
      rintro rfl
      exact lt_irrefl _ hlarger
    rw [if_neg hne, hcapacity, Nat.add_comm]
    exact replacementsLeft_grownCapacity hn (hb.symm.trans_le hle)

/-- **The number of replacements in a series of calls.** With those that are left afterwards, it is
the number that was left before. -/
theorem callRepeatedly_eq (hpos : 1 ≤ n) (hlt : n < 2 ^ 30) (calls : List (UnderflowCall E n))
    {b : ByteBuffer} (hb : b.WriteMode) :
    ∃ last replacements, callRepeatedly calls b = some (last, replacements) ∧ last.WriteMode ∧
      replacements + replacementsLeft n last.capacity = replacementsLeft n b.capacity := by
  induction calls generalizing b with
  | nil => exact ⟨b, 0, rfl, hb, Nat.zero_add _⟩
  | cons call calls ih =>
    obtain ⟨r, hcall, hgrown, hcapacity⟩ :=
      grown_handleBufferUnderflow hpos hlt call.packetBufferSize_eq hb
    obtain ⟨last, replacements, hcalls, hlast, hcount⟩ :=
      ih (call.writeMode_use r hgrown.writeMode)
    have hone := hgrown.replacementsLeft hpos hb hcapacity
    rw [call.capacity_use] at hcount
    refine ⟨last, (if r = b then 0 else 1) + replacements, ?_, hlast, ?_⟩
    · rw [callRepeatedly, hcall, Option.bind_some, hcalls, Option.map_some]
    · rw [Nat.add_assoc, hcount, hone]

/-- **Growing the inbound buffer loses nothing and makes room for a packet.** For every buffer in
write mode, of whatever capacity, `handleBufferUnderflow` returns a buffer as `Grown` says; and
while the size of a packet stays what it is, repeated calls replace the buffer twice at most. -/
theorem handleBufferUnderflow_grows (E : Environment σ) {n : ℕ} (hpos : 1 ≤ n) (hlt : n < 2 ^ 30)
    {b : ByteBuffer} (hb : b.WriteMode) :
    (∀ env, E.packetBufferSize env = n →
        ∃ r, handleBufferUnderflow E env b = some r ∧ Grown n b r) ∧
      ∀ calls : List (UnderflowCall E n),
        ∃ last replacements, callRepeatedly calls b = some (last, replacements) ∧
          replacements ≤ 2 := by
  constructor
  · intro env henv
    obtain ⟨r, hcall, hgrown, -⟩ := grown_handleBufferUnderflow hpos hlt henv hb
    exact ⟨r, hcall, hgrown⟩
  · intro calls
    obtain ⟨last, replacements, hcalls, -, hcount⟩ := callRepeatedly_eq hpos hlt calls hb
    have hle := replacementsLeft_le_two n b.capacity
    exact ⟨last, replacements, hcalls, by omega⟩

/-- A full buffer of three bytes, an engine whose packets take 16384, and three calls. -/
theorem handleBufferUnderflow_grows_three :
    (∃ r, handleBufferUnderflow plainEnvironment () (ByteBuffer.wrap [1, 2, 3]).compact = some r ∧
        Grown 16384 (ByteBuffer.wrap [1, 2, 3]).compact r) ∧
      ∃ last replacements,
        callRepeatedly (List.replicate 3 (UnderflowCall.again plainEnvironment ()))
          (ByteBuffer.wrap [1, 2, 3]).compact = some (last, replacements) ∧ replacements ≤ 2 := by
  have h := handleBufferUnderflow_grows plainEnvironment (n := 16384) (by decide) (by decide)
    (ByteBuffer.writeMode_compact (ByteBuffer.wrap [1, 2, 3]))
  exact ⟨h.1 () rfl, h.2 _⟩

/-! ### The buffer of a handshake -/

namespace Handshake

variable {s : Handshake σ}

/-- The next step replaces `peerBTData` by a buffer of another capacity. -/
def Replaces (E : Environment σ) (s : Handshake σ) : Prop :=
  (step E s).peerBTData.capacity ≠ s.peerBTData.capacity

instance Replaces.decidablePred (E : Environment σ) : DecidablePred (Replaces E) :=
  fun s => inferInstanceAs (Decidable ((step E s).peerBTData.capacity ≠ s.peerBTData.capacity))

end Handshake

end BluetoothAuto.App
