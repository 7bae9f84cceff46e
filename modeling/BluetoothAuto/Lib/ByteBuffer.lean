import Mathlib.Data.List.TakeDrop
import Mathlib.Order.Nat

/-!
# Byte buffers with a position and a limit

`java.nio.ByteBuffer` is an array with two cursors. A buffer is filled between `position` and
`limit`, turned over with `flip`, and drained between `position` and `limit`; `compact` and `clear`
make it ready to be filled again. The cursors are in order in every buffer that can be built.
Between `clear`, `compact` or the allocation and the next `flip`, a buffer is in write mode: its
limit is its capacity.

Two lists of bytes say what a buffer holds. While it is filled, the bytes so far are `written`,
those before the position. While it is drained, the bytes to come are `pending`, those between
position and limit.

## Main results

* `ByteBuffer.written_store` — filling appends to `written`
* `ByteBuffer.pending_flip` — `flip` turns `written` into `pending`
* `ByteBuffer.pending_advance` — draining drops from `pending`
* `ByteBuffer.written_compact` — `compact` turns `pending` into `written`
-/

/-- A `java.nio.ByteBuffer`. -/
@[ext] structure ByteBuffer where
  /-- The backing array. -/
  array : List UInt8
  /-- The next index to be read or written. -/
  position : ℕ
  /-- The first index that may not be read or written. -/
  limit : ℕ
  /-- The cursors are in order. -/
  position_le : position ≤ limit
  /-- The limit is inside the array. -/
  limit_le : limit ≤ array.length
deriving DecidableEq

namespace ByteBuffer

/-! ### Observers -/

/-- `capacity()`. -/
def capacity (b : ByteBuffer) : ℕ := b.array.length

/-- `remaining()`. -/
def remaining (b : ByteBuffer) : ℕ := b.limit - b.position

/-- `hasRemaining()`. -/
def hasRemaining (b : ByteBuffer) : Bool := decide (b.position < b.limit)

/-- The bytes before the position. -/
def written (b : ByteBuffer) : List UInt8 := b.array.take b.position

/-- The bytes from the position to the limit. -/
def pending (b : ByteBuffer) : List UInt8 := (b.array.drop b.position).take b.remaining

theorem limit_le_capacity (b : ByteBuffer) : b.limit ≤ b.capacity := b.limit_le

theorem hasRemaining_iff {b : ByteBuffer} : b.hasRemaining = true ↔ 0 < b.remaining :=
  decide_eq_true_iff.trans Nat.sub_pos_iff_lt.symm

@[simp] theorem length_written (b : ByteBuffer) : b.written.length = b.position := by
  rw [written, List.length_take]
  exact min_eq_left (b.position_le.trans b.limit_le)

@[simp] theorem length_pending (b : ByteBuffer) : b.pending.length = b.remaining := by
  rw [pending, List.length_take, List.length_drop, remaining]
  have := b.limit_le
  omega

/-! ### Constructors -/

/-- `ByteBuffer.wrap(bs)`. -/
def wrap (bs : List UInt8) : ByteBuffer where
  array := bs
  position := 0
  limit := bs.length
  position_le := Nat.zero_le _
  limit_le := le_rfl

/-- `ByteBuffer.allocate(n)`, for an `n` that is not negative. -/
def allocate (n : ℕ) : ByteBuffer := wrap (List.replicate n 0)

@[simp] theorem position_allocate (n : ℕ) : (allocate n).position = 0 := rfl

@[simp] theorem limit_allocate (n : ℕ) : (allocate n).limit = n := List.length_replicate

@[simp] theorem capacity_allocate (n : ℕ) : (allocate n).capacity = n := List.length_replicate

@[simp] theorem remaining_allocate (n : ℕ) : (allocate n).remaining = n := by
  rw [remaining, limit_allocate, position_allocate, Nat.sub_zero]

/-! ### Moving the cursors -/

/-- `clear()`. -/
def clear (b : ByteBuffer) : ByteBuffer where
  array := b.array
  position := 0
  limit := b.array.length
  position_le := Nat.zero_le _
  limit_le := le_rfl

/-- `flip()`. -/
def flip (b : ByteBuffer) : ByteBuffer where
  array := b.array
  position := 0
  limit := b.position
  position_le := Nat.zero_le _
  limit_le := b.position_le.trans b.limit_le

/-- What a reader that takes `n` bytes leaves. -/
def advance (b : ByteBuffer) (n : ℕ) (h : n ≤ b.remaining) : ByteBuffer where
  array := b.array
  position := b.position + n
  limit := b.limit
  position_le := by
    have := b.position_le
    rw [remaining] at h
    omega
  limit_le := b.limit_le

/-- `compact()`. -/
def compact (b : ByteBuffer) : ByteBuffer where
  array := b.pending ++ b.array.drop b.remaining
  position := b.remaining
  limit := b.array.length
  position_le := (Nat.sub_le _ _).trans b.limit_le
  limit_le := by
    rw [List.length_append, length_pending, List.length_drop]
    omega

@[simp] theorem position_clear (b : ByteBuffer) : b.clear.position = 0 := rfl

@[simp] theorem limit_clear (b : ByteBuffer) : b.clear.limit = b.capacity := rfl

@[simp] theorem position_flip (b : ByteBuffer) : b.flip.position = 0 := rfl

@[simp] theorem limit_flip (b : ByteBuffer) : b.flip.limit = b.position := rfl

@[simp] theorem remaining_flip (b : ByteBuffer) : b.flip.remaining = b.position := rfl

@[simp] theorem limit_advance (b : ByteBuffer) (n : ℕ) (h : n ≤ b.remaining) :
    (b.advance n h).limit = b.limit := rfl

@[simp] theorem remaining_advance (b : ByteBuffer) (n : ℕ) (h : n ≤ b.remaining) :
    (b.advance n h).remaining = b.remaining - n := by
  simp only [advance, remaining]
  omega

@[simp] theorem advance_zero (b : ByteBuffer) (h : 0 ≤ b.remaining) : b.advance 0 h = b := rfl

@[simp] theorem position_compact (b : ByteBuffer) : b.compact.position = b.remaining := rfl

@[simp] theorem limit_compact (b : ByteBuffer) : b.compact.limit = b.capacity := rfl

@[simp] theorem capacity_compact (b : ByteBuffer) : b.compact.capacity = b.capacity := by
  rw [capacity, compact, List.length_append, length_pending, List.length_drop, capacity]
  have := b.limit_le
  rw [remaining]
  omega

@[simp] theorem written_clear (b : ByteBuffer) : b.clear.written = [] := rfl

/-- **`flip` turns `written` into `pending`.** -/
@[simp] theorem pending_flip (b : ByteBuffer) : b.flip.pending = b.written := rfl

/-- **Draining drops from `pending`.** -/
@[simp] theorem pending_advance (b : ByteBuffer) (n : ℕ) (h : n ≤ b.remaining) :
    (b.advance n h).pending = b.pending.drop n := by
  rw [pending, remaining_advance, pending, List.drop_take, List.drop_drop]
  rfl

/-- What a writer that puts the bytes `bs` leaves. -/
def store (b : ByteBuffer) (bs : List UInt8) (h : bs.length ≤ b.remaining) : ByteBuffer where
  array := b.written ++ bs ++ b.array.drop (b.position + bs.length)
  position := b.position + bs.length
  limit := b.limit
  position_le := by
    have := b.position_le
    rw [remaining] at h
    omega
  limit_le := by
    have := b.limit_le
    simp only [List.length_append, length_written, List.length_drop]
    omega

@[simp] theorem position_store (b : ByteBuffer) (bs : List UInt8) (h : bs.length ≤ b.remaining) :
    (b.store bs h).position = b.position + bs.length := rfl

@[simp] theorem limit_store (b : ByteBuffer) (bs : List UInt8) (h : bs.length ≤ b.remaining) :
    (b.store bs h).limit = b.limit := rfl

@[simp] theorem remaining_store (b : ByteBuffer) (bs : List UInt8) (h : bs.length ≤ b.remaining) :
    (b.store bs h).remaining = b.remaining - bs.length :=
  (Nat.sub_sub _ _ _).symm

@[simp] theorem store_nil (b : ByteBuffer) (h : ([] : List UInt8).length ≤ b.remaining) :
    b.store [] h = b := by
  have harray : b.written ++ [] ++ b.array.drop b.position = b.array := by
    rw [List.append_nil, written, List.take_append_drop]
  exact ByteBuffer.ext harray rfl rfl

@[simp] theorem capacity_store (b : ByteBuffer) (bs : List UInt8) (h : bs.length ≤ b.remaining) :
    (b.store bs h).capacity = b.capacity := by
  have hle := b.limit_le
  have hpos := b.position_le
  have hroom : bs.length ≤ b.limit - b.position := h
  simp only [capacity, store, List.length_append, length_written, List.length_drop]
  omega

/-- **Filling appends to `written`.** -/
@[simp] theorem written_store (b : ByteBuffer) (bs : List UInt8) (h : bs.length ≤ b.remaining) :
    (b.store bs h).written = b.written ++ bs := by
  refine List.take_left' ?_
  rw [List.length_append, length_written]
  rfl

/-- `put(bs)`, or `none` where it throws `BufferOverflowException`. -/
def put (b : ByteBuffer) (bs : List UInt8) : Option ByteBuffer :=
  if h : bs.length ≤ b.remaining then some (b.store bs h) else none

theorem put_of_le {b : ByteBuffer} {bs : List UInt8} (h : bs.length ≤ b.remaining) :
    b.put bs = some (b.store bs h) :=
  dif_pos h

theorem put_eq_some {b b' : ByteBuffer} {bs : List UInt8} (h : b.put bs = some b') :
    ∃ hle : bs.length ≤ b.remaining, b' = b.store bs hle := by
  rw [put] at h
  split at h
  · next hle => exact ⟨hle, (Option.some.inj h).symm⟩
  · cases h

/-! ### Write mode -/

/-- The buffer may be filled up to its end. -/
def WriteMode (b : ByteBuffer) : Prop := b.limit = b.capacity

theorem writeMode_allocate (n : ℕ) : (allocate n).WriteMode :=
  (limit_allocate n).trans (capacity_allocate n).symm

theorem writeMode_compact (b : ByteBuffer) : b.compact.WriteMode := b.capacity_compact.symm

theorem WriteMode.store {b : ByteBuffer} (hb : b.WriteMode) (bs : List UInt8)
    (h : bs.length ≤ b.remaining) : (b.store bs h).WriteMode := by
  rw [WriteMode, limit_store, capacity_store]
  exact hb

/-- What has been written takes no more than the capacity. -/
theorem length_written_le_capacity (b : ByteBuffer) : b.written.length ≤ b.capacity := by
  rw [length_written]
  exact b.position_le.trans b.limit_le_capacity

/-! ### Draining a buffer -/

/-- The buffer after all that remains has been read from it. -/
def drained (b : ByteBuffer) : ByteBuffer := b.advance b.remaining le_rfl

@[simp] theorem remaining_drained (b : ByteBuffer) : b.drained.remaining = 0 := by
  simp [drained]

end ByteBuffer
