import Mathlib.Data.List.Basic
import Mathlib.Logic.Function.Basic

/-!
# Flat byte memory

The memory of a C function as a map from addresses to bytes, with the bulk operations of
`string.h` and the byte-by-byte copy loop. Nothing here knows where an array ends: a store past
the end of one array changes whatever lies behind it, as it does on the machine. Which addresses
belong to which array, and that arrays do not overlap, are hypotheses of the lemmas.

Every operation is described by one `_apply` lemma, the byte at an arbitrary address afterwards.
The `load_*` lemmas derived from them say what a whole range holds.

## Main results

* `load_fill`, `load_storeBytes` — a range after `memset` and after bytes were received into it
* `load_of_unchanged` — the frame rule: a range no write touched is what it was
* `copy_apply` — the copy loop moves its source unchanged, provided no store of the loop reaches
  a source byte that is still to be read
-/

/-- A memory: one byte at every address. -/
abbrev FlatMemory := ℕ → UInt8

namespace FlatMemory

/-- `*p = v`. -/
def store (m : FlatMemory) (p : ℕ) (v : UInt8) : FlatMemory := Function.update m p v

/-- `memset(p, v, n)`. -/
def fill (m : FlatMemory) (p n : ℕ) (v : UInt8) : FlatMemory :=
  fun a => if p ≤ a ∧ a < p + n then v else m a

/-- Bytes received into memory from `p` on, as `read` leaves them. -/
def storeBytes (m : FlatMemory) (p : ℕ) (bs : List UInt8) : FlatMemory :=
  fun a => if p ≤ a then (bs[a - p]?).getD (m a) else m a

/-- The `n` bytes from `p` on. -/
def load (m : FlatMemory) (p n : ℕ) : List UInt8 := (List.range n).map fun k => m (p + k)

/-- The loop `for (i = 0; i < n; i++) dst[i] = src[i]`, lowest address first. -/
def copy : ℕ → ℕ → ℕ → FlatMemory → FlatMemory
  | _, _, 0, m => m
  | src, dst, n + 1, m => copy (src + 1) (dst + 1) n (m.store dst (m src))

variable {m m' : FlatMemory} {p q n k src dst a : ℕ} {v : UInt8} {bs : List UInt8}

/-! ### The byte at one address -/

@[simp] theorem store_self (m : FlatMemory) (p : ℕ) (v : UInt8) : m.store p v p = v :=
  Function.update_self ..

theorem store_of_ne (h : a ≠ p) : m.store p v a = m a := Function.update_of_ne h ..

theorem fill_inside (h1 : p ≤ a) (h2 : a < p + n) : m.fill p n v a = v := if_pos ⟨h1, h2⟩

theorem fill_outside (h : a < p ∨ p + n ≤ a) : m.fill p n v a = m a := if_neg (by omega)

theorem storeBytes_inside (h : k < bs.length) : m.storeBytes p bs (p + k) = bs[k] := by
  simp [storeBytes, h]

theorem storeBytes_outside (h : a < p ∨ p + bs.length ≤ a) : m.storeBytes p bs a = m a := by
  rcases h with h | h
  · exact if_neg (by omega)
  · have hnone : bs[a - p]? = none := List.getElem?_eq_none (by omega)
    simp [storeBytes, hnone]

/-- **The copy loop.** If the destination starts at or below the source, or beyond its end, then
no store of the loop hits a source byte before it is read, and the destination receives the
source as it was. -/
theorem copy_apply (h : dst ≤ src ∨ src + n ≤ dst) :
    copy src dst n m a = if dst ≤ a ∧ a < dst + n then m (src + (a - dst)) else m a := by
  induction n generalizing src dst m with
  | zero => rw [copy, if_neg (by omega)]
  | succ n ih =>
    rw [copy, ih (by omega)]
    by_cases ha : a = dst
    · subst ha
      rw [if_neg (by omega), if_pos (by omega), store_self, Nat.sub_self, Nat.add_zero]
    · by_cases hin : dst ≤ a ∧ a < dst + (n + 1)
      · rw [if_pos (by omega), if_pos hin, store_of_ne (by omega)]
        congr 1
        omega
      · rw [if_neg (by omega), if_neg hin, store_of_ne ha]

/-! ### A range of bytes -/

@[simp] theorem length_load (m : FlatMemory) (p n : ℕ) : (m.load p n).length = n := by simp [load]

@[simp] theorem getElem?_load (m : FlatMemory) (p n k : ℕ) :
    (m.load p n)[k]? = if k < n then some (m (p + k)) else none := by
  by_cases h : k < n <;> simp [load, h]

/-- A range is what its bytes are. -/
theorem load_eq_iff {bs : List UInt8} (hlen : bs.length = n) :
    m.load p n = bs ↔ ∀ k (h : k < bs.length), m (p + k) = bs[k] := by
  constructor
  · rintro rfl k h
    simp [load]
  · intro h
    refine List.ext_getElem (by simp [hlen]) fun k hk hk' => ?_
    simpa [load] using h k hk'

/-- **The frame rule.** A range that two memories agree on reads the same in both. -/
theorem load_of_unchanged (h : ∀ k < n, m' (p + k) = m (p + k)) : m'.load p n = m.load p n := by
  refine List.map_congr_left fun k hk => h k (List.mem_range.mp hk)

theorem load_add (m : FlatMemory) (p n k : ℕ) :
    m.load p (n + k) = m.load p n ++ m.load (p + n) k := by
  simp [load, List.range_add, Nat.add_assoc]

/-- A range inside a filled one. -/
theorem load_fill (m : FlatMemory) (v : UInt8) {p q n k : ℕ} (hle : p ≤ q) (hin : q + k ≤ p + n) :
    (m.fill p n v).load q k = List.replicate k v := by
  rw [load_eq_iff List.length_replicate]
  intro i hi
  have hi : i < k := by simpa using hi
  rw [fill_inside (by omega) (by omega), List.getElem_replicate]

theorem load_storeBytes (m : FlatMemory) (p : ℕ) (bs : List UInt8) :
    (m.storeBytes p bs).load p bs.length = bs := by
  rw [load_eq_iff rfl]
  exact fun k hk => storeBytes_inside hk

/-- Receiving fewer bytes than an array holds leaves the rest of the array alone. -/
theorem load_storeBytes_of_le (m : FlatMemory) (p : ℕ) (h : bs.length ≤ n) :
    (m.storeBytes p bs).load p n =
      bs ++ m.load (p + bs.length) (n - bs.length) := by
  obtain ⟨d, rfl⟩ := Nat.exists_eq_add_of_le h
  rw [load_add, load_storeBytes, Nat.add_sub_cancel_left]
  refine congrArg _ (load_of_unchanged fun k _ => storeBytes_outside (by omega))

end FlatMemory
