import Mathlib.Data.List.Basic
import Mathlib.Logic.Relation

/-!
# Streams and their segmentations

A sender that writes the pieces of a message sequence one after the other, with nothing between
them, leaves a receiver with their concatenation. Cutting a piece in two, or joining two
neighbours, changes the sequence and not the stream. For sequences without empty pieces these are
the only ways to get the same stream again.

## Main results

* `Segmentation.flatten_eq_flatten_iff` — two sequences without empty pieces have the same
  concatenation iff one can be recut into the other
* `Segmentation.length_ne_of_flatten_eq` — different sequences with the same concatenation differ
  in the lengths of their pieces
-/

namespace Segmentation

variable {α : Type*}

/-- Two neighbouring pieces become one. -/
inductive Join : List (List α) → List (List α) → Prop
  /-- The first two pieces. -/
  | head (p q : List α) (xs : List (List α)) : Join (p :: q :: xs) ((p ++ q) :: xs)
  /-- Two later ones. -/
  | tail (p : List α) {xs ys : List (List α)} (h : Join xs ys) : Join (p :: xs) (p :: ys)

/-- One sequence becomes the other by joining neighbours and cutting pieces in two. -/
def Recut : List (List α) → List (List α) → Prop := Relation.EqvGen Join

theorem Join.flatten_eq {xs ys : List (List α)} (h : Join xs ys) : xs.flatten = ys.flatten := by
  induction h with
  | head p q xs => rw [List.flatten_cons, List.flatten_cons, List.flatten_cons, List.append_assoc]
  | tail p _ ih => rw [List.flatten_cons, List.flatten_cons, ih]

/-- Recutting does not change the stream. -/
theorem Recut.flatten_eq {xs ys : List (List α)} (h : Recut xs ys) : xs.flatten = ys.flatten := by
  induction h with
  | rel xs ys h => exact h.flatten_eq
  | refl xs => rfl
  | symm xs ys _ ih => exact ih.symm
  | trans xs ys zs _ _ ih₁ ih₂ => exact ih₁.trans ih₂

theorem Recut.cons (p : List α) {xs ys : List (List α)} (h : Recut xs ys) :
    Recut (p :: xs) (p :: ys) := by
  induction h with
  | rel xs ys h => exact .rel _ _ (.tail p h)
  | refl xs => exact .refl _
  | symm xs ys _ ih => exact .symm _ _ ih
  | trans xs ys zs _ _ ih₁ ih₂ => exact .trans _ _ _ ih₁ ih₂

/-- A sequence of at least one piece can be joined into a single piece. -/
theorem recut_singleton (p : List α) (xs : List (List α)) :
    Recut (p :: xs) [(p :: xs).flatten] := by
  induction xs generalizing p with
  | nil =>
    rw [List.flatten_cons, List.flatten_nil, List.append_nil]
    exact .refl _
  | cons q xs ih =>
    have hjoin : Recut [p, (q :: xs).flatten] [p ++ (q :: xs).flatten] := .rel _ _ (.head _ _ [])
    exact .trans _ _ _ ((ih q).cons p) hjoin

/-- **Same stream, recut sequence.** -/
theorem flatten_eq_flatten_iff {xs ys : List (List α)} (hxs : [] ∉ xs) (hys : [] ∉ ys) :
    xs.flatten = ys.flatten ↔ Recut xs ys := by
  refine ⟨fun h => ?_, Recut.flatten_eq⟩
  have hnil : ∀ {zs : List (List α)}, [] ∉ zs → zs.flatten = [] → zs = [] := by
    intro zs hzs hflat
    rw [List.flatten_eq_nil_iff] at hflat
    refine List.eq_nil_iff_forall_not_mem.mpr fun p hp => hzs ?_
    rwa [← hflat p hp]
  match xs, ys with
  | [], ys =>
    rw [hnil hys h.symm]
    exact .refl _
  | xs, [] =>
    rw [hnil hxs h]
    exact .refl _
  | p :: xs, q :: ys =>
    have hleft := recut_singleton p xs
    rw [h] at hleft
    exact .trans _ _ _ hleft (.symm _ _ (recut_singleton q ys))

/-- A receiver that knew the lengths could cut the stream. -/
theorem length_ne_of_flatten_eq {xs ys : List (List α)} (hne : xs ≠ ys)
    (h : xs.flatten = ys.flatten) : xs.map List.length ≠ ys.map List.length :=
  fun hlen => hne (List.eq_iff_flatten_eq.mpr ⟨h, hlen⟩)

end Segmentation
