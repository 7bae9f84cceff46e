import Mathlib.Data.List.Nodup
import Mathlib.Data.Set.Insert
import Mathlib.Logic.Function.Basic

/-!
# Stores that hand out keys

A store that keeps what it accepts under a key of its own choice is a finite map together with the
set of keys that were ever used: a new entry gets a key outside this set, whichever that is.

`FreshStore.Step` says what each operation may answer and do. `FreshStore.Run` is about a family of
stores, each operation naming the one it is for; the stores of a family have nothing to do with
each other, which is what `Run.component` says.

## Main results

* `FreshStore.Run.component` — what a run of a family does to one store, and what it answers for
  it, is a run of that store alone
-/

universe u v

/-- A map from keys to values, and the keys that were ever used. -/
@[ext] structure FreshStore (κ : Type u) (ν : Type v) where
  /-- The entries. -/
  lookup : κ → Option ν
  /-- The keys used so far. -/
  used : Set κ
  /-- An entry has its key. -/
  used_of_lookup : ∀ k v, lookup k = some v → k ∈ used

namespace FreshStore

variable {κ ν β ε ι : Type*} [DecidableEq κ]

/-- A new entry. -/
def insert (s : FreshStore κ ν) (k : κ) (v : ν) : FreshStore κ ν where
  lookup := Function.update s.lookup k (some v)
  used := Insert.insert k s.used
  used_of_lookup := by
    intro j w hj
    by_cases hjk : j = k
    · exact .inl hjk
    · rw [Function.update_of_ne hjk] at hj
      exact .inr (s.used_of_lookup j w hj)

/-- An entry is removed. Its key stays used. -/
def erase (s : FreshStore κ ν) (k : κ) : FreshStore κ ν where
  lookup := Function.update s.lookup k none
  used := s.used
  used_of_lookup := by
    intro j w hj
    by_cases hjk : j = k
    · rw [hjk, Function.update_self] at hj
      cases hj
    · rw [Function.update_of_ne hjk] at hj
      exact s.used_of_lookup j w hj

/-- A list shows exactly the entries, each of them once. -/
def Enumerates (s : FreshStore κ ν) (rows : List (κ × ν)) : Prop :=
  (rows.map Prod.fst).Nodup ∧ ∀ k v, (k, v) ∈ rows ↔ s.lookup k = some v

/-- What can be asked of a store. The argument of `post` may or may not be acceptable. -/
inductive Op (κ β : Type*) where
  /-- Add an entry. -/
  | post (body : β)
  /-- Show all entries. -/
  | list
  /-- Show one entry. -/
  | get (k : κ)
  /-- Remove one entry. -/
  | delete (k : κ)

/-- The operation with other names for the keys. -/
def Op.mapKey {κ κ' β : Type*} (f : κ → κ') : Op κ β → Op κ' β
  | post body => post body
  | list => list
  | get k => get (f k)
  | delete k => delete (f k)

/-- What a store answers. -/
inductive Answer (κ ν ε : Type*) where
  /-- An entry was added. -/
  | created (k : κ) (v : ν)
  /-- Nothing was added, because of an error. -/
  | refused (e : ε)
  /-- All entries. -/
  | listed (rows : List (κ × ν))
  /-- The entry asked for. -/
  | found (k : κ) (v : ν)
  /-- The entry was removed. -/
  | deleted
  /-- There is no such entry. -/
  | absent

/-- What an operation may answer and do. `accept` gives the value that a `post` adds. -/
inductive Step (accept : β → Except ε ν) (s : FreshStore κ ν) :
    Op κ β → Answer κ ν ε → FreshStore κ ν → Prop
  /-- An acceptable argument is added under a key that was never used. -/
  | created {body : β} {k : κ} {v : ν} (haccept : accept body = .ok v) (hfresh : k ∉ s.used) :
    Step accept s (.post body) (.created k v) (s.insert k v)
  /-- Any other argument changes nothing. -/
  | refused {body : β} {e : ε} (hrefuse : accept body = .error e) :
    Step accept s (.post body) (.refused e) s
  /-- All entries are shown. -/
  | listed {rows : List (κ × ν)} (hrows : s.Enumerates rows) : Step accept s .list (.listed rows) s
  /-- An entry is shown. -/
  | found {k : κ} {v : ν} (hlookup : s.lookup k = some v) :
    Step accept s (.get k) (.found k v) s
  /-- An entry that is not there is not shown. -/
  | getAbsent {k : κ} (hlookup : s.lookup k = none) : Step accept s (.get k) .absent s
  /-- An entry is removed. -/
  | deleted {k : κ} {v : ν} (hlookup : s.lookup k = some v) :
    Step accept s (.delete k) .deleted (s.erase k)
  /-- An entry that is not there is not removed. -/
  | deleteAbsent {k : κ} (hlookup : s.lookup k = none) : Step accept s (.delete k) .absent s

/-! ### Families -/

variable [DecidableEq ι]

/-- A run of a family of stores: every operation is a step of the store it names, and leaves the
others as they are. -/
inductive Run (accept : ι → β → Except ε ν) :
    (ι → FreshStore κ ν) → List (ι × Op κ β) → List (Answer κ ν ε) → (ι → FreshStore κ ν) → Prop
  /-- No operation. -/
  | nil (S : ι → FreshStore κ ν) : Run accept S [] [] S
  /-- One operation, and then others. -/
  | cons {S S' : ι → FreshStore κ ν} {i : ι} {op : Op κ β} {a : Answer κ ν ε} {s : FreshStore κ ν}
    {ops : List (ι × Op κ β)} {as : List (Answer κ ν ε)} (hstep : Step (accept i) (S i) op a s)
    (hrest : Run accept (Function.update S i s) ops as S') :
    Run accept S ((i, op) :: ops) (a :: as) S'

/-- The operations for one store, with their answers. -/
def forStore (i : ι) : List (ι × Op κ β) → List (Answer κ ν ε) → List (Op κ β × Answer κ ν ε)
  | (j, op) :: ops, a :: as => if j = i then (op, a) :: forStore i ops as else forStore i ops as
  | _, _ => []

/-- A run of a single store. -/
inductive RunOne (accept : β → Except ε ν) :
    FreshStore κ ν → List (Op κ β × Answer κ ν ε) → FreshStore κ ν → Prop
  /-- No operation. -/
  | nil (s : FreshStore κ ν) : RunOne accept s [] s
  /-- One operation, and then others. -/
  | cons {s t u : FreshStore κ ν} {op : Op κ β} {a : Answer κ ν ε}
    {rest : List (Op κ β × Answer κ ν ε)} (hstep : Step accept s op a t)
    (hrest : RunOne accept t rest u) : RunOne accept s ((op, a) :: rest) u

/-- **The stores of a family are independent.** What a run does to one store, and what it answers
for it, is a run of that store alone, with the operations for it. -/
theorem Run.component {accept : ι → β → Except ε ν} {S S' : ι → FreshStore κ ν}
    {ops : List (ι × Op κ β)} {as : List (Answer κ ν ε)} (h : Run accept S ops as S') (i : ι) :
    RunOne (accept i) (S i) (forStore i ops as) (S' i) := by
  induction h with
  | nil S => exact .nil _
  | @cons S S' j op a s ops as hstep _ ih =>
    rw [forStore]
    split_ifs with hji
    · subst hji
      rw [Function.update_self] at ih
      exact .cons hstep ih
    · rwa [Function.update_of_ne (Ne.symm hji)] at ih

end FreshStore
