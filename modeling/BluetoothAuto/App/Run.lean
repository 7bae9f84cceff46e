import BluetoothAuto.App.Handshake
import BluetoothAuto.App.Write

/-!
# `ConnectedThread.run`

`run` begins the handshake, carries it out, and then calls `write` once a second for ever. What
goes wrong before the loop is caught and printed: an `SSLException` from `beginHandshake`, the
result `false` of `doHandshake`, an `IOException` from it. None of them keeps `run` from entering
the loop. An unchecked exception ends the thread.

A step of `run` is one call, apart from `doHandshake`, which takes its own steps.

## Main results

* `reaches_write` — if `doHandshake` ends without an unchecked exception, `write` is called
* `fails_closed_iff` — the environments in which `run` calls `write` only after a handshake
-/

namespace BluetoothAuto.App

/-- Where `run` is. -/
inductive RunPc (σ : Type*) where
  /-- Before `ssl.beginHandshake()`. -/
  | beginHandshake (t : ThreadState σ)
  /-- Inside `doHandshake`. -/
  | doHandshake (h : Handshake σ)
  /-- In the loop that calls `write`. -/
  | writing (t : ThreadState σ)
  /-- An unchecked exception has ended the thread. -/
  | ended

/-- The state of `run`, with what the calls so far have come to. -/
structure RunState (σ : Type*) where
  /-- Where it is. -/
  pc : RunPc σ
  /-- How `beginHandshake` has ended. -/
  began : Option BeginAnswer
  /-- How `doHandshake` has ended. -/
  handshaken : Option HandshakeOutcome
  /-- How often `write` has been called. -/
  writes : ℕ
  /-- What `write` has offered to the engine and to the stream. -/
  offered : List SslEvent

namespace RunState

variable {σ : Type*} (E : Environment σ) (fuel : ℕ)

/-- The state in which the thread starts. -/
def start (env : σ) : RunState σ where
  pc := .beginHandshake (.init env)
  began := none
  handshaken := none
  writes := 0
  offered := []

/-- One step of `run`, with `fuel` rounds for each call of `write`. -/
def step (s : RunState σ) : RunState σ :=
  match s.pc with
  | .beginHandshake t =>
    let (a, env) := E.beginHandshake t.env
    let s := { s with began := some a }
    match a with
    | .runtimeException => { s with pc := .ended }
    -- an `SSLException` is printed
    | _ => { s with pc := .doHandshake (.enter E { t with env := env }) }
  | .doHandshake h =>
    match h.pc with
    | .done o =>
      let s := { s with handshaken := some o }
      match o with
      | .runtimeException => { s with pc := .ended }
      -- the result `false` is logged, an `IOException` is printed
      | _ => { s with pc := .writing h.toThreadState }
    | _ => { s with pc := .doHandshake (h.step E) }
  | .writing t =>
    let s := { s with writes := s.writes + 1 }
    match write E fuel testMessage t with
    | none => { s with pc := .ended }
    | some (t', o) =>
      let s := { s with offered := s.offered ++ t'.log.drop t.log.length }
      match o with
      | .runtimeException => { s with pc := .ended }
      -- an `SSLException` is logged, then the next round begins
      | _ => { s with pc := .writing t' }
  | .ended => s

/-- The state after `k` steps of `run`. -/
def run (env : σ) (k : ℕ) : RunState σ := (step E fuel)^[k] (start env)

/-- `beginHandshake` has returned and `doHandshake` has returned `true`. -/
def Connected (s : RunState σ) : Prop :=
  s.began = some .returned ∧ s.handshaken = some (.returned true)

/-- `write` has been called only if the connection is established, and otherwise nothing has been
offered to the engine or the stream. -/
def FailsClosed (s : RunState σ) : Prop :=
  (0 < s.writes → Connected s) ∧ (¬ Connected s → s.offered = [])

/-- `doHandshake` as `run` calls it. -/
def handshake (env : σ) (k : ℕ) : Handshake σ :=
  Handshake.run E { ThreadState.init env with env := (E.beginHandshake env).2 } k

/-- `doHandshake` ends by itself only if the connection is established: what it leaves is an
unchecked exception, or the result `true` after `beginHandshake` has returned. -/
def NoBadEnd (env : σ) : Prop :=
  ∀ k o, (handshake E env k).pc = .done o →
    o = .runtimeException ∨ (E.beginHandshake env).1 = .returned ∧ o = .returned true

/-! ### How the loop is reached -/

variable {E} {env : σ}

/-- `run` inside `doHandshake`. -/
def shaking (E : Environment σ) (env : σ) (k : ℕ) : RunState σ where
  pc := .doHandshake (handshake E env k)
  began := some (E.beginHandshake env).1
  handshaken := none
  writes := 0
  offered := []

theorem handshake_succ (k : ℕ) : handshake E env (k + 1) = (handshake E env k).step E :=
  Function.iterate_succ_apply' ..

/-- `beginHandshake` leads to `doHandshake`, whether it returned or threw an `SSLException`. -/
theorem step_start (hbegin : (E.beginHandshake env).1 ≠ .runtimeException) :
    step E fuel (start env) = shaking E env 0 := by
  simp only [step, start]
  split
  · next h => exact absurd h hbegin
  · rfl

theorem step_shaking {k : ℕ} (hk : ∀ o, (handshake E env k).pc ≠ .done o) :
    step E fuel (shaking E env k) = shaking E env (k + 1) := by
  simp only [step, shaking, handshake_succ]

/-- The steps of `doHandshake` are steps of `run`. -/
theorem run_shaking (hbegin : (E.beginHandshake env).1 ≠ .runtimeException) {k : ℕ}
    (hk : ∀ j < k, ∀ o, (handshake E env j).pc ≠ .done o) :
    run E fuel env (k + 1) = shaking E env k := by
  induction k with
  | zero => exact step_start fuel hbegin
  | succ k ih =>
    rw [run, Function.iterate_succ_apply', ← run, ih fun j hj => hk j (Nat.lt_succ_of_lt hj)]
    exact step_shaking fuel (hk k (Nat.lt_succ_self k))

/-- The first point at which `doHandshake` has ended. -/
theorem exists_first_done {k : ℕ} {o : HandshakeOutcome}
    (hdone : (handshake E env k).pc = .done o) :
    ∃ n, (handshake E env n).pc = .done o ∧ ∀ j < n, ∀ o', (handshake E env j).pc ≠ .done o' := by
  classical
  have hex : ∃ n, ∃ o', (handshake E env n).pc = .done o' := ⟨k, o, hdone⟩
  obtain ⟨o', hfirst⟩ := Nat.find_spec hex
  have hfixed : handshake E env k = handshake E env (Nat.find hex) :=
    Iterate.fixed (Handshake.step_done E hfirst) (Nat.find_min' hex ⟨o, hdone⟩)
  refine ⟨Nat.find hex, by rw [← hfixed, hdone], fun j hj o' hj' => Nat.find_min hex hj ⟨o', hj'⟩⟩

/-- **Nothing keeps `run` from the loop.** If `doHandshake` ends otherwise than by an unchecked
exception, `write` is called, whatever the outcome of `beginHandshake` and `doHandshake`. -/
theorem reaches_write (hbegin : (E.beginHandshake env).1 ≠ .runtimeException) {k : ℕ}
    {o : HandshakeOutcome} (hdone : (handshake E env k).pc = .done o)
    (ho : o ≠ .runtimeException) :
    ∃ n, 0 < (run E fuel env n).writes ∧
      (run E fuel env n).began = some (E.beginHandshake env).1 ∧
      (run E fuel env n).handshaken = some o := by
  obtain ⟨n, hn, hfirst⟩ := exists_first_done hdone
  have hloop : step E fuel (shaking E env n) =
      { shaking E env n with
        pc := .writing (handshake E env n).toThreadState
        handshaken := some o } := by
    simp only [step, shaking, hn]
  refine ⟨n + 3, ?_⟩
  rw [run, Function.iterate_succ_apply', Function.iterate_succ_apply', ← run,
    run_shaking fuel hbegin hfirst, hloop]
  simp only [step, write_eq, shaking]
  exact ⟨Nat.one_pos, trivial, trivial⟩

/-! ### When it is reached only with a connection -/

/-- `write` has not been called. -/
def Idle (s : RunState σ) : Prop := s.writes = 0 ∧ s.offered = []

theorem FailsClosed.of_idle {s : RunState σ} (h : Idle s) : FailsClosed s := by
  refine ⟨?_, fun _ => h.2⟩
  intro hwrites
  exact absurd h.1 hwrites.ne'

theorem FailsClosed.of_connected {s : RunState σ} (h : Connected s) : FailsClosed s := by
  refine ⟨fun _ => h, ?_⟩
  intro hnot
  exact absurd h hnot

/-- What holds at every point of a run of `run` if `doHandshake` has no bad end. -/
def Guarded (E : Environment σ) (env : σ) (s : RunState σ) : Prop :=
  match s.pc with
  | .beginHandshake t => Idle s ∧ t = .init env
  | .doHandshake h =>
    Idle s ∧ s.began = some (E.beginHandshake env).1 ∧
      (E.beginHandshake env).1 ≠ .runtimeException ∧ ∃ k, h = handshake E env k
  | .writing _ => Connected s
  | .ended => Idle s ∨ Connected s

theorem Guarded.failsClosed {s : RunState σ} (h : Guarded E env s) : FailsClosed s := by
  rw [Guarded] at h
  split at h
  · exact .of_idle h.1
  · exact .of_idle h.1
  · exact .of_connected h
  · exact h.elim .of_idle .of_connected

theorem guarded_doHandshake_step (hend : NoBadEnd E env) {s : RunState σ} {k : ℕ} (hidle : Idle s)
    (hbegan : s.began = some (E.beginHandshake env).1)
    (hbegin : (E.beginHandshake env).1 ≠ .runtimeException)
    (hpc : s.pc = .doHandshake (handshake E env k)) : Guarded E env (step E fuel s) := by
  simp only [step, hpc]
  split
  · next o hdone =>
    rcases hend k o hdone with rfl | ⟨hreturned, rfl⟩
    · exact .inl hidle
    · exact ⟨hbegan.trans (congrArg some hreturned), rfl⟩
  · exact ⟨hidle, hbegan, hbegin, k + 1, (handshake_succ k).symm⟩

theorem Guarded.step (hcond : (E.beginHandshake env).1 = .runtimeException ∨ NoBadEnd E env)
    {s : RunState σ} (hs : Guarded E env s) : Guarded E env (step E fuel s) := by
  cases hpc : s.pc with
  | beginHandshake t =>
    rw [Guarded, hpc] at hs
    obtain ⟨hidle, rfl⟩ := hs
    simp only [RunState.step, hpc]
    split
    · exact .inl hidle
    · next hbegin => exact ⟨hidle, rfl, hbegin, 0, rfl⟩
  | doHandshake h =>
    rw [Guarded, hpc] at hs
    obtain ⟨hidle, hbegan, hbegin, k, rfl⟩ := hs
    exact guarded_doHandshake_step fuel (hcond.resolve_left hbegin) hidle hbegan hbegin hpc
  | writing t =>
    rw [Guarded, hpc] at hs
    simp only [RunState.step, hpc, write_eq]
    exact hs
  | ended =>
    rw [RunState.step, hpc]
    exact hs

/-- **Failing closed.** In every state of a run `write` has been called only with a connection, iff
`beginHandshake` throws an unchecked exception or `doHandshake` has no bad end: it neither returns
`false`, nor throws `IOException`, nor ends at all after an `SSLException` from `beginHandshake`,
unless by an unchecked exception. -/
theorem fails_closed_iff (E : Environment σ) (fuel : ℕ) (env : σ) :
    (∀ k, FailsClosed (run E fuel env k)) ↔
      (E.beginHandshake env).1 = .runtimeException ∨ NoBadEnd E env := by
  constructor
  · intro h
    by_contra hcond
    obtain ⟨hbegin, hbad⟩ := not_or.mp hcond
    refine hbad ?_
    intro k o hdone
    rw [or_iff_not_imp_left]
    intro ho
    obtain ⟨n, hwrites, hbegan, hshook⟩ := reaches_write fuel hbegin hdone ho
    obtain ⟨hbegan', hshook'⟩ := (h n).1 hwrites
    exact ⟨Option.some.inj (hbegan.symm.trans hbegan'), Option.some.inj (hshook.symm.trans hshook')⟩
  · intro hcond k
    have hstart : Guarded E env (start env) := ⟨⟨rfl, rfl⟩, rfl⟩
    have hrun : Guarded E env (run E fuel env k) :=
      Iterate.invariant (fun _ hs => Guarded.step fuel hcond hs) hstart k
    exact hrun.failsClosed

/-- `beginHandshake` throws, and the engine is left without a handshake in progress. -/
def refusingEnvironment : Environment Unit :=
  { plainEnvironment with beginHandshake := fun _ => (.sslException, ()) }

/-- Without a handshake `doHandshake` returns `true` at once, and `write` is called. -/
theorem write_without_handshake :
    ¬ ∀ k, FailsClosed (run refusingEnvironment 0 () k) := by
  intro h
  have hdone : (handshake refusingEnvironment () 1).pc = .done (.returned true) := by
    rw [handshake_succ]
    rfl
  obtain ⟨n, hwrites, hbegan, -⟩ := reaches_write 0 (by decide) hdone (by decide)
  obtain ⟨hbegan', -⟩ := (h n).1 hwrites
  cases hbegan.symm.trans hbegan'

end RunState

end BluetoothAuto.App
