import BluetoothAuto.Lib.ActionSystem
import Mathlib.Data.Int.Order.Basic

/-!
# The parent process

After the app has connected, `main` of either proxy forks two children, one for each direction,
keeps their process ids in two globals, installs a handler for `SIGTERM`, waits for one of the
children to end, and signals the other. The handler signals both. The text is the same in
`proxy.c` and `unsecured_proxy.c`, up to the SSL context that the children get.

The parent, its handler, the two children and whoever sends `SIGTERM` are one `ActionSystem`: every
statement of `main` that touches the globals or the kernel is an action, so that the signal can
arrive between any two of them. What `wait` may return is a parameter of the system.

## Main results

* `kills_own_children_iff` — the parent signals nothing but its children iff no `fork` fails
* `no_orphans_iff` — no child outlives the parent unsignalled iff no `SIGTERM` reaches the parent
  before its handler is installed while a child is running
-/

namespace BluetoothAuto.Supervisor

/-! ### The model -/

/-- A process id as `fork` returns it to the parent. -/
abbrev Pid := {n : ℤ // 0 < n}

/-- The results of the two calls of `fork` in the parent, `none` where the call fails. -/
structure Forks where
  /-- The first call. Its child runs `readGeonet`. -/
  writer : Option Pid
  /-- The second call. Its child runs `writeGeonet`. -/
  reader : Option Pid
  /-- The first child has not been waited for when the second one gets its process id. -/
  distinct : ∀ p, writer = some p → reader ≠ some p

/-- The `int` that a call of `fork` returns to the parent. -/
def forkValue : Option Pid → ℤ
  | some p => p
  | none => -1

theorem forkValue_eq_neg_one {result : Option Pid} : forkValue result = -1 ↔ result = none := by
  cases result with
  | none => exact iff_of_true rfl rfl
  | some p =>
    have hp := p.2
    simp only [forkValue, reduceCtorEq, iff_false]
    omega

/-- Where `main` is. -/
inductive MainPc where
  /-- Before `pid = fork()`. -/
  | fork
  /-- Before `writer_thread_pid = pid`. -/
  | storeWriter
  /-- Before `pid2 = fork()`. -/
  | fork2
  /-- Before `reader_thread_pid = pid2`. -/
  | storeReader
  /-- Before `signal(SIGTERM, sig_handler)`. -/
  | signal
  /-- Before or inside `wait(&status)`. -/
  | wait
  /-- Before the comparisons with the value that `wait` returned. -/
  | waited (ret : ℤ)
  /-- Before the calls of `close` and `return 0`. -/
  | close
  /-- The process has ended. -/
  | ended
deriving DecidableEq

/-- Where `sig_handler` is. `SIGTERM` is blocked while it runs. -/
inductive HandlerPc where
  /-- It is not running. -/
  | idle
  /-- Before `kill(reader_thread_pid, SIGTERM)`. -/
  | killReader
  /-- Before `kill(writer_thread_pid, SIGTERM)`. -/
  | killWriter
deriving DecidableEq

/-- The state of a child. -/
inductive ChildStatus where
  /-- It has not been forked. -/
  | absent
  /-- It is running: neither `readGeonet` nor `writeGeonet` returns. -/
  | running
  /-- It has ended. -/
  | terminated
deriving DecidableEq

/-- The parent and its children. -/
structure Main where
  /-- Where `main` is. -/
  pc : MainPc
  /-- The global `writer_thread_pid`. -/
  writerThreadPid : ℤ
  /-- The global `reader_thread_pid`. -/
  readerThreadPid : ℤ
  /-- `sig_handler` is installed for `SIGTERM`. -/
  handlerInstalled : Bool
  /-- Where the handler is. -/
  handler : HandlerPc
  /-- The child of the first `fork`. -/
  writer : ChildStatus
  /-- The child of the second `fork`. -/
  reader : ChildStatus
  /-- The first arguments of the calls of `kill` so far. -/
  kills : List ℤ

/-- What can happen next. -/
inductive Action where
  /-- `main` executes its next statement. -/
  | main
  /-- `wait` returns. -/
  | waitReturns (ret : ℤ)
  /-- `SIGTERM` is delivered to the parent. -/
  | sigterm
  /-- The handler executes its next statement. -/
  | handler
  /-- The child of the first `fork` ends. -/
  | writerEnds
  /-- The child of the second `fork` ends. -/
  | readerEnds

/-- The app has connected. -/
def start : Main where
  pc := .fork
  writerThreadPid := 0
  readerThreadPid := 0
  handlerInstalled := false
  handler := .idle
  writer := .absent
  reader := .absent
  kills := []

/-- `kill(pid, SIGTERM)`. -/
def Main.kill (s : Main) (pid : ℤ) : Main := { s with kills := s.kills ++ [pid] }

/-- A child is forked unless the call fails. -/
def forked (result : Option Pid) : ChildStatus := if result.isSome then .running else .absent

@[simp] theorem forked_eq_running {result : Option Pid} :
    forked result = .running ↔ result.isSome = true := by
  cases result <;> simp [forked]

@[simp] theorem forked_eq_absent {result : Option Pid} :
    forked result = .absent ↔ result = none := by
  cases result <;> simp [forked]

/-- The comparisons behind `wait`. -/
def compare (s : Main) (ret : ℤ) : Main :=
  if ret = s.readerThreadPid then s.kill s.writerThreadPid
  else if ret = s.writerThreadPid then s.kill s.readerThreadPid
  else s

@[simp] theorem handler_compare (s : Main) (ret : ℤ) : (compare s ret).handler = s.handler := by
  rw [compare]
  split_ifs <;> rfl

/-- The next statement of `main`. -/
def mainStep (forks : Forks) (s : Main) : Option Main :=
  match s.pc with
  | .fork => some { s with pc := .storeWriter, writer := forked forks.writer }
  | .storeWriter => some { s with pc := .fork2, writerThreadPid := forkValue forks.writer }
  | .fork2 => some { s with pc := .storeReader, reader := forked forks.reader }
  | .storeReader => some { s with pc := .signal, readerThreadPid := forkValue forks.reader }
  | .signal => some { s with pc := .wait, handlerInstalled := true }
  | .wait => none
  | .waited ret => some { compare s ret with pc := .close }
  | .close => some { s with pc := .ended }
  | .ended => none

/-- The system. `mayReturn` says which values `wait` may return in a state. -/
def system (forks : Forks) (mayReturn : Main → ℤ → Bool) : ActionSystem Main Action where
  step s
    | .main => if s.handler = .idle then mainStep forks s else none
    | .waitReturns ret =>
      if s.pc = .wait ∧ s.handler = .idle ∧ mayReturn s ret then some { s with pc := .waited ret }
      else none
    | .sigterm =>
      if s.pc = .ended ∨ s.handler ≠ .idle then none
      else if s.handlerInstalled then some { s with handler := .killReader }
      else some { s with pc := .ended }
    | .handler =>
      match s.handler with
      | .idle => none
      | .killReader => some { s.kill s.readerThreadPid with handler := .killWriter }
      | .killWriter => some { s.kill s.writerThreadPid with handler := .idle }
    | .writerEnds => if s.writer = .running then some { s with writer := .terminated } else none
    | .readerEnds => if s.reader = .running then some { s with reader := .terminated } else none

/-- What `wait` may return: the process id of a child that has ended, or `-1` if there is no child
or a signal handler has run meanwhile. -/
def posixWait (forks : Forks) (s : Main) (ret : ℤ) : Bool :=
  (ret = forkValue forks.writer ∧ s.writer = .terminated) ||
  (ret = forkValue forks.reader ∧ s.reader = .terminated) ||
  (ret = -1 ∧ (s.writer = .absent ∧ s.reader = .absent ∨ s.kills ≠ []))

/-! ### What a step can do -/

/-- The effects of the actions. -/
inductive Effect (forks : Forks) (mayReturn : Main → ℤ → Bool) (s : Main) : Action → Main → Prop
  /-- The first `fork`. -/
  | fork (hpc : s.pc = .fork) (hidle : s.handler = .idle) :
    Effect forks mayReturn s .main { s with pc := .storeWriter, writer := forked forks.writer }
  /-- `writer_thread_pid = pid`. -/
  | storeWriter (hpc : s.pc = .storeWriter) (hidle : s.handler = .idle) :
    Effect forks mayReturn s .main
      { s with pc := .fork2, writerThreadPid := forkValue forks.writer }
  /-- The second `fork`. -/
  | fork2 (hpc : s.pc = .fork2) (hidle : s.handler = .idle) :
    Effect forks mayReturn s .main { s with pc := .storeReader, reader := forked forks.reader }
  /-- `reader_thread_pid = pid2`. -/
  | storeReader (hpc : s.pc = .storeReader) (hidle : s.handler = .idle) :
    Effect forks mayReturn s .main
      { s with pc := .signal, readerThreadPid := forkValue forks.reader }
  /-- The handler is installed. -/
  | signal (hpc : s.pc = .signal) (hidle : s.handler = .idle) :
    Effect forks mayReturn s .main { s with pc := .wait, handlerInstalled := true }
  /-- `wait` returns. -/
  | waitReturns {ret : ℤ} (hpc : s.pc = .wait) (hidle : s.handler = .idle)
    (hret : mayReturn s ret = true) :
    Effect forks mayReturn s (.waitReturns ret) { s with pc := .waited ret }
  /-- The comparisons. -/
  | compare {ret : ℤ} (hpc : s.pc = .waited ret) (hidle : s.handler = .idle) :
    Effect forks mayReturn s .main { compare s ret with pc := .close }
  /-- `main` returns. -/
  | close (hpc : s.pc = .close) (hidle : s.handler = .idle) :
    Effect forks mayReturn s .main { s with pc := .ended }
  /-- `SIGTERM` starts the handler. -/
  | handle (hpc : s.pc ≠ .ended) (hidle : s.handler = .idle) (hinst : s.handlerInstalled = true) :
    Effect forks mayReturn s .sigterm { s with handler := .killReader }
  /-- `SIGTERM` ends the process. -/
  | killed (hpc : s.pc ≠ .ended) (hidle : s.handler = .idle)
    (hinst : s.handlerInstalled = false) :
    Effect forks mayReturn s .sigterm { s with pc := .ended }
  /-- The first statement of the handler. -/
  | killReader (hpc : s.handler = .killReader) :
    Effect forks mayReturn s .handler
      { s.kill s.readerThreadPid with handler := .killWriter }
  /-- The second one. -/
  | killWriter (hpc : s.handler = .killWriter) :
    Effect forks mayReturn s .handler { s.kill s.writerThreadPid with handler := .idle }
  /-- The first child ends. -/
  | writerEnds (hrun : s.writer = .running) :
    Effect forks mayReturn s .writerEnds { s with writer := .terminated }
  /-- The second child ends. -/
  | readerEnds (hrun : s.reader = .running) :
    Effect forks mayReturn s .readerEnds { s with reader := .terminated }

variable {forks : Forks} {mayReturn : Main → ℤ → Bool} {s t : Main} {a : Action}

theorem effect_of_mainStep (hidle : s.handler = .idle) (h : mainStep forks s = some t) :
    Effect forks mayReturn s .main t := by
  rw [mainStep] at h
  split at h <;> cases h
  next hpc => exact .fork hpc hidle
  next hpc => exact .storeWriter hpc hidle
  next hpc => exact .fork2 hpc hidle
  next hpc => exact .storeReader hpc hidle
  next hpc => exact .signal hpc hidle
  next hpc => exact .compare hpc hidle
  next hpc => exact .close hpc hidle

/-- Every step has one of the effects. -/
theorem effect_of_step (h : (system forks mayReturn).step s a = some t) :
    Effect forks mayReturn s a t := by
  cases a with
  | main =>
    simp only [system] at h
    split at h
    · next hidle => exact effect_of_mainStep hidle h
    · cases h
  | waitReturns ret =>
    simp only [system] at h
    split at h <;> cases h
    next hret => exact .waitReturns hret.1 hret.2.1 hret.2.2
  | sigterm =>
    simp only [system] at h
    split at h
    · cases h
    · next hon =>
      rw [not_or, ne_eq, not_not] at hon
      split at h <;> cases h
      · next hinst => exact .handle hon.1 hon.2 hinst
      · next hinst => exact .killed hon.1 hon.2 (Bool.eq_false_iff.mpr hinst)
  | handler =>
    simp only [system] at h
    split at h <;> cases h
    next hpc => exact .killReader hpc
    next hpc => exact .killWriter hpc
  | writerEnds =>
    simp only [system] at h
    split at h <;> cases h
    next hrun => exact .writerEnds hrun
  | readerEnds =>
    simp only [system] at h
    split at h <;> cases h
    next hrun => exact .readerEnds hrun

/-! ### The globals -/

/-- The handler is not installed yet. -/
def MainPc.early : MainPc → Bool
  | .fork | .storeWriter | .fork2 | .storeReader | .signal => true
  | .wait | .waited _ | .close | .ended => false

/-- From the installation of the handler on, the globals hold the results of `fork`, and only they
are signalled. -/
structure Globals (forks : Forks) (s : Main) : Prop where
  /-- The handler is installed behind `signal`. -/
  installed : s.pc ≠ .ended → (s.handlerInstalled = true ↔ s.pc.early = false)
  /-- Before that, it does not run. -/
  quiet : s.handlerInstalled = false → s.handler = .idle ∧ s.kills = []
  /-- The first global. -/
  writerThreadPid :
    s.handlerInstalled = true ∨ s.pc = .fork2 ∨ s.pc = .storeReader ∨ s.pc = .signal →
      s.writerThreadPid = forkValue forks.writer
  /-- The second global. -/
  readerThreadPid : s.handlerInstalled = true ∨ s.pc = .signal →
    s.readerThreadPid = forkValue forks.reader
  /-- The calls of `kill`. -/
  kills : ∀ k ∈ s.kills, k = forkValue forks.writer ∨ k = forkValue forks.reader

theorem Globals.start : Globals forks start := by
  constructor <;> simp [Supervisor.start, MainPc.early]

/-- Before the handler is installed, the globals are being assigned. -/
theorem Globals.early (hpc : s.pc.early = true) (hinst : s.handlerInstalled = false)
    (hidle : s.handler = .idle) (hkills : s.kills = [])
    (hwriter : s.pc = .fork2 ∨ s.pc = .storeReader ∨ s.pc = .signal →
      s.writerThreadPid = forkValue forks.writer)
    (hreader : s.pc = .signal → s.readerThreadPid = forkValue forks.reader) :
    Globals forks s where
  installed _ := by simp [hinst, hpc]
  quiet _ := ⟨hidle, hkills⟩
  writerThreadPid h := hwriter (h.resolve_left (by simp [hinst]))
  readerThreadPid h := hreader (h.resolve_left (by simp [hinst]))
  kills := by simp [hkills]

/-- Once the handler is installed, the globals are not assigned any more. -/
theorem Globals.late (hpc : s.pc.early = false) (hinst : s.handlerInstalled = true)
    (hwriter : s.writerThreadPid = forkValue forks.writer)
    (hreader : s.readerThreadPid = forkValue forks.reader)
    (hkills : ∀ k ∈ s.kills, k = forkValue forks.writer ∨ k = forkValue forks.reader) :
    Globals forks s where
  installed _ := iff_of_true hinst hpc
  quiet h := absurd (hinst.symm.trans h) (by decide)
  writerThreadPid _ := hwriter
  readerThreadPid _ := hreader
  kills := hkills

theorem Globals.notInstalled (hs : Globals forks s) (hpc : s.pc.early = true) :
    s.handlerInstalled = false := by
  have hne : s.pc ≠ .ended := by
    intro h
    rw [h] at hpc
    cases hpc
  rw [Bool.eq_false_iff, ne_eq, hs.installed hne, hpc]
  decide

theorem Globals.isInstalled (hs : Globals forks s) (hpc : s.pc.early = false)
    (hne : s.pc ≠ .ended) : s.handlerInstalled = true :=
  (hs.installed hne).mpr hpc

/-- A handler that is running is installed. -/
theorem Globals.installed_of_running (hs : Globals forks s) (h : s.handler ≠ .idle) :
    s.handlerInstalled = true := by
  by_contra hinst
  exact h (hs.quiet (Bool.eq_false_iff.mpr hinst)).1

/-- The values of the globals, once the handler is installed. -/
theorem Globals.values (hs : Globals forks s) (hinst : s.handlerInstalled = true) :
    s.writerThreadPid = forkValue forks.writer ∧ s.readerThreadPid = forkValue forks.reader :=
  ⟨hs.writerThreadPid (.inl hinst), hs.readerThreadPid (.inl hinst)⟩

/-- A `kill` with the value of a global. -/
theorem Globals.kills_append (hs : Globals forks s) {pid : ℤ}
    (hpid : pid = forkValue forks.writer ∨ pid = forkValue forks.reader) :
    ∀ k ∈ s.kills ++ [pid], k = forkValue forks.writer ∨ k = forkValue forks.reader := by
  rw [List.forall_mem_append, List.forall_mem_singleton]
  exact ⟨hs.kills, hpid⟩

/-- The comparisons signal nothing, or the value of a global. -/
theorem compare_cases (s : Main) (ret : ℤ) :
    compare s ret = s ∨ ∃ pid, (pid = s.writerThreadPid ∨ pid = s.readerThreadPid) ∧
      compare s ret = s.kill pid := by
  rw [compare]
  split_ifs
  · exact .inr ⟨_, .inl rfl, rfl⟩
  · exact .inr ⟨_, .inr rfl, rfl⟩
  · exact .inl rfl

theorem Globals.step (hs : Globals forks s) (h : Effect forks mayReturn s a t) :
    Globals forks t := by
  cases h with
  | fork hpc hidle | storeWriter hpc hidle | fork2 hpc hidle | storeReader hpc hidle =>
    have hinst := hs.notInstalled (by rw [hpc]; rfl)
    have hkills := (hs.quiet hinst).2
    have hwriter := hs.writerThreadPid
    refine .early rfl hinst hidle hkills ?_ ?_ <;> simp_all
  | signal hpc hidle =>
    have hinst := hs.notInstalled (by rw [hpc]; rfl)
    exact .late rfl rfl (hs.writerThreadPid (.inr (.inr (.inr hpc))))
      (hs.readerThreadPid (.inr hpc)) hs.kills
  | waitReturns hpc | close hpc =>
    have hinst := hs.isInstalled (by rw [hpc]; rfl) (by simp [hpc])
    obtain ⟨hwriter, hreader⟩ := hs.values hinst
    exact .late rfl hinst hwriter hreader hs.kills
  | compare hpc =>
    have hinst := hs.isInstalled (by rw [hpc]; rfl) (by simp [hpc])
    obtain ⟨hwriter, hreader⟩ := hs.values hinst
    obtain heq | ⟨pid, hpid, heq⟩ := compare_cases s _
    · rw [heq]
      exact .late rfl hinst hwriter hreader hs.kills
    · rw [heq]
      rw [hwriter, hreader] at hpid
      exact .late rfl hinst hwriter hreader (hs.kills_append hpid)
  | handle hpc hidle hinst =>
    exact ⟨hs.installed, fun h => absurd (hinst.symm.trans h) (by decide), hs.writerThreadPid,
      hs.readerThreadPid, hs.kills⟩
  | killed hpc hidle hinst =>
    exact ⟨fun h => absurd rfl h, hs.quiet, fun h => hs.writerThreadPid (.inl (by simpa using h)),
      fun h => hs.readerThreadPid (.inl (by simpa using h)), hs.kills⟩
  | killReader hpc =>
    have hinst := hs.installed_of_running (by simp [hpc])
    exact ⟨hs.installed, fun h => absurd (hinst.symm.trans h) (by decide), hs.writerThreadPid,
      hs.readerThreadPid, hs.kills_append (.inr (hs.values hinst).2)⟩
  | killWriter hpc =>
    have hinst := hs.installed_of_running (by simp [hpc])
    exact ⟨hs.installed, fun h => absurd (hinst.symm.trans h) (by decide), hs.writerThreadPid,
      hs.readerThreadPid, hs.kills_append (.inl (hs.values hinst).1)⟩
  | writerEnds | readerEnds =>
    exact ⟨hs.installed, hs.quiet, hs.writerThreadPid, hs.readerThreadPid, hs.kills⟩

/-! ### Whom the parent signals -/

/-- Every `kill` so far was addressed to a process id, and to one that a `fork` returned. -/
def KillsOwnChildren (forks : Forks) (s : Main) : Prop :=
  ∀ k ∈ s.kills, ∃ p : Pid, k = p ∧ (forks.writer = some p ∨ forks.reader = some p)

/-- A process id is what `fork` returned, unless it failed. -/
theorem exists_pid_of_isSome {result : Option Pid} (h : result.isSome = true) :
    ∃ p : Pid, forkValue result = p ∧ result = some p := by
  obtain ⟨p, rfl⟩ := Option.isSome_iff_exists.mp h
  exact ⟨p, rfl, rfl⟩

/-- The state in which `main` waits, before anything else has happened. -/
def waiting (forks : Forks) : Main where
  pc := .wait
  writerThreadPid := forkValue forks.writer
  readerThreadPid := forkValue forks.reader
  handlerInstalled := true
  handler := .idle
  writer := forked forks.writer
  reader := forked forks.reader
  kills := []

theorem run_to_wait (forks : Forks) (mayReturn : Main → ℤ → Bool) :
    (system forks mayReturn).run start (List.replicate 5 .main) = some (waiting forks) := rfl

/-- A `SIGTERM` while `main` waits makes the handler signal both values. -/
theorem run_handler (forks : Forks) (mayReturn : Main → ℤ → Bool) :
    (system forks mayReturn).run (waiting forks) [.sigterm, .handler, .handler] =
      some { waiting forks with kills := [forkValue forks.reader, forkValue forks.writer] } := rfl

/-- **Whom the parent signals.** Whatever `wait` may return, no schedule makes the parent signal
anything but its children iff neither `fork` fails. -/
theorem kills_own_children_iff (forks : Forks) (mayReturn : Main → ℤ → Bool) :
    (∀ as s, (system forks mayReturn).run start as = some s → KillsOwnChildren forks s) ↔
      forks.writer.isSome = true ∧ forks.reader.isSome = true := by
  constructor
  · intro h
    have hrun := ActionSystem.run_append _ (run_to_wait forks mayReturn)
      [.sigterm, .handler, .handler]
    rw [run_handler] at hrun
    have hown := h _ _ hrun
    have hne : ∀ {result : Option Pid} {p : Pid}, forkValue result = p → result.isSome = true := by
      intro result p hp
      cases result with
      | some q => rfl
      | none => exact absurd p.2 (by rw [← hp]; decide)
    obtain ⟨p, hp, -⟩ := hown (forkValue forks.reader) (by simp)
    obtain ⟨q, hq, -⟩ := hown (forkValue forks.writer) (by simp)
    exact ⟨hne hq, hne hp⟩
  · rintro ⟨hwriter, hreader⟩ as s hrun k hk
    have hs := (system forks mayReturn).run_invariant
      (fun _ _ _ hs hstep => hs.step (effect_of_step hstep)) Globals.start hrun
    rcases hs.kills k hk with rfl | rfl
    · obtain ⟨p, hp, hres⟩ := exists_pid_of_isSome hwriter
      exact ⟨p, hp, .inl hres⟩
    · obtain ⟨p, hp, hres⟩ := exists_pid_of_isSome hreader
      exact ⟨p, hp, .inr hres⟩

/-- The first `fork` fails, the second child ends, and `main` signals every process. -/
theorem failed_fork_signals_all :
    ¬ ∀ (forks : Forks) (as : List Action) (s : Main),
      (system forks (posixWait forks)).run start as = some s → KillsOwnChildren forks s := by
  intro h
  let forks : Forks := ⟨none, some ⟨101, by decide⟩, fun _ h => by cases h⟩
  have hown := h forks (List.replicate 5 .main ++ [.readerEnds, .waitReturns 101, .main]) _ rfl
  obtain ⟨p, hp, -⟩ := hown (-1) List.mem_cons_self
  exact absurd p.2 (by rw [← hp]; decide)

/-! ### Whom the parent leaves behind -/

/-- A child is covered if it has ended, or been signalled. -/
def Covered (result : Option Pid) (child : ChildStatus) (kills : List ℤ) : Prop :=
  child = .running → ∃ p, result = some p ∧ (p : ℤ) ∈ kills

/-- Once the parent has ended, every child it forked has ended or been sent `SIGTERM`. -/
def NoOrphans (forks : Forks) (s : Main) : Prop :=
  s.pc = .ended → Covered forks.writer s.writer s.kills ∧ Covered forks.reader s.reader s.kills

/-- The signal does not hit a parent without handler that has a running child. -/
def Timely (s : Main) : Action → Prop
  | .sigterm => s.handlerInstalled = true ∨ s.writer ≠ .running ∧ s.reader ≠ .running
  | _ => True

/-- A child exists exactly behind its `fork`, and only if that returned a process id. -/
structure Existing (forks : Forks) (s : Main) : Prop where
  /-- The first child runs only if it was forked. -/
  writerForked : s.writer = .running → forks.writer.isSome = true
  /-- So does the second. -/
  readerForked : s.reader = .running → forks.reader.isSome = true
  /-- Behind the first `fork`, the first child is absent only if the call failed. -/
  writerAbsent : s.pc ≠ .fork → s.pc ≠ .ended → s.writer = .absent → forks.writer = none
  /-- Behind the second `fork`, so is the second child. -/
  readerAbsent : s.pc ≠ .fork → s.pc ≠ .storeWriter → s.pc ≠ .fork2 → s.pc ≠ .ended →
    s.reader = .absent → forks.reader = none

theorem Existing.start : Existing forks start := by
  constructor <;> simp [Supervisor.start]

@[simp] theorem writer_compare (s : Main) (ret : ℤ) : (compare s ret).writer = s.writer := by
  obtain heq | ⟨pid, -, heq⟩ := compare_cases s ret
  · rw [heq]
  · rw [heq]
    rfl

@[simp] theorem reader_compare (s : Main) (ret : ℤ) : (compare s ret).reader = s.reader := by
  obtain heq | ⟨pid, -, heq⟩ := compare_cases s ret
  · rw [heq]
  · rw [heq]
    rfl

/-- Where `main` goes on behind both calls of `fork`, the children are as they were. -/
theorem Existing.late (hs : Existing forks s) (hfork : s.pc ≠ .fork)
    (hstore : s.pc ≠ .storeWriter) (hfork2 : s.pc ≠ .fork2) (hended : s.pc ≠ .ended)
    (hwriter : t.writer = s.writer) (hreader : t.reader = s.reader) : Existing forks t where
  writerForked h := hs.writerForked (hwriter.symm.trans h)
  readerForked h := hs.readerForked (hreader.symm.trans h)
  writerAbsent _ _ h := hs.writerAbsent hfork hended (hwriter.symm.trans h)
  readerAbsent _ _ _ _ h :=
    hs.readerAbsent hfork hstore hfork2 hended (hreader.symm.trans h)

theorem Existing.step (hs : Existing forks s) (h : Effect forks mayReturn s a t) :
    Existing forks t := by
  cases h with
  | fork hpc =>
    exact ⟨forked_eq_running.mp, hs.readerForked, fun _ _ => forked_eq_absent.mp,
      fun _ h => absurd rfl h⟩
  | storeWriter hpc =>
    exact ⟨hs.writerForked, hs.readerForked,
      fun _ _ => hs.writerAbsent (by simp [hpc]) (by simp [hpc]), fun _ _ h => absurd rfl h⟩
  | fork2 hpc =>
    exact ⟨hs.writerForked, forked_eq_running.mp,
      fun _ _ => hs.writerAbsent (by simp [hpc]) (by simp [hpc]),
      fun _ _ _ _ => forked_eq_absent.mp⟩
  | storeReader hpc | signal hpc | waitReturns hpc | compare hpc | close hpc =>
    refine hs.late ?_ ?_ ?_ ?_ ?_ ?_ <;> simp [hpc]
  | killed => exact ⟨hs.writerForked, hs.readerForked, fun _ h => absurd rfl h,
      fun _ _ _ h => absurd rfl h⟩
  | handle | killReader | killWriter =>
    exact ⟨hs.writerForked, hs.readerForked, hs.writerAbsent, hs.readerAbsent⟩
  | writerEnds => exact ⟨nofun, hs.readerForked, fun _ _ => nofun, hs.readerAbsent⟩
  | readerEnds => exact ⟨hs.writerForked, nofun, hs.writerAbsent, fun _ _ _ _ => nofun⟩

/-- Both values of `fork` have been signalled. -/
def Signalled (forks : Forks) (s : Main) : Prop :=
  forkValue forks.writer ∈ s.kills ∧ forkValue forks.reader ∈ s.kills

/-- What `main` knows from the value that `wait` returned. -/
def Explained (forks : Forks) (s : Main) (ret : ℤ) : Prop :=
  (ret = forkValue forks.writer ∧ s.writer = .terminated) ∨
    (ret = forkValue forks.reader ∧ s.reader = .terminated) ∨
    (ret = -1 ∧ (s.writer = .absent ∧ s.reader = .absent ∨ Signalled forks s))

/-- Both children are covered. -/
def BothCovered (forks : Forks) (s : Main) : Prop :=
  Covered forks.writer s.writer s.kills ∧ Covered forks.reader s.reader s.kills

/-- What the parent has achieved by the time it gets to a statement. -/
structure Progress (forks : Forks) (s : Main) : Prop where
  /-- Between its two statements, the handler has signalled one value. -/
  halfway : s.handler = .killWriter → forkValue forks.reader ∈ s.kills
  /-- Where `main` waits, the handler has not run or signalled both. -/
  waiting : s.pc = .wait → s.handler = .idle → s.kills = [] ∨ Signalled forks s
  /-- Behind `wait`, its value can be explained. -/
  waited : ∀ ret, s.pc = .waited ret → Explained forks s ret
  /-- Behind the comparisons, nothing is left to be done. -/
  close : s.pc = .close → BothCovered forks s
  /-- Nor has a parent that returned from `main` left anything. -/
  ended : s.pc = .ended → s.handlerInstalled = true → BothCovered forks s

theorem covered_of_mem {result : Option Pid} {child : ChildStatus} {kills : List ℤ}
    (hforked : child = .running → result.isSome = true) (h : forkValue result ∈ kills) :
    Covered result child kills := by
  intro hrun
  obtain ⟨p, hp, hres⟩ := exists_pid_of_isSome (hforked hrun)
  exact ⟨p, hres, hp ▸ h⟩

theorem covered_of_terminated {result : Option Pid} {child : ChildStatus} {kills : List ℤ}
    (h : child = .terminated) : Covered result child kills := by
  intro hrun
  cases h.symm.trans hrun

/-- A child is covered if both values have been signalled. -/
theorem bothCovered_of_signalled (he : Existing forks s) (h : Signalled forks s) :
    BothCovered forks s :=
  ⟨covered_of_mem he.writerForked h.1, covered_of_mem he.readerForked h.2⟩

theorem covered_of_failed {result : Option Pid} {child : ChildStatus} {kills : List ℤ}
    (hforked : child = .running → result.isSome = true) (h : forkValue result = -1) :
    Covered result child kills := by
  intro hrun
  rw [forkValue_eq_neg_one.mp h] at hforked
  cases hforked hrun

/-- **The comparisons leave no child behind**, given a value of `wait` that can be explained. -/
theorem bothCovered_compare {ret : ℤ} (hpc : s.pc = .waited ret) (hg : Globals forks s)
    (he : Existing forks s) (hret : Explained forks s ret) :
    BothCovered forks (compare s ret) := by
  have hinst : s.handlerInstalled = true :=
    (hg.installed (by simp [hpc])).mpr (by rw [hpc, MainPc.early])
  have hw := hg.writerThreadPid (.inl hinst)
  have hr := hg.readerThreadPid (.inl hinst)
  rw [compare, hw, hr]
  split_ifs with hreader hwriter
  · -- the first value is signalled
    refine ⟨covered_of_mem he.writerForked (by simp [Main.kill]), ?_⟩
    rcases hret with ⟨hret, -⟩ | ⟨-, hend⟩ | ⟨hret, -⟩
    · exact covered_of_mem he.readerForked (by simp [Main.kill, ← hreader, hret])
    · exact covered_of_terminated hend
    · exact covered_of_failed he.readerForked (hreader.symm.trans hret)
  · -- the second value is signalled
    refine ⟨?_, covered_of_mem he.readerForked (by simp [Main.kill])⟩
    rcases hret with ⟨-, hend⟩ | ⟨hret, -⟩ | ⟨hret, -⟩
    · exact covered_of_terminated hend
    · exact absurd hret hreader
    · exact covered_of_failed he.writerForked (hwriter.symm.trans hret)
  · -- the wait failed
    rcases hret with ⟨hret, -⟩ | ⟨hret, -⟩ | ⟨hret, ⟨habsent, -⟩ | hsig⟩
    · exact absurd hret hwriter
    · exact absurd hret hreader
    · have hnone := he.writerAbsent (by simp [hpc]) (by simp [hpc]) habsent
      exact absurd (hret.trans (forkValue_eq_neg_one.mpr hnone).symm) hwriter
    · exact bothCovered_of_signalled he hsig

theorem Progress.start : Progress forks start := by
  constructor <;> simp [Supervisor.start]

/-- What happens while `main` stands still: values are signalled and children end. -/
structure Later (s t : Main) : Prop where
  /-- No `kill` is taken back. -/
  kills : ∀ k ∈ s.kills, k ∈ t.kills
  /-- The first child may end. -/
  writer : t.writer = s.writer ∨ s.writer = .running ∧ t.writer = .terminated
  /-- So may the second. -/
  reader : t.reader = s.reader ∨ s.reader = .running ∧ t.reader = .terminated

theorem Later.signalled (h : Later s t) (hs : Signalled forks s) : Signalled forks t :=
  ⟨h.kills _ hs.1, h.kills _ hs.2⟩

theorem covered_later {result : Option Pid} {child child' : ChildStatus} {kills kills' : List ℤ}
    (hkills : ∀ k ∈ kills, k ∈ kills')
    (hchild : child' = child ∨ child = .running ∧ child' = .terminated)
    (h : Covered result child kills) : Covered result child' kills' := by
  rcases hchild with rfl | ⟨-, hend⟩
  · intro hrun
    obtain ⟨p, hp, hmem⟩ := h hrun
    exact ⟨p, hp, hkills _ hmem⟩
  · exact covered_of_terminated hend

theorem Later.bothCovered (h : Later s t) (hs : BothCovered forks s) : BothCovered forks t :=
  ⟨covered_later h.kills h.writer hs.1, covered_later h.kills h.reader hs.2⟩

theorem eq_of_later {child child' : ChildStatus} (hne : child ≠ .running)
    (h : child' = child ∨ child = .running ∧ child' = .terminated) : child' = child :=
  h.resolve_right fun hrun => hne hrun.1

theorem Later.explained (h : Later s t) {ret : ℤ} (hs : Explained forks s ret) :
    Explained forks t ret := by
  rcases hs with ⟨hret, hend⟩ | ⟨hret, hend⟩ | ⟨hret, ⟨hw, hr⟩ | hsig⟩
  · exact .inl ⟨hret, (eq_of_later (by simp [hend]) h.writer).trans hend⟩
  · exact .inr (.inl ⟨hret, (eq_of_later (by simp [hend]) h.reader).trans hend⟩)
  · exact .inr (.inr ⟨hret, .inl ⟨(eq_of_later (by simp [hw]) h.writer).trans hw,
      (eq_of_later (by simp [hr]) h.reader).trans hr⟩⟩)
  · exact .inr (.inr ⟨hret, .inr (h.signalled hsig)⟩)

/-- While `main` stands still, only the handler has to be looked at. -/
theorem Progress.later (hs : Progress forks s) (h : Later s t) (hpc : t.pc = s.pc)
    (hinst : t.handlerInstalled = s.handlerInstalled)
    (hhalfway : t.handler = .killWriter → forkValue forks.reader ∈ t.kills)
    (hwaiting : t.pc = .wait → t.handler = .idle → t.kills = [] ∨ Signalled forks t) :
    Progress forks t where
  halfway := hhalfway
  waiting := hwaiting
  waited ret hret := h.explained (hs.waited ret (hpc.symm.trans hret))
  close hclose := h.bothCovered (hs.close (hpc.symm.trans hclose))
  ended hended hinst' :=
    h.bothCovered (hs.ended (hpc.symm.trans hended) (hinst.symm.trans hinst'))

/-- What `wait` returns can be explained. -/
theorem explained_of_posixWait {ret : ℤ} (h : posixWait forks s ret = true)
    (hwaiting : s.kills = [] ∨ Signalled forks s) : Explained forks s ret := by
  simp only [posixWait, Bool.or_eq_true, decide_eq_true_eq] at h
  rcases h with (hw | hr) | ⟨hret, habsent | hkills⟩
  · exact .inl hw
  · exact .inr (.inl hr)
  · exact .inr (.inr ⟨hret, .inl habsent⟩)
  · exact .inr (.inr ⟨hret, .inr (hwaiting.resolve_left hkills)⟩)

theorem Progress.step (hs : Progress forks s) (hg : Globals forks s) (he : Existing forks s)
    (h : Effect forks (posixWait forks) s a t) : Progress forks t := by
  cases h with
  | fork hpc hidle | storeWriter hpc hidle | fork2 hpc hidle | storeReader hpc hidle =>
    exact ⟨hs.halfway, nofun, nofun, nofun, nofun⟩
  | signal hpc hidle =>
    have hkills := (hg.quiet (hg.notInstalled (by rw [hpc]; rfl))).2
    exact ⟨hs.halfway, fun _ _ => .inl hkills, nofun, nofun, nofun⟩
  | waitReturns hpc hidle hret =>
    have hexplained := explained_of_posixWait hret (hs.waiting hpc hidle)
    refine ⟨hs.halfway, nofun, fun ret hpc' => ?_, nofun, nofun⟩
    obtain rfl := MainPc.waited.inj hpc'
    exact hexplained
  | compare hpc hidle =>
    have hboth := bothCovered_compare hpc hg he (hs.waited _ hpc)
    exact ⟨by simp [hidle], nofun, nofun, fun _ => hboth, nofun⟩
  | close hpc hidle => exact ⟨hs.halfway, nofun, nofun, nofun, fun _ _ => hs.close hpc⟩
  | handle hpc hidle hinst =>
    exact hs.later ⟨fun _ => id, .inl rfl, .inl rfl⟩ rfl rfl nofun fun _ => nofun
  | killed hpc hidle hinst =>
    exact ⟨hs.halfway, nofun, nofun, nofun, fun _ h => absurd (hinst.symm.trans h) (by decide)⟩
  | killReader hpc =>
    have hreader := (hg.values (hg.installed_of_running (by simp [hpc]))).2
    refine hs.later ⟨fun k => List.mem_append_left _, .inl rfl, .inl rfl⟩ rfl rfl
      (fun _ => ?_) fun _ => nofun
    exact List.mem_append_right _ (List.mem_singleton.mpr hreader.symm)
  | killWriter hpc =>
    have hwriter := (hg.values (hg.installed_of_running (by simp [hpc]))).1
    refine hs.later ⟨fun k => List.mem_append_left _, .inl rfl, .inl rfl⟩ rfl rfl nofun
      fun _ _ => .inr ⟨?_, ?_⟩
    · exact List.mem_append_right _ (List.mem_singleton.mpr hwriter.symm)
    · exact List.mem_append_left _ (hs.halfway hpc)
  | writerEnds hrun =>
    exact hs.later ⟨fun _ => id, .inr ⟨hrun, rfl⟩, .inl rfl⟩ rfl rfl hs.halfway hs.waiting
  | readerEnds hrun =>
    exact hs.later ⟨fun _ => id, .inl rfl, .inr ⟨hrun, rfl⟩⟩ rfl rfl hs.halfway hs.waiting

/-- What holds in every state of every run. -/
structure Inv (forks : Forks) (s : Main) : Prop where
  /-- The globals. -/
  globals : Globals forks s
  /-- The children. -/
  existing : Existing forks s
  /-- The parent. -/
  progress : Progress forks s

theorem Inv.start : Inv forks start := ⟨.start, .start, .start⟩

theorem Inv.step (hs : Inv forks s)
    (h : (system forks (posixWait forks)).step s a = some t) : Inv forks t := by
  have heffect := effect_of_step h
  exact ⟨hs.globals.step heffect, hs.existing.step heffect,
    hs.progress.step hs.globals hs.existing heffect⟩

/-- A parent with a handler leaves no child behind. -/
theorem Inv.noOrphans (hs : Inv forks s) (hinst : s.handlerInstalled = true) :
    NoOrphans forks s :=
  fun hpc => hs.progress.ended hpc hinst

/-- A child that runs and has not been signalled is left behind. -/
theorem covered_nil_iff {result : Option Pid} {child : ChildStatus} :
    Covered result child [] ↔ child ≠ .running := by
  refine ⟨fun hcov hrun => ?_, fun h hrun => absurd hrun h⟩
  obtain ⟨p, -, hp⟩ := hcov hrun
  cases hp

/-- A step leaves a child behind iff it is a `SIGTERM` that comes too early. -/
theorem noOrphans_step_iff (hs : Inv forks s) (hno : NoOrphans forks s)
    (h : (system forks (posixWait forks)).step s a = some t) :
    NoOrphans forks t ↔ Timely s a := by
  have hinv := hs.step h
  cases effect_of_step h with
  | handle hpc hidle hinst => exact iff_of_true (fun h => absurd h hpc) (.inl hinst)
  | killed hpc hidle hinst =>
    have hkills := (hs.globals.quiet hinst).2
    simp [NoOrphans, Timely, hinst, hkills, covered_nil_iff]
  | close hpc hidle => exact iff_of_true (fun _ => hs.progress.close hpc) trivial
  | killReader hpc | killWriter hpc =>
    have hinst := hs.globals.installed_of_running (by simp [hpc])
    exact iff_of_true (hinv.noOrphans hinst) trivial
  | writerEnds hrun =>
    exact iff_of_true (fun hpc => ⟨covered_of_terminated rfl, (hno hpc).2⟩) trivial
  | readerEnds hrun =>
    exact iff_of_true (fun hpc => ⟨(hno hpc).1, covered_of_terminated rfl⟩) trivial
  | _ => exact iff_of_true nofun trivial

/-- **Whom the parent leaves behind.** In every run, however `main`, the handler, the children and
the signals interleave: no child is ever left behind iff every `SIGTERM` that finds the handler
not yet installed finds no child running. -/
theorem no_orphans_iff (forks : Forks) (as : List Action) :
    (∀ x ∈ (system forks (posixWait forks)).trace start as, NoOrphans forks x.2.2) ↔
      ∀ x ∈ (system forks (posixWait forks)).trace start as, Timely x.1 x.2.1 :=
  (system forks (posixWait forks)).forall_trace_iff (P := NoOrphans forks) (G := Timely)
    (fun _ _ _ hs h => hs.step h) (fun _ _ _ hs hno h => noOrphans_step_iff hs hno h) Inv.start
    nofun as

/-- `SIGTERM` arrives between the second `fork` and the installation of the handler. -/
theorem early_signal_orphans :
    ¬ ∀ (forks : Forks) (as : List Action),
      ∀ x ∈ (system forks (posixWait forks)).trace start as, NoOrphans forks x.2.2 := by
  intro h
  let forks : Forks := ⟨some ⟨101, by decide⟩, some ⟨102, by decide⟩, fun _ h => by cases h; decide⟩
  have hno := h forks (List.replicate 4 .main ++ [.sigterm]) _
    (List.mem_of_getElem? (i := 4) rfl)
  exact covered_nil_iff.mp (hno rfl).1 rfl

end BluetoothAuto.Supervisor
