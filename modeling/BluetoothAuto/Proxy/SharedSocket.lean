import BluetoothAuto.Lib.ActionSystem
import BluetoothAuto.Proxy.ReadGeonet

/-!
# Two processes on one client socket

`main` of the secured proxy accepts one client and forks twice; the child that runs `writeGeonet`
and the child that runs `readGeonet` inherit the same socket. `writeGeonet` makes an SSL object
and reads from the client in every iteration; `readGeonet` makes one for every frame that passes
its filter, and its `SSL_accept` reads from the client too. Whichever of the two reads next gets
the next bytes.

The system is described by its actions. An SSL call is a number of steps that each remove some of
the bytes that have arrived, and a step that returns; how many bytes a step removes and what a
call returns is left open. The contents of the bytes play no part: a byte of the app's stream is
given by the handshake or record it belongs to. A removed byte is logged with the SSL object that
it went to.

## Main results

* `log_writer_of_dropped` — as long as the filter drops every frame, the writer gets every byte
* `steal_of_passed` — as soon as it lets one pass, the two processes can get a byte each
* `no_interference_iff` — the inputs for which no interleaving lets the processes interfere
-/

namespace BluetoothAuto

/-! ### The system -/

/-- The children of `main`. -/
inductive Child where
  /-- The process that runs `writeGeonet`. -/
  | writer
  /-- The process that runs `readGeonet`. -/
  | reader
deriving DecidableEq

/-- An SSL object on the client socket. -/
structure SslObject where
  /-- The process that made it. -/
  owner : Child
  /-- How many bytes of the stream had been removed when it was made. -/
  born : ℕ

/-- Where `writeGeonet` is, with its current SSL object. -/
inductive WriterPc where
  /-- In `SSL_accept`. -/
  | accept (born : ℕ)
  /-- In `SSL_read`. -/
  | read (born : ℕ)

/-- When the current SSL object was made. -/
def WriterPc.born : WriterPc → ℕ
  | accept b => b
  | read b => b

/-- Where `readGeonet` is. -/
inductive ReaderPc where
  /-- In `recvfrom`. -/
  | recvfrom
  /-- In `SSL_accept`, with its current SSL object. -/
  | accept (born : ℕ)

/-- The two processes, the socket, and the frames from the car. -/
structure SharedSocket where
  /-- How many bytes from the app have arrived. -/
  arrived : ℕ
  /-- Where the bytes removed so far went, the first byte of the stream first. -/
  log : List SslObject
  /-- Where the writer is. -/
  writer : WriterPc
  /-- Where the reader is. -/
  reader : ReaderPc
  /-- The reader's buffer. -/
  readerState : ReaderState
  /-- What `recvfrom` is still going to return. -/
  frames : List RecvResult

/-- What can happen next. -/
inductive SocketAction where
  /-- Bytes from the app arrive. -/
  | deliver (n : ℕ)
  /-- The writer's SSL call removes bytes. -/
  | writerTake (n : ℕ)
  /-- The writer's SSL call returns. -/
  | writerReturn (ok : Bool)
  /-- The reader receives a frame, and makes an SSL object if the frame passes the filter. -/
  | readerRecv
  /-- The reader's SSL call removes bytes. -/
  | readerTake (n : ℕ)
  /-- The reader's SSL call returns. Whether it succeeded decides only whether `SSL_write` is
  called. -/
  | readerReturn

namespace SharedSocket

/-- Both processes have just been forked. -/
def afterFork (buffer : FlatMemory) (frames : List RecvResult) : SharedSocket where
  arrived := 0
  log := []
  writer := .accept 0
  reader := .recvfrom
  readerState := ⟨buffer, false⟩
  frames := frames

/-- `n` bytes go to the SSL object `x`. -/
def take (s : SharedSocket) (x : SslObject) (n : ℕ) : Option SharedSocket :=
  if 0 < n ∧ s.log.length + n ≤ s.arrived then
    some { s with log := s.log ++ List.replicate n x }
  else none

/-- The writer after its SSL call returned: a successful `SSL_accept` is followed by `SSL_read`,
anything else ends the iteration, and the next one makes a new SSL object. -/
def nextWriterPc (pc : WriterPc) (ok : Bool) (removed : ℕ) : WriterPc :=
  match pc, ok with
  | .accept b, true => .read b
  | .accept _, false => .accept removed
  | .read _, _ => .accept removed

/-- The system, for an app whose stream consists of bytes of the given units. -/
def system (app : List ℕ) : ActionSystem SharedSocket SocketAction where
  step s
    | .deliver n =>
      if s.arrived + n ≤ app.length then some { s with arrived := s.arrived + n } else none
    | .writerTake n => s.take ⟨.writer, s.writer.born⟩ n
    | .writerReturn ok => some { s with writer := nextWriterPc s.writer ok s.log.length }
    | .readerRecv =>
      match s.reader, s.frames with
      | .recvfrom, x :: frames =>
        let (readerState, call) := recvStep s.readerState x
        some { s with
          reader := if call.isSome then .accept s.log.length else .recvfrom
          readerState := readerState
          frames := frames }
      | _, _ => none
    | .readerTake n =>
      match s.reader with
      | .recvfrom => none
      | .accept b => s.take ⟨.reader, b⟩ n
    | .readerReturn =>
      match s.reader with
      | .recvfrom => none
      | .accept _ => some { s with reader := .recvfrom }

/-- The bytes of one handshake or record all went to the same process, and the bytes that an SSL
object got are consecutive as far as the other process is concerned: it removed none between the
making of the object and the last byte the object got. -/
def NoInterference (app : List ℕ) (s : SharedSocket) : Prop :=
  ∀ (i j : ℕ) (x y : SslObject), s.log[i]? = some x → s.log[j]? = some y →
    (app[i]? = app[j]? → x.owner = y.owner) ∧ (i < j → y.born ≤ i → x.owner = y.owner)

/-- The filter drops every frame that is received. Up to the call that passes a frame on, the loop
is the same in both proxies. -/
def AllDropped (readerState : ReaderState) (frames : List RecvResult) : Prop :=
  ∀ call ∈ Unsecured.readGeonet.answers readerState frames, call = none

/-! ### What a step can do -/

variable {app : List ℕ} {s t : SharedSocket}

theorem take_eq_some {x : SslObject} {n : ℕ} (h : s.take x n = some t) :
    s.log.length + n ≤ s.arrived ∧ t = { s with log := s.log ++ List.replicate n x } := by
  rw [take] at h
  split at h
  · next hn => exact ⟨hn.2, (Option.some.inj h).symm⟩
  · cases h

/-- The effects of the actions. -/
inductive Effect (app : List ℕ) (s : SharedSocket) : SharedSocket → Prop
  /-- Bytes have arrived. -/
  | deliver {n : ℕ} (h : s.arrived + n ≤ app.length) :
    Effect app s { s with arrived := s.arrived + n }
  /-- Bytes have gone to the writer. -/
  | writerTake {b n : ℕ} (h : s.log.length + n ≤ s.arrived) :
    Effect app s { s with log := s.log ++ List.replicate n ⟨.writer, b⟩ }
  /-- The writer has gone on. -/
  | writerReturn (pc : WriterPc) : Effect app s { s with writer := pc }
  /-- The reader has received a frame. -/
  | readerRecv {x : RecvResult} {frames : List RecvResult} (hreader : s.reader = .recvfrom)
    (hframes : s.frames = x :: frames) :
    Effect app s { s with
      reader := if (recvStep s.readerState x).2.isSome then .accept s.log.length else .recvfrom
      readerState := (recvStep s.readerState x).1
      frames := frames }
  /-- Bytes have gone to the reader. -/
  | readerTake {b n : ℕ} (hreader : s.reader = .accept b) (h : s.log.length + n ≤ s.arrived) :
    Effect app s { s with log := s.log ++ List.replicate n ⟨.reader, b⟩ }
  /-- The reader waits for the next frame. -/
  | readerReturn {b : ℕ} (hreader : s.reader = .accept b) :
    Effect app s { s with reader := .recvfrom }

/-- Every step has one of the effects. -/
theorem effect_of_step {a : SocketAction} (h : (system app).step s a = some t) :
    Effect app s t := by
  cases a with
  | deliver n =>
    simp only [system] at h
    split at h <;> cases h
    next hn => exact .deliver hn
  | writerTake n =>
    obtain ⟨hn, rfl⟩ := take_eq_some h
    exact .writerTake hn
  | writerReturn ok =>
    cases h
    exact .writerReturn _
  | readerRecv =>
    simp only [system] at h
    split at h <;> cases h
    next x frames hreader hframes => exact .readerRecv hreader hframes
  | readerTake n =>
    simp only [system] at h
    split at h
    · cases h
    · next b hreader =>
      obtain ⟨hn, rfl⟩ := take_eq_some h
      exact .readerTake hreader hn
  | readerReturn =>
    simp only [system] at h
    split at h <;> cases h
    next b hreader => exact .readerReturn hreader

/-! ### While frames are dropped -/

theorem allDropped_cons {st : ReaderState} {x : RecvResult} {xs : List RecvResult} :
    AllDropped st (x :: xs) ↔ (recvStep st x).2 = none ∧ AllDropped (recvStep st x).1 xs := by
  simp [AllDropped, Unsecured.readGeonet]

/-- The reader has not made an SSL object and is not going to make one. -/
structure ReaderIdle (s : SharedSocket) : Prop where
  /-- It waits for a frame. -/
  reader : s.reader = .recvfrom
  /-- Every frame it is going to receive is dropped. -/
  dropped : AllDropped s.readerState s.frames
  /-- Every byte so far went to the writer. -/
  log : ∀ x ∈ s.log, x.owner = .writer

theorem ReaderIdle.step (hs : ReaderIdle s) (h : Effect app s t) : ReaderIdle t := by
  obtain ⟨hreader, hdropped, hlog⟩ := hs
  cases h with
  | deliver => exact ⟨hreader, hdropped, hlog⟩
  | writerTake =>
    refine ⟨hreader, hdropped, ?_⟩
    intro x hx
    rcases List.mem_append.mp hx with hx | hx
    · exact hlog x hx
    · rw [List.eq_of_mem_replicate hx]
  | writerReturn pc => exact ⟨hreader, hdropped, hlog⟩
  | readerRecv _ hframes =>
    rw [hframes, allDropped_cons] at hdropped
    exact ⟨by simp [hdropped.1], hdropped.2, hlog⟩
  | readerTake haccept => cases hreader.symm.trans haccept
  | readerReturn haccept => cases hreader.symm.trans haccept

/-- **As long as every frame is dropped, the writer gets every byte.** -/
theorem log_writer_of_dropped {buffer : FlatMemory} {frames : List RecvResult}
    (hdropped : AllDropped ⟨buffer, false⟩ frames) {as : List SocketAction}
    (h : (system app).run (afterFork buffer frames) as = some s) :
    ∀ x ∈ s.log, x.owner = .writer :=
  have hinit : ReaderIdle (afterFork buffer frames) := ⟨rfl, hdropped, nofun⟩
  ((system app).run_invariant (fun _ _ _ hs hstep => hs.step (effect_of_step hstep)) hinit h).log

/-! ### The bytes of the stream -/

/-- Only bytes that have arrived are removed, and only bytes that were sent arrive. -/
def Bounded (app : List ℕ) (s : SharedSocket) : Prop :=
  s.log.length ≤ s.arrived ∧ s.arrived ≤ app.length

theorem Bounded.step (hs : Bounded app s) (h : Effect app s t) : Bounded app t := by
  cases h with
  | deliver hn => exact ⟨Nat.le_add_right_of_le hs.1, hn⟩
  | writerTake hn => exact ⟨by simpa using hn, hs.2⟩
  | writerReturn pc => exact hs
  | readerRecv _ _ => exact hs
  | readerTake _ hn => exact ⟨by simpa using hn, hs.2⟩
  | readerReturn _ => exact hs

theorem length_log_le {buffer : FlatMemory} {frames : List RecvResult} {as : List SocketAction}
    (h : (system app).run (afterFork buffer frames) as = some s) : s.log.length ≤ app.length :=
  have hinit : Bounded app (afterFork buffer frames) := ⟨Nat.le_refl 0, Nat.zero_le _⟩
  have hs := (system app).run_invariant (fun _ _ _ hs hstep => hs.step (effect_of_step hstep))
    hinit h
  hs.1.trans hs.2

/-! ### When a frame passes -/

/-- The frames up to the first one that passes bring the reader into `SSL_accept`, whatever the
writer is doing. -/
theorem exists_readerRecv (app : List ℕ) (hreader : s.reader = .recvfrom)
    (hpassed : ¬ AllDropped s.readerState s.frames) :
    ∃ n st fs, (system app).run s (List.replicate n .readerRecv) =
      some { s with reader := .accept s.log.length, readerState := st, frames := fs } := by
  obtain ⟨arrived, log, writer, reader, st, frames⟩ := s
  induction frames generalizing st with
  | nil => exact absurd nofun hpassed
  | cons x frames ih =>
    obtain rfl : reader = .recvfrom := hreader
    cases hcall : (recvStep st x).2 with
    | some call => exact ⟨1, (recvStep st x).1, frames, by simp [system, hcall]⟩
    | none =>
      have hrest : ¬ AllDropped (recvStep st x).1 frames := by
        intro hrest
        exact hpassed (allDropped_cons.mpr ⟨hcall, hrest⟩)
      obtain ⟨n, st', fs, hrun⟩ := ih (recvStep st x).1 rfl hrest
      refine ⟨n + 1, st', fs, ?_⟩
      rw [List.replicate_succ, ActionSystem.run_cons, ← hrun]
      simp [system, hcall]

/-- **As soon as a frame passes, each process can get a byte** while the other is inside
`SSL_accept`, provided the app sends two. -/
theorem steal_of_passed {buffer : FlatMemory} {frames : List RecvResult}
    (happ : 2 ≤ app.length) (hpassed : ¬ AllDropped ⟨buffer, false⟩ frames) :
    ∃ as s, (system app).run (afterFork buffer frames) as = some s ∧
      s.log = [⟨.writer, 0⟩, ⟨.reader, 0⟩] := by
  obtain ⟨n, st, fs, hrun⟩ := exists_readerRecv (s := afterFork buffer frames) app rfl hpassed
  refine ⟨List.replicate n .readerRecv ++ [.deliver 2, .writerTake 1, .readerTake 1],
    ⟨2, [⟨.writer, 0⟩, ⟨.reader, 0⟩], .accept 0, .accept 0, st, fs⟩, ?_, rfl⟩
  rw [ActionSystem.run_append _ hrun]
  simp [system, afterFork, take, WriterPc.born, happ]

/-- **No interference.** No interleaving lets the two processes interfere iff the app sends at
most one byte or the filter drops every frame from the car. -/
theorem no_interference_iff (app : List ℕ) (buffer : FlatMemory) (frames : List RecvResult) :
    (∀ as s, (system app).run (afterFork buffer frames) as = some s → NoInterference app s) ↔
      app.length ≤ 1 ∨ AllDropped ⟨buffer, false⟩ frames := by
  constructor
  · intro h
    by_contra hcond
    obtain ⟨happ, hpassed⟩ := not_or.mp hcond
    obtain ⟨as, s, hrun, hlog⟩ := steal_of_passed (Nat.not_le.mp happ) hpassed
    have hsame := (h as s hrun 0 1 ⟨.writer, 0⟩ ⟨.reader, 0⟩ (by simp [hlog]) (by simp [hlog])).2
    exact absurd (hsame Nat.zero_lt_one le_rfl) (by decide)
  · rintro (happ | hdropped) as s hrun i j x y hx hy
    · -- there is at most one byte to remove
      have hlen := length_log_le hrun
      have hi := (List.getElem?_eq_some_iff.mp hx).1
      have hj := (List.getElem?_eq_some_iff.mp hy).1
      obtain rfl : i = j := by omega
      obtain rfl : x = y := Option.some.inj (hx.symm.trans hy)
      exact ⟨fun _ => rfl, fun _ _ => rfl⟩
    · have hwriter := log_writer_of_dropped hdropped hrun
      have heq : x.owner = y.owner :=
        (hwriter x (List.mem_of_getElem? hx)).trans (hwriter y (List.mem_of_getElem? hy)).symm
      exact ⟨fun _ => heq, fun _ _ => heq⟩

/-- A frame from another car. -/
def otherCarFrame : EthFrame where
  bytes := [0xff, 0xff, 0xff, 0xff, 0xff, 0xff, 0x00, 0x15, 0x5d, 0xef, 0xfe, 0xe6, 0x89, 0x47]
  length_le := Nat.le_of_ble_eq_true rfl

theorem otherCarFrame_passes : ¬ AllDropped ⟨fun _ => 0, false⟩ [.frame otherCarFrame] := by
  intro h
  have hnone : (handleFrame (fun _ => 0) otherCarFrame).2 = none := h _ List.mem_cons_self
  have hlt : otherCarFrame.bytes.length < sizeofBuffer :=
    Nat.lt_of_lt_of_le (show 14 < 15 by decide) (Nat.le_of_ble_eq_true rfl)
  rw [handleFrame_of_long (by decide) hlt, if_pos (by decide)] at hnone
  cases hnone

/-- One frame from another car, while the first two bytes of the app's handshake arrive. -/
theorem handshake_split :
    ¬ ∀ as s, (system [0, 0]).run (afterFork (fun _ => 0) [.frame otherCarFrame]) as = some s →
      NoInterference [0, 0] s := by
  intro h
  have happ : 2 ≤ [0, 0].length := le_rfl
  obtain ⟨as, s, hrun, hlog⟩ := steal_of_passed happ otherCarFrame_passes
  have hsame := (h as s hrun 0 1 ⟨.writer, 0⟩ ⟨.reader, 0⟩ (by simp [hlog]) (by simp [hlog])).1 rfl
  exact absurd hsame (by decide)

end SharedSocket

end BluetoothAuto
