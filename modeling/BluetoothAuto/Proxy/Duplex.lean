import BluetoothAuto.Lib.ActionSystem
import BluetoothAuto.Proxy.AddressFilters
import BluetoothAuto.Proxy.CarToApp

/-!
# Both directions of the unsecured proxy on one interface

`writeGeonet` and `readGeonet` run as two processes with a raw socket each on the same interface.
The socket of `readGeonet` is bound to the GeoNetworking EtherType, and the router's is opened with
it: the kernel hands them the frames of that type and no others. A frame of any other type gets
there at most in the queue from before `bind`, and then the filters keep it out.

The header that `writeGeonet` sends is the one `memset` has left, of type zero, so neither a socket
nor a filter takes its frames: nothing comes back to the app, and nothing reaches a router either.

## Main results

* `never_reaches_router` — no router takes a frame of either proxy, whatever the addresses
* `Duplex.toApp_run` — the app receives what the cars have sent, and nothing of its own
-/

namespace BluetoothAuto

open Router

/-! ### What the filters make of a wiped header -/

/-- A wiped header is one with addresses of zeros, and of type zero. -/
theorem wipedFrame_eq_wire (b : List UInt8) :
    wipedFrame b = (EthernetHeader.mk (fun _ => 0) (fun _ => 0) 0).wire ++
      (b ++ List.replicate (sizeofBuf - b.length) 0) := by
  rw [wipedFrame, EthernetHeader.wire, MacAddress.octets_eq]
  rfl

theorem not_forwardable_wipedFrame (b : List UInt8) : ¬ Forwardable (wipedFrame b) := by
  rintro ⟨-, h12, -, -⟩
  exact absurd (Option.some.inj h12) (by decide)

theorem passUp_wipedFrame (E : EthernetCodec) (mid : MacAddress) (b : List UInt8) :
    passUp E mid (wipedFrame b) = none := by
  rw [wipedFrame_eq_wire, passUp_wire]
  exact if_neg fun h => absurd h.2 (by decide)

/-- What an iteration of the secured loop sends has a wiped header, whatever the loop has received
before. -/
theorem Secured.step_eq_wiped (L : WriterFrame) (s : WriterState) (e : TlsAttempt)
    {frame : List UInt8} (h : ((Secured.writeGeonet L).step s e).2 = some frame) :
    ∃ b, frame = wipedFrame b := by
  cases e with
  | acceptFailed =>
    rw [step_snd_acceptFailed] at h
    obtain ⟨-, h⟩ := Option.ite_none_right_eq_some.mp h
    exact ⟨_, (Option.some.inj h).symm⟩
  | accepted r =>
    rw [step_snd_accepted, Unsecured.sends] at h
    obtain ⟨-, h⟩ := Option.ite_none_right_eq_some.mp h
    exact ⟨_, (Option.some.inj h).symm⟩

theorem Unsecured.step_eq_wiped (L : WriterFrame) (s : WriterState) (r : ReadResult)
    {frame : List UInt8} (h : ((Unsecured.writeGeonet L).step s r).2 = some frame) :
    ∃ b, frame = wipedFrame b := by
  rw [step_snd, Unsecured.sends] at h
  obtain ⟨-, h⟩ := Option.ite_none_right_eq_some.mp h
  exact ⟨_, (Option.some.inj h).symm⟩

/-- **No router takes a frame of the proxy.** In every run of either proxy, whatever it receives
and whatever the addresses of the proxy's interface and of the router are, no frame that the proxy
sends is indicated to the router. -/
theorem never_reaches_router (E : EthernetCodec) (L : WriterFrame) (m mid : MacAddress)
    (mem : FlatMemory) (rs : List ReadResult) (es : List TlsAttempt) {frame : List UInt8}
    (h : some frame ∈ (Unsecured.writeGeonet L).answers (writerInit L m mem) rs ∨
      some frame ∈ (Secured.writeGeonet L).answers (writerInit L m mem) es) :
    passUp E mid frame = none := by
  have hwiped : ∃ b, frame = wipedFrame b := by
    rcases h with h | h
    · exact ServerLoop.forall_mem_answers (P := fun sent => ∀ frame, sent = some frame →
        ∃ b, frame = wipedFrame b) (fun s r _ => Unsecured.step_eq_wiped L s r) _ rs _ h _ rfl
    · exact ServerLoop.forall_mem_answers (P := fun sent => ∀ frame, sent = some frame →
        ∃ b, frame = wipedFrame b) (fun s e _ => Secured.step_eq_wiped L s e) _ es _ h _ rfl
  obtain ⟨b, rfl⟩ := hwiped
  exact passUp_wipedFrame E mid b

/-- The app sends one byte. -/
def messageRead : ReadResult := .received ⟨[0x74], Nat.le_of_ble_eq_true rfl⟩

/-- Its message is not taken by a router. -/
theorem message_not_passed_up :
    ∃ frame, some frame ∈ (Unsecured.writeGeonet ⟨0, 1024, .inl le_rfl⟩).answers
        (writerInit ⟨0, 1024, .inl le_rfl⟩ loopback fun _ => 0) [messageRead] ∧
      passUp octetCodec loopback frame = none := by
  refine ⟨wipedFrame [0x74], ?_, ?_⟩
  · rw [Unsecured.answers_writeGeonet]
    exact List.mem_singleton_self _
  · refine never_reaches_router octetCodec ⟨0, 1024, .inl le_rfl⟩ loopback loopback
      (fun _ => 0) [messageRead] [] (.inl ?_)
    rw [Unsecured.answers_writeGeonet]
    exact List.mem_singleton_self _

/-! ### Both directions -/

/-- Who has sent a frame. -/
inductive Origin where
  | proxy
  | car
  deriving DecidableEq

/-- The unsecured proxy and its interface. -/
structure Duplex where
  writer : WriterState
  reader : ReaderState
  /-- The frames in the socket of `readGeonet` that it has yet to receive, in order. -/
  queue : List (Origin × List UInt8) := []
  /-- All the frames that have been on the interface, in order. -/
  seen : List (Origin × List UInt8) := []
  /-- The bytes written to the app. -/
  toApp : List UInt8 := []

namespace Duplex

/-- What can happen next. -/
inductive Action where
  /-- An iteration of `writeGeonet`. -/
  | fromApp (read : ReadResult)
  /-- A car sends a frame. -/
  | fromCar (frame : List UInt8)
  /-- An iteration of `readGeonet`. -/
  | receive
  /-- `recvfrom` fails, and `readGeonet` exits. -/
  | receiveFails

variable (socket : PacketSocket)

/-- A frame appears on the interface. The kernel hands it to the socket of `readGeonet`, or not; the
queue of the socket has room. -/
def appear (s : Duplex) (origin : Origin) (bytes : List UInt8) : Duplex :=
  let s := { s with seen := s.seen ++ [(origin, bytes)] }
  if socket.takes bytes then { s with queue := s.queue ++ [(origin, bytes)] } else s

/-- The two processes and the interface. -/
def system (L : WriterFrame) : ActionSystem Duplex Action where
  step s a :=
    match a with
    | .fromApp read =>
      match (Unsecured.writeGeonet L).step s.writer read with
      | (writer, none) => some { s with writer }
      | (writer, some bytes) => some ({ s with writer }.appear socket .proxy bytes)
    | .fromCar frame => some (s.appear socket .car frame)
    | .receive =>
      match s.queue with
      | [] => none
      | (_, bytes) :: queue =>
        if s.reader.exited then
          none
        else
          let (reader, call) := Unsecured.readGeonet.step s.reader (.frame (received bytes))
          some { s with reader, queue, toApp := s.toApp ++ delivered [call] }
    | .receiveFails => some { s with reader := (Unsecured.readGeonet.step s.reader .failed).1 }

/-- An iteration of `writeGeonet` that sends a frame. -/
theorem step_fromApp {L : WriterFrame} (s : Duplex) (read : ReadResult) {frame : List UInt8}
    (hsent : ((Unsecured.writeGeonet L).step s.writer read).2 = some frame) :
    (system socket L).step s (.fromApp read) =
      some ({ s with writer := ((Unsecured.writeGeonet L).step s.writer read).1 }.appear socket
        .proxy frame) := by
  have hstep : (Unsecured.writeGeonet L).step s.writer read =
      (((Unsecured.writeGeonet L).step s.writer read).1, some frame) := Prod.ext rfl hsent
  simp only [system]
  rw [hstep]

/-- Before anything has happened; `mem` and `buffer` are the memory as the two processes find
it. -/
def start (L : WriterFrame) (m : MacAddress) (mem buffer : FlatMemory) : Duplex where
  writer := writerInit L m mem
  reader := ⟨buffer, false⟩

/-- What the app should receive of the frames on the interface: what follows the header of every
frame of a car that the filter takes and that fits into the buffer. -/
def carBytes (frames : List (Origin × List UInt8)) : List UInt8 :=
  (frames.filter fun x => x.1 = .car ∧ Fits x.2).flatMap fun x => x.2.drop sizeofEtherHeader

theorem carBytes_append (xs ys : List (Origin × List UInt8)) :
    carBytes (xs ++ ys) = carBytes xs ++ carBytes ys := by
  rw [carBytes, List.filter_append, List.flatMap_append]
  rfl

/-- A frame in the socket: it has a whole header, and that of a proxy's frame is wiped. -/
def Sound (x : Origin × List UInt8) : Prop :=
  sizeofEtherHeader ≤ x.2.length ∧ (x.1 = .proxy → ∃ b, x.2 = wipedFrame b)

/-- A proxy's frame is not meant for the app. -/
theorem fits_car {x : Origin × List UInt8} (hproxy : x.1 = .proxy → ∃ b, x.2 = wipedFrame b)
    (hfits : Fits x.2) : x.1 = .car := by
  cases horigin : x.1 with
  | car => rfl
  | proxy =>
    obtain ⟨b, hb⟩ := hproxy horigin
    exact absurd (hb ▸ hfits.1) (not_forwardable_wipedFrame b)

/-- What the app gets of one frame. -/
theorem delivered_sound (buffer : FlatMemory) {x : Origin × List UInt8} (hx : Sound x) :
    delivered [(handleFrame buffer (received x.2)).2] = carBytes [x] := by
  have hcar : (x.1 = .car ∧ Fits x.2) ↔ Fits x.2 := and_iff_right_of_imp (fits_car hx.2)
  rw [delivered_received buffer hx.1, carBytes, List.filter_singleton]
  simp only [hcar]
  by_cases hfits : Fits x.2
  · rw [if_pos hfits, decide_eq_true hfits]
    exact (List.flatMap_singleton _ _).symm
  · rw [if_neg hfits, decide_eq_false hfits]
    rfl

theorem sound_of_mem_append {frames : List (Origin × List UInt8)} (h : ∀ x ∈ frames, Sound x)
    {y : Origin × List UInt8} (hy : Sound y) : ∀ x ∈ frames ++ [y], Sound x := by
  intro x hx
  rcases List.mem_append.mp hx with hx | hx
  · exact h x hx
  · rw [List.mem_singleton.mp hx]
    exact hy

/-- The app has received what the cars have sent, up to what is still to be received. -/
structure Exact (s : Duplex) : Prop where
  toApp : s.toApp ++ carBytes s.queue = carBytes s.seen
  sound : ∀ x ∈ s.queue, Sound x

theorem Exact.appear {s : Duplex} (hs : Exact s) {origin : Origin} {bytes : List UInt8}
    (h : origin = .proxy → ∃ b, bytes = wipedFrame b) :
    Exact (s.appear socket origin bytes) := by
  rw [Duplex.appear]
  split
  · next htakes =>
    refine ⟨?_, sound_of_mem_append hs.sound ⟨socket.length_of_takes htakes, h⟩⟩
    show s.toApp ++ carBytes (s.queue ++ _) = carBytes (s.seen ++ _)
    rw [carBytes_append, carBytes_append, ← List.append_assoc, hs.toApp]
  · next htakes =>
    -- what the kernel keeps back is nothing for the app
    have hnone : carBytes [(origin, bytes)] = [] := by
      have hfits : ¬ (origin = .car ∧ Fits bytes) := fun hcar =>
        htakes (socket.takes_of_forwardable hcar.2.1)
      rw [carBytes, List.filter_cons_of_neg (by simpa using hfits)]
      rfl
    refine ⟨?_, hs.sound⟩
    show s.toApp ++ carBytes s.queue = carBytes (s.seen ++ _)
    rw [carBytes_append, hnone, List.append_nil, hs.toApp]

variable {socket}

theorem exact_step {L : WriterFrame} {s t : Duplex} {a : Action} (hs : Exact s)
    (h : (system socket L).step s a = some t) : Exact t := by
  cases a with
  | fromApp read =>
    simp only [system] at h
    split at h
    · obtain rfl := Option.some.inj h
      exact ⟨hs.toApp, hs.sound⟩
    · next writer bytes hstep =>
      obtain rfl := Option.some.inj h
      obtain ⟨b, hb⟩ := Unsecured.step_eq_wiped L s.writer read (congrArg Prod.snd hstep)
      have hexact : Exact { s with writer } := ⟨hs.toApp, hs.sound⟩
      exact hexact.appear socket fun _ => ⟨b, hb⟩
  | fromCar frame =>
    obtain rfl := Option.some.inj h
    exact hs.appear socket nofun
  | receive =>
    simp only [system] at h
    split at h
    · cases h
    · next origin bytes queue hqueue =>
      obtain ⟨hrunning, h⟩ := Option.ite_none_left_eq_some.mp h
      obtain rfl := Option.some.inj h
      have htoApp := hs.toApp
      have hsound := hs.sound
      rw [hqueue] at htoApp hsound
      obtain ⟨hfirst, hrest⟩ := List.forall_mem_cons.mp hsound
      have hcall : (Unsecured.readGeonet.step s.reader (.frame (received bytes))).2 =
          (handleFrame s.reader.buffer (received bytes)).2 := by
        simp only [Unsecured.readGeonet, recvStep, if_neg hrunning]
      refine ⟨?_, hrest⟩
      show s.toApp ++ delivered [(Unsecured.readGeonet.step s.reader _).2] ++ carBytes queue = _
      rw [hcall, delivered_sound s.reader.buffer hfirst, List.append_assoc, ← carBytes_append,
        List.singleton_append, htoApp]
  | receiveFails =>
    obtain rfl := Option.some.inj h
    exact ⟨hs.toApp, hs.sound⟩

/-- **Both directions at once.** In every interleaving of the two processes of the unsecured proxy
and of the cars, what has been written to the app and what is still to be received is exactly the
payloads of the GeoNetworking frames that the cars have sent, as long as they fit into the buffer
and do not come from the proxy's own address: every payload once and in order, and nothing that the
app itself has sent. -/
theorem toApp_run (socket : PacketSocket) (L : WriterFrame) (m : MacAddress)
    (mem buffer : FlatMemory) {as : List Action} {s : Duplex}
    (h : (system socket L).run (start L m mem buffer) as = some s) :
    s.toApp ++ carBytes s.queue = carBytes s.seen :=
  ((system socket L).run_invariant (P := Exact) (fun _ _ _ hs hstep => exact_step hs hstep)
    ⟨rfl, List.forall_mem_nil _⟩ h).toApp

/-- A frame of the proxy, and behind it one of a car, one without a whole header and one of another
type. The socket gets the second one only. -/
def fourFrames : List Action :=
  [.fromApp messageRead,
    .fromCar [0xff, 0xff, 0xff, 0xff, 0xff, 0xff, 0, 0x15, 0x5d, 0xef, 0xfe, 0xe6, 0x89, 0x47, 7],
    .fromCar [0x89, 0x47],
    .fromCar [0xff, 0xff, 0xff, 0xff, 0xff, 0xff, 0, 0x15, 0x5d, 0xef, 0xfe, 0xe6, 0x08, 0x00, 9],
    .receive]

theorem toApp_four_frames :
    ∃ s, (system boundSocket ⟨0, 1024, .inl le_rfl⟩).run
        (start ⟨0, 1024, .inl le_rfl⟩ loopback (fun _ => 0) fun _ => 0) fourFrames = some s ∧
      s.queue = [] ∧ s.toApp ++ carBytes s.queue = carBytes s.seen := by
  let s := start ⟨0, 1024, .inl le_rfl⟩ loopback (fun _ => 0) fun _ => 0
  have hfirst := step_fromApp boundSocket s messageRead
    (Unsecured.step_snd ⟨0, 1024, .inl le_rfl⟩ _ _)
  have hrest (writer : WriterState) : ∃ t, (system boundSocket ⟨0, 1024, .inl le_rfl⟩).run
      ({ s with writer }.appear boundSocket .proxy (wipedFrame [0x74])) fourFrames.tail = some t ∧
        t.queue = [] := ⟨_, rfl, rfl⟩
  obtain ⟨t, hrest, hqueue⟩ := hrest _
  have hrun : (system boundSocket ⟨0, 1024, .inl le_rfl⟩).run s fourFrames = some t :=
    (ActionSystem.run_cons_iff _).mpr ⟨_, hfirst, hrest⟩
  exact ⟨t, hrun, hqueue, toApp_run _ _ _ _ _ hrun⟩

end Duplex

end BluetoothAuto
