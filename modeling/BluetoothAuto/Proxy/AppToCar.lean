import BluetoothAuto.Proxy.WriteGeonet
import Mathlib.Data.List.Chain

/-!
# What the car receives from the app

Three questions about whole runs of `writeGeonet`, each answered exactly.

*Is the frame the intended one?* Never: the `memset` inside the loop wipes the header that was
assembled before it, and the copy loop sends all of `buf` instead of the bytes received.

*Does the secured proxy send only what it has just received?* Only while no handshake fails right
after a successful read, because `bytes_read` keeps the count of the last successful handshake.

*Do message boundaries survive the byte stream?* Only if every `read` returns exactly one message:
a frame is made of each read, and a stream socket does not promise where reads end.

## Main results

* `frame_faithful_iff` — an iteration's frame is the intended one iff nothing was received
* `sends_only_fresh_iff` — the runs in which the secured proxy sends only fresh data
* `boundaries_kept_iff` — the pairs of segmentations for which message boundaries are kept
-/

namespace BluetoothAuto

variable (L : WriterFrame) (m : MacAddress) (mem : FlatMemory)

/-! ### Frame fidelity -/

/-- The frame that the bytes `b` from the app should reach the car in. -/
def intendedFrame (m : MacAddress) (b : List UInt8) : List UInt8 := geonetHeader m ++ b

/-- If the iteration received bytes, it handed the intended frame to `sendto`. -/
def FrameFaithful (m : MacAddress) (r : ReadResult) (sent : Option (List UInt8)) : Prop :=
  0 < r.count → sent = some (intendedFrame m r.bytes)

/-- `FrameFaithful` for an iteration of the secured proxy, if its handshake succeeded. -/
def FrameFaithfulTls (m : MacAddress) (e : TlsAttempt) (sent : Option (List UInt8)) : Prop :=
  ∀ r, e = .accepted r → FrameFaithful m r sent

/-- The wiped frame begins with a zero and the intended one with `ff`. -/
theorem wipedFrame_ne_intendedFrame (m : MacAddress) (b : List UInt8) :
    wipedFrame b ≠ intendedFrame m b := by
  intro h
  have h0 := congrArg (·[0]?) h
  simp [wipedFrame, intendedFrame, geonetHeader_eq, sizeofEtherHeader] at h0

/-- What the loops send is never the intended frame. -/
theorem not_faithful_of_wiped {r : ReadResult} (h : 0 < r.count) :
    ¬ FrameFaithful m r (some (wipedFrame r.bytes)) :=
  fun hf => wipedFrame_ne_intendedFrame m r.bytes (Option.some.inj (hf h))

theorem faithful_of_not_pos {r : ReadResult} (h : ¬ 0 < r.count) (sent : Option (List UInt8)) :
    FrameFaithful m r sent :=
  fun h' => absurd h' h

theorem unsecured_step_faithful_iff (s : WriterState) (r : ReadResult) :
    FrameFaithful m r ((Unsecured.writeGeonet L).step s r).2 ↔ ¬ 0 < r.count := by
  rw [Unsecured.step_snd, Unsecured.sends]
  by_cases h : 0 < r.count
  · rw [if_pos h]
    exact iff_of_false (not_faithful_of_wiped m h) (not_not_intro h)
  · exact iff_of_true (faithful_of_not_pos m h _) h

theorem secured_step_faithful_iff (s : WriterState) (e : TlsAttempt) :
    FrameFaithfulTls m e ((Secured.writeGeonet L).step s e).2 ↔ ¬ 0 < e.ownRead.count := by
  cases e with
  | acceptFailed => simp [FrameFaithfulTls, TlsAttempt.ownRead, ReadResult.count]
  | accepted r =>
    simp only [FrameFaithfulTls, TlsAttempt.accepted.injEq, forall_eq']
    exact unsecured_step_faithful_iff L m s r

/-- **Frame fidelity.** In every run of either proxy, an iteration that received bytes sends
another frame than the intended one; the fidelity demand is met exactly by the iterations that
received nothing. -/
theorem frame_faithful_iff :
    (∀ rs : List ReadResult,
      List.Forall₂ (fun r sent => FrameFaithful m r sent ↔ ¬ 0 < r.count) rs
        ((Unsecured.writeGeonet L).answers (writerInit L m mem) rs)) ∧
    (∀ es : List TlsAttempt,
      List.Forall₂ (fun e sent => FrameFaithfulTls m e sent ↔ ¬ 0 < e.ownRead.count) es
        ((Secured.writeGeonet L).answers (writerInit L m mem) es)) :=
  ⟨fun rs => ServerLoop.forall₂_answers (unsecured_step_faithful_iff L m) _ rs,
    fun es => ServerLoop.forall₂_answers (secured_step_faithful_iff L m) _ es⟩

/-- The arrays where the build of `unsecured_proxy.c` has them, `sendbuf` right behind `buf`. -/
def adjacentFrame : WriterFrame := ⟨0, 1024, .inl le_rfl⟩

/-- The single byte `b`, received. -/
def oneByte (b : UInt8) : ReadResult := .received ⟨[b], Nat.le_of_ble_eq_true rfl⟩

/-- One byte from the app is enough: on the loopback interface its frame goes out without a
header. -/
theorem one_byte_frame_unfaithful :
    ¬ List.Forall₂ (FrameFaithful loopback) [oneByte 0x74]
      ((Unsecured.writeGeonet adjacentFrame).answers (writerInit adjacentFrame loopback fun _ => 0)
        [oneByte 0x74]) := by
  intro h
  have hstep := (List.forall₂_cons.mp h).1
  exact (unsecured_step_faithful_iff _ _ _ _).mp hstep (by decide)

/-! ### Fresh data only -/

/-- The iteration's own handshake succeeded and its own `SSL_read` returned a positive count. -/
def TlsAttempt.Fresh (e : TlsAttempt) : Prop := ∃ r, e = .accepted r ∧ 0 < r.count

theorem TlsAttempt.fresh_iff {e : TlsAttempt} : e.Fresh ↔ 0 < e.ownRead.count := by
  cases e with
  | acceptFailed => simp [Fresh, ownRead, ReadResult.count]
  | accepted r => simp [Fresh, ownRead]

/-- A frame goes out in exactly the iterations that received something themselves, and the frames
are those the unsecured proxy sends when it is fed each iteration's own read. -/
def SendsOnlyFresh (L : WriterFrame) (s : WriterState) (es : List TlsAttempt) : Prop :=
  List.Forall₂ (fun e sent => sent.isSome = true ↔ e.Fresh) es
      ((Secured.writeGeonet L).answers s es) ∧
    (Secured.writeGeonet L).answers s es =
      (Unsecured.writeGeonet L).answers s (es.map TlsAttempt.ownRead)

/-- The state decides what an iteration sends only if its handshake fails while an earlier
iteration's count is still there. -/
theorem secured_step_eq_sends_iff (s : WriterState) (e : TlsAttempt) :
    ((Secured.writeGeonet L).step s e).2 = Unsecured.sends e.ownRead ↔
      (0 < s.bytesRead → e ≠ .acceptFailed) := by
  cases e with
  | acceptFailed =>
    have hnone : Unsecured.sends (TlsAttempt.acceptFailed).ownRead = none := rfl
    rw [Secured.step_snd_acceptFailed, hnone]
    by_cases h : 0 < s.bytesRead <;> simp [h]
  | accepted r =>
    rw [Secured.step_snd_accepted]
    simp [TlsAttempt.ownRead]

/-- The secured loop agrees with the unsecured one as long as no handshake fails right after a
successful read. The induction is on the run; the first conjunct is about the count that the
iterations before it have left behind. -/
theorem secured_answers_eq_iff (s : WriterState) (es : List TlsAttempt) :
    (Secured.writeGeonet L).answers s es = es.map (Unsecured.sends ∘ TlsAttempt.ownRead) ↔
      (0 < s.bytesRead → es.head? ≠ some .acceptFailed) ∧
        es.IsChain fun e e' => e.Fresh → e' ≠ .acceptFailed := by
  induction es generalizing s with
  | nil => simp
  | cons e es ih =>
    rw [ServerLoop.answers_cons, List.map_cons, List.cons.injEq, Function.comp_apply,
      secured_step_eq_sends_iff, ih, Secured.step_bytesRead, List.isChain_cons, List.head?_cons]
    cases e with
    | acceptFailed =>
      have hfresh : ¬ (TlsAttempt.acceptFailed).Fresh := by simp [TlsAttempt.Fresh]
      simp only [Secured.nextCount, hfresh, false_imp_iff, implies_true, true_and, ne_eq,
        not_true_eq_false, imp_false]
      tauto
    | accepted r =>
      have hfresh : (TlsAttempt.accepted r).Fresh ↔ 0 < r.count := by simp [TlsAttempt.Fresh]
      have hhead : (∀ e' ∈ es.head?, 0 < r.count → e' ≠ .acceptFailed) ↔
          (0 < r.count → es.head? ≠ some .acceptFailed) := by
        cases es.head? with
        | none => simp
        | some e' => simp
      simp only [Secured.nextCount, hfresh, hhead, ne_eq, reduceCtorEq, not_false_eq_true,
        implies_true, true_and, Option.some.injEq]

/-- **Fresh data only.** The secured proxy sends exactly the data each iteration received iff no
iteration that received something is directly followed by one whose handshake fails. -/
theorem sends_only_fresh_iff (es : List TlsAttempt) :
    SendsOnlyFresh L (writerInit L m mem) es ↔
      es.IsChain fun e e' => e.Fresh → e' ≠ .acceptFailed := by
  have hinit : ¬ 0 < (writerInit L m mem).bytesRead := by simp [writerInit]
  have hiff := secured_answers_eq_iff L (writerInit L m mem) es
  simp only [hinit, false_imp_iff, true_and] at hiff
  rw [SendsOnlyFresh, Unsecured.answers_writeGeonet, List.map_map, ← hiff]
  refine ⟨And.right, fun h => ⟨?_, h⟩⟩
  rw [h, List.forall₂_map_right_iff, List.forall₂_same]
  intro e _
  rw [TlsAttempt.fresh_iff, Function.comp_apply, Unsecured.sends]
  split
  · next hpos => simp [hpos]
  · next hpos => simp [hpos]

/-- A message arrives, then the app disconnects: the second handshake fails, and a frame is sent
for it all the same. -/
theorem failed_handshake_sends :
    ¬ SendsOnlyFresh adjacentFrame (writerInit adjacentFrame loopback fun _ => 0)
      [.accepted (oneByte 0x74), .acceptFailed] := by
  intro h
  have hall := (secured_answers_eq_iff adjacentFrame _ _).mp
    (h.2.trans (by rw [Unsecured.answers_writeGeonet, List.map_map]))
  rw [List.isChain_cons_cons] at hall
  exact hall.2.1 ⟨_, rfl, by decide⟩ rfl

/-! ### Message boundaries -/

/-- A way for successive reads to cut up a byte stream: each returns between 1 and 1024 bytes. -/
structure Segmentation (stream : List UInt8) where
  /-- What the reads return, in order. -/
  reads : List Chunk
  /-- No read returns 0 bytes before the end of the stream. -/
  nonempty : ∀ c ∈ reads, c.bytes ≠ []
  /-- Together they return the stream. -/
  flatten_reads : (reads.map Chunk.bytes).flatten = stream

/-- The payloads of the frames sent to the car. -/
def payloads (answers : List (Option (List UInt8))) : List (List UInt8) :=
  answers.filterMap fun sent => sent.map (·.drop sizeofEtherHeader)

/-- The frame payload `p` carries the message `msg`: it is the message, zero padded. -/
def Carries (msg p : List UInt8) : Prop := ∃ j, p = msg ++ List.replicate j 0

/-- The two runs send the same payloads, one for each message of the app. -/
def BoundariesKept (msgs p q : List (List UInt8)) : Prop :=
  p = q ∧ List.Forall₂ Carries msgs p

/-- The read returns one message of the app, up to zero bytes at the end, which the padding of
the frame hides. -/
def ReadsMessage (msg : List UInt8) (c : Chunk) : Prop :=
  msg.length ≤ sizeofBuf ∧ ∃ j k, c.bytes ++ List.replicate j 0 = msg ++ List.replicate k 0

/-- A read as it stands in a frame. -/
def padded (b : List UInt8) : List UInt8 := b ++ List.replicate (sizeofBuf - b.length) 0

theorem length_padded {b : List UInt8} (h : b.length ≤ sizeofBuf) :
    (padded b).length = sizeofBuf := by
  simp only [padded, List.length_append, List.length_replicate]
  omega

/-- The unsecured proxy makes one frame of each read. -/
theorem payloads_answers (s : WriterState) {stream : List UInt8} (seg : Segmentation stream) :
    payloads ((Unsecured.writeGeonet L).answers s (seg.reads.map .received)) =
      seg.reads.map fun c => padded c.bytes := by
  have hsent : ∀ c ∈ seg.reads, (Unsecured.sends (.received c)).map (·.drop sizeofEtherHeader) =
      some (padded c.bytes) := by
    intro c hc
    have hpos : 0 < (ReadResult.received c).count :=
      ReadResult.count_pos_iff.mpr (seg.nonempty c hc)
    simp [Unsecured.sends, if_pos hpos, wipedFrame, padded, ReadResult.bytes]
  rw [Unsecured.answers_writeGeonet, List.map_map, payloads, List.filterMap_map,
    ← List.filterMap_eq_map]
  exact List.filterMap_congr hsent

/-- Zeros at the end can be exchanged for others as long as the length comes out right. -/
theorem append_zeros_inj {a b : List UInt8} {j k j' k' : ℕ}
    (h : a ++ List.replicate j 0 = b ++ List.replicate k 0)
    (hlen : a.length + j' = b.length + k') :
    a ++ List.replicate j' (0 : UInt8) = b ++ List.replicate k' 0 := by
  refine List.ext_getElem? fun i => ?_
  have hi := congrArg (·[i]?) h
  simp only [List.getElem?_append, List.getElem?_replicate] at hi ⊢
  grind

theorem carries_padded_iff {msg : List UInt8} {c : Chunk} :
    Carries msg (padded c.bytes) ↔ ReadsMessage msg c := by
  have hc := c.length_le
  constructor
  · rintro ⟨j, hj⟩
    have hlen := congrArg List.length hj
    rw [length_padded hc, List.length_append] at hlen
    exact ⟨by omega, _, j, hj⟩
  · rintro ⟨hmsg, j, k, h⟩
    exact ⟨sizeofBuf - msg.length, append_zeros_inj h (by omega)⟩

/-- A message determines the payload that carries it. -/
theorem carries_unique {msg : List UInt8} {c d : Chunk} (hc : Carries msg (padded c.bytes))
    (hd : Carries msg (padded d.bytes)) : padded c.bytes = padded d.bytes := by
  obtain ⟨j, hj⟩ := hc
  obtain ⟨k, hk⟩ := hd
  have h1 := congrArg List.length hj
  have h2 := congrArg List.length hk
  rw [length_padded c.length_le, List.length_append, List.length_replicate] at h1
  rw [length_padded d.length_le, List.length_append, List.length_replicate] at h2
  rw [hj, hk, show j = k by omega]

/-- Two runs whose reads are the messages send the same payloads. The induction is on the
messages, along both runs at once. -/
theorem map_padded_eq {msgs : List (List UInt8)} {cs ds : List Chunk}
    (hc : List.Forall₂ ReadsMessage msgs cs) (hd : List.Forall₂ ReadsMessage msgs ds) :
    (cs.map fun c => padded c.bytes) = ds.map fun c => padded c.bytes := by
  induction hc generalizing ds with
  | nil =>
    rw [List.forall₂_nil_left_iff.mp hd]
  | cons hmsg _ ih =>
    obtain ⟨d, ds', hmsg', hrest, rfl⟩ := List.forall₂_cons_left_iff.mp hd
    rw [List.map_cons, List.map_cons, ih hrest,
      carries_unique (carries_padded_iff.mpr hmsg) (carries_padded_iff.mpr hmsg')]

/-- **Message boundaries.** Two runs over the same byte stream send the same payloads, one per
message, iff in both of them every read returns exactly one message. -/
theorem boundaries_kept_iff (msgs : List (List UInt8)) (s t : Segmentation msgs.flatten) :
    BoundariesKept msgs
        (payloads ((Unsecured.writeGeonet L).answers (writerInit L m mem) (s.reads.map .received)))
        (payloads ((Unsecured.writeGeonet L).answers (writerInit L m mem) (t.reads.map .received)))
      ↔ List.Forall₂ ReadsMessage msgs s.reads ∧ List.Forall₂ ReadsMessage msgs t.reads := by
  simp only [BoundariesKept, payloads_answers, List.forall₂_map_right_iff, carries_padded_iff]
  constructor
  · rintro ⟨hpq, hs⟩
    have ht : List.Forall₂ Carries msgs (t.reads.map fun c => padded c.bytes) := by
      rw [← hpq, List.forall₂_map_right_iff]
      exact hs.imp fun _ _ => carries_padded_iff.mpr
    rw [List.forall₂_map_right_iff] at ht
    exact ⟨hs, ht.imp fun _ _ => carries_padded_iff.mp⟩
  · rintro ⟨hs, ht⟩
    exact ⟨map_padded_eq hs ht, hs⟩

/-- A segmentation of `[1, 2]` into single bytes, as the app wrote them. -/
def splitReads : Segmentation [[0x01], [0x02]].flatten where
  reads := [⟨[0x01], Nat.le_of_ble_eq_true rfl⟩, ⟨[0x02], Nat.le_of_ble_eq_true rfl⟩]
  nonempty := by simp
  flatten_reads := rfl

/-- A segmentation of `[1, 2]` into one read, as a stream socket may deliver it. -/
def coalescedRead : Segmentation [[0x01], [0x02]].flatten where
  reads := [⟨[0x01, 0x02], Nat.le_of_ble_eq_true rfl⟩]
  nonempty := by simp
  flatten_reads := rfl

/-- Two one-byte messages that arrive in one read leave in one frame. -/
theorem coalesced_messages_merge :
    ¬ BoundariesKept [[0x01], [0x02]]
      (payloads ((Unsecured.writeGeonet adjacentFrame).answers
        (writerInit adjacentFrame loopback fun _ => 0) (splitReads.reads.map .received)))
      (payloads ((Unsecured.writeGeonet adjacentFrame).answers
        (writerInit adjacentFrame loopback fun _ => 0) (coalescedRead.reads.map .received))) := by
  rintro ⟨hpq, -⟩
  rw [payloads_answers, payloads_answers] at hpq
  have hlen := congrArg List.length hpq
  simp [splitReads, coalescedRead] at hlen

end BluetoothAuto
