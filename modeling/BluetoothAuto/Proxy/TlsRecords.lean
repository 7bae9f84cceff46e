import BluetoothAuto.Proxy.AppToCar

/-!
# Application records and the reads of the secured `writeGeonet`

A TLS record holds up to 16384 bytes. `SSL_read` hands out at most as many as it is asked for, and
keeps the others in the SSL object until it is called again. The loop of the secured `writeGeonet`
asks for 1024, calls `SSL_read` once, and then frees the object.

What OpenSSL promises of `SSL_read` is the structure `SslReader`: how many bytes a call returns is
for OpenSSL to choose, between one and the number asked for, out of one record.

## Main results

* `read_append_pending` — what a call returns and what it leaves pending is the record
* `session_keeps_iff` — the sessions in which nothing that the app sent is dropped
* `le_length_discarded` — how much of a record is dropped at least
-/

namespace BluetoothAuto

/-! ### The SSL object -/

/-- An application record of the app. -/
structure AppRecord where
  /-- Its bytes. -/
  bytes : List UInt8
  /-- There are some. -/
  ne_nil : bytes ≠ []
  /-- A record holds at most 16384. -/
  length_le : bytes.length ≤ 16384

/-- An SSL object whose handshake has succeeded. -/
structure TlsObject where
  /-- The bytes of a record that have been received but not been returned by `SSL_read`. -/
  pending : List UInt8
  /-- The records that have not been received. -/
  unread : List AppRecord

/-- How many bytes `SSL_read` returns. -/
structure SslReader where
  /-- The number returned, with `pending` bytes of a record there and `num` asked for. -/
  count : (pending : List UInt8) → (num : ℕ) → ℕ
  /-- Something is returned if there is something. -/
  count_pos : ∀ pending num, pending ≠ [] → 0 < num → 0 < count pending num
  /-- At most what was asked for. -/
  count_le_num : ∀ pending num, count pending num ≤ num
  /-- At most what is there. -/
  count_le_length : ∀ pending num, count pending num ≤ pending.length

/-- The object when `SSL_read` has received a record, if it had to. `none` is a call that waits. -/
def TlsObject.receive : TlsObject → Option TlsObject
  | ⟨[], []⟩ => none
  | ⟨[], r :: unread⟩ => some ⟨r.bytes, unread⟩
  | o => some o

/-- What `SSL_read` takes of the bytes that are there. -/
def SslReader.take (T : SslReader) (o : TlsObject) : Chunk where
  bytes := o.pending.take (T.count o.pending sizeofBuf)
  length_le := (List.length_take_le _ _).trans (T.count_le_num _ _)

/-- `SSL_read(ssl, buf, sizeof(buf))`. -/
def sslRead (T : SslReader) (o : TlsObject) : Option (Chunk × TlsObject) :=
  o.receive.map fun o =>
    (T.take o, { o with pending := o.pending.drop (T.count o.pending sizeofBuf) })

/-- What a call returns and what it leaves pending is what was there. -/
theorem read_append_pending {T : SslReader} {o o' : TlsObject} {b : Chunk}
    (h : sslRead T o = some (b, o')) :
    ∃ p, o.receive = some p ∧ b.bytes ++ o'.pending = p.pending := by
  obtain ⟨p, hp, heq⟩ := Option.map_eq_some_iff.mp h
  obtain ⟨rfl, rfl⟩ := Prod.mk.inj heq
  exact ⟨p, hp, List.take_append_drop _ _⟩

/-! ### A session -/

/-- An iteration of the secured loop whose handshake has succeeded. -/
structure TlsSession where
  /-- The variables it leaves. -/
  state : WriterState
  /-- What its calls of `SSL_read` have returned. -/
  chunks : List Chunk
  /-- What it has handed to `sendto`. -/
  frames : List (List UInt8)
  /-- What was pending when `SSL_free` was called. -/
  discarded : List UInt8

/-- The iteration on the records that the app sends in this session. -/
def tlsSession (T : SslReader) (L : WriterFrame) (s : WriterState) (first : AppRecord)
    (rest : List AppRecord) : Option TlsSession :=
  (sslRead T ⟨[], first :: rest⟩).map fun (b, ssl) =>
    let (s, sent) := (Secured.writeGeonet L).step s (.accepted (.received b))
    -- `SSL_shutdown(ssl); SSL_free(ssl);`
    { state := s, chunks := [b], frames := sent.toList, discarded := ssl.pending }

/-- What the only call of `SSL_read` returns. -/
def firstChunk (T : SslReader) (first : AppRecord) : Chunk := T.take ⟨first.bytes, []⟩

theorem length_firstChunk (T : SslReader) (first : AppRecord) :
    (firstChunk T first).bytes.length = T.count first.bytes sizeofBuf :=
  List.length_take_of_le (T.count_le_length _ _)

theorem firstChunk_ne_nil (T : SslReader) (first : AppRecord) :
    (firstChunk T first).bytes ≠ [] := by
  rw [← List.length_pos_iff, length_firstChunk]
  exact T.count_pos _ _ first.ne_nil (Nat.succ_pos _)

variable (T : SslReader) (L : WriterFrame) (s : WriterState) (first : AppRecord)
  (rest : List AppRecord)

/-- **A session.** One chunk of the first record is sent; the others of it are discarded. -/
theorem tlsSession_eq :
    tlsSession T L s first rest =
      some
        { state := ((Secured.writeGeonet L).step s (.accepted (.received (firstChunk T first)))).1
          chunks := [firstChunk T first]
          frames := [wipedFrame (firstChunk T first).bytes]
          discarded := first.bytes.drop (T.count first.bytes sizeofBuf) } := by
  have hpos : 0 < (ReadResult.received (firstChunk T first)).count :=
    ReadResult.count_pos_iff.mpr (firstChunk_ne_nil T first)
  have hsent : ((Secured.writeGeonet L).step s (.accepted (.received (firstChunk T first)))).2 =
      some (wipedFrame (firstChunk T first).bytes) := by
    rw [Secured.step_snd_accepted, Unsecured.sends, if_pos hpos]
    rfl
  have hread : sslRead T ⟨[], first :: rest⟩ =
      some (firstChunk T first,
        ⟨first.bytes.drop (T.count first.bytes sizeofBuf), rest⟩) := rfl
  rw [tlsSession, hread, Option.map_some]
  simp only [hsent, Option.toList_some]

/-- How much of the first record is dropped at least. -/
theorem le_length_discarded {x : TlsSession} (h : tlsSession T L s first rest = some x) :
    first.bytes.length ≤ x.discarded.length + sizeofBuf := by
  obtain rfl := Option.some.inj ((tlsSession_eq T L s first rest).symm.trans h)
  have hcount := T.count_le_num first.bytes sizeofBuf
  rw [List.length_drop]
  omega

/-! ### Nothing is dropped -/

/-- The session ends, the chunks that its calls of `SSL_read` have returned are all that the app
sent in it, and each of them was handed to `sendto` as the payload of a frame. -/
def KeepsRecords : Prop :=
  ∃ x, tlsSession T L s first rest = some x ∧
    (x.chunks.map Chunk.bytes).flatten = ((first :: rest).map AppRecord.bytes).flatten ∧
    ∀ c ∈ x.chunks, ∃ f ∈ x.frames, Carries c.bytes (f.drop sizeofEtherHeader)

/-- The chunk is sent whatever its length. -/
theorem carries_wipedFrame (b : List UInt8) :
    Carries b ((wipedFrame b).drop sizeofEtherHeader) := by
  refine ⟨sizeofBuf - b.length, ?_⟩
  rw [wipedFrame, List.drop_left' List.length_replicate]

variable {T L s first rest}

theorem count_of_keeps (h : KeepsRecords T L s first rest) :
    rest = [] ∧ T.count first.bytes sizeofBuf = first.bytes.length := by
  obtain ⟨x, hx, hchunks, -⟩ := h
  obtain rfl := Option.some.inj ((tlsSession_eq T L s first rest).symm.trans hx)
  have hlen := congrArg List.length hchunks
  simp only [List.map_cons, List.map_nil, List.flatten_cons, List.flatten_nil, List.append_nil,
    List.length_append, length_firstChunk] at hlen
  have hle := T.count_le_length first.bytes sizeofBuf
  have hnil : ((rest.map AppRecord.bytes).flatten).length = 0 := by omega
  refine ⟨?_, by omega⟩
  -- a further record would have at least one byte
  cases rest with
  | nil => rfl
  | cons r rest =>
    have hr := List.length_pos_iff.mpr r.ne_nil
    simp only [List.map_cons, List.flatten_cons, List.length_append] at hnil
    omega

theorem keeps_of_count (h : T.count first.bytes sizeofBuf = first.bytes.length) :
    KeepsRecords T L s first [] := by
  have hall : (firstChunk T first).bytes = first.bytes := by
    show first.bytes.take (T.count first.bytes sizeofBuf) = first.bytes
    rw [h, List.take_length]
  refine ⟨_, tlsSession_eq T L s first [], ?_, ?_⟩
  · simp only [List.map_cons, List.map_nil, List.flatten_cons, List.flatten_nil, hall]
  · intro c hc
    obtain rfl := List.mem_singleton.mp hc
    exact ⟨_, List.mem_singleton_self _, carries_wipedFrame _⟩

variable (T L s first rest)

/-- **Nothing is dropped** iff the app sends a single record in the session and the only call of
`SSL_read` returns all of it. -/
theorem session_keeps_iff :
    KeepsRecords T L s first rest ↔
      rest = [] ∧ T.count first.bytes sizeofBuf = first.bytes.length := by
  refine ⟨count_of_keeps, ?_⟩
  rintro ⟨rfl, h⟩
  exact keeps_of_count h

/-- A record that is longer than `buf` is never kept. -/
theorem length_le_of_keeps (h : KeepsRecords T L s first rest) :
    first.bytes.length ≤ sizeofBuf :=
  (count_of_keeps h).2.symm.trans_le (T.count_le_num _ _)

/-! ### A record that fills the buffer and goes on -/

/-- An OpenSSL that returns as much as it can. -/
def eagerReader : SslReader where
  count pending num := min num pending.length
  count_pos _ _ h hnum := lt_min hnum (List.length_pos_iff.mpr h)
  count_le_num _ _ := min_le_left _ _
  count_le_length _ _ := min_le_right _ _

/-- With such an OpenSSL the length decides. -/
theorem eager_keeps_iff :
    KeepsRecords eagerReader L s first rest ↔ rest = [] ∧ first.bytes.length ≤ sizeofBuf := by
  constructor
  · intro h
    exact ⟨(count_of_keeps h).1, length_le_of_keeps _ _ _ _ _ h⟩
  · rintro ⟨rfl, h⟩
    exact keeps_of_count (min_eq_right h)

/-- A record of 1025 bytes. -/
def longRecord : AppRecord where
  bytes := List.replicate 1025 0x74
  ne_nil := List.cons_ne_nil _ _
  length_le := List.length_replicate.trans_le (by omega)

/-- Its last byte is dropped. -/
theorem long_record_dropped :
    ¬ KeepsRecords eagerReader adjacentFrame (writerInit adjacentFrame loopback fun _ => 0)
      longRecord [] := by
  intro h
  have hlength := length_le_of_keeps _ _ _ _ _ h
  rw [longRecord, List.length_replicate] at hlength
  exact absurd hlength (by decide)

end BluetoothAuto
