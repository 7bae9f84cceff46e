import BluetoothAuto.Lib.Unicode
import Mathlib.Data.List.TakeDrop

/-!
# The bodies of requests and responses

`readFully` reads a response with a `BufferedInputStream` into one buffer of 1024 bytes, again and
again, and collects what each read has put there; the whole is decoded at the end. `writeFully`
writes the body of a request through a `PrintWriter`, which encodes it, and which keeps an
`IOException` of the stream to itself.

The streams belong to the HTTP library. An input stream delivers its bytes in reads of its own
choice and ends or fails at some point; `available` says what it likes. An output stream takes
every byte, or fails for good after some.

## Main results

* `take_arraycopy` — what the buffer holds after a read
* `BufferedInputStream.read_spec` — a read returns the next bytes, or the end of the stream
* `copyLoop_eq` — the loop of `readFully` collects the bytes of the stream
* `read_fully_exact` — the result of `readFully` depends on the bytes alone
* `writeFully_iff` — when the whole body is written
-/

namespace BluetoothAuto.App.HttpsWithCertificate

open Utf16 Utf8

/-- A Java `String`. -/
abbrev JString := List UInt16

/-- The exceptions that a `catch` or the library tells apart. -/
inductive Exception where
  /-- `IOException`. -/
  | io
  /-- `KeyStoreException`. -/
  | keyStore
  /-- `CertificateException`. -/
  | certificate
  /-- `NoSuchAlgorithmException`. -/
  | noSuchAlgorithm
  /-- `UnrecoverableKeyException`. -/
  | unrecoverableKey
  /-- `KeyManagementException`. -/
  | keyManagement
  /-- `RuntimeException`. -/
  | runtime
  deriving DecidableEq

/-! ### Input streams -/

/-- What one read of an input stream delivers. -/
structure Delivery where
  bytes : List UInt8
  pos : 0 < bytes.length
  le : bytes.length ≤ 1024
  /-- `available` announces the bytes before they are read. -/
  announced : Bool

/-- The stream of a response. -/
structure InputStream where
  deliveries : List Delivery
  /-- What a read throws after the deliveries; `none` if it finds the end of the stream. -/
  failure : Option Exception
  /-- What `available` says after the deliveries. -/
  endAnnounced : Bool
  /-- What `close` throws. -/
  closeFailure : Option Exception

/-- The bytes of a stream. -/
def InputStream.bytes (S : InputStream) : List UInt8 := S.deliveries.flatMap Delivery.bytes

/-- A stream that delivers in these reads, and then ends. -/
def InputStream.ofDeliveries (deliveries : List Delivery) (endAnnounced : Bool) : InputStream where
  deliveries := deliveries
  failure := none
  endAnnounced := endAnnounced
  closeFailure := none

/-- `System.arraycopy` of `bs` to the place `off`. -/
def arraycopy {n : ℕ} (bs : List UInt8) (b : Vector UInt8 n) (off : ℕ) : Vector UInt8 n :=
  b.mapIdx fun i x => if off ≤ i then bs.getD (i - off) x else x

/-- The front of the array after a copy that continues it. -/
theorem take_arraycopy {n : ℕ} (bs : List UInt8) (b : Vector UInt8 n) {off : ℕ}
    (h : off + bs.length ≤ n) :
    (arraycopy bs b off).toList.take (off + bs.length) = b.toList.take off ++ bs := by
  have hlen : (b.toList.take off).length = off := by
    rw [List.length_take, Vector.length_toList]
    omega
  refine List.ext_getElem ?_ fun i h1 h2 => ?_
  · rw [List.length_append, hlen, List.length_take, Vector.length_toList]
    omega
  · have hi : i < off + bs.length := by rwa [List.length_append, hlen] at h2
    simp only [List.getElem_take, Vector.getElem_toList, arraycopy, Vector.getElem_mapIdx]
    split
    · next hoff =>
      rw [List.getElem_append_right (by omega), List.getD_eq_getElem?_getD]
      simp only [hlen]
      rw [List.getElem?_eq_getElem (by omega), Option.getD_some]
    · next hoff =>
      rw [List.getElem_append_left (by omega), List.getElem_take, Vector.getElem_toList]

/-- A `BufferedInputStream` over a stream. -/
structure BufferedInputStream where
  /-- The bytes of `buf` from `pos` to `count`. -/
  pending : List UInt8
  /-- What the stream has yet to deliver. -/
  source : List Delivery

namespace BufferedInputStream

/-- A new one. -/
def ofStream (S : InputStream) : BufferedInputStream := ⟨[], S.deliveries⟩

/-- The bytes that have not been read. -/
def remaining (s : BufferedInputStream) : List UInt8 :=
  s.pending ++ s.source.flatMap Delivery.bytes

/-- `fill`, when there are no bytes left: one read of the stream into the empty `buf`, which has
room for 8192 bytes. -/
def fill (S : InputStream) (s : BufferedInputStream) : Except Exception BufferedInputStream :=
  match s.source with
  | d :: source => .ok ⟨d.bytes, source⟩
  | [] =>
    match S.failure with
    | none => .ok s
    | some e => .error e

/-- What the stream's `available` says. -/
def available (S : InputStream) (s : BufferedInputStream) : Bool :=
  match s.source with
  | d :: _ => d.announced
  | [] => S.endAnnounced

/-- The end of `read1`: `cnt` bytes of `buf` go to the place `off` of the array. -/
def takePending {n : ℕ} (s : BufferedInputStream) (b : Vector UInt8 n) (off cnt : ℕ) :
    ℕ × Vector UInt8 n × BufferedInputStream :=
  (cnt, arraycopy (s.pending.take cnt) b off, ⟨s.pending.drop cnt, s.source⟩)

/-- `BufferedInputStream.read1`: the number of bytes read to the place `off` of the array, or
`none` for -1. The arrays here are smaller than `buf`, so that nothing is read into them
directly. -/
def read1 {n : ℕ} (S : InputStream) (s : BufferedInputStream) (b : Vector UInt8 n) (off len : ℕ) :
    Except Exception (Option (ℕ × Vector UInt8 n × BufferedInputStream)) := do
  let s ← if s.pending = [] then fill S s else pure s
  if s.pending = [] then
    return none
  return some (takePending s b off (min s.pending.length len))

/-- The loop of `read`, for up to `k` more rounds, when `m` bytes have been read. It goes on as long
as there is room and the stream says that there is more. -/
def readLoop {n : ℕ} (S : InputStream) : ℕ → BufferedInputStream → Vector UInt8 n → ℕ →
    Except Exception (Option (ℕ × Vector UInt8 n × BufferedInputStream))
  | 0, s, b, m => return some (m, b, s)
  | k + 1, s, b, m => do
    match ← read1 S s b m (n - m) with
    | none => return if m = 0 then none else some (m, b, s)
    | some (nread, b, s) =>
      if n ≤ m + nread ∨ ¬ available S s then
        return some (m + nread, b, s)
      readLoop S k s b (m + nread)

/-- `BufferedInputStream.read`. Every round reads a byte at least. -/
def read {n : ℕ} (S : InputStream) (s : BufferedInputStream) (b : Vector UInt8 n) :
    Except Exception (Option (ℕ × Vector UInt8 n × BufferedInputStream)) :=
  readLoop S n s b 0

variable {n : ℕ} {S : InputStream} {s t : BufferedInputStream} {b c : Vector UInt8 n}

/-- `fill` moves bytes from the stream to `buf`, finds the end of the stream, or fails with it. -/
theorem fill_spec (h : s.pending = []) :
    (∃ t, fill S s = .ok t ∧ t.pending ≠ [] ∧ t.remaining = s.remaining) ∨
      (fill S s = .ok s ∧ s.remaining = [] ∧ S.failure = none) ∨
      ∃ e, fill S s = .error e ∧ s.remaining = [] ∧ S.failure = some e := by
  obtain ⟨pending, source⟩ := s
  obtain rfl : pending = [] := h
  rcases source with _ | ⟨d, source⟩
  · refine .inr ?_
    rw [fill]
    rcases hf : S.failure with _ | e
    · exact .inl ⟨by simp only, rfl, rfl⟩
    · exact .inr ⟨e, by simp only, rfl, rfl⟩
  · refine .inl ⟨⟨d.bytes, source⟩, rfl, ?_, ?_⟩
    · exact List.length_pos_iff.mp d.pos
    · rw [remaining, remaining, List.flatMap_cons, List.nil_append]

/-- The front of the array and what is left are what they were before. -/
theorem takePending_spec (s : BufferedInputStream) (b : Vector UInt8 n) {off cnt : ℕ}
    (hoff : off + cnt ≤ n) (hcnt : cnt ≤ s.pending.length) :
    (takePending s b off cnt).2.1.toList.take (off + cnt) ++
        (takePending s b off cnt).2.2.remaining =
      b.toList.take off ++ s.remaining := by
  have hlen : (s.pending.take cnt).length = cnt := List.length_take_of_le hcnt
  have hcopy := take_arraycopy (s.pending.take cnt) b (hlen.symm ▸ hoff)
  rw [hlen] at hcopy
  show (arraycopy (s.pending.take cnt) b off).toList.take (off + cnt) ++
    (s.pending.drop cnt ++ s.source.flatMap Delivery.bytes) = _
  rw [hcopy, List.append_assoc, ← List.append_assoc (s.pending.take cnt),
    List.take_append_drop, remaining]

/-- `read1` takes bytes from `buf`, after it has filled it where necessary, or finds the end of the
stream, or fails with it. -/
theorem read1_spec (S : InputStream) (s : BufferedInputStream) (b : Vector UInt8 n) (off len : ℕ) :
    (∃ t, t.pending ≠ [] ∧ t.remaining = s.remaining ∧
        read1 S s b off len = .ok (some (takePending t b off (min t.pending.length len)))) ∨
      (read1 S s b off len = .ok none ∧ s.remaining = [] ∧ S.failure = none) ∨
      ∃ e, read1 S s b off len = .error e ∧ S.failure = some e := by
  rw [read1]
  by_cases hs : s.pending = []
  · rw [if_pos hs]
    rcases fill_spec (S := S) hs with ⟨t, ht, hne, hrem⟩ | ⟨hfill, hrem, hend⟩ | ⟨e, he, hf⟩
    · refine .inl ⟨t, hne, hrem, ?_⟩
      rw [ht]
      exact if_neg hne
    · refine .inr (.inl ⟨?_, hrem, hend⟩)
      rw [hfill]
      exact if_pos hs
    · refine .inr (.inr ⟨e, ?_, hf.2⟩)
      rw [he]
      rfl
  · refine .inl ⟨s, hs, rfl, ?_⟩
    rw [if_neg hs]
    exact if_neg hs

/-- What a read comes to when `m` bytes are in the array already: bytes, the end of the stream, or
its failure. -/
inductive Reads (S : InputStream) (s : BufferedInputStream) (b : Vector UInt8 n) (m : ℕ) :
    Except Exception (Option (ℕ × Vector UInt8 n × BufferedInputStream)) → Prop where
  | bytes {k : ℕ} {c : Vector UInt8 n} {t : BufferedInputStream} (pos : 0 < k) (le : k ≤ n)
      (taken : c.toList.take k ++ t.remaining = b.toList.take m ++ s.remaining) :
      Reads S s b m (.ok (some (k, c, t)))
  | endOfStream (first : m = 0) (rest : s.remaining = []) (ends : S.failure = none) :
      Reads S s b m (.ok none)
  | failure {e : Exception} (fails : S.failure = some e) : Reads S s b m (.error e)

/-- What the rest of a read comes to. -/
theorem Reads.of_continue {m m' : ℕ} (hm' : 0 < m')
    (htaken : c.toList.take m' ++ t.remaining = b.toList.take m ++ s.remaining)
    {r : Except Exception (Option (ℕ × Vector UInt8 n × BufferedInputStream))}
    (h : Reads S t c m' r) : Reads S s b m r := by
  rcases h with ⟨hpos, hle, h⟩ | ⟨hfirst, -, -⟩ | hfails
  · exact .bytes hpos hle (h.trans htaken)
  · exact absurd hfirst (Nat.ne_of_gt hm')
  · exact .failure hfails

/-- The rounds of a read, by induction on the room that is left in the array. -/
theorem readLoop_spec (S : InputStream) {k m : ℕ} (hm : m < n) (hk : n ≤ m + k)
    (s : BufferedInputStream) (b : Vector UInt8 n) : Reads S s b m (readLoop S k s b m) := by
  induction k generalizing m s b with
  | zero => omega
  | succ k ih =>
    rw [readLoop]
    rcases read1_spec S s b m (n - m) with ⟨t, hne, hrem, h1⟩ | ⟨h1, hrem, hend⟩ | ⟨e, h1, hf⟩
    · rw [h1]
      have hpos : 0 < t.pending.length := List.length_pos_iff.mpr hne
      have hcnt : m + min t.pending.length (n - m) ≤ n := by omega
      have htaken := takePending_spec t b hcnt (Nat.min_le_left _ _)
      rw [hrem] at htaken
      rw [takePending] at htaken ⊢
      show Reads S s b m (if _ then _ else _)
      split
      · exact .bytes (by omega) (by omega) htaken
      · next hgo =>
        rw [not_or] at hgo
        exact (ih (by omega) (by omega) _ _).of_continue (by omega) htaken
    · rw [h1]
      show Reads S s b m (.ok (if _ then _ else _))
      split
      · next h0 => exact .endOfStream h0 hrem hend
      · next h0 => exact .bytes (Nat.pos_of_ne_zero h0) (Nat.le_of_lt hm) rfl
    · rw [h1]
      exact .failure hf

/-- **A read returns the next bytes of the stream**, one at least, or finds its end, or fails with
it. -/
theorem read_spec (hn : 0 < n) (S : InputStream) (s : BufferedInputStream) (b : Vector UInt8 n) :
    Reads S s b 0 (read S s b) :=
  readLoop_spec S hn (Nat.le_of_eq (Nat.zero_add n).symm) s b

/-- A read that returns bytes leaves fewer of them. -/
theorem length_remaining_lt (hn : 0 < n) {k : ℕ} (h : read S s b = .ok (some (k, c, t))) :
    t.remaining.length < s.remaining.length := by
  have hspec := read_spec hn S s b
  rw [h] at hspec
  rcases hspec with ⟨hpos, hle, htaken⟩
  have hlen := congrArg List.length htaken
  rw [List.take_zero, List.nil_append, List.length_append, List.length_take,
    Vector.length_toList] at hlen
  omega

end BufferedInputStream

/-! ### `readFully` -/

open BufferedInputStream in
/-- The loop of `readFully`: what it has written to the `ByteArrayOutputStream` when a read returns
-1. The buffer is the same in all rounds. -/
def copyLoop (S : InputStream) (s : BufferedInputStream) (buffer : Vector UInt8 1024)
    (out : List UInt8) : Except Exception (List UInt8) :=
  match _hread : read S s buffer with
  | .error e => .error e
  | .ok none => .ok out
  | .ok (some (available, buffer, s')) => copyLoop S s' buffer (out ++ buffer.toList.take available)
termination_by s.remaining.length
decreasing_by exact length_remaining_lt (by decide) _hread

/-- The bytes that `readFully` has collected when it finds the end of the stream, from a buffer that
holds anything. -/
def collect (S : InputStream) (buffer : Vector UInt8 1024) : Except Exception (List UInt8) :=
  copyLoop S (.ofStream S) buffer []

/-- `HttpsWithCertificate.readFully`. -/
def readFully (D : Decoder) (inputStream : Option InputStream) : Except Exception JString :=
  match inputStream with
  | none => .ok []
  | some S =>
    match collect S (.replicate 1024 0), S.closeFailure with
    -- an exception of `close` replaces that of a read
    | _, some e => .error e
    | .error e, none => .error e
    | .ok out, none => .ok (D.decode out)

/-- **The loop collects the bytes of the stream**, whatever the buffer held before, or fails with
the stream. -/
theorem copyLoop_eq (S : InputStream) (s : BufferedInputStream) (buffer : Vector UInt8 1024)
    (out : List UInt8) :
    copyLoop S s buffer out =
      match S.failure with
      | none => .ok (out ++ s.remaining)
      | some e => .error e := by
  induction s, buffer, out using copyLoop.induct S with
  | case1 s buffer out e hread =>
    have hspec := BufferedInputStream.read_spec (by decide) S s buffer
    rw [hread] at hspec
    rcases hspec with _ | _ | hfails
    rw [copyLoop, hread, hfails]
  | case2 s buffer out hread =>
    have hspec := BufferedInputStream.read_spec (by decide) S s buffer
    rw [hread] at hspec
    rcases hspec with _ | ⟨-, hrest, hends⟩ | _
    rw [copyLoop, hread, hends]
    simp only [hrest, List.append_nil]
  | case3 s buffer out available buffer' s' hread ih =>
    have hspec := BufferedInputStream.read_spec (by decide) S s buffer
    rw [hread] at hspec
    rcases hspec with ⟨-, -, htaken⟩
    rw [List.take_zero, List.nil_append] at htaken
    rw [copyLoop, hread]
    simp only [ih, List.append_assoc, htaken]

/-- What a stream leaves of itself. -/
theorem collect_eq (S : InputStream) (buffer : Vector UInt8 1024) :
    collect S buffer =
      match S.failure with
      | none => .ok S.bytes
      | some e => .error e :=
  copyLoop_eq S (.ofStream S) buffer []

/-- **The result of `readFully` depends on the bytes alone.** From a stream that ends, however it
delivers its bytes, `readFully` returns the decoding of the whole; if the bytes are the encoding of
a well-formed string, it returns the string; and nothing that the buffer held before a read is among
the bytes that are collected. -/
structure ReadsExactly (D : Decoder) (S : InputStream) : Prop where
  decoded : readFully D (some S) = .ok (D.decode S.bytes)
  restored : ∀ s : JString, WellFormed s → S.bytes = encode s → readFully D (some S) = .ok s
  collected : ∀ buffer, collect S buffer = .ok S.bytes

/-- `readFully` on a stream that ends. -/
theorem readFully_of_ends (D : Decoder) {S : InputStream} (hends : S.failure = none)
    (hclose : S.closeFailure = none) : readFully D (some S) = .ok (D.decode S.bytes) := by
  rw [readFully, collect_eq, hends, hclose]

/-- **`readFully` is independent of chunking**, with any decoder that replaces malformed input, for
every way in which a stream delivers its bytes and announces them. -/
theorem read_fully_exact (D : Decoder) (deliveries : List Delivery) (endAnnounced : Bool) :
    ReadsExactly D (.ofDeliveries deliveries endAnnounced) where
  decoded := readFully_of_ends D rfl rfl
  restored s hs hbytes := by
    rw [readFully_of_ends D rfl rfl, hbytes, D.decode_encode hs]
  collected := collect_eq (.ofDeliveries deliveries endAnnounced)

/-! ### `writeFully` -/

/-- The stream of a request. -/
structure OutputStream where
  /-- How many bytes the stream takes before it fails for good, and what it throws then; `none` if
  it takes all that comes. -/
  failure : Option (ℕ × Exception)

/-- The bytes that a stream takes of what is written, flushed and closed, and what it throws. -/
def OutputStream.write (o : OutputStream) (bytes : List UInt8) : List UInt8 × Option Exception :=
  match o.failure with
  | none => (bytes, none)
  | some (taken, e) => (bytes.take taken, some e)

/-- `PrintWriter`: an `IOException` of the stream only sets the error flag of the writer, which is
never asked for. -/
def PrintWriter.write (o : OutputStream) (data : JString) : List UInt8 × Option Exception :=
  let (bytes, thrown) := o.write (encode data)
  (bytes, if thrown = some .io then none else thrown)

/-- `HttpsWithCertificate.writeFully`: the bytes written, and what it throws. -/
def writeFully (outputStream : Option OutputStream) (data : JString) :
    List UInt8 × Option Exception :=
  match outputStream with
  | none => ([], none)
  | some o => PrintWriter.write o data

/-- A stream that takes the whole body and throws nothing but an `IOException`. -/
def Takes (outputStream : Option OutputStream) (data : JString) : Prop :=
  match outputStream with
  | none => data = []
  | some o => ∀ taken e, o.failure = some (taken, e) → e = .io ∧ (encode data).length ≤ taken

/-- **When the whole body is written**, and `writeFully` returns. -/
theorem writeFully_iff {outputStream : Option OutputStream} {data : JString} :
    writeFully outputStream data = (encode data, none) ↔ Takes outputStream data := by
  rcases outputStream with _ | o
  · show (([] : List UInt8), (none : Option Exception)) = (encode data, none) ↔ data = []
    constructor
    · intro h
      have hnil : ([] : List UInt8) = encode data := (Prod.ext_iff.mp h).1
      have hle := (length_encode data).1
      rw [← hnil] at hle
      exact List.length_eq_zero_iff.mp (Nat.le_zero.mp hle)
    · rintro rfl
      rfl
  · rw [writeFully, PrintWriter.write, Takes, OutputStream.write]
    rcases o.failure with _ | ⟨taken, e⟩
    · exact iff_of_true rfl nofun
    · show ((encode data).take taken, if some e = some Exception.io then none else some e) =
        (encode data, none) ↔ _
      rw [Prod.ext_iff, List.take_eq_self_iff]
      constructor
      · rintro ⟨hle, hthrown⟩ taken' e' h
        obtain ⟨rfl, rfl⟩ := Prod.ext_iff.mp (Option.some.inj h)
        refine ⟨?_, hle⟩
        by_contra hne
        rw [if_neg fun heq => hne (Option.some.inj heq)] at hthrown
        exact absurd hthrown nofun
      · intro h
        obtain ⟨rfl, hle⟩ := h taken e rfl
        exact ⟨hle, rfl⟩

end BluetoothAuto.App.HttpsWithCertificate
