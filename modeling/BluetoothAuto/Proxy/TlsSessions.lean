import BluetoothAuto.Proxy.WriteGeonet

/-!
# Sessions of the app and of the secured proxy

`ConnectedThread.run` makes one SSL engine, carries out one handshake and then sends one
application record per message. The loop of the secured `writeGeonet` makes an SSL object per
iteration: each message is expected behind a handshake of its own. The two agree on the first
message only.

OpenSSL is not part of the repository. It enters as a structure `OpenSsl` of the two calls the
loop makes, with what its documentation says about them; the results hold for every such pair.

## Main results

* `obtained_of_no_handshake` — on a stream without a handshake nothing is ever obtained
* `obtains_all_iff` — the lists of messages that the proxy obtains
-/

namespace BluetoothAuto

/-! ### The client's side of the wire -/

/-- The pieces of the byte stream that reaches the proxy. -/
inductive ClientUnit where
  /-- All the flights of one handshake, from the ClientHello on. -/
  | handshake
  /-- An application record. -/
  | record (d : Chunk)
  /-- The end of a unit whose beginning has been removed. -/
  | residue

/-- What `ConnectedThread.run` sends: one handshake, then one record per message. -/
def clientStream (msgs : List Chunk) : List ClientUnit :=
  .handshake :: msgs.map .record

/-- `Remains s t`: what is left of `s` when some bytes are removed from its front is `t`. -/
inductive Remains (s : List ClientUnit) : List ClientUnit → Prop
  /-- Whole units were removed. -/
  | whole (n : ℕ) : Remains s (s.drop n)
  /-- The last unit was removed in part. -/
  | torn (n : ℕ) (h : n < s.length) : Remains s (.residue :: s.drop (n + 1))

theorem Remains.no_handshake {s t : List ClientUnit} (h : Remains s t)
    (hs : .handshake ∉ s) : .handshake ∉ t := by
  intro hmem
  cases h with
  | whole n => exact hs (List.mem_of_mem_drop hmem)
  | torn n hn =>
    rcases List.mem_cons.mp hmem with h | hmem
    · cases h
    · exact hs (List.mem_of_mem_drop hmem)

/-- Behind a handshake, either nothing has been removed or the handshake is gone. -/
theorem Remains.of_handshake {s t : List ClientUnit} (h : Remains (.handshake :: s) t)
    (hs : .handshake ∉ s) : t = .handshake :: s ∨ .handshake ∉ t := by
  cases h with
  | whole n =>
    cases n with
    | zero => exact .inl rfl
    | succ n =>
      refine .inr ?_
      intro hmem
      exact hs (List.mem_of_mem_drop hmem)
  | torn n hn =>
    refine .inr ?_
    intro hmem
    rcases List.mem_cons.mp hmem with h | hmem
    · cases h
    · exact hs (List.mem_of_mem_drop hmem)

/-! ### The server's side -/

/-- `SSL_accept` on a new SSL object and `SSL_read` on an accepted one. Each is given the bytes
that the client has still to be read for and says what it leaves of them; `none` is a call that
never returns. -/
structure OpenSsl where
  /-- `SSL_accept`, with whether it succeeded. -/
  accept : List ClientUnit → Option (Bool × List ClientUnit)
  /-- `SSL_read` into `buf`. -/
  read : List ClientUnit → Option (ReadResult × List ClientUnit)
  /-- `SSL_accept` succeeds only at a handshake, and takes no more than that. -/
  accept_true {s t : List ClientUnit} : accept s = some (true, t) → s = .handshake :: t
  /-- When `SSL_accept` fails it has removed bytes from the front of the stream. -/
  accept_false {s t : List ClientUnit} : accept s = some (false, t) → Remains s t
  /-- `SSL_accept` fails on an application record. -/
  accept_record (d : Chunk) (s : List ClientUnit) :
    ∃ t, accept (.record d :: s) = some (false, t)
  /-- `SSL_read` removes bytes from the front of the stream. -/
  read_remains {s t : List ClientUnit} {r : ReadResult} : read s = some (r, t) → Remains s t
  /-- `SSL_read` waits for data. -/
  read_nil : read [] = none
  /-- `SSL_read` delivers the next record. -/
  read_record {d : Chunk} (hd : d.bytes ≠ []) (s : List ClientUnit) :
    read (.record d :: s) = some (.received d, s)

variable (T : OpenSsl)

/-- The part of one iteration of `writeGeonet` that deals with the client. -/
def tlsAttempt (s : List ClientUnit) : Option (TlsAttempt × List ClientUnit) :=
  match T.accept s with
  | none => none
  | some (false, s) => some (.acceptFailed, s)
  | some (true, s) => (T.read s).map fun p => (.accepted p.1, p.2)

/-- The first `k` iterations, or fewer if one of them never returns. -/
def tlsAttempts : ℕ → List ClientUnit → List TlsAttempt
  | 0, _ => []
  | k + 1, s =>
    match tlsAttempt T s with
    | none => []
    | some (e, s) => e :: tlsAttempts k s

/-- The messages that iterations have obtained from their own `SSL_read`. -/
def obtained (es : List TlsAttempt) : List (List UInt8) :=
  (es.map fun e => e.ownRead.bytes).filter (· ≠ [])

@[simp] theorem obtained_nil : obtained [] = [] := rfl

@[simp] theorem obtained_acceptFailed (es : List TlsAttempt) :
    obtained (.acceptFailed :: es) = obtained es := rfl

theorem obtained_accepted (r : ReadResult) (es : List TlsAttempt) :
    obtained (.accepted r :: es) = [r.bytes].filter (· ≠ []) ++ obtained es := by
  simp [obtained, TlsAttempt.ownRead, List.filter_cons]
  split <;> rfl

/-- From some iteration on, the messages obtained are `msgs`: all of them, once each, in order. -/
def ObtainsAll (msgs : List Chunk) : Prop :=
  ∃ K, ∀ k ≥ K, obtained (tlsAttempts T k (clientStream msgs)) = msgs.map Chunk.bytes

/-! ### Outside a session -/

/-- A message that is not preceded by a handshake costs the proxy a failed handshake. -/
theorem tlsAttempt_record (d : Chunk) (s : List ClientUnit) :
    ∃ t, tlsAttempt T (.record d :: s) = some (.acceptFailed, t) := by
  obtain ⟨t, ht⟩ := T.accept_record d s
  exact ⟨t, by rw [tlsAttempt, ht]⟩

/-- An iteration on a stream without a handshake fails, and leaves such a stream. -/
theorem tlsAttempt_of_no_handshake {s t : List ClientUnit} {e : TlsAttempt}
    (hs : .handshake ∉ s) (h : tlsAttempt T s = some (e, t)) :
    e = .acceptFailed ∧ .handshake ∉ t := by
  rw [tlsAttempt] at h
  split at h
  · cases h
  · next hfail =>
    cases h
    exact ⟨rfl, (T.accept_false hfail).no_handshake hs⟩
  · next htrue =>
    rw [T.accept_true htrue] at hs
    exact absurd List.mem_cons_self hs

/-- **Outside a session nothing is obtained**, however long the loop goes on. -/
theorem obtained_of_no_handshake {s : List ClientUnit} (hs : .handshake ∉ s) (k : ℕ) :
    obtained (tlsAttempts T k s) = [] := by
  induction k generalizing s with
  | zero => rfl
  | succ k ih =>
    rw [tlsAttempts]
    split
    · rfl
    · next e t h =>
      obtain ⟨rfl, ht⟩ := tlsAttempt_of_no_handshake T hs h
      exact ih ht

/-! ### The only session -/

/-- `SSL_accept` succeeds on the client's handshake. -/
def AcceptsClient (msgs : List Chunk) : Prop :=
  ∃ t, T.accept (clientStream msgs) = some (true, t)

theorem no_handshake_in_records (msgs : List Chunk) :
    ClientUnit.handshake ∉ msgs.map ClientUnit.record := by
  simp

/-- Where the handshake fails, the client is never heard. -/
theorem obtained_of_not_accepted {msgs : List Chunk} (h : ¬ AcceptsClient T msgs) (k : ℕ) :
    obtained (tlsAttempts T k (clientStream msgs)) = [] := by
  induction k with
  | zero => rfl
  | succ k ih =>
    rw [tlsAttempts, tlsAttempt]
    cases haccept : T.accept (clientStream msgs) with
    | none => rfl
    | some p =>
      obtain ⟨ok, t⟩ := p
      cases ok with
      | true => exact absurd ⟨t, haccept⟩ h
      | false =>
        -- either the attempt removed nothing, or it removed the handshake
        rcases (T.accept_false haccept).of_handshake (no_handshake_in_records msgs) with rfl | ht
        · exact ih
        · exact obtained_of_no_handshake T ht k

/-- Where the handshake succeeds, the client is heard once. -/
theorem obtained_of_accepted {msgs : List Chunk} (h : AcceptsClient T msgs) (k : ℕ) :
    obtained (tlsAttempts T (k + 1) (clientStream msgs)) =
      match T.read (msgs.map .record) with
      | none => []
      | some (r, _) => [r.bytes].filter (· ≠ []) := by
  obtain ⟨t, haccept⟩ := h
  obtain ⟨-, rfl⟩ := List.cons.inj (T.accept_true haccept)
  rw [tlsAttempts, tlsAttempt, haccept]
  cases hread : T.read (msgs.map .record) with
  | none => simp [hread]
  | some p =>
    obtain ⟨r, t⟩ := p
    have ht := (T.read_remains hread).no_handshake (no_handshake_in_records msgs)
    simp only [hread, Option.map_some, obtained_accepted, obtained_of_no_handshake T ht k,
      List.append_nil]

/-- One message is the most that is ever obtained. -/
theorem length_obtained_le (msgs : List Chunk) (k : ℕ) :
    (obtained (tlsAttempts T (k + 1) (clientStream msgs))).length ≤ 1 := by
  by_cases h : AcceptsClient T msgs
  · rw [obtained_of_accepted T h]
    split
    · exact Nat.zero_le 1
    · exact List.length_filter_le _ _
  · rw [obtained_of_not_accepted T h]
    exact Nat.zero_le 1

theorem length_le_one_of_obtainsAll {msgs : List Chunk} (h : ObtainsAll T msgs) :
    msgs.length ≤ 1 := by
  obtain ⟨K, hK⟩ := h
  have hlen := length_obtained_le T msgs K
  rw [hK (K + 1) (Nat.le_succ K), List.length_map] at hlen
  exact hlen

theorem obtainsAll_nil : ObtainsAll T [] := by
  refine ⟨1, ?_⟩
  intro k hk
  obtain ⟨k, rfl⟩ := Nat.exists_eq_add_of_le' hk
  by_cases h : AcceptsClient T []
  · rw [obtained_of_accepted T h, List.map_nil, T.read_nil, List.map_nil]
  · rw [obtained_of_not_accepted T h, List.map_nil]

theorem obtainsAll_singleton_iff (b : Chunk) :
    ObtainsAll T [b] ↔ b.bytes ≠ [] ∧ AcceptsClient T [b] := by
  constructor
  · rintro ⟨K, hK⟩
    have hK := hK (K + 1) (Nat.le_succ K)
    have hmem : b.bytes ∈ obtained (tlsAttempts T (K + 1) (clientStream [b])) := by simp [hK]
    refine ⟨by simpa using List.of_mem_filter hmem, ?_⟩
    by_contra h
    rw [obtained_of_not_accepted T h] at hmem
    cases hmem
  · rintro ⟨hb, h⟩
    refine ⟨1, ?_⟩
    intro k hk
    obtain ⟨k, rfl⟩ := Nat.exists_eq_add_of_le' hk
    rw [obtained_of_accepted T h, List.map_singleton, T.read_record hb, List.map_singleton]
    simp [ReadResult.bytes, hb]

/-- **Session agreement.** The proxy obtains the messages of the app iff there are none, or there
is a single one, it is not empty, and its handshake succeeds. -/
theorem obtains_all_iff (msgs : List Chunk) :
    ObtainsAll T msgs ↔
      msgs = [] ∨ ∃ b, msgs = [b] ∧ b.bytes ≠ [] ∧ AcceptsClient T msgs := by
  constructor
  · intro h
    match msgs, length_le_one_of_obtainsAll T h with
    | [], _ => exact .inl rfl
    | [b], _ => exact .inr ⟨b, rfl, (obtainsAll_singleton_iff T b).mp h⟩
  · rintro (rfl | ⟨b, rfl, hb⟩)
    · exact obtainsAll_nil T
    · exact (obtainsAll_singleton_iff T b).mpr hb

/-! ### Two messages -/

/-- An `OpenSsl` that accepts every handshake, and removes one unit of what is none. -/
def plainOpenSsl : OpenSsl where
  accept
    | [] => none
    | .handshake :: s => some (true, s)
    | .record _ :: s => some (false, .residue :: s)
    | .residue :: s => some (false, s)
  read
    | [] => none
    | .record d :: s => some (.received d, s)
    | _ :: s => some (.failed, s)
  accept_true {s t} h := by
    split at h <;> cases h
    rfl
  accept_false {s t} h := by
    split at h <;> cases h
    · exact .torn 0 (Nat.succ_pos _)
    · exact .whole 1
  accept_record d s := ⟨.residue :: s, rfl⟩
  read_remains {s t r} h := by
    split at h <;> cases h
    all_goals exact .whole 1
  read_nil := rfl
  read_record _ _ := rfl

/-- The message `"test"` that `ConnectedThread.run` sends every second. -/
def testMessage : Chunk := ⟨[0x74, 0x65, 0x73, 0x74], Nat.le_of_ble_eq_true rfl⟩

/-- The second `"test"` never arrives. -/
theorem second_message_lost : ¬ ObtainsAll plainOpenSsl [testMessage, testMessage] := by
  intro h
  exact absurd (length_le_one_of_obtainsAll _ h) (by decide)

end BluetoothAuto
