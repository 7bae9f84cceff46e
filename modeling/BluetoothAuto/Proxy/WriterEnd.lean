import BluetoothAuto.Lib.ExitLoop
import BluetoothAuto.Proxy.AppToCar

/-!
# `writeGeonet` when the app is gone

When the app disconnects, `writeGeonet` is told: `read` returns `0` or `-1`, and `SSL_accept`
fails. But the body of its loop does no more than skip the frame. It holds no `break`, no `return`
and no `exit`, so the loop goes on as long as the process lives.

Whether it is at least silent is another matter. The unsecured loop is; the secured one keeps the
count of the last successful handshake, and when the next handshakes fail it sends an empty frame
for each of them.

## Main results

* `writer_never_stops` — neither loop ever stops
* `unsecured_silent`, `secured_silent_iff` — when the loops are silent
* `secured_floods` — what the secured loop sends when it is not
-/

namespace BluetoothAuto

variable {ι ο : Type*}

/-! ### The loops with their control flow -/

/-- The loop of `writeGeonet` in `unsecured_proxy.c`. Whatever `read` has returned, control goes
back to the head of the loop. -/
def Unsecured.writerLoop (L : WriterFrame) :
    ExitLoop WriterState ReadResult (Option (List UInt8)) where
  body s r :=
    let (s, sent) := (writeGeonet L).step s r
    (s, sent, .next)

/-- The loop of `writeGeonet` in `proxy.c`. Whatever `SSL_accept` and `SSL_read` have returned,
control goes back to the head of the loop. -/
def Secured.writerLoop (L : WriterFrame) :
    ExitLoop WriterState TlsAttempt (Option (List UInt8)) where
  body s e :=
    let (s, sent) := (writeGeonet L).step s e
    (s, sent, .next)

/-! ### An app that goes away -/

/-- What a loop is given by an app that goes away: anything in the first iterations, and from one
of them on nothing but ends of the stream and errors. -/
structure Disconnection (gone : ι → Prop) where
  /-- What each iteration is given. -/
  inputs : ℕ → ι
  /-- The first iteration that the app does not see. -/
  last : ℕ
  /-- From there on the app is gone. -/
  gone_from : ∀ k, last ≤ k → gone (inputs k)

/-- `read` has returned `0` or `-1`. -/
def ReadResult.Gone (r : ReadResult) : Prop := ¬ 0 < r.count

/-- `SSL_accept` has failed, or `SSL_read` has returned `0` or `-1`. -/
def TlsAttempt.Gone (e : TlsAttempt) : Prop := ¬ 0 < e.ownRead.count

/-- No frame is sent in the iterations from `last` on. -/
def Silent (M : ExitLoop WriterState ι (Option (List UInt8))) (s : WriterState) {gone : ι → Prop}
    (d : Disconnection gone) : Prop :=
  ∀ k, d.last ≤ k → ∀ f, M.answerAt s d.inputs k ≠ some (some f)

/-- The loop ends after finitely many iterations, and sends no frame when the app is gone. -/
structure StopsWithApp (M : ExitLoop WriterState ι (Option (List UInt8))) (s : WriterState)
    {gone : ι → Prop} (d : Disconnection gone) : Prop where
  /-- The loop ends. -/
  ends : M.Ends s d.inputs
  /-- It is silent. -/
  silent : Silent M s d

variable (L : WriterFrame) (m : MacAddress) (mem : FlatMemory)

/-- **Neither loop ever stops**, whatever the app has sent before it went away and whatever the
calls return from then on. -/
theorem writer_never_stops (d : Disconnection ReadResult.Gone)
    (e : Disconnection TlsAttempt.Gone) :
    ¬ StopsWithApp (Unsecured.writerLoop L) (writerInit L m mem) d ∧
      ¬ StopsWithApp (Secured.writerLoop L) (writerInit L m mem) e :=
  ⟨fun h => ExitLoop.not_ends (fun _ _ => rfl) h.ends,
    fun h => ExitLoop.not_ends (fun _ _ => rfl) h.ends⟩

/-- The app sends one byte and closes the connection. -/
def oneByteThenEnd : Disconnection ReadResult.Gone where
  inputs k := if k = 0 then oneByte 0x74 else .received ⟨[], Nat.zero_le _⟩
  last := 1
  gone_from k hk := by
    rw [if_neg (Nat.ne_of_gt hk)]
    exact Int.lt_irrefl 0

/-- The end of the stream does not end the loop. -/
theorem end_of_stream_ignored :
    ¬ StopsWithApp (Unsecured.writerLoop adjacentFrame)
      (writerInit adjacentFrame loopback fun _ => 0) oneByteThenEnd :=
  fun h => ExitLoop.not_ends (fun _ _ => rfl) h.ends

/-! ### Silence -/

/-- The unsecured loop sends nothing when the app is gone. -/
theorem unsecured_silent (s : WriterState) (d : Disconnection ReadResult.Gone) :
    Silent (Unsecured.writerLoop L) s d := by
  intro k hk f hf
  obtain ⟨t, -, ht⟩ := Option.map_eq_some_iff.mp hf
  have hsends : Unsecured.sends (d.inputs k) = some f := (Unsecured.step_snd L t _).symm.trans ht
  rw [Unsecured.sends, if_neg (d.gone_from k hk)] at hsends
  cases hsends

/-- `bytes_read` at the head of iteration `k` of the secured loop. -/
def countAt (xs : ℕ → TlsAttempt) : ℕ → ℤ
  | 0 => 0
  | k + 1 => Secured.nextCount (countAt xs k) (xs k)

/-- What the secured loop sends in iteration `k`. -/
def sentAt (xs : ℕ → TlsAttempt) (k : ℕ) : Option (List UInt8) :=
  match xs k with
  | .acceptFailed => if 0 < countAt xs k then some (wipedFrame []) else none
  | .accepted r => Unsecured.sends r

theorem answerAt_secured (xs : ℕ → TlsAttempt) (k : ℕ) :
    (Secured.writerLoop L).answerAt (writerInit L m mem) xs k = some (sentAt xs k) := by
  obtain ⟨t, ht⟩ : ∃ t, (Secured.writerLoop L).stateAt (writerInit L m mem) xs k = some t :=
    ExitLoop.exists_stateAt (fun _ _ => rfl) k
  have hcount : t.bytesRead = countAt xs k :=
    ExitLoop.stateAt_invariant (P := fun k t => t.bytesRead = countAt xs k) rfl
      (fun k t h => (Secured.step_bytesRead L t (xs k)).trans (by rw [h, countAt])) ht
  rw [ExitLoop.answerAt, ht, Option.map_some, sentAt]
  show some ((Secured.writeGeonet L).step t (xs k)).2 = _
  cases hx : xs k with
  | acceptFailed => rw [Secured.step_snd_acceptFailed, hcount]
  | accepted r => rw [Secured.step_snd_accepted]

/-- While every handshake fails the count stays. -/
theorem countAt_of_acceptFailed {xs : ℕ → TlsAttempt} {n k : ℕ}
    (h : ∀ j, n ≤ j → xs j = .acceptFailed) (hk : n ≤ k) : countAt xs k = countAt xs n := by
  induction hk with
  | refl => rfl
  | step hk ih => rw [countAt, h _ hk, Secured.nextCount, ih]

/-- **When it is not silent** the secured loop sends an empty frame for each handshake that fails,
for ever. -/
theorem secured_floods {xs : ℕ → TlsAttempt} {n : ℕ} (hcount : 0 < countAt xs n)
    (h : ∀ j, n ≤ j → xs j = .acceptFailed) {k : ℕ} (hk : n ≤ k) :
    (Secured.writerLoop L).answerAt (writerInit L m mem) xs k = some (some (wipedFrame [])) := by
  have hpos : 0 < countAt xs k := (countAt_of_acceptFailed h hk).symm ▸ hcount
  simp only [answerAt_secured, sentAt, h k hk, if_pos hpos]

/-- Once the count is not positive it stays so when the app is gone. -/
theorem countAt_of_gone (d : Disconnection TlsAttempt.Gone) {n k : ℕ} (hn : d.last ≤ n)
    (h : ¬ 0 < countAt d.inputs n) (hk : n ≤ k) : ¬ 0 < countAt d.inputs k := by
  induction hk with
  | refl => exact h
  | @step k hk ih =>
    have hgone := d.gone_from k (hn.trans hk)
    rw [countAt]
    cases hx : d.inputs k with
    | acceptFailed => exact ih
    | accepted r =>
      rw [hx] at hgone
      exact hgone

theorem sentAt_eq_none {d : Disconnection TlsAttempt.Gone} {k : ℕ} (hk : d.last ≤ k)
    (h : ¬ 0 < countAt d.inputs k ∨ d.inputs k ≠ .acceptFailed) : sentAt d.inputs k = none := by
  have hgone := d.gone_from k hk
  rw [sentAt]
  split
  · next hx => exact if_neg (h.resolve_right fun hne => hne hx)
  · next r hx =>
    rw [hx] at hgone
    exact if_neg hgone

/-- **When the secured loop is silent**: iff nothing is left in `bytes_read` when the app goes
away, or the first iteration without it gets past its handshake. -/
theorem secured_silent_iff (d : Disconnection TlsAttempt.Gone) :
    Silent (Secured.writerLoop L) (writerInit L m mem) d ↔
      (0 < countAt d.inputs d.last → d.inputs d.last ≠ .acceptFailed) := by
  simp only [Silent, answerAt_secured]
  constructor
  · intro h hpos hfail
    refine h d.last le_rfl (wipedFrame []) ?_
    rw [sentAt, hfail]
    exact congrArg some (if_pos hpos)
  · intro h k hk f hf
    have hlast : ¬ 0 < countAt d.inputs d.last ∨ d.inputs d.last ≠ .acceptFailed :=
      not_or_of_imp h
    have hnone : sentAt d.inputs k = none := by
      rcases hk.eq_or_lt with rfl | hlt
      · exact sentAt_eq_none le_rfl hlast
      · -- the iteration `last` leaves a count that is not positive
        refine sentAt_eq_none hk (.inl (countAt_of_gone d (Nat.le_succ _) ?_ hlt))
        have hgone := d.gone_from d.last le_rfl
        rw [countAt]
        cases hx : d.inputs d.last with
        | acceptFailed => exact hlast.resolve_right fun hne => hne hx
        | accepted r =>
          rw [hx] at hgone
          exact hgone
    cases hnone.symm.trans (Option.some.inj hf)

end BluetoothAuto
