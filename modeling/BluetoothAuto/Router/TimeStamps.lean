import BluetoothAuto.Router.CamApplication

/-!
# The time stamps of a tick

`on_timer` reads the clock twice, once for the CAM and once for the DENM, and the runtime stands
still in between. The CAM carries the count of milliseconds in sixteen bits, which is what its
`generationDeltaTime` is: a time modulo 65536. The DENM carries the whole count, as an `INTEGER`
that `asn_long2INTEGER` makes from a C `long`, and the range of `TimestampIts` has 42 bits.

Dropping whole multiples of 65536 does no harm to the CAM, whatever the width of a `long`, and the
two stamps of a tick always agree modulo 65536. The DENM loses everything above 32 bits where a
`long` has no more, and the sign with it.

## Main results

* `LongWidth.toLong_eq_iff` — which counts a `long` can hold
* `CamApplication.stamps_right_iff` — when the stamps of a tick are complete and consistent
* `CamApplication.detectionTime_mod` — the stamps of a tick agree modulo 65536 on every target
* `CamApplication.handed_run_tick` — every packet of a run is that of one of its ticks
* `CamApplication.detectionTime_run` — the detection times of a run
-/

namespace BluetoothAuto.Router

/-! ### The conversion to `long` -/

namespace LongWidth

/-- A `long` of either width keeps a count modulo 65536. -/
theorem toLong_emod (width : LongWidth) (n : ℤ) : width.toLong n % 65536 = n % 65536 := by
  have hdvd : (65536 : ℤ) ∣ (width.size : ℤ) := by
    rcases width with _ | _
    · exact ⟨65536, rfl⟩
    · exact ⟨281474976710656, rfl⟩
  rw [toLong, Int.bmod_def]
  split
  · exact Int.emod_emod_of_dvd n hdvd
  · obtain ⟨k, hk⟩ := hdvd
    rw [hk, Int.sub_mul_emod_self_left]
    exact Int.emod_emod_of_dvd n ⟨k, rfl⟩

/-- A `long` holds a non-negative count exactly if it is below half the number of values. -/
theorem toLong_eq_iff_lt {width : LongWidth} {n : ℤ} (hn : 0 ≤ n) :
    width.toLong n = n ↔ 2 * n < width.size := by
  have hsize : (width.size : ℤ) % 2 = 0 ∧ 0 < (width.size : ℤ) := by
    rcases width with _ | _
    · exact ⟨rfl, by decide⟩
    · exact ⟨rfl, by decide⟩
  constructor
  · intro h
    have hlt : n.bmod width.size < (width.size + 1) / 2 := Int.bmod_lt (by omega)
    rw [toLong] at h
    omega
  · intro h
    rw [toLong, Int.bmod_def, Int.emod_eq_of_lt hn (by omega), if_pos (by omega)]

/-- **Which counts a `long` can hold**: one of 64 bits all of the range of `TimestampIts`, one of
32 bits the first half of its values. -/
theorem toLong_eq_iff {width : LongWidth} {n : ℤ} (hn : 0 ≤ n) (hle : n ≤ 4398046511103) :
    width.toLong n = n ↔ width = .bits64 ∨ n < 2147483648 := by
  rw [toLong_eq_iff_lt hn]
  rcases width with _ | _
  · have hsize : ((bits32.size : ℕ) : ℤ) = 4294967296 := rfl
    rw [hsize, or_iff_right (by decide)]
    omega
  · have hsize : ((bits64.size : ℕ) : ℤ) = 18446744073709551616 := rfl
    rw [hsize]
    exact iff_of_true (by omega) (.inl rfl)

end LongWidth

/-! ### The stamps of a tick -/

namespace CamApplication

variable {π ρ β : Type}

/-- A reading of the runtime's clock in the range of `TimestampIts`. -/
structure ClockReading where
  /-- `runtime_.now().time_since_epoch()`, in microseconds. -/
  now : ℤ
  nonneg : 0 ≤ milliseconds now
  le : milliseconds now ≤ 4398046511103

/-- What the environment answers during a call of `on_timer` by the manual runtime, whose `now()`
does not change during a callback. -/
structure SteadyTick (π : Type) where
  reading : ClockReading
  camPosition : π
  denmPosition : π
  camConfirm : ResultCode
  denmConfirm : ResultCode

/-- The tick, with the same reading for both messages. -/
def SteadyTick.tick (t : SteadyTick π) : Tick π where
  camTime := t.reading.now
  camPosition := t.camPosition
  denmTime := t.reading.now
  denmPosition := t.denmPosition
  camConfirm := t.camConfirm
  denmConfirm := t.denmConfirm

/-- The time of the tick, in milliseconds since 2004. -/
def SteadyTick.time (t : SteadyTick π) : ℤ := milliseconds t.reading.now

/-- The CAM that `on_timer` builds in this tick. -/
def SteadyTick.cam (A : Asn1 π ρ β) (t : SteadyTick π) : Cam ρ :=
  camMessage A t.tick.camTime t.tick.camPosition

/-- The DENM that `on_timer` builds in this tick. -/
def SteadyTick.denm (A : Asn1 π ρ β) (t : SteadyTick π) : Denm ρ :=
  denmMessage A t.tick.denmTime t.tick.denmPosition

/-- **The time stamps of one tick are complete and consistent.** A call of `on_timer` that gets as
far as its DENM hands over one CAM and one DENM. The detection time of the DENM is the time of the
tick, and the generation time of the CAM is the detection time modulo 65536. -/
structure StampsRight (A : Asn1 π ρ β) (t : SteadyTick π) : Prop where
  handed : ∀ app : CamApplication ρ, ReachesDenm A app t.tick →
    (onTimer A app t.tick).handed =
      app.handed ++ [packet camRequest (.cam (t.cam A)), packet denmRequest (.denm (t.denm A))]
  detectionTime : (t.denm A).detectionTime = t.time
  generationDeltaTime : ((t.cam A).generationDeltaTime : ℤ) = (t.denm A).detectionTime % 65536

/-- A call of `on_timer` that gets as far as its DENM hands over both messages. -/
theorem handed_of_reachesDenm {A : Asn1 π ρ β} {app : CamApplication ρ} {t : Tick π}
    (h : ReachesDenm A app t) :
    (onTimer A app t).handed = app.handed ++ [camPacket A t, denmPacket A t] := by
  rw [handed_onTimer, if_pos h.1, if_pos h]
  rfl

/-- The generation time of a CAM is its time modulo 65536: the 16-bit variable drops multiples of
65536 only. -/
theorem generationDeltaTime_cam (A : Asn1 π ρ β) (t : SteadyTick π) :
    ((t.cam A).generationDeltaTime : ℤ) = t.time % 65536 := by
  show (((t.time % 65536).toNat * 1 : ℕ) : ℤ) = t.time % 65536
  have hnonneg : 0 ≤ t.time % 65536 := Int.emod_nonneg _ (by decide)
  omega

/-- **The stamps of a tick agree modulo 65536**, however many bits the target's `long` has. -/
theorem detectionTime_mod (A : Asn1 π ρ β) (t : SteadyTick π) :
    ((t.cam A).generationDeltaTime : ℤ) = (t.denm A).detectionTime % 65536 := by
  rw [generationDeltaTime_cam]
  exact (A.long.toLong_emod t.time).symm

/-- **When the time stamps of a tick are complete and consistent**: on a target with 64-bit `long`
always, on one with 32-bit `long` exactly before 2147483648 ms, which is the twenty-fifth day
of 2004. -/
theorem stamps_right_iff (A : Asn1 π ρ β) (t : SteadyTick π) :
    StampsRight A t ↔ A.long = .bits64 ∨ t.time < 2147483648 := by
  have hiff : (t.denm A).detectionTime = t.time ↔ A.long = .bits64 ∨ t.time < 2147483648 :=
    LongWidth.toLong_eq_iff t.reading.nonneg t.reading.le
  constructor
  · intro h
    exact hiff.mp h.detectionTime
  · intro h
    exact ⟨fun app hreach => handed_of_reachesDenm hreach, hiff.mpr h, detectionTime_mod A t⟩

/-- A tick at 2147483648 ms. -/
def overflowTick : SteadyTick (ℤ × ℤ) where
  reading := ⟨2147483648000, by decide, by decide⟩
  camPosition := (48, 2)
  denmPosition := (48, 2)
  camConfirm := .accepted
  denmConfirm := .accepted

/-- **A detection time before 2004.** On a target with 32-bit `long`, an enabled application hands
over both messages of the tick at 2147483648 ms, and the DENM carries -2147483648. -/
theorem detection_time_negative :
    ∃ (A : Asn1 (ℤ × ℤ) (ℤ × ℤ) (Message (ℤ × ℤ))) (t : SteadyTick (ℤ × ℤ)) (app : _),
      A.long = .bits32 ∧ t.time = 2147483648 ∧ ¬ StampsRight A t ∧
      (system A).run new [.enable, .onTimer t.tick] = some app ∧ app.thrown = none ∧
      app.handed = [packet camRequest (.cam (t.cam A)), packet denmRequest (.denm (t.denm A))] ∧
      (t.denm A).detectionTime = -2147483648 := by
  refine ⟨{ plainAsn1 with long := .bits32 }, overflowTick, _, rfl, by decide, fun h => ?_, rfl,
    rfl, rfl, by decide⟩
  exact absurd h.detectionTime (by decide)

/-- On a target with 32-bit `long`, the detection time of the second half of each 49.7 days is
negative. -/
theorem detectionTime_neg {A : Asn1 π ρ β} (h : A.long = .bits32) (t : SteadyTick π)
    (hhalf : 2147483648 ≤ t.time % 4294967296) : (t.denm A).detectionTime < 0 := by
  show A.long.toLong t.time < 0
  have hlt : t.time % 4294967296 < 4294967296 := Int.emod_lt_of_pos _ (by decide)
  have hsize : ((LongWidth.bits32.size : ℕ) : ℤ) = 4294967296 := rfl
  rw [h, LongWidth.toLong, Int.bmod_def, hsize, if_neg (by omega)]
  omega

/-! ### The packets of a run -/

/-- **Every packet of a run is that of one of its ticks**: it carries the stamp of that tick. -/
theorem handed_run_tick {A : Asn1 π ρ β} {as : List (Action π β)} {app app' : CamApplication ρ}
    (h : (system A).run app as = some app') :
    ∀ p ∈ app'.handed, p ∈ app.handed ∨
      ∃ t, Action.onTimer t ∈ as ∧ (p = camPacket A t ∨ p = denmPacket A t) := by
  induction as generalizing app with
  | nil =>
    obtain rfl := Option.some.inj h
    exact fun p hp => .inl hp
  | cons a as ih =>
    obtain ⟨app₁, hstep, h⟩ := (ActionSystem.run_cons_iff _).mp h
    intro p hp
    rcases ih h p hp with hp | ⟨t, ht, hpt⟩
    · obtain ⟨t, rfl, hh⟩ | ⟨-, hh⟩ := handed_step hstep
      · rw [hh, handed_onTimer, List.mem_append, List.mem_append] at hp
        rcases hp with hp | hp | hp
        · exact .inl hp
        · obtain ⟨-, hp⟩ := List.mem_ite_nil_right.mp hp
          exact .inr ⟨t, List.mem_cons_self, .inl (List.mem_singleton.mp hp)⟩
        · obtain ⟨-, hp⟩ := List.mem_ite_nil_right.mp hp
          exact .inr ⟨t, List.mem_cons_self, .inr (List.mem_singleton.mp hp)⟩
      · exact .inl (hh ▸ hp)
    · exact .inr ⟨t, List.mem_cons_of_mem a ht, hpt⟩

/-- **The detection times of a run.** If every tick of a run can be stamped right, then every DENM
handed over in it carries the time of one of its ticks. -/
theorem detectionTime_run {A : Asn1 π ρ β} {as : List (Action π β)} {app : CamApplication ρ}
    (h : (system A).run new as = some app)
    (hticks : ∀ t, Action.onTimer t ∈ as → ∃ s : SteadyTick π, t = s.tick ∧
      (A.long = .bits64 ∨ s.time < 2147483648))
    {p : Handed ρ} (hp : p ∈ app.handed) {denm : Denm ρ} (hdenm : p.application = .denm denm) :
    ∃ s : SteadyTick π, Action.onTimer s.tick ∈ as ∧ denm.detectionTime = s.time := by
  rcases handed_run_tick h p hp with hp | ⟨t, ht, rfl | rfl⟩
  · exact absurd hp List.not_mem_nil
  · exact absurd hdenm nofun
  · obtain ⟨s, rfl, hs⟩ := hticks t ht
    obtain rfl := Message.denm.inj hdenm
    exact ⟨s, ht, (LongWidth.toLong_eq_iff s.reading.nonneg s.reading.le).mpr hs⟩

end CamApplication

end BluetoothAuto.Router
