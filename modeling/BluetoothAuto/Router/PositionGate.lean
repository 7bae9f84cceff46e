import BluetoothAuto.Lib.ActionSystem
import Mathlib.Data.Int.Notation

/-!
# The GNSS gate: from gpsd to the packet flow

With `--require-gnss-fix` the router is meant to transmit only while there is a position fix. The
gate goes through three components: `GpsPositionProvider::fetch_position_fix` copies the report of
gpsd into a `PositionFix`, `RouterContext::update_position_vector` hands that fix to the router,
which derives the position accuracy indicator from its confidence, and `update_packet_flow` opens
or closes `DccPassthrough` accordingly. The provider and the position vector run on timers of
their own.

In `fetch_position_fix` the test of the report and the assignment of the confidence are commented
out, so the fix never carries a confidence. What the gate should follow, `Report.Usable`, is
stated here for comparison; it is not part of the code.

Doubles are a parameter, as is what vanetza makes of them.

## Main results

* `PositionGate.confidence_run` — the confidence of the fix is never written
* `PositionGate.gate_follows_iff` — the gate follows the receiver exactly if no report fetched
  before an update is usable
* `PositionGate.sent_run` — with the option set nothing is sent from `require_position_fix` on
* `PositionGate.allow_run` — without the option nothing is ever suppressed
-/

namespace BluetoothAuto.Router

/-! ### Reports and fixes -/

/-- `gps_data_t`, as far as it is read by the code or says whether the report is usable. -/
structure Report (δ : Type) where
  /-- `status`: 0 without a fix, 1 with a fix (`STATUS_FIX`). -/
  status : ℕ
  /-- `fix.mode`: 2 for `MODE_2D`, 3 for `MODE_3D`. -/
  mode : ℕ
  time : δ
  latitude : δ
  longitude : δ
  speed : δ
  eps : δ
  track : δ
  epd : δ
  /-- `fix.epx`: the estimated error of the longitude. -/
  epx : δ
  /-- `fix.epy`: the estimated error of the latitude. -/
  epy : δ
  /-- `devices.ndevices`. -/
  ndevices : ℤ

/-- `vanetza::ConfidentQuantity`. -/
structure ConfidentQuantity (δ : Type) where
  value : δ
  confidence : δ

/-- `vanetza::PositionConfidence`; the orientation in degrees from true north. -/
structure PositionConfidence (δ : Type) where
  semiMinor : δ
  semiMajor : δ
  orientation : ℕ

/-- `vanetza::PositionFix`, with times in `τ`. -/
structure PositionFix (τ δ : Type) where
  timestamp : τ
  latitude : δ
  longitude : δ
  speed : ConfidentQuantity δ
  course : ConfidentQuantity δ
  confidence : PositionConfidence δ
  altitude : Option (ConfidentQuantity δ)

/-- What vanetza and the arithmetic of doubles contribute. -/
structure Gnss (τ δ : Type) where
  /-- `std::isfinite`. -/
  finite : δ → Bool
  /-- `>` on doubles. -/
  gt : δ → δ → Bool
  /-- `GpsPositionProvider::convert`: the clock reading for a time of gpsd. -/
  convert : δ → τ
  /-- A `PositionFix` as its constructor leaves it. -/
  defaultFix : PositionFix τ δ
  /-- The position accuracy indicator that `Router::update_position` sets for a confidence. -/
  accurate : PositionConfidence δ → Bool
  /-- An unset confidence is not accurate. -/
  accurate_default : accurate defaultFix.confidence = false

/-! ### The components -/

/-- The receiver, the router and the packet-flow switch. -/
structure PositionGate (τ δ : Type) where
  /-- `GpsPositionProvider::gps_data`, or `none` before it is read for the first time. -/
  gpsData : Option (Report δ)
  /-- `GpsPositionProvider::fetched_position_fix`. -/
  fetchedPositionFix : PositionFix τ δ
  /-- `position_accuracy_indicator` of the local position vector of the router. -/
  positionAccuracyIndicator : Bool
  /-- `RouterContext::require_position_fix_`. -/
  requirePositionFix : Bool
  /-- `DccPassthrough::allow_packet_flow_`. -/
  allowPacketFlow : Bool
  /-- The packets sent on the socket, in order. -/
  sent : List (List UInt8)
  /-- `gps_error` was thrown, which ends the process. -/
  thrown : Bool

namespace PositionGate

variable {τ δ : Type}

/-- The loop of `fetch_position_fix`: `gps_read` until there is nothing more to read, or no device.
Each read has a result and leaves a report; `none` if the reads do not end the loop. -/
def readReport : List (ℤ × Report δ) → Option (ℤ × Report δ)
  | [] => none
  | (rc, report) :: reads =>
    if rc > 0 ∧ report.ndevices > 0 then readReport reads else some (rc, report)

/-- The assignments of `fetch_position_fix`. There is none to `confidence` or `altitude`. -/
def assign (G : Gnss τ δ) (fix : PositionFix τ δ) (report : Report δ) : PositionFix τ δ :=
  { fix with
    timestamp := G.convert report.time
    latitude := report.latitude
    longitude := report.longitude
    speed := ⟨report.speed, report.eps⟩
    course := ⟨report.track, report.epd⟩ }

/-- `GpsPositionProvider::fetch_position_fix`. -/
def fetchPositionFix (G : Gnss τ δ) (s : PositionGate τ δ) (reads : List (ℤ × Report δ)) :
    Option (PositionGate τ δ) :=
  (readReport reads).map fun (rc, report) =>
    if rc < 0 then
      { s with gpsData := some report, thrown := true }
    else
      { s with
        gpsData := some report
        fetchedPositionFix := assign G s.fetchedPositionFix report }

/-- `GpsPositionProvider::on_timer`: nothing if the timer was aborted. -/
def onTimer (G : Gnss τ δ) (s : PositionGate τ δ) (aborted : Bool) (reads : List (ℤ × Report δ)) :
    Option (PositionGate τ δ) :=
  if aborted then some s else fetchPositionFix G s reads

/-- `DccPassthrough::allow_packet_flow`. -/
def allow (s : PositionGate τ δ) (flag : Bool) : PositionGate τ δ :=
  { s with allowPacketFlow := flag }

/-- `RouterContext::update_packet_flow`. -/
def updatePacketFlow (s : PositionGate τ δ) : PositionGate τ δ :=
  if s.requirePositionFix then
    -- skip all requests until a valid GPS position is available
    s.allow s.positionAccuracyIndicator
  else
    s.allow true

/-- `RouterContext::update_position_vector`. -/
def updatePositionVector (G : Gnss τ δ) (s : PositionGate τ δ) : PositionGate τ δ :=
  updatePacketFlow
    { s with positionAccuracyIndicator := G.accurate s.fetchedPositionFix.confidence }

/-- `RouterContext::require_position_fix`. -/
def require (s : PositionGate τ δ) (flag : Bool) : PositionGate τ δ :=
  updatePacketFlow { s with requirePositionFix := flag }

/-- `DccPassthrough::request`. -/
def request (s : PositionGate τ δ) (packet : List UInt8) : PositionGate τ δ :=
  -- ignored request because packet flow is suppressed
  if ¬ s.allowPacketFlow then s else { s with sent := s.sent ++ [packet] }

/-- The constructor of `RouterContext`, with a position provider that has fetched nothing. -/
def new (G : Gnss τ δ) : PositionGate τ δ :=
  updatePositionVector G
    { gpsData := none, fetchedPositionFix := G.defaultFix, positionAccuracyIndicator := false,
      requirePositionFix := false, allowPacketFlow := true, sent := [], thrown := false }

/-- The start of `main`, which passes on whether `--require-gnss-fix` was given. -/
def start (G : Gnss τ δ) (flag : Bool) : PositionGate τ δ := (new G).require flag

/-- What can happen next. -/
inductive Action (δ : Type) where
  /-- The GPS timer expires or is aborted; what the calls of `gps_read` find. -/
  | onTimer (aborted : Bool) (reads : List (ℤ × Report δ))
  /-- The runtime calls `update_position_vector`. -/
  | updatePositionVector
  /-- The router requests the transmission of a packet. -/
  | request (packet : List UInt8)

/-- The components in an arbitrary environment. Nothing happens after an exception. -/
def system (G : Gnss τ δ) : ActionSystem (PositionGate τ δ) (Action δ) where
  step s a :=
    if s.thrown then none
    else
      match a with
      | .onTimer aborted reads => s.onTimer G aborted reads
      | .updatePositionVector => some (s.updatePositionVector G)
      | .request packet => some (s.request packet)

/-! ### What the gate should follow -/

/-- The confidence that belongs to the error estimates of a report: the smaller one is the semi
minor axis. -/
def reportConfidence (G : Gnss τ δ) (report : Report δ) : PositionConfidence δ :=
  if G.gt report.epx report.epy then
    ⟨report.epy, report.epx, 90⟩
  else
    ⟨report.epx, report.epy, 0⟩

/-- **A usable report**: a fix in at least two dimensions whose error estimates are finite and
accurate enough for the router. -/
def Usable (G : Gnss τ δ) (report : Report δ) : Prop :=
  report.status = 1 ∧ 2 ≤ report.mode ∧ G.finite report.epx = true ∧
    G.finite report.epy = true ∧ G.accurate (reportConfidence G report) = true

/-- The report that was fetched last is usable. -/
def LastUsable (G : Gnss τ δ) (s : PositionGate τ δ) : Prop :=
  ∃ report ∈ s.gpsData, Usable G report

/-! ### The confidence is never written -/

@[simp] theorem confidence_assign (G : Gnss τ δ) (fix : PositionFix τ δ) (report : Report δ) :
    (assign G fix report).confidence = fix.confidence := rfl

/-- The fix has the confidence it was constructed with, and the router takes it to be not
accurate. -/
structure Unset (G : Gnss τ δ) (flag : Bool) (s : PositionGate τ δ) : Prop where
  confidence : s.fetchedPositionFix.confidence = G.defaultFix.confidence
  indicator : s.positionAccuracyIndicator = false
  require : s.requirePositionFix = flag
  allow : s.allowPacketFlow = !flag

theorem unset_start (G : Gnss τ δ) (flag : Bool) : Unset G flag (start G flag) := by
  cases flag with
  | false => exact ⟨rfl, G.accurate_default, rfl, rfl⟩
  | true => exact ⟨rfl, G.accurate_default, rfl, G.accurate_default⟩

/-- What a fetch does: it ends the process, or it assigns the fields of one report. -/
theorem fetchPositionFix_cases {G : Gnss τ δ} {s t : PositionGate τ δ} {reads : List (ℤ × Report δ)}
    (h : fetchPositionFix G s reads = some t) :
    ∃ report, t = { s with gpsData := some report, thrown := true } ∨
      t = { s with gpsData := some report,
                   fetchedPositionFix := assign G s.fetchedPositionFix report } := by
  obtain ⟨⟨rc, report⟩, -, hread⟩ := Option.map_eq_some_iff.mp h
  refine ⟨report, ?_⟩
  simp only at hread
  split at hread
  · exact .inl hread.symm
  · exact .inr hread.symm

/-- What each action does. -/
theorem step_cases {G : Gnss τ δ} {s t : PositionGate τ δ} {a : Action δ}
    (h : (system G).step s a = some t) :
    (∃ reads, a = .onTimer true reads ∧ t = s) ∨
      (∃ reads, a = .onTimer false reads ∧ fetchPositionFix G s reads = some t) ∨
      (a = .updatePositionVector ∧ t = s.updatePositionVector G) ∨
      ∃ packet, a = .request packet ∧ t = s.request packet := by
  obtain ⟨-, h⟩ := Option.ite_none_left_eq_some.mp h
  cases a with
  | onTimer aborted reads =>
    cases aborted with
    | false => exact .inr (.inl ⟨reads, rfl, h⟩)
    | true => exact .inl ⟨reads, rfl, (Option.some.inj h).symm⟩
  | updatePositionVector => exact .inr (.inr (.inl ⟨rfl, (Option.some.inj h).symm⟩))
  | request packet => exact .inr (.inr (.inr ⟨packet, rfl, (Option.some.inj h).symm⟩))

/-- After an update of the position vector the flow is allowed only without the option. -/
theorem unset_updatePositionVector {G : Gnss τ δ} {flag : Bool} {s : PositionGate τ δ}
    (h : Unset G flag s) : Unset G flag (s.updatePositionVector G) := by
  have hind : G.accurate s.fetchedPositionFix.confidence = false := by
    rw [h.confidence, G.accurate_default]
  rw [updatePositionVector, updatePacketFlow]
  rw [hind]
  cases flag with
  | false =>
    rw [if_neg (by rw [h.require]; simp)]
    exact ⟨h.confidence, rfl, h.require, rfl⟩
  | true =>
    rw [if_pos h.require]
    exact ⟨h.confidence, rfl, h.require, rfl⟩

theorem unset_step {G : Gnss τ δ} {flag : Bool} {s t : PositionGate τ δ} {a : Action δ}
    (hs : Unset G flag s) (h : (system G).step s a = some t) : Unset G flag t := by
  obtain ⟨-, -, rfl⟩ | ⟨reads, -, hfetch⟩ | ⟨-, rfl⟩ | ⟨packet, -, rfl⟩ := step_cases h
  · exact hs
  · obtain ⟨report, rfl | rfl⟩ := fetchPositionFix_cases hfetch
    · exact ⟨hs.confidence, hs.indicator, hs.require, hs.allow⟩
    · exact ⟨(confidence_assign G _ report).trans hs.confidence, hs.indicator, hs.require, hs.allow⟩
  · exact unset_updatePositionVector hs
  · rw [request]
    split
    · exact hs
    · exact ⟨hs.confidence, hs.indicator, hs.require, hs.allow⟩

/-- **The confidence is never written.** After every run it is that of a new fix, and the flow is
allowed exactly without the option. -/
theorem confidence_run {G : Gnss τ δ} {flag : Bool} {as : List (Action δ)} {t : PositionGate τ δ}
    (h : (system G).run (start G flag) as = some t) : Unset G flag t :=
  (system G).run_invariant (fun _ _ _ hs hstep => unset_step hs hstep) (unset_start G flag) h

/-- Without the option nothing is ever suppressed. -/
theorem allow_run {G : Gnss τ δ} {as : List (Action δ)} {t : PositionGate τ δ}
    (h : (system G).run (start G false) as = some t) : t.allowPacketFlow = true :=
  (confidence_run h).allow

/-- With the option nothing is sent from `require_position_fix` on. What is requested before, in the
constructor of `RouterContext`, is let through. -/
theorem sent_run {G : Gnss τ δ} {as : List (Action δ)} {t : PositionGate τ δ}
    (h : (system G).run (start G true) as = some t) : t.sent = [] := by
  refine ((system G).run_invariant (P := fun s => Unset G true s ∧ s.sent = []) ?_
    ⟨unset_start G true, rfl⟩ h).2
  rintro s a t ⟨hs, hsent⟩ hstep
  refine ⟨unset_step hs hstep, ?_⟩
  obtain ⟨-, -, rfl⟩ | ⟨reads, -, hfetch⟩ | ⟨-, rfl⟩ | ⟨packet, -, rfl⟩ := step_cases hstep
  · exact hsent
  · obtain ⟨report, rfl | rfl⟩ := fetchPositionFix_cases hfetch <;> exact hsent
  · rw [updatePositionVector, updatePacketFlow]
    split <;> exact hsent
  · rw [request, if_pos (by rw [hs.allow]; simp)]
    exact hsent

/-! ### The gate and the receiver -/

/-- **The gate follows the receiver** at a step: after an update of the position vector the flow is
allowed iff the report that was fetched last is usable. -/
def Follows (G : Gnss τ δ) (x : PositionGate τ δ × Action δ × PositionGate τ δ) : Prop :=
  x.2.1 = .updatePositionVector → (x.2.2.allowPacketFlow = true ↔ LastUsable G x.1)

/-- **When the gate follows the receiver.** With the option set, in a run with any reports, timer
ticks, updates and requests, the gate follows the receiver exactly if at no update of the position
vector the report that was fetched last is usable. -/
theorem gate_follows_iff (G : Gnss τ δ) (as : List (Action δ)) :
    (∀ x ∈ (system G).trace (start G true) as, Follows G x) ↔
      ∀ x ∈ (system G).trace (start G true) as,
        x.2.1 = .updatePositionVector → ¬ LastUsable G x.1 := by
  refine forall₂_congr fun x hx => imp_congr_right fun _ => ?_
  obtain ⟨-, -, hafter⟩ := (system G).trace_invariant (fun _ _ _ hs hstep => unset_step hs hstep)
    (unset_start G true) hx
  rw [hafter.allow]
  exact ⟨fun hiff husable => absurd (hiff.mpr husable) (by simp),
    fun hno => iff_of_false (by simp) hno⟩

/-- Doubles as natural numbers, with `none` for NaN; a semi major axis below 40 is accurate. -/
def plainGnss : Gnss ℕ (Option ℕ) where
  finite := Option.isSome
  gt a b := a.any fun a => b.any fun b => b < a
  convert time := time.getD 0
  defaultFix := ⟨0, none, none, ⟨none, none⟩, ⟨none, none⟩, ⟨none, none, 0⟩, none⟩
  accurate c := c.semiMajor.any (· < 40)
  accurate_default := rfl

/-- A report with a fix in three dimensions and errors of 3 and 4 metres. -/
def goodReport : Report (Option ℕ) where
  status := 1
  mode := 3
  time := some 0
  latitude := some 48
  longitude := some 2
  speed := some 0
  eps := some 1
  track := some 0
  epd := some 1
  epx := some 3
  epy := some 4
  ndevices := 1

/-- **A good fix is not let through.** The receiver has a usable report, it is fetched, the
position vector is updated, and the flow is still suppressed. -/
theorem good_fix_suppressed :
    ∃ s t,
      (system plainGnss).run (start plainGnss true) [.onTimer false [(0, goodReport)]] = some s ∧
      LastUsable plainGnss s ∧ (system plainGnss).step s .updatePositionVector = some t ∧
      t.allowPacketFlow = false ∧ ¬ Follows plainGnss (s, .updatePositionVector, t) := by
  have husable : Usable plainGnss goodReport := by
    rw [Usable]
    decide
  refine ⟨_, _, rfl, ⟨goodReport, rfl, husable⟩, rfl, rfl, fun h => ?_⟩
  exact absurd ((h rfl).mpr ⟨goodReport, rfl, husable⟩) (by decide)

end PositionGate

end BluetoothAuto.Router
