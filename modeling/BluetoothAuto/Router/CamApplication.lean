import BluetoothAuto.Lib.ActionSystem
import Mathlib.Data.Int.Notation

/-!
# `CamApplication`: a CAM and a DENM at every tick

`CamApplication::on_timer` builds a CAM and a DENM and hands both to `Application::request`. The
type of the message and its ITS-AID are chosen in `on_timer`; the BTP-B destination port is chosen
in `Application::request`, which asks the application object for its `port()`. `CamApplication`
has one port, that of the CAMs.

The router, the ASN.1 library and the runtime are not part of the repository. What they answer
(`validate`, the encoding, the confirmation of a request) is a parameter or a choice of the
environment, and so is the target, whose `long` the detection time of the DENM goes through. Of the
containers of the two messages only the fields with a varying value are kept.

## Main results

* `CamApplication.handed_onTimer` — what one timer call hands to the router
* `CamApplication.handed_run` — every packet handed over carries the CAM port; it is a CAM that
  decodes, or a DENM that does not
* `CamApplication.ports_match_iff` — every packet goes out on the port of its own type exactly if
  no timer call gets as far as its DENM
-/

namespace BluetoothAuto.Router

/-! ### Messages -/

/-- `ItsPduHeader_t::messageID`: the two values used here. -/
inductive MessageId where
  | denm
  | cam
  deriving DecidableEq

/-- `ItsPduHeader_t`. -/
structure ItsPduHeader where
  protocolVersion : ℕ
  messageID : MessageId
  stationID : ℕ
  deriving DecidableEq

/-- `StationType_t`: the value used here. -/
inductive StationType where
  | passengerCar
  deriving DecidableEq

/-- `asn1::Cam`, with reference positions in `ρ`. -/
structure Cam (ρ : Type) where
  header : ItsPduHeader
  /-- `cam.generationDeltaTime`. -/
  generationDeltaTime : ℕ
  /-- `basicContainer.stationType`. -/
  stationType : StationType
  /-- `basicContainer.referencePosition`. -/
  referencePosition : ρ
  deriving DecidableEq

/-- `asn1::Denm`. -/
structure Denm (ρ : Type) where
  header : ItsPduHeader
  /-- `management.stationType`. -/
  stationType : StationType
  /-- `management.eventPosition`. -/
  eventPosition : ρ
  /-- `management.detectionTime`. -/
  detectionTime : ℤ
  /-- `management.referenceTime`. -/
  referenceTime : ℤ
  deriving DecidableEq

/-- The application layer of a packet. -/
inductive Message (ρ : Type) where
  | cam (message : Cam ρ)
  | denm (message : Denm ρ)
  deriving DecidableEq

/-- The width of a C `long`: 64 bits on the Ubuntu machines, 32 bits on the Raspberry Pi. -/
inductive LongWidth where
  | bits32
  | bits64
  deriving DecidableEq

/-- The number of values of a `long`. -/
def LongWidth.size : LongWidth → ℕ
  | bits32 => 4294967296
  | bits64 => 18446744073709551616

/-- The conversion of a 64-bit count to `long`, which drops the bits that do not fit. -/
def LongWidth.toLong (width : LongWidth) (n : ℤ) : ℤ := n.bmod width.size

/-- The ASN.1 part of vanetza, with position fixes in `π` and encodings in `β`, and the target it
is built for. -/
structure Asn1 (π ρ β : Type) where
  /-- The argument type of `asn_long2INTEGER`, which encodes its value exactly. -/
  long : LongWidth
  /-- `facilities::copy` of a position fix into a reference position. -/
  copy : π → ρ
  /-- `asn1::Cam::validate`: the error, or `none` for a valid CAM. -/
  validate : Cam ρ → Option String
  /-- The encoding of a message. -/
  encode : Message ρ → β
  /-- `asn1::PacketVisitor<asn1::Cam>`. -/
  decodeCam : β → Option (Cam ρ)
  /-- A valid CAM is read back. -/
  decodeCam_cam : ∀ m, validate m = none → decodeCam (encode (.cam m)) = some m
  /-- An encoded DENM does not decode as a CAM. -/
  decodeCam_denm : ∀ m, decodeCam (encode (.denm m)) = none

/-! ### Packets -/

/-- `geonet::TransportType`. -/
inductive TransportType where
  | guc
  | gac
  | gbc
  | shb
  | tsb
  deriving DecidableEq

/-- `geonet::CommunicationProfile`. -/
inductive CommunicationProfile where
  | unspecified
  | itsG5
  deriving DecidableEq

/-- `geonet::UpperProtocol`. -/
inductive UpperProtocol where
  | unknown
  | btpA
  | btpB
  | ipv6
  deriving DecidableEq

/-- `geonet::DataConfirm::ResultCode`. -/
inductive ResultCode where
  | accepted
  | rejectedMaxSduSize
  | rejectedMaxLifetime
  | rejectedMinRepetitionInterval
  | rejectedUnsupportedTrafficClass
  | rejectedMaxGeoArea
  | rejectedUnspecified
  deriving DecidableEq

/-- `btp::HeaderB`. -/
structure HeaderB where
  destinationPort : ℕ
  destinationPortInfo : ℕ
  deriving DecidableEq

/-- `btp::DataRequestGeoNetParams`, as far as `on_timer` sets it. -/
structure DataRequest where
  itsAid : ℕ
  transportType : TransportType
  communicationProfile : CommunicationProfile
  deriving DecidableEq

/-- A packet that is handed to the router: the request for it (`ShbDataRequest` or
`GbcDataRequest`), the header of its transport layer and its content. -/
structure Handed (ρ : Type) where
  upperProtocol : UpperProtocol
  communicationProfile : CommunicationProfile
  itsAid : ℕ
  transportType : TransportType
  transport : HeaderB
  application : Message ρ
  deriving DecidableEq

/-- `btp::ports::CAM` and `btp::ports::DENM`. -/
def ports.CAM : ℕ := 2001
@[inherit_doc ports.CAM] def ports.DENM : ℕ := 2002

/-- `aid::CA` and `aid::DEN`. -/
def aid.CA : ℕ := 36
@[inherit_doc aid.CA] def aid.DEN : ℕ := 37

/-- The port that belongs to the type of a message. -/
def Message.port {ρ : Type} : Message ρ → ℕ
  | .cam _ => ports.CAM
  | .denm _ => ports.DENM

/-- The ITS-AID that belongs to the type of a message. -/
def Message.itsAid {ρ : Type} : Message ρ → ℕ
  | .cam _ => aid.CA
  | .denm _ => aid.DEN

/-- The port and the ITS-AID of a packet are those of its content. -/
def Handed.Matches {ρ : Type} (p : Handed ρ) : Prop :=
  p.transport.destinationPort = p.application.port ∧ p.itsAid = p.application.itsAid

/-! ### The application -/

/-- A line on standard output. -/
inductive Line (ρ : Type) where
  /-- "Generated CAM contains" and the message. -/
  | generatedCam (message : Cam ρ)
  /-- "Generated DENM contains" and the message printed below it, which is the CAM. -/
  | generatedDenm (message : Cam ρ)
  /-- "CAM application received a packet with decodable content", or "broken content". -/
  | received (decodable : Bool)
  /-- "Received CAM contains" and the message. -/
  | receivedCam (message : Cam ρ)
  deriving DecidableEq

/-- A `CamApplication`, with what it has handed to the router and printed. -/
structure CamApplication (ρ : Type) where
  /-- `cam_interval_`, in microseconds. -/
  camInterval : ℤ := 1000000
  /-- `print_tx_msg_`. -/
  printTxMsg : Bool := false
  /-- `print_rx_msg_`. -/
  printRxMsg : Bool := false
  /-- `router_` is set. Before `enable`, where the source leaves it uninitialised, it is null. -/
  router : Bool := false
  /-- The interval of the callback that is scheduled in `runtime_` for this application. -/
  timer : Option ℤ := none
  /-- The packets handed to the router, in order. -/
  handed : List (Handed ρ) := []
  /-- The lines printed, in order. -/
  output : List (Line ρ) := []
  /-- The exception that ended the process. -/
  thrown : Option String := none
  deriving DecidableEq

/-- What the environment answers during one call of `on_timer`: the two clock readings (in
microseconds), the two position fixes and the two confirmations of the router. -/
structure Tick (π : Type) where
  camTime : ℤ
  camPosition : π
  denmTime : ℤ
  denmPosition : π
  camConfirm : ResultCode
  denmConfirm : ResultCode

namespace CamApplication

variable {π ρ β : Type}

/-- `CamApplication::port`. -/
def port : ℕ := ports.CAM

/-- `CamApplication::schedule_timer`. -/
def scheduleTimer (app : CamApplication ρ) : CamApplication ρ :=
  { app with timer := some app.camInterval }

/-- The constructor. -/
def new : CamApplication ρ := scheduleTimer {}

/-- `CamApplication::set_interval`. -/
def setInterval (app : CamApplication ρ) (interval : ℤ) : CamApplication ρ :=
  let app := { app with camInterval := interval }
  -- runtime_.cancel(this)
  let app := { app with timer := none }
  app.scheduleTimer

/-- Output of one line. -/
def print (app : CamApplication ρ) (line : Line ρ) : CamApplication ρ :=
  { app with output := app.output ++ [line] }

/-- `duration_cast<milliseconds>`, which rounds towards zero. -/
def milliseconds (time : ℤ) : ℤ := time.tdiv 1000

/-- The CAM that `on_timer` builds. `gen_delta_time` is a `uint16_t`, and
`GenerationDeltaTime_oneMilliSec` is 1. -/
def camMessage (A : Asn1 π ρ β) (now : ℤ) (position : π) : Cam ρ where
  header := ⟨2, .cam, 1⟩
  generationDeltaTime := (milliseconds now % 65536).toNat * 1
  stationType := .passengerCar
  referencePosition := A.copy position

/-- The DENM that `on_timer` builds. `TimestampIts_utcStartOf2004` is 0. -/
def denmMessage (A : Asn1 π ρ β) (now : ℤ) (position : π) : Denm ρ where
  header := ⟨1, .denm, 1⟩
  stationType := .passengerCar
  eventPosition := A.copy position
  detectionTime := A.long.toLong (milliseconds now)
  referenceTime := 0

/-- The packet that `Application::request` forms: the BTP-B header has the port of the application,
whatever the content. -/
def packet (request : DataRequest) (message : Message ρ) : Handed ρ where
  upperProtocol := .btpB
  communicationProfile := request.communicationProfile
  itsAid := request.itsAid
  transportType := request.transportType
  transport := ⟨port, 0⟩
  application := message

/-- `Application::request`, where `answer` is what the router confirms if it is asked. -/
def request (app : CamApplication ρ) (request : DataRequest) (message : Message ρ)
    (answer : ResultCode) : CamApplication ρ × ResultCode :=
  if app.router then
    match request.transportType with
    | .shb | .gbc => ({ app with handed := app.handed ++ [packet request message] }, answer)
    -- remaining transport types are not implemented
    | _ => (app, .rejectedUnspecified)
  else
    (app, .rejectedUnspecified)

/-- The request for the CAM. -/
def camRequest : DataRequest := ⟨aid.CA, .shb, .itsG5⟩

/-- The request for the DENM: the same object with another ITS-AID. -/
def denmRequest : DataRequest := { camRequest with itsAid := aid.DEN }

/-- A request that was not accepted. -/
def requestFailed : String := "CAM application data request failed"

/-- The output of `on_timer`. Below the heading of the DENM it prints the CAM. -/
def printGenerated (app : CamApplication ρ) (message : Cam ρ) : CamApplication ρ :=
  let app := if app.printTxMsg then app.print (.generatedCam message) else app
  if app.printTxMsg then app.print (.generatedDenm message) else app

/-- The last part of `on_timer`: the two requests. -/
def requestBoth (app : CamApplication ρ) (message : Cam ρ) (denmMessage : Denm ρ)
    (camConfirm denmConfirm : ResultCode) : CamApplication ρ :=
  let (app, confirm) := app.request camRequest (.cam message) camConfirm
  if confirm ≠ .accepted then
    { app with thrown := some requestFailed }
  else
    let (app, confirm) := app.request denmRequest (.denm denmMessage) denmConfirm
    if confirm ≠ .accepted then
      { app with thrown := some requestFailed }
    else
      app

/-- `CamApplication::on_timer`. -/
def onTimer (A : Asn1 π ρ β) (app : CamApplication ρ) (t : Tick π) : CamApplication ρ :=
  let app := app.scheduleTimer
  let message := camMessage A t.camTime t.camPosition
  match A.validate message with
  | some error => { app with thrown := some ("Invalid high frequency CAM: %s" ++ error) }
  | none =>
    let denm := denmMessage A t.denmTime t.denmPosition
    (app.printGenerated message).requestBoth message denm t.camConfirm t.denmConfirm

/-- `CamApplication::indicate`, for the encoding of an application layer. -/
def indicate (A : Asn1 π ρ β) (app : CamApplication ρ) (payload : β) : CamApplication ρ :=
  let cam := A.decodeCam payload
  let app := app.print (.received cam.isSome)
  match cam with
  | some cam => if app.printRxMsg then app.print (.receivedCam cam) else app
  | none => app

/-- What can happen to the application. -/
inductive Action (π β : Type) where
  | setInterval (interval : ℤ)
  | printGeneratedMessage (flag : Bool)
  | printReceivedMessage (flag : Bool)
  /-- `RouterContext::enable`. -/
  | enable
  /-- `RouterContext::disable`. -/
  | disable
  /-- The runtime calls back. -/
  | onTimer (tick : Tick π)
  /-- The port dispatcher delivers a packet. -/
  | indicate (payload : β)

/-- The callback that fires is no longer scheduled. -/
def fired (app : CamApplication ρ) : CamApplication ρ := { app with timer := none }

/-- The application in an arbitrary environment. Nothing happens after an exception. -/
def system (A : Asn1 π ρ β) : ActionSystem (CamApplication ρ) (Action π β) where
  step app a :=
    if app.thrown.isSome then none
    else
      match a with
      | .setInterval interval => some (app.setInterval interval)
      | .printGeneratedMessage flag => some { app with printTxMsg := flag }
      | .printReceivedMessage flag => some { app with printRxMsg := flag }
      | .enable => some { app with router := true }
      | .disable => some { app with router := false }
      | .onTimer tick => if app.timer.isSome then some (onTimer A app.fired tick) else none
      | .indicate payload => some (indicate A app payload)

/-! ### What is handed over -/

/-- The packet with the CAM of a timer call. -/
def camPacket (A : Asn1 π ρ β) (t : Tick π) : Handed ρ :=
  packet camRequest (.cam (camMessage A t.camTime t.camPosition))

/-- The packet with the DENM of a timer call. -/
def denmPacket (A : Asn1 π ρ β) (t : Tick π) : Handed ρ :=
  packet denmRequest (.denm (denmMessage A t.denmTime t.denmPosition))

/-- A timer call gets as far as its CAM: the CAM is valid and the application is enabled at a
router. -/
def ReachesCam (A : Asn1 π ρ β) (app : CamApplication ρ) (t : Tick π) : Prop :=
  A.validate (camMessage A t.camTime t.camPosition) = none ∧ app.router = true

/-- A timer call gets as far as its DENM: it gets as far as its CAM, and the router accepts the
CAM. -/
def ReachesDenm (A : Asn1 π ρ β) (app : CamApplication ρ) (t : Tick π) : Prop :=
  ReachesCam A app t ∧ t.camConfirm = .accepted

instance instDecidableReachesCam (A : Asn1 π ρ β) (app : CamApplication ρ) (t : Tick π) :
    Decidable (ReachesCam A app t) :=
  inferInstanceAs (Decidable (_ ∧ _))

instance instDecidableReachesDenm (A : Asn1 π ρ β) (app : CamApplication ρ) (t : Tick π) :
    Decidable (ReachesDenm A app t) :=
  inferInstanceAs (Decidable (_ ∧ _))

@[simp] theorem router_print (app : CamApplication ρ) (line : Line ρ) :
    (app.print line).router = app.router := rfl

@[simp] theorem handed_print (app : CamApplication ρ) (line : Line ρ) :
    (app.print line).handed = app.handed := rfl

@[simp] theorem router_printGenerated (app : CamApplication ρ) (message : Cam ρ) :
    (app.printGenerated message).router = app.router := by
  simp only [printGenerated, apply_ite router, router_print, ite_self]

@[simp] theorem handed_printGenerated (app : CamApplication ρ) (message : Cam ρ) :
    (app.printGenerated message).handed = app.handed := by
  simp only [printGenerated, apply_ite handed, handed_print, ite_self]

@[simp] theorem router_scheduleTimer (app : CamApplication ρ) :
    app.scheduleTimer.router = app.router := rfl

@[simp] theorem handed_scheduleTimer (app : CamApplication ρ) :
    app.scheduleTimer.handed = app.handed := rfl

@[simp] theorem handed_indicate (A : Asn1 π ρ β) (app : CamApplication ρ) (payload : β) :
    (indicate A app payload).handed = app.handed := by
  unfold indicate
  simp only
  split
  · rw [apply_ite handed, handed_print, handed_print, ite_self]
  · rfl

/-- A request over a single hop, if there is a router. -/
theorem request_of_router {app : CamApplication ρ} (h : app.router = true) {r : DataRequest}
    (hr : r.transportType = .shb) (m : Message ρ) (c : ResultCode) :
    app.request r m c = ({ app with handed := app.handed ++ [packet r m] }, c) := by
  rw [request, if_pos h, hr]

/-- Without a router every request is rejected. -/
theorem request_of_not_router {app : CamApplication ρ} (h : ¬ app.router = true) (r : DataRequest)
    (m : Message ρ) (c : ResultCode) :
    app.request r m c = (app, .rejectedUnspecified) := by
  rw [request, if_neg h]

/-- A call of `on_timer` whose CAM is valid goes on to its output and its requests. -/
theorem onTimer_of_valid {A : Asn1 π ρ β} {t : Tick π}
    (h : A.validate (camMessage A t.camTime t.camPosition) = none) (app : CamApplication ρ) :
    onTimer A app t =
      (app.scheduleTimer.printGenerated (camMessage A t.camTime t.camPosition)).requestBoth
        (camMessage A t.camTime t.camPosition) (denmMessage A t.denmTime t.denmPosition)
        t.camConfirm t.denmConfirm := by
  rw [onTimer]
  simp only [h]

/-- A call of `on_timer` whose CAM is not valid hands nothing over. -/
theorem handed_onTimer_of_invalid {A : Asn1 π ρ β} {t : Tick π}
    (h : A.validate (camMessage A t.camTime t.camPosition) ≠ none) (app : CamApplication ρ) :
    (onTimer A app t).handed = app.handed := by
  obtain ⟨error, herror⟩ := Option.ne_none_iff_exists'.mp h
  rw [onTimer]
  simp only [herror, handed_scheduleTimer]

/-- The two requests of a timer call, if there is a router. -/
theorem handed_requestBoth {app : CamApplication ρ} (h : app.router = true) (cam : Cam ρ)
    (denm : Denm ρ) (c c' : ResultCode) :
    (app.requestBoth cam denm c c').handed =
      app.handed ++ (packet camRequest (.cam cam) ::
        if c = .accepted then [packet denmRequest (.denm denm)] else []) := by
  rw [requestBoth]
  rw [request_of_router h rfl]
  by_cases hc : c = .accepted
  · rw [if_pos hc]
    simp only [hc, ne_eq, not_true_eq_false, if_false]
    rw [request_of_router (by exact h) rfl]
    simp only [apply_ite handed, List.append_assoc, List.singleton_append, ite_self]
  · simp only [hc, ne_eq, not_false_eq_true, if_true, if_false]

/-- The two requests of a timer call, if there is no router. -/
theorem handed_requestBoth_of_not_router {app : CamApplication ρ} (h : ¬ app.router = true)
    (cam : Cam ρ) (denm : Denm ρ) (c c' : ResultCode) :
    (app.requestBoth cam denm c c').handed = app.handed := by
  rw [requestBoth]
  rw [request_of_not_router h]
  rfl

/-- **What one timer call hands to the router**: the CAM if it gets that far, and then the DENM if
it gets that far. -/
theorem handed_onTimer (A : Asn1 π ρ β) (app : CamApplication ρ) (t : Tick π) :
    (onTimer A app t).handed =
      app.handed ++ ((if ReachesCam A app t then [camPacket A t] else []) ++
        if ReachesDenm A app t then [denmPacket A t] else []) := by
  by_cases hcam : ReachesCam A app t
  · have hdenm : ReachesDenm A app t ↔ t.camConfirm = .accepted := and_iff_right hcam
    rw [onTimer_of_valid hcam.1, handed_requestBoth (by simpa using hcam.2), handed_printGenerated,
      handed_scheduleTimer, if_pos hcam]
    simp only [hdenm]
    rfl
  · have hdenm : ¬ ReachesDenm A app t := fun h => hcam h.1
    rw [if_neg hcam, if_neg hdenm, List.append_nil, List.append_nil]
    by_cases hv : A.validate (camMessage A t.camTime t.camPosition) = none
    · have hr : ¬ app.router = true := fun hr => hcam ⟨hv, hr⟩
      rw [onTimer_of_valid hv, handed_requestBoth_of_not_router (by simpa using hr),
        handed_printGenerated, handed_scheduleTimer]
    · exact handed_onTimer_of_invalid hv app

/-- Apart from timer calls nothing is handed over. -/
theorem handed_step {A : Asn1 π ρ β} {app app' : CamApplication ρ} {a : Action π β}
    (h : (system A).step app a = some app') :
    (∃ t, a = .onTimer t ∧ app'.handed = (onTimer A app.fired t).handed) ∨
      ((∀ t, a ≠ .onTimer t) ∧ app'.handed = app.handed) := by
  obtain ⟨-, h⟩ := Option.ite_none_left_eq_some.mp h
  cases a with
  | onTimer t =>
    obtain ⟨-, h⟩ := Option.ite_none_right_eq_some.mp h
    exact .inl ⟨t, rfl, by rw [Option.some.inj h]⟩
  | indicate payload =>
    obtain rfl := Option.some.inj h
    exact .inr ⟨fun t => nofun, handed_indicate A app payload⟩
  | _ =>
    obtain rfl := Option.some.inj h
    exact .inr ⟨fun t => nofun, rfl⟩

/-! ### The packets of a run -/

/-- **The port is always that of the CAMs.** A packet that `CamApplication` hands to the router
goes to the CAM port. It is a valid CAM under the ITS-AID of the CAMs, or a DENM under the ITS-AID
of the DENMs. -/
def Sent (A : Asn1 π ρ β) (p : Handed ρ) : Prop :=
  p.transport.destinationPort = port ∧ p.itsAid = p.application.itsAid ∧
    ∀ cam, p.application = .cam cam → A.validate cam = none

theorem sent_onTimer {A : Asn1 π ρ β} {app : CamApplication ρ} {t : Tick π} {p : Handed ρ}
    (hp : p ∈ (onTimer A app t).handed) : p ∈ app.handed ∨ Sent A p := by
  rw [handed_onTimer, List.mem_append, List.mem_append] at hp
  rcases hp with hp | hp | hp
  · exact .inl hp
  · split at hp
    · next hcam =>
      obtain rfl := List.mem_singleton.mp hp
      refine .inr ⟨rfl, rfl, fun cam h => ?_⟩
      obtain rfl := Message.cam.inj h
      exact hcam.1
    · cases hp
  · split at hp
    · obtain rfl := List.mem_singleton.mp hp
      exact .inr ⟨rfl, rfl, fun cam => nofun⟩
    · cases hp

theorem sent_step {A : Asn1 π ρ β} {app app' : CamApplication ρ} {a : Action π β}
    (hI : ∀ p ∈ app.handed, Sent A p) (hstep : (system A).step app a = some app') :
    ∀ p ∈ app'.handed, Sent A p := by
  intro p hp
  obtain ⟨t, -, hh⟩ | ⟨-, hh⟩ := handed_step hstep
  · rw [hh] at hp
    exact (sent_onTimer hp).elim (hI p) id
  · rw [hh] at hp
    exact hI p hp

/-- **Every packet of a run** goes to the CAM port, whatever its content. -/
theorem handed_run {A : Asn1 π ρ β} {as : List (Action π β)} {app : CamApplication ρ}
    (h : (system A).run new as = some app) : ∀ p ∈ app.handed, Sent A p :=
  (system A).run_invariant (P := fun app => ∀ p ∈ app.handed, Sent A p)
    (fun _ _ _ hI hstep => sent_step hI hstep) (List.forall_mem_nil _) h

/-- What a peer reports about a packet: "decodable" if `PacketVisitor<Cam>` finds a CAM in it. -/
def Decodable (A : Asn1 π ρ β) (p : Handed ρ) : Prop :=
  (A.decodeCam (A.encode p.application)).isSome = true

/-- A packet of a `CamApplication` decodes as a CAM exactly if its port is that of its content. -/
theorem decodable_iff_matches {A : Asn1 π ρ β} {p : Handed ρ} (h : Sent A p) :
    Decodable A p ↔ p.Matches := by
  obtain ⟨hport, haid, hvalid⟩ := h
  rw [Decodable, Handed.Matches]
  rw [hport]
  cases hm : p.application with
  | cam cam =>
    rw [A.decodeCam_cam cam (hvalid cam hm), haid, hm]
    exact iff_of_true rfl ⟨rfl, rfl⟩
  | denm denm =>
    rw [A.decodeCam_denm]
    have hne : port ≠ ports.DENM := by decide
    exact iff_of_false (by simp) fun h => hne h.1

/-- **Messages go out on the port of their own type**: the port and the ITS-AID of every packet
handed to the router are those of its content, and what a peer receives on the CAM port decodes as
a CAM. -/
def PortsMatch (A : Asn1 π ρ β) (app : CamApplication ρ) : Prop :=
  ∀ p ∈ app.handed, p.Matches ∧ (p.transport.destinationPort = ports.CAM → Decodable A p)

/-- An action is not a timer call that gets as far as its DENM. -/
def NoDenm (A : Asn1 π ρ β) (app : CamApplication ρ) (a : Action π β) : Prop :=
  ∀ t, a = .onTimer t → ¬ ReachesDenm A app t

theorem portsMatch_iff {A : Asn1 π ρ β} {app : CamApplication ρ}
    (h : ∀ p ∈ app.handed, Sent A p) :
    PortsMatch A app ↔ ∀ p ∈ app.handed, p.Matches := by
  refine forall₂_congr fun p hp => ⟨And.left, fun hm => ⟨hm, fun _ => ?_⟩⟩
  exact (decodable_iff_matches (h p hp)).mpr hm

theorem matches_camPacket (A : Asn1 π ρ β) (t : Tick π) : (camPacket A t).Matches := ⟨rfl, rfl⟩

theorem not_matches_denmPacket (A : Asn1 π ρ β) (t : Tick π) : ¬ (denmPacket A t).Matches := by
  have hne : port ≠ ports.DENM := by decide
  exact fun h => hne h.1

/-- One action keeps the ports in order exactly if it is not a timer call that gets as far as its
DENM. -/
theorem portsMatch_step {A : Asn1 π ρ β} {app app' : CamApplication ρ} {a : Action π β}
    (hI : ∀ p ∈ app.handed, Sent A p) (hP : PortsMatch A app)
    (hstep : (system A).step app a = some app') :
    PortsMatch A app' ↔ NoDenm A app a := by
  rw [portsMatch_iff (sent_step hI hstep)]
  rw [portsMatch_iff hI] at hP
  obtain ⟨t, rfl, hh⟩ | ⟨hne, hh⟩ := handed_step hstep
  · rw [hh, handed_onTimer]
    constructor
    · rintro hall t' ht' hdenm
      obtain rfl := Action.onTimer.inj ht'
      refine not_matches_denmPacket A t (hall _ ?_)
      have hreach : ReachesDenm A app.fired t := hdenm
      simp [hreach]
    · intro hno p hp
      have hreach : ¬ ReachesDenm A app.fired t := hno t rfl
      rw [if_neg hreach, List.append_nil, List.mem_append] at hp
      rcases hp with hp | hp
      · exact hP p hp
      · split at hp
        · rw [List.mem_singleton.mp hp]
          exact matches_camPacket A t
        · cases hp
  · rw [hh]
    exact iff_of_true hP fun t ht => absurd ht (hne t)

/-- **When messages go out on the port of their own type.** In a run of a `CamApplication`, with
any interval changes, positions, clock readings and confirmations, every packet matches its port
exactly if no timer call gets as far as its DENM: its CAM is not valid, or the application is not
enabled at a router, or the router does not accept the CAM. -/
theorem ports_match_iff (A : Asn1 π ρ β) (as : List (Action π β)) :
    (∀ x ∈ (system A).trace new as, PortsMatch A x.2.2) ↔
      ∀ x ∈ (system A).trace new as, NoDenm A x.1 x.2.1 :=
  (system A).forall_trace_iff (I := fun app => ∀ p ∈ app.handed, Sent A p) (G := NoDenm A)
    (fun _ _ _ hI hstep => sent_step hI hstep)
    (fun _ _ _ hI hP hstep => portsMatch_step hI hP hstep)
    (List.forall_mem_nil _) (fun _ hp => absurd hp List.not_mem_nil) as

/-- An ASN.1 library that accepts every CAM, for positions given by latitude and longitude. -/
def plainAsn1 : Asn1 (ℤ × ℤ) (ℤ × ℤ) (Message (ℤ × ℤ)) where
  long := .bits64
  copy position := position
  validate _ := none
  encode m := m
  decodeCam
    | .cam m => some m
    | .denm _ => none
  decodeCam_cam _ _ := rfl
  decodeCam_denm _ := rfl

/-- **A DENM on the CAM port.** One timer call at which the router accepts both requests, each of
which is reported as accepted: the second packet is a DENM under the ITS-AID of the DENMs, it goes
to the CAM port, and a peer's `indicate` reports "broken". -/
theorem denm_on_cam_port :
    ∃ app p, (system plainAsn1).run new
        [.enable, .onTimer ⟨1000000, (48, 2), 1000000, (48, 2), .accepted, .accepted⟩] = some app ∧
      app.thrown = none ∧ p ∈ app.handed ∧ p.itsAid = aid.DEN ∧
      p.transport.destinationPort = ports.CAM ∧ ¬ p.Matches ∧ ¬ Decodable plainAsn1 p ∧
      (indicate plainAsn1 new (plainAsn1.encode p.application)).output = [.received false] := by
  refine ⟨_, denmPacket plainAsn1 ⟨1000000, (48, 2), 1000000, (48, 2), .accepted, .accepted⟩, rfl,
    rfl, ?_, rfl, rfl, ?_, ?_, rfl⟩
  · exact List.mem_append_right _ (List.mem_singleton_self _)
  · exact not_matches_denmPacket _ _
  · show ¬ (plainAsn1.decodeCam _).isSome = true
    simp [plainAsn1, denmPacket, packet]

end CamApplication

end BluetoothAuto.Router
