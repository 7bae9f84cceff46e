import BluetoothAuto.Proxy.AddressFilters
import BluetoothAuto.Proxy.CarToApp
import Mathlib.Data.List.ReduceOption

/-!
# Frames between stations, and to the app

`DccPassthrough::request` puts an Ethernet header into the link layer of a packet and sends its
layers one after the other. At the other end `RouterContext::do_receive` reads a frame into
a buffer of 2048 bytes, and `pass_up` takes the header off again; the next read is started only if
there was no error. The unsecured proxy reads the same frames into a buffer of 65536 bytes.

The packets are vanetza's, as is the `EthernetCodec`, and a parameter: `ChunkPackets`. What is
assumed of them is that the layers can be written one by one. That the router hands over a packet
with nothing in its physical layer is a hypothesis where it is needed, `NoPhysical`.

## Main results

* `indications_eq` — what a station makes of the frames of all the stations
* `appReceives_eq` — what the app receives of them
-/

namespace BluetoothAuto.Router

/-! ### Sending -/

/-- `vanetza::OsiLayer`. -/
inductive OsiLayer where
  | physical
  | link
  | network
  | transport
  | session
  | presentation
  | application
  deriving DecidableEq

/-- `osi_layer_range<OsiLayer::Physical, OsiLayer::Application>()`. -/
def osiLayerRange : List OsiLayer :=
  [.physical, .link, .network, .transport, .session, .presentation, .application]

/-- `vanetza::ChunkPacket`. -/
structure ChunkPackets where
  /-- The packets. -/
  Packet : Type
  /-- `packet->layer(l).convert(buffer)`: what is in the buffer then. -/
  convert : Packet → OsiLayer → List UInt8
  /-- `packet->layer(l) = buffer`. -/
  setLayer : Packet → OsiLayer → List UInt8 → Packet
  /-- A layer is replaced, and the others stay. -/
  convert_setLayer (packet : Packet) (l : OsiLayer) (buffer : List UInt8) :
    convert (setLayer packet l buffer) = Function.update (convert packet) l buffer

variable {P : ChunkPackets} {E : EthernetCodec}

/-- `dcc::DataRequest`, as far as `DccPassthrough` reads it, with its packet. -/
structure DccRequest (P : ChunkPackets) where
  destination : MacAddress
  source : MacAddress
  etherType : UInt16
  packet : P.Packet

/-- The header that `DccPassthrough::request` asks for. -/
def DccRequest.header (r : DccRequest P) : EthernetHeader := ⟨r.destination, r.source, r.etherType⟩

/-- `buffers_`: the header is put into the link layer, in place of what was there, and every layer
is converted. -/
def DccRequest.buffers (E : EthernetCodec) (r : DccRequest P) : List (List UInt8) :=
  let packet := P.setLayer r.packet .link (E.create r.destination r.source r.etherType)
  osiLayerRange.map (P.convert packet)

/-- The frame that `DccPassthrough::request` sends. -/
def DccRequest.frame (E : EthernetCodec) (r : DccRequest P) : List UInt8 := (r.buffers E).flatten

/-- The layers above the link layer, which the router fills. -/
def DccRequest.payload (r : DccRequest P) : List UInt8 :=
  (osiLayerRange.drop 2).flatMap (P.convert r.packet)

/-- Nothing is in the physical layer. -/
def DccRequest.NoPhysical (r : DccRequest P) : Prop := P.convert r.packet .physical = []

/-- The frame is the header and what is above it. -/
theorem DccRequest.frame_eq {r : DccRequest P} (h : r.NoPhysical) :
    r.frame E = r.header.wire ++ r.payload := by
  have hphysical : P.convert r.packet .physical = [] := h
  simp [frame, buffers, payload, osiLayerRange, P.convert_setLayer, E.create_eq, hphysical, header]

/-! ### Receiving -/

/-- `receive_buffer_`. -/
def sizeofReceiveBuffer : ℕ := 2048

/-- A call of `Router::indicate`: the two addresses, and the packet behind the header. -/
structure Indication where
  source : MacAddress
  destination : MacAddress
  packet : List UInt8
  deriving DecidableEq

/-- `RouterContext::on_read` without an error, where `frame` has arrived: what the buffer does not
hold is cut off. -/
def onRead (E : EthernetCodec) (mid : MacAddress) (frame : List UInt8) : Option Indication :=
  let packet := frame.take sizeofReceiveBuffer
  (passUp E mid packet).map fun hdr => ⟨hdr.source, hdr.destination, packet.drop sizeofEtherHeader⟩

/-- `RouterContext::do_receive`: reads, `none` for an error, after which there is no other. -/
def doReceive (E : EthernetCodec) (mid : MacAddress) : List (Option (List UInt8)) → List Indication
  | [] => []
  | none :: _ => []
  | some frame :: reads => (onRead E mid frame).toList ++ doReceive E mid reads

/-- A header and what follows it, as far as the receive buffer goes. -/
theorem take_frame {r : DccRequest P} (h : r.NoPhysical) :
    (r.frame E).take sizeofReceiveBuffer = r.header.wire ++ r.payload.take 2034 := by
  rw [DccRequest.frame_eq h, List.take_append, EthernetHeader.length_wire, List.take_of_length_le]
  · rfl
  · rw [EthernetHeader.length_wire]
    exact Nat.le_of_ble_eq_true rfl

/-- What a station makes of a frame: it is indicated to the router with its addresses and the
payload, if it is a GeoNetworking frame from another station. -/
theorem onRead_frame (mid : MacAddress) {r : DccRequest P} (h : r.NoPhysical) :
    onRead E mid (r.frame E) =
      if r.source ≠ mid ∧ r.etherType = geoNetworking then
        some ⟨r.source, r.destination, r.payload.take 2034⟩
      else none := by
  have hdrop : (r.header.wire ++ r.payload.take 2034).drop sizeofEtherHeader =
      r.payload.take 2034 := List.drop_left' r.header.length_wire
  rw [onRead, take_frame h, passUp_wire, hdrop]
  show Option.map _ (if r.source ≠ mid ∧ r.etherType = geoNetworking then _ else _) = _
  split <;> rfl

/-! ### Stations on one medium -/

/-- **What a station makes of the frames of all the stations.** Let stations with the addresses
`mid` send frames under their own addresses, and let station `j` read them in any order, its own
included, with errors in between. Up to the first error the router of `j` gets exactly the
GeoNetworking packets that were sent under other addresses, in order, each with its two addresses
and all that is above the link layer, as far as the receive buffer goes; and nothing after it. -/
theorem indications_eq (E : EthernetCodec) {ι : Type} (mid : ι → MacAddress) (j : ι)
    (reads : List (Option (ι × DccRequest P)))
    (hsource : ∀ t, some t ∈ reads → t.2.source = mid t.1)
    (hphysical : ∀ t, some t ∈ reads → t.2.NoPhysical) :
    doReceive E (mid j) (reads.map fun read => read.map fun t => t.2.frame E) =
      ((reads.takeWhile Option.isSome).reduceOption.filter fun t =>
          mid t.1 ≠ mid j ∧ t.2.etherType = geoNetworking).map fun t =>
        ⟨mid t.1, t.2.destination, t.2.payload.take 2034⟩ := by
  induction reads with
  | nil => rfl
  | cons read reads ih =>
    cases read with
    | none => rfl
    | some t =>
      have ht := hsource t List.mem_cons_self
      have hrest := ih (fun t ht => hsource t (List.mem_cons_of_mem _ ht))
        (fun t ht => hphysical t (List.mem_cons_of_mem _ ht))
      rw [List.map_cons, Option.map_some, doReceive,
        onRead_frame _ (hphysical t List.mem_cons_self), hrest,
        List.takeWhile_cons_of_pos (by rfl), List.reduceOption_cons_of_some, List.filter_cons, ht]
      by_cases hup : mid t.1 ≠ mid j ∧ t.2.etherType = geoNetworking
      · rw [if_pos hup, if_pos (decide_eq_true hup)]
        rfl
      · rw [if_neg hup, if_neg (by simpa using hup)]
        rfl

/-- Packets that are what their layers hold. -/
def layerPackets : ChunkPackets where
  Packet := OsiLayer → List UInt8
  convert packet := packet
  setLayer := Function.update
  convert_setLayer _ _ _ := rfl

/-- A request for a packet with one byte in its application layer. -/
def shortRequest (source : MacAddress) (byte : UInt8) : DccRequest layerPackets where
  destination := broadcast
  source := source
  etherType := geoNetworking
  packet l := if l = .application then [byte] else []

theorem noPhysical_shortRequest (source : MacAddress) (byte : UInt8) :
    (shortRequest source byte).NoPhysical := rfl

/-- Two stations. The second one reads a frame of the first, one of its own and another one of the
first, and after an error nothing more. -/
theorem two_stations :
    doReceive octetCodec (fun _ => 2)
        [some ((shortRequest (fun _ => 1) 7).frame octetCodec),
          some ((shortRequest (fun _ => 2) 8).frame octetCodec),
          some ((shortRequest (fun _ => 1) 9).frame octetCodec), none,
          some ((shortRequest (fun _ => 1) 10).frame octetCodec)] =
      [⟨fun _ => 1, broadcast, [7]⟩, ⟨fun _ => 1, broadcast, [9]⟩] := by
  have h := indications_eq octetCodec (ι := Fin 2) ![fun _ => 1, fun _ => 2] 1
    [some (0, shortRequest (fun _ => 1) 7), some (1, shortRequest (fun _ => 2) 8),
      some (0, shortRequest (fun _ => 1) 9), none, some (0, shortRequest (fun _ => 1) 10)]
    (by simp [shortRequest]) (by simp [noPhysical_shortRequest])
  refine h.trans ?_
  decide

/-! ### From a station to the app -/

/-- A packet is for the app: it is a GeoNetworking packet that was not sent under the proxy's own
address, and its frame fits into the buffer. -/
def DccRequest.ForApp (E : EthernetCodec) (r : DccRequest P) : Prop :=
  r.etherType = geoNetworking ∧ r.source ≠ ownSource ∧ (r.frame E).length < sizeofBuffer

instance (r : DccRequest P) : Decidable (r.ForApp E) := by
  rw [DccRequest.ForApp]
  infer_instance

theorem fits_frame_iff {r : DccRequest P} (h : r.NoPhysical) :
    Fits (r.frame E) ↔ r.ForApp E := by
  have hfwd : Forwardable (r.frame E) ↔ r.etherType = geoNetworking ∧ r.source ≠ ownSource := by
    rw [DccRequest.frame_eq h]
    exact forwardable_wire_iff r.header r.payload
  rw [Fits, hfwd, DccRequest.ForApp, and_assoc]

/-- **What the app receives of the frames of the stations.** Whatever the proxy has received
before, the app gets exactly what is above the link layer of the packets that are for it, in order
and one right after the other. -/
theorem appReceives_eq (E : EthernetCodec) (socket : PacketSocket) (buffer : FlatMemory)
    (rs : List (DccRequest P)) (hphysical : ∀ r ∈ rs, r.NoPhysical) :
    delivered (Unsecured.readGeonet.answers ⟨buffer, false⟩
        (socket.reads (rs.map fun r => r.frame E))) =
      (rs.filter fun r => r.ForApp E).flatMap fun r => r.payload := by
  rw [delivered_reads, List.filter_map, List.flatMap_map]
  have hfilter : (rs.filter fun r => Fits (r.frame E)) = rs.filter fun r => r.ForApp E :=
    List.filter_congr fun r hr => by simp only [fits_frame_iff (hphysical r hr)]
  refine (congrArg (List.flatMap _) hfilter).trans (List.flatMap_congr fun r hr => ?_)
  rw [DccRequest.frame_eq (hphysical r (List.mem_of_mem_filter hr))]
  exact List.drop_left' r.header.length_wire

/-- A packet of a station, one sent under the proxy's own address, and another one. -/
theorem appReceives_three_packets :
    delivered (Unsecured.readGeonet.answers ⟨fun _ => 0, false⟩
        (boundSocket.reads ([shortRequest (fun _ => 1) 7, shortRequest ownSource 8,
          shortRequest (fun _ => 2) 9].map fun r => r.frame octetCodec))) = [7, 9] := by
  have h := appReceives_eq octetCodec boundSocket (fun _ => 0) [shortRequest (fun _ => 1) 7,
    shortRequest ownSource 8, shortRequest (fun _ => 2) 9] (by simp [noPhysical_shortRequest])
  refine h.trans ?_
  decide

end BluetoothAuto.Router
