import BluetoothAuto.Proxy.Ethernet
import Mathlib.Tactic.FinCases

/-!
# `RouterContext::pass_up`

The receiving end of the vanetza router. A packet read from the raw socket is handed to
`Router::indicate` if it is long enough for an Ethernet header, does not come from the router's
own address, and has the GeoNetworking EtherType; otherwise it is dropped.

The own address is `mib_.itsGnLocalGnAddr.mid()`, which `main` sets to `EthernetDevice::address`,
the hardware address of the interface.

What writes and reads the header is vanetza's, and a parameter here: an `EthernetCodec`. All that
is used of it is that both functions go by the layout of an Ethernet II header.
-/

namespace BluetoothAuto.Router

/-- `EthernetHeader`. -/
structure EthernetHeader where
  /-- Destination address. -/
  destination : MacAddress
  /-- Source address. -/
  source : MacAddress
  /-- EtherType. -/
  type : UInt16

/-- The header on the wire: the two addresses, and the type in network order. -/
def EthernetHeader.wire (hdr : EthernetHeader) : List UInt8 :=
  hdr.destination.octets ++ hdr.source.octets ++ [(hdr.type >>> 8).toUInt8, hdr.type.toUInt8]

@[simp] theorem EthernetHeader.length_wire (hdr : EthernetHeader) :
    hdr.wire.length = sizeofEtherHeader := by
  simp [wire, sizeofEtherHeader]

/-- `create_ethernet_header` and `decode_ethernet_header`. -/
structure EthernetCodec where
  /-- `create_ethernet_header`. -/
  create : MacAddress → MacAddress → UInt16 → List UInt8
  /-- `decode_ethernet_header`, of the bytes of the link layer. -/
  decode : List UInt8 → EthernetHeader
  /-- A header is created as it goes on the wire. -/
  create_eq (destination source : MacAddress) (type : UInt16) :
    create destination source type = (EthernetHeader.mk destination source type).wire
  /-- A header on the wire is decoded. -/
  decode_wire (hdr : EthernetHeader) : decode hdr.wire = hdr

/-- `access::ethertype::GeoNetworking`. -/
def geoNetworking : UInt16 := 0x8947

/-- `EthernetDevice::address` and the MID `main` configures: the octets of `sa_data`. -/
def localMid (hwaddr : MacAddress) : MacAddress := hwaddr

/-- `RouterContext::pass_up`: the header under which the packet is indicated to the router, or
`none` if it is dropped. -/
def passUp (E : EthernetCodec) (mid : MacAddress) (packet : List UInt8) : Option EthernetHeader :=
  if packet.length < sizeofEtherHeader then
    -- too short for Ethernet header
    none
  else
    let hdr := E.decode (packet.take sizeofEtherHeader)
    if hdr.source ≠ mid ∧ hdr.type = geoNetworking then some hdr else none

/-- What becomes of a packet with a given header. -/
theorem passUp_wire (E : EthernetCodec) (mid : MacAddress) (hdr : EthernetHeader)
    (rest : List UInt8) :
    passUp E mid (hdr.wire ++ rest) =
      if hdr.source ≠ mid ∧ hdr.type = geoNetworking then some hdr else none := by
  have hlong : ¬ (hdr.wire ++ rest).length < sizeofEtherHeader := by simp
  have htake : (hdr.wire ++ rest).take sizeofEtherHeader = hdr.wire :=
    List.take_left' hdr.length_wire
  rw [passUp, if_neg hlong, htake, E.decode_wire]

theorem passUp_wire_isSome_iff (E : EthernetCodec) (mid : MacAddress) (hdr : EthernetHeader)
    (rest : List UInt8) :
    (passUp E mid (hdr.wire ++ rest)).isSome = true ↔
      hdr.source ≠ mid ∧ hdr.type = geoNetworking := by
  rw [passUp_wire]
  split
  · next hacc => exact iff_of_true rfl hacc
  · next hrej => exact iff_of_false (by simp) hrej

/-! ### A codec -/

theorem netWord16_of_type (type : UInt16) :
    netWord16 (type >>> 8).toUInt8 type.toUInt8 = type.toNat := by
  have h := type.toNat_lt
  simp [netWord16, Nat.shiftRight_eq_div_pow]
  omega

/-- A codec that reads the octets one by one. -/
def octetCodec : EthernetCodec where
  create destination source type := (EthernetHeader.mk destination source type).wire
  decode link :=
    { destination := fun k => link.getD k 0
      source := fun k => link.getD (6 + k) 0
      type := .ofNat (netWord16 (link.getD 12 0) (link.getD 13 0)) }
  create_eq _ _ _ := rfl
  decode_wire hdr := by
    rw [EthernetHeader.wire, MacAddress.octets_eq, MacAddress.octets_eq]
    congr 1
    · funext k
      fin_cases k <;> rfl
    · funext k
      fin_cases k <;> rfl
    · exact (congrArg UInt16.ofNat (netWord16_of_type hdr.type)).trans UInt16.ofNat_toNat

end BluetoothAuto.Router
