import Mathlib.Algebra.GroupWithZero.Nat
import Mathlib.Data.Fin.VecNotation
import Mathlib.Data.Fintype.Basic

/-!
# Ethernet headers as the two sides of the proxy see them

The proxy handles a frame as raw bytes: the header is the first fourteen of them, six octets of
destination, six of source and two of EtherType.

The C sources read and write the EtherType as a `uint16_t` of the host, and both targets they are
built for (x86-64 and the Raspberry Pi) are little endian. So `eh->ether_type = 0x4789` stores the
bytes `89 47`, and `eth->h_proto == 18313` asks for the same two bytes. The vanetza side decodes
the field in network order, where they read `0x8947`.
-/

namespace BluetoothAuto

/-- A hardware address: six octets. -/
abbrev MacAddress := Fin 6 → UInt8

/-- Octets are numbered from `0` to `5`. -/
instance instNeZeroSix : NeZero 6 := ⟨Nat.succ_ne_zero 5⟩

/-- The octets of an address, in the order of the wire. -/
def MacAddress.octets (m : MacAddress) : List UInt8 := List.ofFn m

@[simp] theorem MacAddress.length_octets (m : MacAddress) : m.octets.length = 6 := by
  simp [MacAddress.octets]

theorem MacAddress.octets_eq (m : MacAddress) : m.octets = [m 0, m 1, m 2, m 3, m 4, m 5] := by
  simp [MacAddress.octets, List.ofFn_succ]

/-- `sizeof(struct ether_header)` and `sizeof(struct ethhdr)`. -/
def sizeofEtherHeader : ℕ := 14

/-- The broadcast address `ff:ff:ff:ff:ff:ff`. -/
def broadcast : MacAddress := ![0xff, 0xff, 0xff, 0xff, 0xff, 0xff]

/-- The address of the loopback interface. -/
def loopback : MacAddress := fun _ => 0

/-- The source address that `writeGeonet` puts in its frames: the interface's own with the second
octet replaced, so that vanetza does not take the frame for one of its own. -/
def rewriteSource (m : MacAddress) : MacAddress := ![m 0, 0xff, m 2, m 3, m 4, m 5]

/-- The bytes of a `uint16_t` in the memory of a little-endian host. -/
def hostBytes16 (v : UInt16) : List UInt8 := [v.toUInt8, (v >>> 8).toUInt8]

/-- A `uint16_t` read from two bytes of the memory of a little-endian host. -/
def hostWord16 (b0 b1 : UInt8) : ℕ := b0.toNat + 256 * b1.toNat

/-- A `uint16_t` read from two bytes in network order. -/
def netWord16 (b0 b1 : UInt8) : ℕ := 256 * b0.toNat + b1.toNat

/-- What `eh->ether_type = 0x4789` leaves in the frame. -/
@[simp] theorem hostBytes16_geonet : hostBytes16 0x4789 = [0x89, 0x47] := rfl

/-- The host reads `18313` exactly from the bytes `89 47`. -/
theorem hostWord16_eq_geonet {b0 b1 : UInt8} :
    hostWord16 b0 b1 = 18313 ↔ b0 = 0x89 ∧ b1 = 0x47 := by
  have h0 := b0.toNat_lt
  have h1 := b1.toNat_lt
  simp only [hostWord16, ← UInt8.toNat_inj]
  constructor
  · intro h
    exact ⟨by simp; omega, by simp; omega⟩
  · rintro ⟨h, h'⟩
    rw [h, h']
    rfl

end BluetoothAuto
