import BluetoothAuto.Proxy.ReadGeonet
import BluetoothAuto.Proxy.WriteGeonet
import BluetoothAuto.Router.PassUp
import Mathlib.Tactic.FinCases

/-!
# The rewritten source address and the two filters

A frame from the app has to pass two tests on the same interface. The router must accept it,
although it was sent from the router's own interface, and `readGeonet` must not echo it back to
the app. `writeGeonet` replaces the second octet of the source address for the first purpose, and
`readGeonet` recognises the result for the second, but it compares with the one address that the
loopback interface yields.

## Main results

* `passUp_geonetHeader_iff` — the router accepts the frame iff the rewriting changes the address
* `handleFrame_geonetHeader_iff` — `readGeonet` drops it iff the other five octets are zero
* `filters_agree_iff` — the addresses for which both hold
-/

namespace BluetoothAuto

open Router

variable {m : MacAddress} {payload : List UInt8}

/-- The rewriting changes every address but those it has nothing to change in. -/
theorem rewriteSource_eq_self_iff : rewriteSource m = m ↔ m 1 = 0xff := by
  simp [rewriteSource, funext_iff, Fin.forall_fin_succ, eq_comm]

/-- The address `readGeonet` looks for is what becomes of an address of zeros. -/
theorem rewriteSource_eq_ownSource_iff :
    rewriteSource m = ownSource ↔ m 0 = 0 ∧ m 2 = 0 ∧ m 3 = 0 ∧ m 4 = 0 ∧ m 5 = 0 := by
  simp [rewriteSource, ownSource, funext_iff, Fin.forall_fin_succ]

/-- The assembled header is an Ethernet header on the wire. -/
theorem geonetHeader_eq_wire (m : MacAddress) :
    geonetHeader m = (EthernetHeader.mk broadcast (rewriteSource m) geoNetworking).wire := by
  have htype : hostBytes16 0x4789 = [(geoNetworking >>> 8).toUInt8, geoNetworking.toUInt8] := by
    decide
  rw [geonetHeader, htype, EthernetHeader.wire]

/-- The router accepts the frame unless the rewritten address is its own. -/
theorem passUp_geonetHeader_iff (E : EthernetCodec) :
    (passUp E (localMid m) (geonetHeader m ++ payload)).isSome = true ↔ m 1 ≠ 0xff := by
  rw [geonetHeader_eq_wire, passUp_wire_isSome_iff, localMid, and_iff_left rfl, ne_eq,
    rewriteSource_eq_self_iff]

/-- The two bytes of the GeoNetworking EtherType. -/
theorem type_bytes_iff (type : UInt16) :
    (type >>> 8).toUInt8 = 0x89 ∧ type.toUInt8 = 0x47 ↔ type = geoNetworking := by
  have h := type.toNat_lt
  simp only [← UInt8.toNat_inj, ← UInt16.toNat_inj, geoNetworking]
  simp [Nat.shiftRight_eq_div_pow]
  omega

/-- The filter of `readGeonet`, for a frame with a given header. -/
theorem forwardable_wire_iff (hdr : EthernetHeader) (rest : List UInt8) :
    Forwardable (hdr.wire ++ rest) ↔ hdr.type = geoNetworking ∧ hdr.source ≠ ownSource := by
  have hlong : sizeofEtherHeader ≤ (hdr.wire ++ rest).length := by simp
  have hget : ∀ k : Fin 6, (hdr.wire ++ rest)[6 + (k : ℕ)]? = some (hdr.source k) := by
    intro k
    rw [EthernetHeader.wire, MacAddress.octets_eq, MacAddress.octets_eq]
    fin_cases k <;> rfl
  have h12 : (hdr.wire ++ rest)[12]? = some (hdr.type >>> 8).toUInt8 := by
    rw [EthernetHeader.wire, MacAddress.octets_eq, MacAddress.octets_eq]
    rfl
  have h13 : (hdr.wire ++ rest)[13]? = some hdr.type.toUInt8 := by
    rw [EthernetHeader.wire, MacAddress.octets_eq, MacAddress.octets_eq]
    rfl
  rw [Forwardable, h12, h13, and_iff_right hlong, Option.some.injEq, Option.some.injEq,
    ← and_assoc, type_bytes_iff]
  simp only [hget, Option.some.injEq, ne_eq, funext_iff]

theorem forwardable_geonetHeader_iff (m : MacAddress) (payload : List UInt8) :
    Forwardable (geonetHeader m ++ payload) ↔ rewriteSource m ≠ ownSource := by
  rw [geonetHeader_eq_wire, forwardable_wire_iff, and_iff_right rfl]

/-- `readGeonet` drops the frame iff it takes its source for the proxy's own. -/
theorem handleFrame_geonetHeader_iff (buffer : FlatMemory) (f : EthFrame)
    (hf : f.bytes = geonetHeader m ++ payload) (hlt : f.bytes.length < sizeofBuffer) :
    (handleFrame buffer f).2 = none ↔ m 0 = 0 ∧ m 2 = 0 ∧ m 3 = 0 ∧ m 4 = 0 ∧ m 5 = 0 := by
  have hlen : sizeofEtherHeader ≤ f.bytes.length := by simp [hf]
  rw [handleFrame_of_long hlen hlt, ← rewriteSource_eq_ownSource_iff]
  have hfwd := forwardable_geonetHeader_iff m payload
  rw [← hf] at hfwd
  split
  · next h => exact iff_of_false (by simp) (hfwd.mp h)
  · next h => exact iff_of_true rfl (not_not.mp (mt hfwd.mpr h))

/-- Every frame that begins with `header`, sent from an interface with address `m`, reaches the
router and is not echoed to the app. -/
def ReachesRouterOnly (E : EthernetCodec) (m : MacAddress) (header : List UInt8) : Prop :=
  ∀ f : EthFrame, header <+: f.bytes →
    (passUp E (localMid m) f.bytes).isSome = true ∧ ∀ buffer, (handleFrame buffer f).2 = none

/-- The header alone, as a frame. -/
def headerFrame (m : MacAddress) : EthFrame where
  bytes := geonetHeader m
  length_le := by
    rw [length_geonetHeader]
    exact Nat.le_of_ble_eq_true rfl

theorem headerFrame_lt (m : MacAddress) : (headerFrame m).bytes.length < sizeofBuffer := by
  rw [headerFrame, length_geonetHeader]
  exact Nat.lt_of_lt_of_le (show 14 < 15 by decide) (Nat.le_of_ble_eq_true rfl)

/-- **The filters agree** on what `writeGeonet` sends iff the address of the interface is zero in
every octet but the second, and the second is not already `ff`. -/
theorem filters_agree_iff (E : EthernetCodec) (L : WriterFrame) (m : MacAddress)
    (mem : FlatMemory) :
    ReachesRouterOnly E m ((writerInit L m mem).mem.load L.sendbuf sizeofEtherHeader) ↔
      m 1 ≠ 0xff ∧ m 0 = 0 ∧ m 2 = 0 ∧ m 3 = 0 ∧ m 4 = 0 ∧ m 5 = 0 := by
  rw [writerInit, load_assembleHeader]
  constructor
  · intro h
    obtain ⟨hpass, hdrop⟩ := h (headerFrame m) (List.prefix_refl _)
    have hf : (headerFrame m).bytes = geonetHeader m ++ [] := (List.append_nil _).symm
    rw [hf] at hpass
    exact ⟨(passUp_geonetHeader_iff E).mp hpass,
      (handleFrame_geonetHeader_iff _ _ hf (headerFrame_lt m)).mp (hdrop fun _ => 0)⟩
  · rintro ⟨h1, hzero⟩ f ⟨payload, hf⟩
    refine ⟨hf ▸ (passUp_geonetHeader_iff E).mpr h1, fun buffer => ?_⟩
    rcases Nat.lt_or_eq_of_le f.length_le with hlt | hfull
    · exact (handleFrame_geonetHeader_iff buffer f hf.symm hlt).mpr hzero
    · simp [handleFrame, hfull]

/-- The address of a Raspberry Pi's network card. Its own messages come back to the app. -/
theorem board_address_echoed :
    ¬ ReachesRouterOnly octetCodec ![0xb8, 0x27, 0xeb, 0x12, 0x34, 0x56]
      ((writerInit ⟨0, 1024, .inl le_rfl⟩ ![0xb8, 0x27, 0xeb, 0x12, 0x34, 0x56]
        fun _ => 0).mem.load 1024 sizeofEtherHeader) := by
  have hheader := load_assembleHeader ⟨0, 1024, .inl le_rfl⟩ ![0xb8, 0x27, 0xeb, 0x12, 0x34, 0x56]
    (FlatMemory.fill (fun _ => 0) 0 sizeofBuf 0)
  rw [writerInit, hheader]
  intro h
  have hdrop := (h (headerFrame _) (List.prefix_refl _)).2 fun _ => 0
  have hf : (headerFrame ![0xb8, 0x27, 0xeb, 0x12, 0x34, 0x56]).bytes =
      geonetHeader ![0xb8, 0x27, 0xeb, 0x12, 0x34, 0x56] ++ [] := (List.append_nil _).symm
  have hzero := (handleFrame_geonetHeader_iff _ _ hf (headerFrame_lt _)).mp hdrop
  exact absurd hzero.1 (by decide)

end BluetoothAuto
