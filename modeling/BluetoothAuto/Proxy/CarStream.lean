import BluetoothAuto.Lib.Segmentation
import BluetoothAuto.Proxy.CarToApp

/-!
# What the app can recover from its stream

The unsecured `readGeonet` calls `write` with the bare payload of every frame it accepts. The app
reads from an RFCOMM socket, which is a stream: it sees the concatenation of the payloads, and
neither a length nor a delimiter says where one of them ends. (In `proxy.c` every payload travels
in a TLS session of its own.)

So the app recovers the sequence of messages only up to recutting it.

## Main results

* `appStream_eq` — the stream is the concatenation of the payloads, whatever the buffer held
* `streams_differ_iff` — the pairs of sequences that the stream tells apart
-/

namespace BluetoothAuto

open Segmentation

/-- A frame that the filter of `readGeonet` accepts, with a payload that is not empty. -/
structure AcceptedFrame extends CarFrame where
  /-- It has a whole header that the filter accepts. -/
  forwardable : Forwardable bytes
  /-- Something follows the header. -/
  payload_ne_nil : bytes.drop sizeofEtherHeader ≠ []

/-- The data behind the header. -/
def AcceptedFrame.payload (f : AcceptedFrame) : List UInt8 := f.bytes.drop sizeofEtherHeader

/-- The bytes that the unsecured `readGeonet` writes to the app's socket when the frames `fs`
arrive one after the other. -/
def appStream (buffer : FlatMemory) (fs : List AcceptedFrame) : List UInt8 :=
  delivered (Unsecured.readGeonet.answers ⟨buffer, false⟩
    (arrivals (fs.map AcceptedFrame.toCarFrame)))

/-- The payloads of the frames. -/
def framePayloads (fs : List AcceptedFrame) : List (List UInt8) := fs.map AcceptedFrame.payload

theorem nil_notMem_framePayloads (fs : List AcceptedFrame) : [] ∉ framePayloads fs := by
  intro h
  obtain ⟨f, -, hf⟩ := List.mem_map.mp h
  exact f.payload_ne_nil hf

/-- Along a run of accepted frames, every call passes on what follows the frame's header. -/
theorem requests_of_accepted (buffer : FlatMemory) (fs : List AcceptedFrame) :
    List.Forall₂ (fun (f : CarFrame) call => call.map WriteCall.request = ownRequest f.bytes)
      (fs.map AcceptedFrame.toCarFrame)
      (Unsecured.readGeonet.answers ⟨buffer, false⟩
        (arrivals (fs.map AcceptedFrame.toCarFrame))) := by
  have hself : ∀ f ∈ fs.map AcceptedFrame.toCarFrame, SelfContained f.bytes := by
    intro f hf
    obtain ⟨g, -, rfl⟩ := List.mem_map.mp hf
    exact .inl g.forwardable.1
  refine ((List.forall₂_and_left _ _).mpr ⟨hself, answers_arrivals buffer _⟩).imp ?_
  rintro f call ⟨hf, b, rfl⟩
  exact handleFrame_of_selfContained b f hf

/-- **The stream carries no boundaries.** It is the concatenation of the payloads. -/
theorem appStream_eq (buffer : FlatMemory) (fs : List AcceptedFrame) :
    appStream buffer fs = (framePayloads fs).flatten := by
  rw [appStream, delivered_of_requests (requests_of_accepted buffer fs), List.map_map,
    List.filter_eq_self.mpr, framePayloads, List.flatMap, List.map_map]
  · rfl
  · intro bs hbs
    obtain ⟨f, -, rfl⟩ := List.mem_map.mp hbs
    exact decide_eq_true f.forwardable

/-- Two sequences give the same stream iff their payloads can be recut into each other. -/
theorem appStream_eq_iff (buffer buffer' : FlatMemory) (fs gs : List AcceptedFrame) :
    appStream buffer fs = appStream buffer' gs ↔ Recut (framePayloads fs) (framePayloads gs) := by
  rw [appStream_eq, appStream_eq]
  exact flatten_eq_flatten_iff (nil_notMem_framePayloads fs) (nil_notMem_framePayloads gs)

/-- **Which sequences the stream tells apart.** Two sequences of payloads are distinguished
whenever they differ, iff they are equal or cannot be recut into each other. -/
theorem streams_differ_iff (buffer buffer' : FlatMemory) (fs gs : List AcceptedFrame) :
    (framePayloads fs ≠ framePayloads gs → appStream buffer fs ≠ appStream buffer' gs) ↔
      framePayloads fs = framePayloads gs ∨ ¬ Recut (framePayloads fs) (framePayloads gs) := by
  rw [Ne, Ne, appStream_eq_iff, ← or_iff_not_imp_left]

/-- Two sequences of the same stream differ in the lengths of their payloads: these are what the
stream would have to carry as well. -/
theorem lengths_differ_of_appStream_eq {buffer buffer' : FlatMemory} {fs gs : List AcceptedFrame}
    (hne : framePayloads fs ≠ framePayloads gs) (h : appStream buffer fs = appStream buffer' gs) :
    (framePayloads fs).map List.length ≠ (framePayloads gs).map List.length := by
  rw [appStream_eq, appStream_eq] at h
  exact length_ne_of_flatten_eq hne h

/-- A frame from another car with at most two bytes of payload. -/
def shortMessage (payload : List UInt8) (hne : payload ≠ []) (hlen : payload.length ≤ 2) :
    AcceptedFrame where
  bytes :=
    [0xff, 0xff, 0xff, 0xff, 0xff, 0xff, 0x00, 0x15, 0x5d, 0xef, 0xfe, 0xe6, 0x89, 0x47] ++ payload
  length_le := by
    have hsize : sizeofBuffer = 65536 := rfl
    rw [List.length_append, hsize]
    simp only [List.length_cons, List.length_nil]
    omega
  length_lt := by
    have hsize : sizeofBuffer = 65536 := rfl
    rw [List.length_append, hsize]
    simp only [List.length_cons, List.length_nil]
    omega
  forwardable := by
    refine ⟨?_, rfl, rfl, fun hown => absurd (hown 1) ?_⟩
    · rw [List.length_append]
      exact Nat.le_add_right 14 _
    · change some 0x15 ≠ some 0xff
      decide
  payload_ne_nil := by
    rw [List.drop_left' (show List.length _ = sizeofEtherHeader from rfl)]
    exact hne

/-- The messages `01` and `02` arrive as the message `01 02` would. -/
theorem two_messages_read_as_one :
    ¬ ∀ buffer buffer' fs gs, framePayloads fs ≠ framePayloads gs →
      appStream buffer fs ≠ appStream buffer' gs := by
  intro h
  let fs := [shortMessage [1] (by simp) (by simp), shortMessage [2] (by simp) (by simp)]
  let gs := [shortMessage [1, 2] (by simp) (by simp)]
  refine h (fun _ => 0) (fun _ => 0) fs gs ?_ ?_
  · change [[1], [2]] ≠ [[1, 2]]
    decide
  · rw [appStream_eq, appStream_eq]
    rfl

end BluetoothAuto
