import BluetoothAuto.Server.Stores

/-!
# The app's messages and the server's

The click handler of the `POST` button in `MainActivity` sends a JSON object with one member, whose
value is the hexadecimal text of a GeoNetworking frame, to `messages/cam/`. It does not look at the
response.

The member is called `data`, as the field of the models once was. The field is called `chars` now,
so every such request is refused. With the right name, frames of 1 to 50 bytes would be stored.

## Main results

* `agreed_iff` — under which name, and for which frames, app and server agree
* `app_never_agrees` — they do not agree on any frame
-/

namespace BluetoothAuto.Server

variable {F : Framework}

/-! ### Hexadecimal text -/

/-- The digits in the order of their values. -/
def hexDigit (n : Fin 16) : Char :=
  ['0', '1', '2', '3', '4', '5', '6', '7', '8', '9', 'a', 'b', 'c', 'd', 'e', 'f'].get n

/-- The upper half of a byte. -/
def highNibble (b : UInt8) : Fin 16 := ⟨b.toNat / 16, by have := b.toNat_lt; omega⟩

/-- The lower half of a byte. -/
def lowNibble (b : UInt8) : Fin 16 := ⟨b.toNat % 16, Nat.mod_lt _ (by omega)⟩

/-- The hexadecimal text of a frame. -/
def hexText (f : List UInt8) : Text :=
  f.flatMap fun b => [.scalar (hexDigit (highNibble b)), .scalar (hexDigit (lowNibble b))]

theorem hexDigit_injective : Function.Injective hexDigit := by
  rw [Function.Injective]
  decide

theorem isHexDigit_hexDigit (n : Fin 16) : IsHexDigit (.scalar (hexDigit n)) := by
  refine ⟨_, rfl, ?_⟩
  revert n
  decide

theorem hexText_cons (b : UInt8) (f : List UInt8) :
    hexText (b :: f) =
      .scalar (hexDigit (highNibble b)) :: .scalar (hexDigit (lowNibble b)) :: hexText f := rfl

@[simp] theorem length_hexText (f : List UInt8) : (hexText f).length = 2 * f.length := by
  induction f with
  | nil => rfl
  | cons b f ih =>
    rw [hexText_cons, List.length_cons, List.length_cons, ih, List.length_cons]
    omega

theorem hexText_digits (f : List UInt8) : ∀ c ∈ hexText f, IsHexDigit c := by
  intro c hc
  obtain ⟨b, -, hb⟩ := List.mem_flatMap.mp hc
  rcases List.mem_pair.mp hb with rfl | rfl
  · exact isHexDigit_hexDigit _
  · exact isHexDigit_hexDigit _

/-- The halves determine the byte. -/
theorem eq_of_nibbles {b b' : UInt8} (hhigh : highNibble b = highNibble b')
    (hlow : lowNibble b = lowNibble b') : b = b' := by
  have hdiv : b.toNat / 16 = b'.toNat / 16 := congrArg Fin.val hhigh
  have hmod : b.toNat % 16 = b'.toNat % 16 := congrArg Fin.val hlow
  exact UInt8.toNat_inj.mp (by omega)

/-- **The frame is recovered from its text.** -/
theorem hexText_injective : Function.Injective hexText := by
  intro f
  induction f with
  | nil =>
    intro g h
    cases g with
    | nil => rfl
    | cons b' g => cases h
  | cons b f ih =>
    intro g h
    cases g with
    | nil => cases h
    | cons b' g =>
      rw [hexText_cons, hexText_cons] at h
      injection h with hhigh h
      injection h with hlow h
      injection hhigh with hhigh
      injection hlow with hlow
      rw [eq_of_nibbles (hexDigit_injective hhigh) (hexDigit_injective hlow), ih h]

/-! ### The request -/

/-- A body with one member, whose value is the hexadecimal text of a frame. -/
def formBody (name : Text) (f : List UInt8) : Body := some (.object [(name, .string (hexText f))])

/-- `postData.put("data", ...)`. -/
def dataName : Text := text ['d', 'a', 't', 'a']

/-- App and server agree on a frame: the request is accepted, and the list that the server shows
then has an entry from which the text, and so the frame, is recovered. -/
structure Agreed (name : Text) (db : Database F) (f : List UInt8) : Prop where
  /-- The request is accepted. -/
  created : (CamList.post F (formBody name f) db).1.status = 201
  /-- The entry is shown. -/
  listed : ∃ rows, (CamList.get F (CamList.post F (formBody name f) db).2).1.data = .rows rows ∧
    ∃ r ∈ rows, r.chars = hexText f ∧ ∀ g, r.chars = hexText g → g = f

theorem member_formBody (name : Text) (v : Json) :
    member [(name, v)] charsName = if name = charsName then some v else none := by
  rw [member, List.reverse_singleton, List.find?_singleton]
  by_cases h : name = charsName <;> simp [h]

/-- What the serializer makes of the request. -/
theorem accept_formBody (F : Framework) (name : Text) (f : List UInt8) :
    accept F .denmCamCam (formBody name f) =
      if name = charsName then
        if f = [] then .error (.chars [.blank])
        else if 50 < f.length then .error (.chars [.maxLength]) else .ok (hexText f)
      else .error (.chars [.required]) := by
  have hnil : hexText f = [] ↔ f = [] := by
    rw [← List.length_eq_zero_iff, ← List.length_eq_zero_iff, length_hexText]
    omega
  have hlen : 100 < (hexText f).length ↔ 50 < f.length := by
    rw [length_hexText]
    omega
  show F.isValid ⟨100⟩ (.object [(name, _)]) = _
  have hmember := member_formBody name (.string (hexText f))
  split_ifs at hmember ⊢ with hname hempty hlong
  · rw [isValid_of_digits F _ hmember (hexText_digits f), if_pos (hnil.mpr hempty)]
  · rw [isValid_of_digits F _ hmember (hexText_digits f), if_neg (mt hnil.mp hempty),
      if_pos (hlen.mpr hlong)]
  · rw [isValid_of_digits F _ hmember (hexText_digits f), if_neg (mt hnil.mp hempty),
      if_neg (mt hlen.mp hlong)]
  · exact F.isValid_missing _ _ hmember

/-- The text of a frame is accepted under the right name, if the frame is neither empty nor too
long. -/
theorem accept_formBody_eq_ok_iff {name : Text} {f : List UInt8} {t : Text} :
    accept F .denmCamCam (formBody name f) = .ok t ↔
      (name = charsName ∧ f ≠ [] ∧ f.length ≤ 50) ∧ hexText f = t := by
  rw [accept_formBody]
  split_ifs with hname hempty hlong
  · exact iff_of_false (by simp) fun h => h.1.2.1 hempty
  · exact iff_of_false (by simp) fun h => absurd h.1.2.2 (Nat.not_le.mpr hlong)
  · rw [Except.ok.injEq]
    exact (and_iff_right ⟨hname, hempty, Nat.not_lt.mp hlong⟩).symm
  · exact iff_of_false (by simp) fun h => hname h.1.1

/-- `CamList.post`, by what the serializer accepts. -/
theorem camList_post_eq (body : Body) (db : Database F) :
    CamList.post F body db =
      match accept F .denmCamCam body with
      | .error e => (⟨400, .errors e⟩, db)
      | .ok chars =>
        match F.create (db .denmCamCam) chars with
        | none => (⟨500, .serverError⟩, db)
        | some (row, t) => (⟨201, .row row⟩, Function.update db .denmCamCam t) :=
  listPost_eq camSerializer body db

/-- The text of a frame has no surrogates. -/
theorem hexText_surrogates (f : List UInt8) : (hexText f).any PyChar.isSurrogate = false := by
  rw [List.any_eq_false]
  intro c hc
  rw [(hexText_digits f c hc).isSurrogate]
  exact Bool.false_ne_true

/-- **When app and server agree**: under the right name, for frames of 1 to 50 bytes, as long as the
collection has ids left. -/
theorem agreed_iff (name : Text) (db : Database F) (f : List UInt8) :
    Agreed name db f ↔
      (name = charsName ∧ f ≠ [] ∧ f.length ≤ 50) ∧ largestId ∉ F.used (db .denmCamCam) := by
  constructor
  · rintro ⟨hcreated, -⟩
    cases haccept : accept F .denmCamCam (formBody name f) with
    | error e =>
      rw [camList_post_eq, haccept] at hcreated
      cases hcreated
    | ok t =>
      refine ⟨(accept_formBody_eq_ok_iff.mp haccept).1, ?_⟩
      cases hcreate : F.create (db .denmCamCam) t with
      | none =>
        rw [camList_post_eq, haccept] at hcreated
        simp only [hcreate] at hcreated
        cases hcreated
      | some created => exact ((create_isSome_iff _ _).mp ⟨created, hcreate⟩).2
  · rintro ⟨hfits, hleft⟩
    have haccept : accept F .denmCamCam (formBody name f) = .ok (hexText f) :=
      accept_formBody_eq_ok_iff.mpr ⟨hfits, rfl⟩
    obtain ⟨⟨row, t⟩, hcreate⟩ :=
      (create_isSome_iff (db .denmCamCam) (hexText f)).mpr ⟨hexText_surrogates f, hleft⟩
    have hpost : CamList.post F (formBody name f) db =
        (⟨201, .row row⟩, Function.update db .denmCamCam t) := by
      rw [camList_post_eq, haccept]
      simp only [hcreate]
    have hrow : F.get t row.id = some row := by
      rw [F.get_create _ _ _ _ hcreate, if_pos rfl]
    have hchars : row.chars = hexText f := F.chars_create _ _ _ _ hcreate
    refine ⟨by rw [hpost], F.all t, ?_, row, ((F.get_eq_some_iff t row.id row).mp hrow).1, hchars,
      fun g hg => ?_⟩
    · rw [hpost]
      show ResponseData.rows (F.all (Function.update db TableName.denmCamCam t .denmCamCam)) = _
      rw [Function.update_self]
    · exact (hexText_injective (hchars.symm.trans hg)).symm

/-- **The app and the server agree on no frame**, whatever the database holds. -/
theorem app_never_agrees (db : Database F) (f : List UInt8) : ¬ Agreed dataName db f := by
  rw [agreed_iff]
  rintro ⟨⟨hname, -⟩, -⟩
  exact absurd hname (by decide)

/-- Not even on a frame of one byte, with nothing stored yet. -/
theorem one_byte_refused :
    ¬ ∀ (db : Database plainFramework) (f : List UInt8), Agreed dataName db f := by
  intro h
  have hname := ((agreed_iff dataName emptyDatabase [0x11]).mp (h _ _)).1.1
  exact absurd hname (by decide)

end BluetoothAuto.Server
