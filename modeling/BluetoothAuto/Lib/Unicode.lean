import Mathlib.Data.List.Chain
import Mathlib.Data.Nat.Notation

/-!
# Strings of 16-bit code units, and their UTF-8 encoding

A Java string is a list of 16-bit code units. A character outside the basic plane takes two of
them, a high and a low surrogate, and nothing keeps a surrogate from standing alone. The encoder
writes a question mark for an unpaired surrogate; the decoder writes U+FFFD where no character
begins. How many bytes one replacement character stands for differs between decoders and is a
parameter.

The encoding of one character is that of the core library, and so is its inverse.

## Main results

* `Utf16.items_flatMap_units`, `flatMap_units_items` — a string and what it spells
* `Utf16.wellFormed_iff` — the strings without unpaired surrogates are those that spell characters
* `Utf8.Decoder.decode_encode` — the decoder undoes the encoder on a well-formed string
* `Utf8.length_encode` — the strings with as many bytes as code units
-/

/-! ### UTF-16 -/

namespace Utf16

/-- The code units of a character: itself below 0x10000, and a surrogate pair from there on. -/
def units (c : Char) : List UInt16 :=
  if c.toNat < 0x10000 then [UInt16.ofNat c.toNat]
  else [UInt16.ofNat (0xD800 + (c.toNat - 0x10000) / 0x400),
    UInt16.ofNat (0xDC00 + (c.toNat - 0x10000) % 0x400)]

/-- A high surrogate, which begins a pair. -/
def IsHigh (u : UInt16) : Prop := 0xD800 ≤ u.toNat ∧ u.toNat < 0xDC00

/-- A low surrogate, which ends a pair. -/
def IsLow (u : UInt16) : Prop := 0xDC00 ≤ u.toNat ∧ u.toNat < 0xE000

/-- A surrogate. -/
def IsSurrogate (u : UInt16) : Prop := 0xD800 ≤ u.toNat ∧ u.toNat < 0xE000

instance instDecidableIsHigh (u : UInt16) : Decidable (IsHigh u) :=
  inferInstanceAs (Decidable (_ ∧ _))

instance instDecidableIsLow (u : UInt16) : Decidable (IsLow u) :=
  inferInstanceAs (Decidable (_ ∧ _))

instance instDecidableIsSurrogate (u : UInt16) : Decidable (IsSurrogate u) :=
  inferInstanceAs (Decidable (_ ∧ _))

/-- What a code unit or a pair of them stands for. -/
inductive Item where
  | char (c : Char)
  | unpaired (u : UInt16)
  deriving DecidableEq

/-- A code unit that is not part of a pair. -/
def single (u : UInt16) : Item :=
  if IsSurrogate u then .unpaired u else .char (Char.ofNat u.toNat)

/-- The character of a surrogate pair. -/
def pair (u v : UInt16) : Char :=
  Char.ofNat (0x10000 + (u.toNat - 0xD800) * 0x400 + (v.toNat - 0xDC00))

/-- A string of code units, read from left to right. -/
def items : List UInt16 → List Item
  | [] => []
  | [u] => [single u]
  | u :: v :: us =>
    if IsHigh u ∧ IsLow v then .char (pair u v) :: items us else single u :: items (v :: us)

/-- The values of the characters: no surrogates, nothing above 0x10FFFF. -/
theorem valid (c : Char) : c.toNat < 0xD800 ∨ 0xDFFF < c.toNat ∧ c.toNat < 0x110000 := c.valid

theorem toNat_ofNat {n : ℕ} (h : n.isValidChar) : (Char.ofNat n).toNat = n := by
  rw [Char.ofNat, dif_pos h]
  rfl

/-- A code unit that is not a surrogate is a character by itself. -/
theorem single_of_not_surrogate {u : UInt16} (h : ¬ IsSurrogate u) :
    single u = .char (Char.ofNat u.toNat) := if_neg h

theorem toNat_ofNat_of_not_surrogate {u : UInt16} (h : ¬ IsSurrogate u) :
    (Char.ofNat u.toNat).toNat = u.toNat := by
  have hlt : u.toNat < 65536 := u.toNat_lt
  rw [IsSurrogate] at h
  refine toNat_ofNat ?_
  show _ < 0xD800 ∨ 0xDFFF < _ ∧ _ < 0x110000
  omega

/-- The two surrogates of a pair have its character. -/
theorem toNat_pair {u v : UInt16} (hu : IsHigh u) (hv : IsLow v) :
    (pair u v).toNat = 0x10000 + (u.toNat - 0xD800) * 0x400 + (v.toNat - 0xDC00) := by
  obtain ⟨hu1, hu2⟩ := hu
  obtain ⟨hv1, hv2⟩ := hv
  exact toNat_ofNat (.inr ⟨by omega, by omega⟩)

theorem items_single_cons {u : UInt16} (h : ¬ IsHigh u) (us : List UInt16) :
    items (u :: us) = single u :: items us := by
  rcases us with _ | ⟨v, us⟩
  · rfl
  · rw [items, if_neg fun huv => h huv.1]

theorem items_pair_cons {u v : UInt16} (hu : IsHigh u) (hv : IsLow v) (us : List UInt16) :
    items (u :: v :: us) = .char (pair u v) :: items us := by
  rw [items, if_pos ⟨hu, hv⟩]

/-- **A character is read back from its code units**, whatever follows them. -/
theorem items_units_append (c : Char) (us : List UInt16) :
    items (units c ++ us) = .char c :: items us := by
  have hvalid := valid c
  rw [units]
  split
  · next hc =>
    have hu : (UInt16.ofNat c.toNat).toNat = c.toNat := by
      rw [UInt16.toNat_ofNat_of_lt' (by exact hc)]
    have hns : ¬ IsSurrogate (UInt16.ofNat c.toNat) := by
      rw [IsSurrogate, hu]
      omega
    have hnh : ¬ IsHigh (UInt16.ofNat c.toNat) := by
      rw [IsHigh, hu]
      omega
    rw [List.singleton_append, items_single_cons hnh, single_of_not_surrogate hns, hu,
      Char.ofNat_toNat]
  · next hc =>
    have hdiv : (UInt16.ofNat (0xD800 + (c.toNat - 0x10000) / 0x400)).toNat =
        0xD800 + (c.toNat - 0x10000) / 0x400 :=
      UInt16.toNat_ofNat_of_lt' (show _ < 65536 by omega)
    have hmod : (UInt16.ofNat (0xDC00 + (c.toNat - 0x10000) % 0x400)).toNat =
        0xDC00 + (c.toNat - 0x10000) % 0x400 :=
      UInt16.toNat_ofNat_of_lt' (show _ < 65536 by omega)
    have hu : IsHigh (UInt16.ofNat (0xD800 + (c.toNat - 0x10000) / 0x400)) := by
      rw [IsHigh, hdiv]
      omega
    have hv : IsLow (UInt16.ofNat (0xDC00 + (c.toNat - 0x10000) % 0x400)) := by
      rw [IsLow, hmod]
      omega
    have hpair := toNat_pair hu hv
    rw [hdiv, hmod] at hpair
    rw [List.cons_append, List.singleton_append, items_pair_cons hu hv,
      Char.toNat_inj.mp (hpair.trans (show _ = c.toNat by omega))]

/-- **A well-formed string is read back.** -/
theorem items_flatMap_units (cs : List Char) : items (cs.flatMap units) = cs.map .char := by
  induction cs with
  | nil => rfl
  | cons c cs ih => rw [List.flatMap_cons, items_units_append, ih, List.map_cons]

/-- The code units of an item. -/
def Item.units : Item → List UInt16
  | .char c => Utf16.units c
  | .unpaired u => [u]

theorem units_single (u : UInt16) : (single u).units = [u] := by
  rw [single]
  split
  · rfl
  · next h =>
    rw [Item.units, Utf16.units, toNat_ofNat_of_not_surrogate h, if_pos u.toNat_lt,
      UInt16.ofNat_toNat]

theorem units_pair {u v : UInt16} (hu : IsHigh u) (hv : IsLow v) : units (pair u v) = [u, v] := by
  rw [units, toNat_pair hu hv, if_neg (by omega)]
  obtain ⟨hu1, hu2⟩ := hu
  obtain ⟨hv1, hv2⟩ := hv
  have hsub : 0x10000 + (u.toNat - 0xD800) * 0x400 + (v.toNat - 0xDC00) - 0x10000 =
      (u.toNat - 0xD800) * 0x400 + (v.toNat - 0xDC00) := by omega
  rw [hsub,
    show 0xD800 + ((u.toNat - 0xD800) * 0x400 + (v.toNat - 0xDC00)) / 0x400 = u.toNat by omega,
    show 0xDC00 + ((u.toNat - 0xD800) * 0x400 + (v.toNat - 0xDC00)) % 0x400 = v.toNat by omega,
    UInt16.ofNat_toNat, UInt16.ofNat_toNat]

/-- **Reading a string loses nothing**: the items spell the string. -/
theorem flatMap_units_items (us : List UInt16) : (items us).flatMap Item.units = us := by
  induction us using items.induct with
  | case1 => rfl
  | case2 u => rw [items, List.flatMap_cons, units_single, List.flatMap_nil, List.append_nil]
  | case3 u v us h ih =>
    rw [items, if_pos h, List.flatMap_cons, ih, Item.units, units_pair h.1 h.2]
    rfl
  | case4 u v us h ih =>
    rw [items, if_neg h, List.flatMap_cons, ih, units_single]
    rfl

/-- A string without unpaired surrogates. -/
def WellFormed (us : List UInt16) : Prop := ∀ u, Item.unpaired u ∉ items us

theorem exists_map_char {is : List Item} (h : ∀ u, Item.unpaired u ∉ is) :
    ∃ cs : List Char, is = cs.map Item.char := by
  induction is with
  | nil => exact ⟨[], rfl⟩
  | cons i is ih =>
    obtain ⟨cs, rfl⟩ := ih fun u hu => h u (List.mem_cons_of_mem i hu)
    rcases i with c | u
    · exact ⟨c :: cs, rfl⟩
    · exact absurd List.mem_cons_self (h u)

/-- The well-formed strings are those that spell characters. -/
theorem wellFormed_iff {us : List UInt16} :
    WellFormed us ↔ ∃ cs : List Char, us = cs.flatMap units := by
  constructor
  · intro h
    obtain ⟨cs, hcs⟩ := exists_map_char h
    refine ⟨cs, ?_⟩
    rw [← flatMap_units_items us, hcs, List.flatMap_map]
    rfl
  · rintro ⟨cs, rfl⟩ u hu
    rw [items_flatMap_units] at hu
    obtain ⟨c, -, hc⟩ := List.mem_map.mp hu
    exact absurd hc nofun

end Utf16

/-! ### UTF-8 -/

namespace Utf8

open Utf16

/-- The bytes of an item. An encoder that replaces what it cannot encode writes a question mark
for an unpaired surrogate. -/
def encodeItem : Item → List UInt8
  | .char c => String.utf8EncodeChar c
  | .unpaired _ => [63]

/-- The encoding of a string. -/
def encode (us : List UInt16) : List UInt8 := (items us).flatMap encodeItem

/-- A decoder that replaces what it cannot decode. -/
structure Decoder where
  /-- The number of bytes that the replacement character stands for, at a place where no
  well-formed character begins. -/
  malformed : List UInt8 → ℕ
  malformed_pos : ∀ bs, 0 < malformed bs

/-- The character that begins here. -/
def firstChar (bs : List UInt8) : Option Char := bs.toByteArray.utf8DecodeChar? 0

/-- Up to `k` characters. -/
def Decoder.decodeLoop (D : Decoder) : ℕ → List UInt8 → List UInt16
  | 0, _ => []
  | _ + 1, [] => []
  | k + 1, b :: bs =>
    match firstChar (b :: bs) with
    | some c => units c ++ D.decodeLoop k ((b :: bs).drop c.utf8Size)
    | none => 0xFFFD :: D.decodeLoop k ((b :: bs).drop (D.malformed (b :: bs)))

/-- The decoding of a byte sequence. There are at most as many characters as bytes. -/
def Decoder.decode (D : Decoder) (bs : List UInt8) : List UInt16 := D.decodeLoop bs.length bs

theorem firstChar_encodeChar_append (c : Char) (bs : List UInt8) :
    firstChar (String.utf8EncodeChar c ++ bs) = some c := by
  rw [firstChar, List.toByteArray_append]
  exact ByteArray.utf8DecodeChar?_utf8EncodeChar_append

/-- Two numbers of rounds make no difference if there are enough of them. -/
theorem Decoder.decodeLoop_eq_decodeLoop (D : Decoder) {k n : ℕ} {bs : List UInt8}
    (hk : bs.length ≤ k) (hn : bs.length ≤ n) : D.decodeLoop k bs = D.decodeLoop n bs := by
  induction k generalizing n bs with
  | zero =>
    obtain rfl := List.length_eq_zero_iff.mp (Nat.le_zero.mp hk)
    rcases n with _ | n <;> rfl
  | succ k ih =>
    rcases bs with _ | ⟨b, bs⟩
    · rcases n with _ | n <;> rfl
    · obtain ⟨n, rfl⟩ := Nat.exists_eq_add_one_of_ne_zero (Nat.ne_zero_of_lt hn)
      -- every round takes a byte at least
      have hdrop : ∀ m, 0 < m →
          ((b :: bs).drop m).length ≤ k ∧ ((b :: bs).drop m).length ≤ n := by
        intro m hm
        rw [List.length_drop]
        omega
      rw [decodeLoop, decodeLoop]
      split
      · next c _ =>
        have hc := hdrop c.utf8Size (Char.utf8Size_pos c)
        rw [ih hc.1 hc.2]
      · have hm := hdrop _ (D.malformed_pos (b :: bs))
        rw [ih hm.1 hm.2]

/-- More rounds than bytes make no difference. -/
theorem Decoder.decodeLoop_eq (D : Decoder) {k : ℕ} {bs : List UInt8} (h : bs.length ≤ k) :
    D.decodeLoop k bs = D.decode bs :=
  D.decodeLoop_eq_decodeLoop h (Nat.le_refl _)

/-- **A character is read back from its bytes**, whatever follows them. -/
theorem Decoder.decode_encodeChar_append (D : Decoder) (c : Char) (bs : List UInt8) :
    D.decode (String.utf8EncodeChar c ++ bs) = units c ++ D.decode bs := by
  have hlen : (String.utf8EncodeChar c).length = c.utf8Size := String.length_utf8EncodeChar c
  have hpos : 0 < c.utf8Size := Char.utf8Size_pos c
  obtain ⟨b, rest, hb⟩ : ∃ b rest, String.utf8EncodeChar c ++ bs = b :: rest := by
    refine List.exists_cons_of_ne_nil fun hnil => ?_
    have := congrArg List.length hnil
    rw [List.length_append, List.length_nil] at this
    omega
  have hfirst := firstChar_encodeChar_append c bs
  have hdrop : (String.utf8EncodeChar c ++ bs).drop c.utf8Size = bs := List.drop_left' hlen
  have htotal : rest.length + 1 = c.utf8Size + bs.length := by
    rw [← List.length_cons (a := b), ← hb, List.length_append, hlen]
  rw [hb] at hfirst hdrop ⊢
  rw [decode, List.length_cons, decodeLoop]
  simp only [hfirst, hdrop]
  rw [D.decodeLoop_eq (by omega)]

/-- **The decoder undoes the encoder** on a well-formed string. -/
theorem Decoder.decode_encode (D : Decoder) {us : List UInt16} (h : WellFormed us) :
    D.decode (encode us) = us := by
  obtain ⟨cs, rfl⟩ := wellFormed_iff.mp h
  rw [encode, items_flatMap_units, List.flatMap_map]
  induction cs with
  | nil => rfl
  | cons c cs ih =>
    rw [List.flatMap_cons, List.flatMap_cons]
    show D.decode (String.utf8EncodeChar c ++ _) = _
    rw [D.decode_encodeChar_append, ih (wellFormed_iff.mpr ⟨cs, rfl⟩)]

/-- An accent, a character outside the basic plane and an unpaired surrogate. -/
example : encode [0xE9, 0xD83D, 0xDE00, 0xD800] = [0xC3, 0xA9, 0xF0, 0x9F, 0x98, 0x80, 63] := by
  decide

/-! ### Lengths -/

/-- Strings with one byte for each code unit: ASCII characters, and surrogates none of which
is followed by its other half. -/
def OneByteEach (us : List UInt16) : Prop :=
  (∀ u ∈ us, u.toNat < 0x80 ∨ IsSurrogate u) ∧ us.IsChain fun u v => ¬ (IsHigh u ∧ IsLow v)

instance instDecidableOneByteEach (us : List UInt16) : Decidable (OneByteEach us) :=
  -- over the list, not over all code units
  @instDecidableAnd _ _ (List.decidableBAll (fun u => u.toNat < 0x80 ∨ IsSurrogate u) us)
    inferInstance

/-- A single code unit takes a byte at least, and more exactly if it is neither ASCII nor a
surrogate. -/
theorem length_encode_single (u : UInt16) :
    1 ≤ (encodeItem (single u)).length ∧
      ((encodeItem (single u)).length = 1 ↔ u.toNat < 0x80 ∨ IsSurrogate u) := by
  rw [single]
  split
  · next h => exact ⟨Nat.le_refl 1, iff_of_true rfl (.inr h)⟩
  · next h =>
    rw [encodeItem, String.length_utf8EncodeChar, Char.utf8Size_eq_one_iff, or_iff_left h]
    refine ⟨Char.utf8Size_pos _, ?_⟩
    rw [UInt32.le_iff_toNat_le, Char.toNat_val, toNat_ofNat_of_not_surrogate h]
    exact Nat.lt_succ_iff.symm

/-- The character of a surrogate pair takes four bytes. -/
theorem length_encode_pair {u v : UInt16} (hu : IsHigh u) (hv : IsLow v) :
    (encodeItem (.char (pair u v))).length = 4 := by
  rw [encodeItem, String.length_utf8EncodeChar, Char.utf8Size_eq_four_iff, UInt32.lt_iff_toNat_lt,
    Char.toNat_val, toNat_pair hu hv]
  show 65535 < _
  omega

/-- **When a string has as many bytes as code units.** -/
theorem length_encode (us : List UInt16) :
    us.length ≤ (encode us).length ∧ ((encode us).length = us.length ↔ OneByteEach us) := by
  rw [encode]
  induction us using items.induct with
  | case1 => exact ⟨Nat.le_refl 0, iff_of_true rfl ⟨List.forall_mem_nil _, .nil⟩⟩
  | case2 u =>
    have hu := length_encode_single u
    rw [items, List.flatMap_cons, List.flatMap_nil, List.append_nil]
    refine ⟨hu.1, hu.2.trans ?_⟩
    rw [OneByteEach, List.forall_mem_singleton]
    exact (and_iff_left (.singleton u)).symm
  | case3 u v us h ih =>
    have huv := length_encode_pair h.1 h.2
    rw [items, if_pos h, List.flatMap_cons, List.length_append, huv, List.length_cons,
      List.length_cons]
    refine ⟨by omega, iff_of_false (by omega) fun hone => ?_⟩
    exact (List.isChain_cons_cons.mp hone.2).1 h
  | case4 u v us h ih =>
    have hu := length_encode_single u
    rw [items, if_neg h, List.flatMap_cons, List.length_append, List.length_cons]
    refine ⟨by omega, ?_⟩
    have hsplit : OneByteEach (u :: v :: us) ↔
        (u.toNat < 0x80 ∨ IsSurrogate u) ∧ OneByteEach (v :: us) := by
      rw [OneByteEach, List.forall_mem_cons, List.isChain_cons_cons, and_iff_right h, and_assoc]
      rfl
    rw [hsplit, ← hu.2, ← ih.2]
    omega

end Utf8
