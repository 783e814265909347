import Mathlib
import CounterCache.Text.Utf8

/-!
# Reading back the UTF-8 of a string

Text is written to bytes by the string's own UTF-8 encoding, and read back by `decodeUtf8`,
which checks every encoding it meets (lead byte, continuation bytes, and the narrower second
byte after `E0`, `ED`, `F0` and `F4`). This module proves that the reader accepts whatever the
writer produces and gives back the same string.

The proof follows the decoder one character at a time. `decodeFrom_one` to `decodeFrom_four`
say what one step of the decoder does on an encoding of each width; `decodeFrom_utf8EncodeChar`
shows that the bytes of any character pass the checks of that step and are reassembled into the
character. Byte tests are stated on the bytes' values as naturals, where `omega` decides them.

Main statement: `decodeUtf8_toUTF8`.
-/

namespace ByteArray

/-- The bytes of a byte array, in order. -/
theorem toList_eq_data_toList (bs : ByteArray) : bs.toList = bs.data.toList := by
  -- at index `i` the loop holds the bytes before `i`, reversed
  have loop : ∀ i r, toList.loop bs i r = r.reverse ++ bs.data.toList.drop i := by
    intro i r
    fun_induction toList.loop bs i r with
    | case1 i r hi ih =>
      have hlen : i < bs.data.toList.length := by simpa using hi
      have hget : bs.get! i = bs.data.toList[i] := by simp [ByteArray.get!, hi]
      rw [ih, List.reverse_cons, List.append_assoc, List.singleton_append, hget,
        List.getElem_cons_drop]
    | case2 i r hi =>
      rw [List.drop_eq_nil_of_le (by simpa using Nat.le_of_not_lt hi), List.append_nil]
  rw [toList, loop 0 []]
  simp

end ByteArray

namespace CounterCache.Text

namespace Utf8

/-! ## Byte tests as arithmetic -/

theorem isCont_ofNat : ∀ n, n < 256 → isCont (UInt8.ofNat n) = decide (n / 64 = 2) := by
  decide +kernel

/-- A continuation byte is one of `0x80` to `0xBF`. -/
theorem isCont_eq (b : UInt8) : isCont b = decide (b.toNat / 64 = 2) := by
  have h := isCont_ofNat b.toNat b.toNat_lt
  rwa [UInt8.ofNat_toNat] at h

theorem width_eq (b : UInt8) : width b =
    if b.toNat < 0x80 then 1
    else if 0xC2 ≤ b.toNat ∧ b.toNat ≤ 0xDF then 2
    else if 0xE0 ≤ b.toNat ∧ b.toNat ≤ 0xEF then 3
    else if 0xF0 ≤ b.toNat ∧ b.toNat ≤ 0xF4 then 4
    else 0 := by
  simp only [width, UInt8.lt_iff_toNat_lt, UInt8.le_iff_toNat_le, UInt8.reduceToNat]

theorem secondOk_eq (lead b : UInt8) : secondOk lead b =
    if lead.toNat = 0xE0 then decide (0xA0 ≤ b.toNat ∧ b.toNat ≤ 0xBF)
    else if lead.toNat = 0xED then decide (0x80 ≤ b.toNat ∧ b.toNat ≤ 0x9F)
    else if lead.toNat = 0xF0 then decide (0x90 ≤ b.toNat ∧ b.toNat ≤ 0xBF)
    else if lead.toNat = 0xF4 then decide (0x80 ≤ b.toNat ∧ b.toNat ≤ 0x8F)
    else decide (b.toNat / 64 = 2) := by
  simp only [secondOk, isCont_eq, ← UInt8.toNat_inj, UInt8.le_iff_toNat_le, UInt8.reduceToNat,
    Bool.decide_and]

/-- Masking with `2 ^ k - 1` keeps the low `k` bits. -/
theorem toNat_and_mask (b : UInt8) {m : UInt8} (k : Nat) (hm : m.toNat = 2 ^ k - 1) :
    (b &&& m).toNat = b.toNat % 2 ^ k := by
  rw [UInt8.toNat_and, hm, Nat.and_two_pow_sub_one_eq_mod]

theorem low6_eq (b : UInt8) : low6 b = b.toNat % 64 := toNat_and_mask b 6 rfl

theorem toNat_and_0x1F (b : UInt8) : (b &&& 0x1F).toNat = b.toNat % 32 := toNat_and_mask b 5 rfl

theorem toNat_and_0x0F (b : UInt8) : (b &&& 0x0F).toNat = b.toNat % 16 := toNat_and_mask b 4 rfl

theorem toNat_and_0x07 (b : UInt8) : (b &&& 0x07).toNat = b.toNat % 8 := toNat_and_mask b 3 rfl

theorem toNat_ofNat_of_lt {n : Nat} (h : n < 256) : (UInt8.ofNat n).toNat = n := by
  simp [UInt8.toNat_ofNat', Nat.mod_eq_of_lt h]

/-! ## One step of the decoder -/

section Steps

variable (i : Nat) (acc : List Char) {b c d e : UInt8} (rest : List UInt8)

theorem decodeFrom_nil : decodeFrom i acc [] = .ok acc.reverse := rfl

/-- One step of the decoder on a lead byte, as the definition takes it. -/
theorem decodeFrom_cons (b : UInt8) :
    decodeFrom i acc (b :: rest) =
      if width b = 1 then decodeFrom (i + 1) (Char.ofNat b.toNat :: acc) rest
      else if width b = 2 then
        match rest with
        | [] => .error ⟨i, none⟩
        | c :: rest =>
          if isCont c then
            decodeFrom (i + 2) (Char.ofNat ((b &&& 0x1F).toNat * 64 + low6 c) :: acc) rest
          else .error ⟨i, some 1⟩
      else if width b = 3 then
        match rest with
        | [] => .error ⟨i, none⟩
        | c :: [] => if secondOk b c then .error ⟨i, none⟩ else .error ⟨i, some 1⟩
        | c :: d :: rest =>
          if !secondOk b c then .error ⟨i, some 1⟩
          else if isCont d then
            decodeFrom (i + 3)
              (Char.ofNat ((b &&& 0x0F).toNat * 4096 + low6 c * 64 + low6 d) :: acc) rest
          else .error ⟨i, some 2⟩
      else if width b = 4 then
        match rest with
        | [] => .error ⟨i, none⟩
        | c :: [] => if secondOk b c then .error ⟨i, none⟩ else .error ⟨i, some 1⟩
        | c :: d :: [] =>
          if !secondOk b c then .error ⟨i, some 1⟩
          else if isCont d then .error ⟨i, none⟩ else .error ⟨i, some 2⟩
        | c :: d :: e :: rest =>
          if !secondOk b c then .error ⟨i, some 1⟩
          else if !isCont d then .error ⟨i, some 2⟩
          else if isCont e then
            decodeFrom (i + 4) (Char.ofNat ((b &&& 0x07).toNat * 262144 + low6 c * 4096 +
              low6 d * 64 + low6 e) :: acc) rest
          else .error ⟨i, some 3⟩
      else .error ⟨i, some 1⟩ :=
  decodeFrom.eq_def i acc (b :: rest)

theorem decodeFrom_one (hw : width b = 1) :
    decodeFrom i acc (b :: rest) = decodeFrom (i + 1) (Char.ofNat b.toNat :: acc) rest := by
  rw [decodeFrom_cons, if_pos hw]

theorem decodeFrom_two (hw : width b = 2) (hc : isCont c = true) :
    decodeFrom i acc (b :: c :: rest) =
      decodeFrom (i + 2) (Char.ofNat ((b &&& 0x1F).toNat * 64 + low6 c) :: acc) rest := by
  rw [decodeFrom_cons]
  simp only [hw, hc, Nat.reduceEqDiff, ↓reduceIte]

theorem decodeFrom_three (hw : width b = 3) (hc : secondOk b c = true) (hd : isCont d = true) :
    decodeFrom i acc (b :: c :: d :: rest) =
      decodeFrom (i + 3)
        (Char.ofNat ((b &&& 0x0F).toNat * 4096 + low6 c * 64 + low6 d) :: acc) rest := by
  rw [decodeFrom_cons]
  simp only [hw, hc, hd, Nat.reduceEqDiff, Bool.not_true, Bool.false_eq_true, ↓reduceIte]

theorem decodeFrom_four (hw : width b = 4) (hc : secondOk b c = true) (hd : isCont d = true)
    (he : isCont e = true) :
    decodeFrom i acc (b :: c :: d :: e :: rest) =
      decodeFrom (i + 4) (Char.ofNat ((b &&& 0x07).toNat * 262144 + low6 c * 4096 + low6 d * 64 +
        low6 e) :: acc) rest := by
  rw [decodeFrom_cons]
  simp only [hw, hc, hd, he, Nat.reduceEqDiff, Bool.not_true, Bool.false_eq_true, ↓reduceIte]

end Steps

/-! ## Characters and strings -/

/-- The bytes of one character are read back as that character. -/
theorem decodeFrom_utf8EncodeChar (i : Nat) (acc : List Char) (c : Char) (rest : List UInt8) :
    decodeFrom i acc (String.utf8EncodeChar c ++ rest) =
      decodeFrom (i + c.utf8Size) (c :: acc) rest := by
  have hvalid : c.toNat < 0xD800 ∨ (0xDFFF < c.toNat ∧ c.toNat < 0x110000) := c.valid
  have hv : c.val.toNat = c.toNat := rfl
  have hone : c.utf8Size = 1 ↔ c.toNat ≤ 127 := by
    rw [Char.utf8Size_eq_one_iff, UInt32.le_iff_toNat_le]; rfl
  have htwo : c.utf8Size = 2 ↔ 127 < c.toNat ∧ c.toNat ≤ 0x7ff := by
    rw [Char.utf8Size_eq_two_iff, UInt32.le_iff_toNat_le, UInt32.lt_iff_toNat_lt]; rfl
  have hthree : c.utf8Size = 3 ↔ 0x7ff < c.toNat ∧ c.toNat ≤ 0xffff := by
    rw [Char.utf8Size_eq_three_iff, UInt32.le_iff_toNat_le, UInt32.lt_iff_toNat_lt]; rfl
  have hfour : c.utf8Size = 4 ↔ 0xffff < c.toNat := by
    rw [Char.utf8Size_eq_four_iff, UInt32.lt_iff_toNat_lt]; rfl
  have hchar : ∀ n, n = c.toNat → Char.ofNat n = c := fun n hn => hn ▸ Char.ofNat_toNat c
  simp only [String.utf8EncodeChar, hv]
  -- one case per width of the encoding, as the encoder splits them
  split
  · rename_i h1
    have hb : (UInt8.ofNat c.toNat).toNat = c.toNat := toNat_ofNat_of_lt (by omega)
    have hw : width (UInt8.ofNat c.toNat) = 1 := by
      rw [width_eq, hb, if_pos (by omega)]
    rw [hone.2 h1, List.singleton_append, decodeFrom_one _ _ _ hw, hb, Char.ofNat_toNat]
  split
  · rename_i h1 h2
    have hb1 : (UInt8.ofNat (c.toNat / 64 % 32 + 192)).toNat = c.toNat / 64 % 32 + 192 :=
      toNat_ofNat_of_lt (by omega)
    have hb2 : (UInt8.ofNat (c.toNat % 64 + 128)).toNat = c.toNat % 64 + 128 :=
      toNat_ofNat_of_lt (by omega)
    have hw : width (UInt8.ofNat (c.toNat / 64 % 32 + 192)) = 2 := by
      rw [width_eq, hb1, if_neg (by omega), if_pos (by omega)]
    have hc : isCont (UInt8.ofNat (c.toNat % 64 + 128)) = true := by
      rw [isCont_eq, hb2]; simp; omega
    rw [htwo.2 ⟨by omega, h2⟩, List.cons_append, List.singleton_append,
      decodeFrom_two _ _ _ hw hc, toNat_and_0x1F, low6_eq, hb1, hb2, hchar _ (by omega)]
  split
  · rename_i h1 h2 h3
    have hb1 : (UInt8.ofNat (c.toNat / 4096 % 16 + 224)).toNat = c.toNat / 4096 % 16 + 224 :=
      toNat_ofNat_of_lt (by omega)
    have hb2 : (UInt8.ofNat (c.toNat / 64 % 64 + 128)).toNat = c.toNat / 64 % 64 + 128 :=
      toNat_ofNat_of_lt (by omega)
    have hb3 : (UInt8.ofNat (c.toNat % 64 + 128)).toNat = c.toNat % 64 + 128 :=
      toNat_ofNat_of_lt (by omega)
    have hw : width (UInt8.ofNat (c.toNat / 4096 % 16 + 224)) = 3 := by
      rw [width_eq, hb1, if_neg (by omega), if_neg (by omega), if_pos (by omega)]
    -- the second byte stays inside the narrower ranges of the leads `E0` and `ED`, since the
    -- character is at least `U+0800` and is no surrogate
    have hs : secondOk (UInt8.ofNat (c.toNat / 4096 % 16 + 224))
        (UInt8.ofNat (c.toNat / 64 % 64 + 128)) = true := by
      rw [secondOk_eq, hb1, hb2]
      split_ifs <;> simp <;> omega
    have hd : isCont (UInt8.ofNat (c.toNat % 64 + 128)) = true := by
      rw [isCont_eq, hb3]; simp; omega
    rw [hthree.2 ⟨by omega, h3⟩, List.cons_append, List.cons_append, List.singleton_append,
      decodeFrom_three _ _ _ hw hs hd, toNat_and_0x0F, low6_eq, low6_eq, hb1, hb2, hb3,
      hchar _ (by omega)]
  · rename_i h1 h2 h3
    have hb1 : (UInt8.ofNat (c.toNat / 262144 % 8 + 240)).toNat = c.toNat / 262144 % 8 + 240 :=
      toNat_ofNat_of_lt (by omega)
    have hb2 : (UInt8.ofNat (c.toNat / 4096 % 64 + 128)).toNat = c.toNat / 4096 % 64 + 128 :=
      toNat_ofNat_of_lt (by omega)
    have hb3 : (UInt8.ofNat (c.toNat / 64 % 64 + 128)).toNat = c.toNat / 64 % 64 + 128 :=
      toNat_ofNat_of_lt (by omega)
    have hb4 : (UInt8.ofNat (c.toNat % 64 + 128)).toNat = c.toNat % 64 + 128 :=
      toNat_ofNat_of_lt (by omega)
    have hw : width (UInt8.ofNat (c.toNat / 262144 % 8 + 240)) = 4 := by
      rw [width_eq, hb1, if_neg (by omega), if_neg (by omega), if_neg (by omega), if_pos (by omega)]
    -- the leads `F0` and `F4` narrow the second byte to characters from `U+10000` to `U+10FFFF`
    have hs : secondOk (UInt8.ofNat (c.toNat / 262144 % 8 + 240))
        (UInt8.ofNat (c.toNat / 4096 % 64 + 128)) = true := by
      rw [secondOk_eq, hb1, hb2]
      split_ifs <;> simp <;> omega
    have hd : isCont (UInt8.ofNat (c.toNat / 64 % 64 + 128)) = true := by
      rw [isCont_eq, hb3]; simp; omega
    have he : isCont (UInt8.ofNat (c.toNat % 64 + 128)) = true := by
      rw [isCont_eq, hb4]; simp; omega
    rw [hfour.2 (by omega), List.cons_append, List.cons_append, List.cons_append,
      List.singleton_append, decodeFrom_four _ _ _ hw hs hd he, toNat_and_0x07, low6_eq, low6_eq,
      low6_eq, hb1, hb2, hb3, hb4, hchar _ (by omega)]

/-- The bytes of a list of characters are read back as those characters. -/
theorem decodeFrom_flatMap (cs : List Char) (i : Nat) (acc : List Char) :
    decodeFrom i acc (cs.flatMap String.utf8EncodeChar) = .ok (acc.reverse ++ cs) := by
  induction cs generalizing i acc with
  | nil => simp [decodeFrom_nil]
  | cons c cs ih =>
    rw [List.flatMap_cons, decodeFrom_utf8EncodeChar, ih]
    simp

end Utf8

/-- The UTF-8 bytes of a string, character by character. -/
theorem toUTF8_toList (s : String) : s.toUTF8.toList = s.toList.flatMap String.utf8EncodeChar := by
  rw [String.toUTF8_eq_toByteArray, ← String.utf8Encode_toList, ByteArray.toList_eq_data_toList]
  exact List.toList_data_toByteArray

theorem length_toUTF8_toList (s : String) : s.toUTF8.toList.length = s.utf8ByteSize := by
  rw [ByteArray.toList_eq_data_toList, Array.length_toList, String.toUTF8_eq_toByteArray]
  exact String.size_toByteArray

/-- Reading the UTF-8 bytes of a string gives back the string. -/
theorem decodeUtf8_toUTF8 (s : String) : decodeUtf8 s.toUTF8.toList = .ok s := by
  rw [decodeUtf8, toUTF8_toList, Utf8.decodeFrom_flatMap]
  simp [Except.map, String.ofList_toList]

end CounterCache.Text
