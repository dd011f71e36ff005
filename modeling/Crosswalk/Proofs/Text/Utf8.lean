import Crosswalk.Text.Utf8
import Mathlib.Data.UInt

/-!
# UTF-8 there and back

The bytes of a text are read as this text: what `Utf8.first?` finds at the start of the bytes of a
character is the character with as many bytes.

* `Utf8.first?_utf8EncodeChar` — one character.
* **`Utf8.text?_toUTF8`** — a whole text.
-/

namespace Crosswalk.Utf8

section Characters

variable {a b c d : UInt8} {v : Nat}

lemma isTail_iff : isTail a ↔ 0x80 ≤ a.toNat ∧ a.toNat ≤ 0xBF := by
  simp [isTail, UInt8.le_iff_toNat_le]

lemma two?_eq (ha : a.toNat = v / 64 % 32 + 192) (hb : b.toNat = v % 64 + 128) (hmin : 127 < v)
    (hmax : v ≤ 2047) : two? a b = some (Char.ofNat v) := by
  have hn : (a.toNat - 0xC0) * 0x40 + (b.toNat - 0x80) = v := by omega
  rw [two?, hn, if_pos]
  simp only [Bool.and_eq_true, decide_eq_true_eq, isTail_iff, UInt8.le_iff_toNat_le]
  simp only [UInt8.reduceToNat]
  omega

lemma two?_eq_none (ha : 0xDF < a.toNat) : two? a b = none := by
  rw [two?, if_neg]
  simp only [Bool.and_eq_true, decide_eq_true_eq, isTail_iff, UInt8.le_iff_toNat_le]
  simp only [UInt8.reduceToNat]
  omega

lemma three?_eq (ha : a.toNat = v / 4096 % 16 + 224) (hb : b.toNat = v / 64 % 64 + 128)
    (hc : c.toNat = v % 64 + 128) (hmin : 2047 < v) (hmax : v ≤ 65535)
    (hvalid : v < 0xD800 ∨ 0xDFFF < v) : three? a b c = some (Char.ofNat v) := by
  have hn : ((a.toNat - 0xE0) * 0x40 + (b.toNat - 0x80)) * 0x40 + (c.toNat - 0x80) = v := by omega
  rw [three?, hn]
  rw [if_pos]
  simp only [Bool.and_eq_true, Bool.not_eq_true', decide_eq_true_eq, isTail_iff,
    UInt8.le_iff_toNat_le, Bool.and_eq_false_iff, decide_eq_false_iff_not]
  simp only [UInt8.reduceToNat]
  omega

lemma three?_eq_none (ha : 0xEF < a.toNat) : three? a b c = none := by
  rw [three?]
  rw [if_neg]
  simp only [Bool.and_eq_true, decide_eq_true_eq, UInt8.le_iff_toNat_le]
  simp only [UInt8.reduceToNat]
  omega

lemma four?_eq (ha : a.toNat = v / 262144 % 8 + 240) (hb : b.toNat = v / 4096 % 64 + 128)
    (hc : c.toNat = v / 64 % 64 + 128) (hd : d.toNat = v % 64 + 128) (hmin : 65535 < v)
    (hmax : v < 0x110000) : four? a b c d = some (Char.ofNat v) := by
  have hn : (((a.toNat - 0xF0) * 0x40 + (b.toNat - 0x80)) * 0x40 + (c.toNat - 0x80)) * 0x40
      + (d.toNat - 0x80) = v := by omega
  rw [four?, hn]
  rw [if_pos]
  simp only [Bool.and_eq_true, decide_eq_true_eq, isTail_iff, UInt8.le_iff_toNat_le]
  simp only [UInt8.reduceToNat]
  omega

lemma not_lt_of_toNat (ha : 0x80 ≤ a.toNat) : ¬ a < 0x80 := by
  rw [UInt8.lt_iff_toNat_lt]
  simp only [UInt8.reduceToNat]
  omega

end Characters

/-- A byte of a number that is small enough. -/
lemma toNat_byte {n : Nat} (h : n < 256) : (UInt8.ofNat n).toNat = n := by
  rw [UInt8.toNat_ofNat']
  exact Nat.mod_eq_of_lt h

/-- **The first character** of the bytes of a character is this character. -/
theorem first?_utf8EncodeChar (ch : Char) (rest : List UInt8) :
    first? (String.utf8EncodeChar ch ++ rest) = some (ch, (String.utf8EncodeChar ch).length) := by
  have hvalid : ch.toNat < 0xD800 ∨ 0xDFFF < ch.toNat ∧ ch.toNat < 0x110000 := ch.valid
  have hofNat : Char.ofNat ch.toNat = ch := Char.ofNat_toNat ch
  rw [String.utf8EncodeChar, ← Char.toNat]
  generalize ch.toNat = v at hvalid hofNat
  subst hofNat
  split
  · have hv : (UInt8.ofNat v).toNat = v := toNat_byte (by omega)
    have hlt : UInt8.ofNat v < 0x80 := by
      rw [UInt8.lt_iff_toNat_lt, hv]
      simp only [UInt8.reduceToNat]
      omega
    simp [first?, hlt, hv]
  · split
    · have ha := toNat_byte (n := v / 64 % 32 + 192) (by omega)
      have hb := toNat_byte (n := v % 64 + 128) (by omega)
      generalize UInt8.ofNat (v / 64 % 32 + 192) = a at ha
      generalize UInt8.ofNat (v % 64 + 128) = b at hb
      have hmany : ¬ a < 0x80 := not_lt_of_toNat (by omega)
      have htwo := two?_eq ha hb (by omega) (by omega)
      simp [first?, hmany, htwo]
    · split
      · have ha := toNat_byte (n := v / 4096 % 16 + 224) (by omega)
        have hb := toNat_byte (n := v / 64 % 64 + 128) (by omega)
        have hc := toNat_byte (n := v % 64 + 128) (by omega)
        generalize UInt8.ofNat (v / 4096 % 16 + 224) = a at ha
        generalize UInt8.ofNat (v / 64 % 64 + 128) = b at hb
        generalize UInt8.ofNat (v % 64 + 128) = c at hc
        have hmany : ¬ a < 0x80 := not_lt_of_toNat (by omega)
        have htwo : two? a b = none := two?_eq_none (by omega)
        have hthree := three?_eq ha hb hc (by omega) (by omega) (by omega)
        simp [first?, hmany, htwo, hthree]
      · have ha := toNat_byte (n := v / 262144 % 8 + 240) (by omega)
        have hb := toNat_byte (n := v / 4096 % 64 + 128) (by omega)
        have hc := toNat_byte (n := v / 64 % 64 + 128) (by omega)
        have hd := toNat_byte (n := v % 64 + 128) (by omega)
        generalize UInt8.ofNat (v / 262144 % 8 + 240) = a at ha
        generalize UInt8.ofNat (v / 4096 % 64 + 128) = b at hb
        generalize UInt8.ofNat (v / 64 % 64 + 128) = c at hc
        generalize UInt8.ofNat (v % 64 + 128) = d at hd
        have hmany : ¬ a < 0x80 := not_lt_of_toNat (by omega)
        have htwo : two? a b = none := two?_eq_none (by omega)
        have hthree : three? a b c = none := three?_eq_none (by omega)
        have hfour := four?_eq ha hb hc hd (by omega) (by omega)
        simp [first?, hmany, htwo, hthree, hfour]

/-- Characters are read one by one, if there is fuel for all of their bytes. -/
lemma decodeFrom_utf8Encode (cs acc : List Char) {fuel : Nat}
    (hfuel : (cs.flatMap String.utf8EncodeChar).length ≤ fuel) :
    decodeFrom fuel acc (cs.flatMap String.utf8EncodeChar) = (cs.reverse ++ acc, []) := by
  induction cs generalizing acc fuel with
  | nil => cases fuel <;> rfl
  | cons c cs ih =>
      have hpos : 0 < (String.utf8EncodeChar c).length :=
        List.length_pos_of_ne_nil (String.utf8EncodeChar_ne_nil)
      rw [List.flatMap_cons, List.length_append] at hfuel
      obtain ⟨fuel, rfl⟩ : ∃ k, fuel = k + 1 := ⟨fuel - 1, by omega⟩
      rw [List.flatMap_cons, decodeFrom, first?_utf8EncodeChar]
      dsimp only
      rw [List.drop_left, ih _ (by omega)]
      simp

lemma toList_loop (bytes : ByteArray) (i : Nat) (acc : List UInt8) :
    ByteArray.toList.loop bytes i acc = acc.reverse ++ bytes.data.toList.drop i := by
  have hsize : bytes.data.toList.length = bytes.size := rfl
  induction i, acc using ByteArray.toList.loop.induct bytes with
  | case1 i acc hlt ih =>
      have hi : i < bytes.data.toList.length := hlt
      have hget : bytes.get! i = bytes.data.toList[i] := by
        rw [Array.getElem_toList]
        exact getElem!_pos bytes.data i hi
      rw [ByteArray.toList.loop, if_pos hlt, ih, List.drop_eq_getElem_cons hi, hget]
      simp
  | case2 i acc hge =>
      have hlen : bytes.data.toList.length ≤ i := by omega
      rw [ByteArray.toList.loop, if_neg hge, List.drop_of_length_le hlen, List.append_nil]

/-- **The bytes of a text are read as this text.** -/
theorem text?_toUTF8 (s : String) : text? s.toUTF8.toList = some s.toList := by
  have hbytes : s.toUTF8.toList = s.toList.flatMap String.utf8EncodeChar := by
    have hs : s.toUTF8 = (s.toList.flatMap String.utf8EncodeChar).toByteArray := by
      conv_lhs => rw [← String.ofList_toList (s := s)]
      exact String.toByteArray_ofList
    rw [hs, ByteArray.toList, toList_loop]
    simp
  rw [hbytes, text?, decode, decodeFrom_utf8Encode _ _ le_rfl]
  simp

end Crosswalk.Utf8
