import Codebook.Text.Utf8

/-!
# Decoding what has been encoded

The bytes that a text is written with are valid, and they decode to the text.  A character is
encoded in one to four bytes; the decoder tells from the first how many follow, and the bounds that
it sets on the second hold because the encoding is the shortest one and of no surrogate.

What is here: `toUTF8_toList`, the bytes of a text; and `decode?_encoded`.
-/

set_option autoImplicit false

namespace Codebook.Text.Utf8

/-! ## The bytes of a text -/

/-- Listing the bytes of an array from a place on puts them behind those that are listed. -/
theorem loop_eq (bytes : ByteArray) (i : Nat) (listed : List UInt8) :
    ByteArray.toList.loop bytes i listed = listed.reverse ++ bytes.data.toList.drop i := by
  fun_induction ByteArray.toList.loop bytes i listed with
  | case1 i listed h ih =>
    have hi : i < bytes.data.toList.length := by simpa using h
    rw [ih, List.drop_eq_getElem_cons hi]
    simp [ByteArray.get!, h]
  | case2 i listed h =>
    rw [List.drop_eq_nil_of_le (by simpa using Nat.le_of_not_lt h), List.append_nil]

/-- The bytes of a text are those of its characters. -/
theorem toUTF8_toList (cs : List Char) :
    (String.ofList cs).toUTF8.toList = cs.flatMap String.utf8EncodeChar := by
  have hlist : (String.ofList cs).toUTF8.toList = (String.ofList cs).toByteArray.data.toList :=
    loop_eq _ 0 []
  rw [hlist, String.toByteArray_ofList, List.utf8Encode, List.toList_data_toByteArray]

/-! ## One character -/

section

variable {b x : Nat} {p : Partial}

theorem unitsFrom_start (hb : b < 256) (h : start b = .more p) (bs : List UInt8) :
    unitsFrom none (UInt8.ofNat b :: bs) = unitsFrom (some p) bs := by
  rw [unitsFrom, UInt8.toNat_ofNat_of_lt' hb, h]

/-- A byte within the bounds continues a character by its six bits. -/
theorem continue?_add (hlow : p.low ≤ x + 128) (hhigh : x + 128 ≤ p.high) :
    p.continue? (x + 128) =
      some (if p.missing = 1 then .unit (some (Char.ofNat (p.bits * 64 + x)))
        else .more ⟨p.missing - 1, 0x80, 0xBF, p.bits * 64 + x⟩) := by
  rw [Partial.continue?, if_pos ⟨hlow, hhigh⟩, Nat.add_sub_cancel]

theorem unitsFrom_last (hx : x < 64) {low high bits : Nat} (hlow : low ≤ x + 128)
    (hhigh : x + 128 ≤ high) (bs : List UInt8) :
    unitsFrom (some ⟨1, low, high, bits⟩) (UInt8.ofNat (x + 128) :: bs) =
      some (Char.ofNat (bits * 64 + x)) :: unitsFrom none bs := by
  rw [unitsFrom, UInt8.toNat_ofNat_of_lt' (show x + 128 < 256 by omega), continue?_add hlow hhigh]
  rfl

theorem unitsFrom_more (hx : x < 64) {missing low high bits : Nat} (hlow : low ≤ x + 128)
    (hhigh : x + 128 ≤ high) (bs : List UInt8) :
    unitsFrom (some ⟨missing + 2, low, high, bits⟩) (UInt8.ofNat (x + 128) :: bs) =
      unitsFrom (some ⟨missing + 1, 0x80, 0xBF, bits * 64 + x⟩) bs := by
  rw [unitsFrom, UInt8.toNat_ofNat_of_lt' (show x + 128 < 256 by omega), continue?_add hlow hhigh]
  simp

end

section

variable {n : Nat}

/-- The first of two bytes. -/
theorem start_two (hlow : 127 < n) (hhigh : n ≤ 2047) :
    start (n / 64 + 192) = .more ⟨1, 0x80, 0xBF, n / 64⟩ := by
  rw [start, if_neg (by omega), if_neg (by omega), if_pos (by omega), Nat.add_sub_cancel]

/-- The first of three bytes, and the bounds that it sets on the second. -/
theorem start_three (hlow : 2047 < n) (hhigh : n ≤ 65535) (hvalid : n.isValidChar) :
    ∃ low high, start (n / 4096 + 224) = .more ⟨2, low, high, n / 4096⟩ ∧
      low ≤ n / 64 % 64 + 128 ∧ n / 64 % 64 + 128 ≤ high := by
  have hsurrogate : n < 0xD800 ∨ 0xDFFF < n := hvalid.imp_right And.left
  rw [start, if_neg (by omega), if_neg (by omega), if_neg (by omega)]
  by_cases hfirst : n / 4096 = 0
  · exact ⟨_, _, by rw [hfirst]; rfl, by omega, by omega⟩
  by_cases hd : n / 4096 = 0xD
  · exact ⟨_, _, by rw [hd]; rfl, by omega, by omega⟩
  · rw [if_neg (by omega), if_neg (by omega), if_pos (by omega), Nat.add_sub_cancel]
    exact ⟨_, _, rfl, by omega, by omega⟩

/-- The first of four bytes, and the bounds that it sets on the second. -/
theorem start_four (hlow : 65535 < n) (hvalid : n.isValidChar) :
    ∃ low high, start (n / 262144 + 240) = .more ⟨3, low, high, n / 262144⟩ ∧
      low ≤ n / 4096 % 64 + 128 ∧ n / 4096 % 64 + 128 ≤ high := by
  have hmax : n < 0x110000 := by
    rcases hvalid with h | ⟨-, h⟩ <;> omega
  rw [start, if_neg (by omega), if_neg (by omega), if_neg (by omega), if_neg (by omega),
    if_neg (by omega), if_neg (by omega)]
  by_cases hfirst : n / 262144 = 0
  · exact ⟨_, _, by rw [hfirst]; rfl, by omega, by omega⟩
  by_cases hlast : n / 262144 = 4
  · exact ⟨_, _, by rw [hlast]; rfl, by omega, by omega⟩
  · rw [if_neg (by omega), if_pos (by omega), Nat.add_sub_cancel]
    exact ⟨_, _, rfl, by omega, by omega⟩

end

/-- The bytes of a character are the unit of that character. -/
theorem unitsFrom_utf8EncodeChar (c : Char) (bs : List UInt8) :
    unitsFrom none (String.utf8EncodeChar c ++ bs) = some c :: unitsFrom none bs := by
  have hvalid : c.toNat.isValidChar := c.valid
  have hval : c.val.toNat = c.toNat := rfl
  have hc : c = Char.ofNat c.toNat := (Char.ofNat_toNat c).symm
  rw [String.utf8EncodeChar]
  simp only [hval]
  generalize c.toNat = n at hc hvalid
  subst hc
  split
  · rw [List.singleton_append, unitsFrom, UInt8.toNat_ofNat_of_lt' (show n < 256 by omega), start,
      if_pos (by omega)]
  split
  · have hfirst : n / 64 % 32 = n / 64 := Nat.mod_eq_of_lt (by omega)
    rw [hfirst, List.cons_append, unitsFrom_start (by omega) (start_two (by omega) (by omega)),
      List.cons_append, unitsFrom_last (by omega) (by omega) (by omega), Nat.div_add_mod']
    rfl
  split
  · obtain ⟨low, high, hstart, hlow, hhigh⟩ := start_three (by omega) (by omega) hvalid
    have hfirst : n / 4096 % 16 = n / 4096 := Nat.mod_eq_of_lt (by omega)
    have hbits : (n / 4096 * 64 + n / 64 % 64) * 64 + n % 64 = n := by omega
    rw [hfirst, List.cons_append, unitsFrom_start (by omega) hstart, List.cons_append,
      unitsFrom_more (by omega) hlow hhigh, List.cons_append,
      unitsFrom_last (by omega) (by omega) (by omega), hbits]
    rfl
  · obtain ⟨low, high, hstart, hlow, hhigh⟩ := start_four (by omega) hvalid
    have hmax : n < 0x110000 := by
      rcases hvalid with h | ⟨-, h⟩ <;> omega
    have hfirst : n / 262144 % 8 = n / 262144 := Nat.mod_eq_of_lt (by omega)
    have hbits : ((n / 262144 * 64 + n / 4096 % 64) * 64 + n / 64 % 64) * 64 + n % 64 = n := by
      omega
    rw [hfirst, List.cons_append, unitsFrom_start (by omega) hstart, List.cons_append,
      unitsFrom_more (by omega) hlow hhigh, List.cons_append,
      unitsFrom_more (by omega) (by omega) (by omega), List.cons_append,
      unitsFrom_last (by omega) (by omega) (by omega), hbits]
    rfl

/-! ## A text -/

theorem unitsFrom_flatMap (cs : List Char) :
    unitsFrom none (cs.flatMap String.utf8EncodeChar) = cs.map some := by
  induction cs with
  | nil => rfl
  | cons c cs ih => rw [List.flatMap_cons, unitsFrom_utf8EncodeChar, ih, List.map_cons]

theorem allCharacters?_map_some (cs : List Char) : allCharacters? (cs.map some) = some cs := by
  induction cs with
  | nil => rfl
  | cons c cs ih => rw [List.map_cons, allCharacters?, ih, Option.map_some]

/-- **A text is decoded from the bytes that it is encoded in.** -/
theorem decode?_encoded (cs : List Char) : decode? (String.ofList cs).toUTF8.toList = some cs := by
  rw [toUTF8_toList, decode?, units, unitsFrom_flatMap, allCharacters?_map_some]

end Codebook.Text.Utf8
