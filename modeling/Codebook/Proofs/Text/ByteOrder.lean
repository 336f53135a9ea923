import Codebook.Proofs.Text.Utf8
import Mathlib

/-!
# Encoded texts keep their order

Texts are compared character by character, and their bytes byte by byte.  A first byte that
announces more bytes is the greater one, and where the first bytes are equal the later ones are
compared six bits at a time.

What is here: `firstByte` and `laterBytes`, the bytes of a character; and `toUTF8_lt_of_lt`.
-/

set_option autoImplicit false

namespace Codebook.Text.Utf8

/-- Lists of bytes are compared byte by byte. -/
theorem cons_lt_cons_of_le {x y : Nat} {bs ds : List UInt8} (hle : x ≤ y) (hy : y < 256)
    (hrest : x = y → bs < ds) : UInt8.ofNat x :: bs < UInt8.ofNat y :: ds := by
  rw [List.cons_lt_cons_iff]
  rcases Nat.eq_or_lt_of_le hle with rfl | hlt
  · exact .inr ⟨rfl, hrest rfl⟩
  · left
    rw [UInt8.lt_iff_toNat_lt, UInt8.toNat_ofNat_of_lt' (show x < 256 by omega),
      UInt8.toNat_ofNat_of_lt' hy]
    exact hlt

/-- The first byte of a character, which tells how many follow. -/
def firstByte (n : Nat) : Nat :=
  if n ≤ 127 then n
  else if n ≤ 2047 then n / 64 + 192
  else if n ≤ 65535 then n / 4096 + 224
  else n / 262144 + 240

/-- The bytes after the first one, which hold six bits each. -/
def laterBytes (n : Nat) : List UInt8 :=
  if n ≤ 127 then []
  else if n ≤ 2047 then [UInt8.ofNat (n % 64 + 128)]
  else if n ≤ 65535 then [UInt8.ofNat (n / 64 % 64 + 128), UInt8.ofNat (n % 64 + 128)]
  else [UInt8.ofNat (n / 4096 % 64 + 128), UInt8.ofNat (n / 64 % 64 + 128),
    UInt8.ofNat (n % 64 + 128)]

theorem utf8EncodeChar_eq (c : Char) :
    String.utf8EncodeChar c = UInt8.ofNat (firstByte c.toNat) :: laterBytes c.toNat := by
  have hval : c.val.toNat = c.toNat := rfl
  have hmax : c.toNat ≤ 0x10FFFF := c.toNat_le_max
  rw [String.utf8EncodeChar, firstByte, laterBytes]
  simp only [hval]
  generalize c.toNat = n at hmax
  split
  · rfl
  split
  · rw [Nat.mod_eq_of_lt (show n / 64 < 32 by omega)]
  split
  · rw [Nat.mod_eq_of_lt (show n / 4096 < 16 by omega)]
  · rw [Nat.mod_eq_of_lt (show n / 262144 < 8 by omega)]

theorem firstByte_le {n m : Nat} (h : n ≤ m) : firstByte n ≤ firstByte m := by
  grind [firstByte]

theorem firstByte_lt {n : Nat} (h : n ≤ 0x10FFFF) : firstByte n < 256 := by
  grind [firstByte]

/-- Characters whose first bytes are equal have as many bytes and differ in the later ones. -/
theorem laterBytes_append_lt {n m : Nat} (hlt : n < m) (hfirst : firstByte n = firstByte m)
    (bs ds : List UInt8) : laterBytes n ++ bs < laterBytes m ++ ds := by
  obtain ⟨h127, h2047, h65535⟩ :
      (n ≤ 127 ↔ m ≤ 127) ∧ (n ≤ 2047 ↔ m ≤ 2047) ∧ (n ≤ 65535 ↔ m ≤ 65535) := by
    grind [firstByte]
  simp only [firstByte, h127, h2047, h65535] at hfirst
  simp only [laterBytes, h127, h2047, h65535]
  by_cases h1 : m ≤ 127
  · simp only [h1, if_true] at hfirst
    omega
  by_cases h2 : m ≤ 2047
  · simp only [h1, h2, if_true, if_false] at hfirst ⊢
    exact cons_lt_cons_of_le (by omega) (by omega) fun _ => by omega
  by_cases h3 : m ≤ 65535
  · simp only [h1, h2, h3, if_true, if_false] at hfirst ⊢
    exact cons_lt_cons_of_le (by omega) (by omega) fun _ =>
      cons_lt_cons_of_le (by omega) (by omega) fun _ => by omega
  · simp only [h1, h2, h3, if_false] at hfirst ⊢
    exact cons_lt_cons_of_le (by omega) (by omega) fun _ =>
      cons_lt_cons_of_le (by omega) (by omega) fun _ =>
        cons_lt_cons_of_le (by omega) (by omega) fun _ => by omega

/-- A lesser character has lesser bytes, whatever follows. -/
theorem utf8EncodeChar_append_lt {c d : Char} (h : c < d) (bs ds : List UInt8) :
    String.utf8EncodeChar c ++ bs < String.utf8EncodeChar d ++ ds := by
  have hlt : c.toNat < d.toNat := h
  rw [utf8EncodeChar_eq, utf8EncodeChar_eq]
  exact cons_lt_cons_of_le (firstByte_le (Nat.le_of_lt hlt)) (firstByte_lt d.toNat_le_max)
    fun hfirst => laterBytes_append_lt hlt hfirst bs ds

theorem flatMap_utf8EncodeChar_lt {cs ds : List Char} (h : cs < ds) :
    cs.flatMap String.utf8EncodeChar < ds.flatMap String.utf8EncodeChar := by
  induction cs generalizing ds with
  | nil =>
    cases ds with
    | nil => exact absurd h (List.not_lt_nil [])
    | cons d ds =>
      rw [List.flatMap_nil, List.flatMap_cons, utf8EncodeChar_eq]
      exact List.nil_lt_cons ..
  | cons c cs ih =>
    cases ds with
    | nil => exact absurd h (List.not_lt_nil (c :: cs))
    | cons d ds =>
      rw [List.flatMap_cons, List.flatMap_cons]
      rcases List.cons_lt_cons_iff.1 h with hlt | ⟨rfl, hrest⟩
      · exact utf8EncodeChar_append_lt hlt _ _
      · exact List.append_left_lt (ih hrest)

/-- **Texts are ordered as their bytes are.** -/
theorem toUTF8_lt_of_lt {s t : String} (h : s < t) : s.toUTF8.toList < t.toUTF8.toList := by
  have hs := toUTF8_toList s.toList
  have ht := toUTF8_toList t.toList
  rw [String.ofList_toList] at hs ht
  rw [hs, ht]
  exact flatMap_utf8EncodeChar_lt (String.lt_iff.1 h)

end Codebook.Text.Utf8
