/-!
# Facts about the characters of ASCII

What is true of the letters and digits of ASCII is decided by a look at 128 numbers; and a number
that is no code point stands for the null character, so any other character has one number only.
-/

set_option autoImplicit false

namespace Codebook.Text

/-- A fact about the characters of ASCII is one about a range of numbers. -/
theorem forall_of_lt_128 {p : Char → Prop} (h : ∀ n < 128, p (Char.ofNat n)) {c : Char}
    (hc : c.toNat < 128) : p c := by
  rw [← Char.ofNat_toNat c]
  exact h _ hc

theorem toNat_lt_128_of_isAlphanum {c : Char} (h : c.isAlphanum = true ∨ c = '_') :
    c.toNat < 128 := by
  rcases h with h | rfl
  · delta Char.isAlphanum Char.isAlpha Char.isUpper Char.isLower Char.isDigit at h
    simp only [Bool.or_eq_true, Bool.and_eq_true, decide_eq_true_eq, UInt32.le_iff_toNat_le,
      ge_iff_le] at h
    have : c.toNat = c.val.toNat := rfl
    have : 'Z'.val.toNat = 90 := rfl
    have : 'z'.val.toNat = 122 := rfl
    have : '9'.val.toNat = 57 := rfl
    omega
  · decide

/-- A character by its number. -/
theorem ofNat_eq_iff {n : Nat} {c : Char} (hc : 0 < c.toNat) : Char.ofNat n = c ↔ n = c.toNat := by
  refine ⟨?_, fun h => h ▸ Char.ofNat_toNat c⟩
  rintro rfl
  by_cases hn : n.isValidChar
  · have hchar : Char.ofNat n = Char.ofNatAux n hn := dif_pos hn
    rw [hchar]
    rfl
  · have hzero : Char.ofNat n = '\x00' := dif_neg hn
    rw [hzero] at hc
    exact absurd hc (Nat.lt_irrefl 0)

theorem ofNat_ne_newline {n : Nat} (h : n ≠ 10) : Char.ofNat n ≠ '\n' :=
  mt (ofNat_eq_iff (by decide)).1 h

end Codebook.Text
