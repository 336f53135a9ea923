import Codebook.Proofs.Text.Utf8Cut
import Codebook.Text.Gb18030

/-!
# GB18030 has no line feed but the byte 0x0A

The characters of the codes of two and of four bytes are none of ASCII: the rows of the table have
no line feed, and the stretches start at 0x80 or later.

What is here: `newline_not_mem_decode`.
-/

set_option autoImplicit false

namespace Codebook.Text.Gb18030

/-! ## The table -/

/-- A text that is written out is looked through character by character. -/
theorem newline_not_mem_of_all {s : String} {cs : List Char} (hs : s = String.ofList cs)
    (h : (cs.all fun c => c != '\n') = true) : '\n' ∉ s.toList := by
  subst hs
  rw [String.toList_ofList]
  intro hmem
  simpa using List.all_eq_true.1 h _ hmem

set_option maxRecDepth 2000 in
/-- No row has a line feed.  The texts of the table are taken one by one, since it takes too long to
write out all of their characters at once. -/
theorem newline_not_mem_rowTexts : ∀ row ∈ rowTexts.toList, '\n' ∉ row.toList := by
  unfold rowTexts
  simp only [List.forall_mem_cons, String.toList_append, List.mem_append, not_or]
  repeat' apply And.intro
  all_goals first
    | exact newline_not_mem_of_all (by with_reducible rfl) (by decide +kernel)
    | exact fun _ h => nomatch h

theorem ne_newline_of_twoByte {lead trail : Nat} {c : Char} (h : twoByte lead trail = some c) :
    c ≠ '\n' := by
  rintro rfl
  simp only [twoByte, Option.bind_eq_bind, Option.bind_eq_some_iff] at h
  obtain ⟨place, -, row, hrow, hc⟩ := h
  rw [rows, Array.getElem?_map, Option.map_eq_some_iff] at hrow
  obtain ⟨text, htext, rfl⟩ := hrow
  rw [List.getElem?_toArray] at hc
  refine newline_not_mem_rowTexts text ?_ (List.mem_of_getElem? hc)
  exact Array.mem_toList_iff.2 (Array.mem_of_getElem? htext)

/-! ## The stretches -/

theorem le_of_mem_stretches : ∀ s ∈ stretches, 0x80 ≤ s.2 := by decide +kernel

theorem ne_newline_of_ofNumber {number : Nat} {c : Char} (h : ofNumber number = some c) :
    c ≠ '\n' := by
  rw [ofNumber] at h
  split at h
  · cases h
  split at h
  · obtain rfl := Option.some.inj h
    decide
  split at h
  · obtain rfl := Option.some.inj h
    exact ofNat_ne_newline (by omega)
  · obtain ⟨s, hs, rfl⟩ := Option.map_eq_some_iff.1 h
    have hmem : s ∈ stretches :=
      (List.takeWhile_sublist _).subset (List.mem_of_getLast? hs)
    have := le_of_mem_stretches s hmem
    exact ofNat_ne_newline (by omega)

theorem ne_newline_of_fourByte {a b c d : Nat} {ch : Char} (h : fourByte a b c d = some ch) :
    ch ≠ '\n' := by
  rw [fourByte] at h
  split at h
  · exact ne_newline_of_ofNumber h
  · cases h

/-! ## A whole text -/

/-- A character that is no line feed before a text without one. -/
theorem newline_not_mem_of_map_cons {c : Char} {decoded : Option (List Char)} {cs : List Char}
    (h : decoded.map (c :: ·) = some cs) (hc : c ≠ '\n')
    (hrest : ∀ ds, decoded = some ds → '\n' ∉ ds) : '\n' ∉ cs := by
  obtain ⟨ds, hds, rfl⟩ := Option.map_eq_some_iff.1 h
  exact List.not_mem_cons_of_ne_of_not_mem hc.symm (hrest ds hds)

/-- **A text without the byte 0x0A is decoded to one without a line feed.** -/
theorem newline_not_mem_decode {bs : List UInt8} {cs : List Char} (h : decode bs = some cs)
    (hbs : 0x0A ∉ bs) : '\n' ∉ cs := by
  fun_induction decode bs generalizing cs with
  | case1 => cases h; exact List.not_mem_nil
  | case2 a rest _ ih =>
    simp only [List.mem_cons, not_or] at hbs
    refine newline_not_mem_of_map_cons h (ofNat_ne_newline fun hten => ?_) fun ds hds =>
      ih hds hbs.2
    exact hbs.1 (UInt8.toNat_inj.1 hten).symm
  | case3 a rest _ _ ih =>
    simp only [List.mem_cons, not_or] at hbs
    exact newline_not_mem_of_map_cons h (by decide) fun ds hds => ih hds hbs.2
  | case6 a _ _ _ b _ c d rest ch hch ih =>
    simp only [List.mem_cons, not_or] at hbs
    exact newline_not_mem_of_map_cons h (ne_newline_of_fourByte hch) fun ds hds =>
      ih hds hbs.2.2.2.2
  | case9 a _ _ _ b rest _ ch hch ih =>
    simp only [List.mem_cons, not_or] at hbs
    exact newline_not_mem_of_map_cons h (ne_newline_of_twoByte hch) fun ds hds => ih hds hbs.2.2
  | case4 | case5 | case7 | case8 | case10 => cases h

end Codebook.Text.Gb18030
