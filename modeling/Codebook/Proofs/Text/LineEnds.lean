import Codebook.Proofs.Text.LineByLine

/-!
# Carriage returns before line feeds

The line feeds of a file may have carriage returns before them: all, some or none.  A file without
other carriage returns has the same lines then.

What is here: `addReturns`, which puts carriage returns before the line feeds that are chosen; and
`lineTexts_addReturns`, that this leaves the lines as they are.
-/

set_option autoImplicit false

namespace Codebook.Text

/-- The bytes with a carriage return before those line feeds that are chosen, by their numbers from
zero on. -/
def addReturns : (Nat → Bool) → List UInt8 → List UInt8
  | _, [] => []
  | chosen, b :: bs =>
    if b = 0x0A then
      (if chosen 0 then [0x0D, 0x0A] else [0x0A]) ++ addReturns (fun n => chosen (n + 1)) bs
    else b :: addReturns chosen bs

example : addReturns (fun n => n % 2 == 0) [1, 0x0A, 2, 0x0A, 0x0A] =
    [1, 0x0D, 0x0A, 2, 0x0A, 0x0D, 0x0A] := by decide

variable {line bytes : List UInt8}

theorem addReturns_of_not_mem (chosen : Nat → Bool) (h : 0x0A ∉ line) :
    addReturns chosen line = line := by
  induction line with
  | nil => rfl
  | cons b line ih =>
    simp only [List.mem_cons, not_or] at h
    rw [addReturns, if_neg (Ne.symm h.1), ih h.2]

theorem addReturns_append (chosen : Nat → Bool) (h : 0x0A ∉ line) (rest : List UInt8) :
    addReturns chosen (line ++ 0x0A :: rest) =
      line ++ (if chosen 0 then [0x0D] else []) ++
        0x0A :: addReturns (fun n => chosen (n + 1)) rest := by
  induction line with
  | nil =>
    rw [List.nil_append, List.nil_append, addReturns, if_pos rfl]
    split <;> rfl
  | cons b line ih =>
    simp only [List.mem_cons, not_or] at h
    rw [List.cons_append, addReturns, if_neg (Ne.symm h.1), ih h.2]
    rfl

/-- The text of each line is the same. -/
theorem map_lineText_addReturns (chosen : Nat → Bool) (h : 0x0D ∉ bytes) :
    (byteLines (addReturns chosen bytes)).map lineText = (byteLines bytes).map lineText := by
  induction bytes using byteLines_induction generalizing chosen with
  | last line hline => rw [addReturns_of_not_mem chosen hline]
  | line line rest hline ih =>
    simp only [List.mem_append, List.mem_cons, not_or] at h
    rw [addReturns_append chosen hline, byteLines_append hline]
    split
    · have hreturn : 0x0A ∉ line ++ [0x0D] := by simpa using hline
      have htext : lineText (line ++ [0x0D]) = lineText line := by
        have hlast : line.getLast? ≠ some 0x0D := fun hlast =>
          h.1 (List.mem_of_getLast? hlast)
        rw [lineText, lineText, dropCarriageReturn_concat, dropCarriageReturn_of_getLast? hlast]
      rw [byteLines_append hreturn, List.map_cons, List.map_cons, ih _ h.2.2, htext]
    · rw [List.append_nil, byteLines_append hline, List.map_cons, List.map_cons, ih _ h.2.2]

/-! ## The byte-order mark -/

/-- Bytes that are none of the two are a front of both or of neither. -/
theorem isPrefix_addReturns {front : List UInt8} (hfeed : 0x0A ∉ front) (hreturn : 0x0D ∉ front)
    (chosen : Nat → Bool) (bytes : List UInt8) :
    front <+: addReturns chosen bytes ↔ front <+: bytes := by
  induction front generalizing bytes with
  | nil => simp
  | cons b front ih =>
    simp only [List.mem_cons, not_or] at hfeed hreturn
    cases bytes with
    | nil => rfl
    | cons c bytes =>
      rw [addReturns]
      split
      · rename_i hc
        have hneither : ∀ rest : List UInt8, ¬ b :: front <+: 0x0A :: rest := fun rest h =>
          hfeed.1 (List.cons_prefix_cons.1 h).1.symm
        have hreturn' : ∀ rest : List UInt8, ¬ b :: front <+: 0x0D :: rest := fun rest h =>
          hreturn.1 (List.cons_prefix_cons.1 h).1.symm
        rw [hc]
        refine iff_of_false ?_ (hneither bytes)
        split
        · exact hreturn' _
        · exact hneither _
      · rw [List.cons_prefix_cons, List.cons_prefix_cons, ih hfeed.2 hreturn.2]

theorem dropByteOrderMark_eq (bytes : List UInt8) :
    dropByteOrderMark bytes =
      if [0xEF, 0xBB, 0xBF] <+: bytes then bytes.drop 3 else bytes := by
  unfold dropByteOrderMark
  split
  · simp
  · rename_i hnot
    rw [if_neg]
    rintro ⟨rest, rfl⟩
    exact hnot rest rfl

/-- A byte-order mark stays at the front. -/
theorem dropByteOrderMark_addReturns (chosen : Nat → Bool) (bytes : List UInt8) :
    dropByteOrderMark (addReturns chosen bytes) = addReturns chosen (dropByteOrderMark bytes) := by
  rw [dropByteOrderMark_eq, dropByteOrderMark_eq]
  simp only [isPrefix_addReturns (show 0x0A ∉ [0xEF, 0xBB, 0xBF] by decide)
    (show 0x0D ∉ [0xEF, 0xBB, 0xBF] by decide)]
  split
  · rename_i hmark
    obtain ⟨rest, rfl⟩ := hmark
    rfl
  · rfl

theorem mem_of_mem_dropByteOrderMark {b : UInt8} (h : b ∈ dropByteOrderMark bytes) : b ∈ bytes := by
  rw [dropByteOrderMark_eq] at h
  split at h
  · exact List.mem_of_mem_drop h
  · exact h

/-! ## A whole file -/

/-- **The lines of a file are the same with carriage returns before line feeds.** -/
theorem lineTexts_addReturns (chosen : Nat → Bool) (h : 0x0D ∉ bytes) :
    lineTexts (addReturns chosen bytes) = lineTexts bytes := by
  rw [lineTexts, lineTexts, dropByteOrderMark_addReturns,
    map_lineText_addReturns chosen fun hmem => h (mem_of_mem_dropByteOrderMark hmem)]

end Codebook.Text
