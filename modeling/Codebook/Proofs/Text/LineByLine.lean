import Codebook.Proofs.Text.Blank
import Codebook.Proofs.Text.Gb18030
import Codebook.Text.Decode

/-!
# Decoding a file as a whole and line by line

A file that is UTF-8 throughout is decoded as a whole, and any other file line by line.  In a valid
file the line feeds are where the bytes 0x0A are, and what is before and after one is valid, so the
two ways come to the same, but for the end of the file: line by line a carriage return at the end
of the last line is dropped as at the end of any other, and in the file as a whole it stays, since
no line feed follows it.

What is here: `byteLines_induction`, which goes through the lines of some bytes; `lineTexts`, the
lines of a file each decoded by itself; `decodeLines_eq`, what either way yields; and
`decodeLines_line_by_line`.
-/

set_option autoImplicit false

namespace Codebook.Text

variable {bs line rest : List UInt8} {cs more : List Char}

/-! ## The lines of some bytes -/

theorem byteLines_of_not_mem (h : 0x0A ∉ line) : byteLines line = [line] := by
  induction line with
  | nil => rfl
  | cons b line ih =>
    simp only [List.mem_cons, not_or] at h
    rw [byteLines, if_neg (Ne.symm h.1), ih h.2]

/-- The first line ends at the first line feed. -/
theorem byteLines_append (h : 0x0A ∉ line) (rest : List UInt8) :
    byteLines (line ++ 0x0A :: rest) = line :: byteLines rest := by
  induction line with
  | nil => rfl
  | cons b line ih =>
    simp only [List.mem_cons, not_or] at h
    rw [List.cons_append, byteLines, if_neg (Ne.symm h.1), ih h.2]

/-- A list is a last part without separators, or such a part before a separator and more. -/
theorem parts_induction {α : Type} [DecidableEq α] (s : α) {motive : List α → Prop}
    (last : ∀ part, s ∉ part → motive part)
    (part : ∀ part rest, s ∉ part → motive rest → motive (part ++ s :: rest))
    (l : List α) : motive l := by
  by_cases hmem : s ∈ l
  · obtain ⟨first, rest, hl, hfirst⟩ := List.eq_append_cons_of_mem hmem
    rw [hl]
    exact part first rest hfirst (parts_induction s last part rest)
  · exact last l hmem
termination_by l.length
decreasing_by
  rw [hl, List.length_append, List.length_cons]
  omega

/-- Bytes are a last line, or a line before a line feed and more bytes. -/
theorem byteLines_induction {motive : List UInt8 → Prop}
    (last : ∀ line, 0x0A ∉ line → motive line)
    (line : ∀ line rest, 0x0A ∉ line → motive rest → motive (line ++ 0x0A :: rest))
    (bs : List UInt8) : motive bs :=
  parts_induction 0x0A last line bs

theorem byteLines_ne_nil (bs : List UInt8) : byteLines bs ≠ [] := by
  induction bs using byteLines_induction with
  | last line h => simp [byteLines_of_not_mem h]
  | line line rest h ih => simp [byteLines_append h]

theorem length_byteLines (bs : List UInt8) : (byteLines bs).length = bs.count 0x0A + 1 := by
  induction bs using byteLines_induction with
  | last line h => rw [byteLines_of_not_mem h, List.count_eq_zero.2 h]; rfl
  | line line rest h ih =>
    rw [byteLines_append h, List.length_cons, ih, List.count_append, List.count_eq_zero.2 h,
      List.count_cons_self, Nat.zero_add]

theorem newline_not_mem_of_mem_byteLines (h : line ∈ byteLines bs) : 0x0A ∉ line := by
  induction bs using byteLines_induction with
  | last first hfirst =>
    rw [byteLines_of_not_mem hfirst, List.mem_singleton] at h
    rwa [h]
  | line first rest hfirst ih =>
    rw [byteLines_append hfirst, List.mem_cons] at h
    rcases h with rfl | h
    · exact hfirst
    · exact ih h

/-! ## The end of a line -/

theorem dropCarriageReturn_concat (line : List UInt8) :
    dropCarriageReturn (line ++ [0x0D]) = line := by
  fun_induction dropCarriageReturn line <;> simp_all [dropCarriageReturn]

theorem dropCarriageReturn_of_getLast? (h : line.getLast? ≠ some 0x0D) :
    dropCarriageReturn line = line := by
  fun_induction dropCarriageReturn line <;> simp_all

theorem unifyLineEnds_cons {c : Char} (h : c = '\r' → cs.head? ≠ some '\n') :
    unifyLineEnds (c :: cs) = c :: unifyLineEnds cs := by
  rw [unifyLineEnds]
  rintro ds rfl rfl
  exact h rfl rfl

/-- A text without line feeds is left as it is, if its last character is no carriage return before a
line feed. -/
theorem unifyLineEnds_append (h : '\n' ∉ cs)
    (hend : cs.getLast? = some '\r' → more.head? ≠ some '\n') :
    unifyLineEnds (cs ++ more) = cs ++ unifyLineEnds more := by
  induction cs with
  | nil => rfl
  | cons c cs ih =>
    simp only [List.mem_cons, not_or] at h
    have hrest : unifyLineEnds (cs ++ more) = cs ++ unifyLineEnds more := by
      refine ih h.2 fun hlast => hend ?_
      rw [List.getLast?_cons, hlast]
      rfl
    rw [List.cons_append, unifyLineEnds_cons, hrest, List.cons_append]
    rintro rfl
    cases cs with
    | nil => exact hend rfl
    | cons d cs =>
      rintro ⟨⟩
      exact h.2 List.mem_cons_self

/-! ## The text of a line -/

/-- A line without the byte 0x0A is decoded to one without a line feed, in whichever way. -/
theorem newline_not_mem_decode (h : 0x0A ∉ line) : '\n' ∉ decode line := by
  -- no unit of the line is a line feed, so neither reading of UTF-8 has one
  have hunits : some '\n' ∉ Utf8.units line := fun hmem => by
    obtain ⟨b, hb, hten⟩ := Utf8.exists_mem_of_some_mem_units hmem (by decide) (by decide)
    obtain rfl : b = 0x0A := UInt8.toNat_inj.1 hten
    exact h hb
  rw [decode]
  cases hutf : Utf8.decode? line with
  | some cs =>
    rw [Utf8.map_some_of_allCharacters? hutf] at hunits
    exact fun hmem => hunits (List.mem_map_of_mem hmem)
  | none =>
    cases hgb : Gb18030.decode line with
    | some cs => exact Gb18030.newline_not_mem_decode hgb h
    | none =>
      intro hmem
      obtain ⟨u, hu, heq⟩ := List.mem_map.1 hmem
      cases u with
      | some c =>
        obtain rfl : c = '\n' := heq
        exact hunits hu
      | none => exact absurd heq (by decide)

/-- The text of a line: its bytes without a carriage return at their end, decoded by themselves. -/
def lineText (line : List UInt8) : List Char := decode (dropCarriageReturn line)

theorem newline_not_mem_lineText (h : 0x0A ∉ line) : '\n' ∉ lineText line := by
  by_cases hlast : line.getLast? = some 0x0D
  · obtain ⟨k, rfl⟩ := List.getLast?_eq_some_iff.1 hlast
    rw [lineText, dropCarriageReturn_concat]
    exact newline_not_mem_decode fun hmem => h (List.mem_append_left _ hmem)
  · rw [lineText, dropCarriageReturn_of_getLast? hlast]
    exact newline_not_mem_decode h

/-- What is left of a line that has been decoded with a carriage return at its end. -/
def keptReturn (line : List UInt8) : List Char :=
  if line.getLast? = some 0x0D then ['\r'] else []

/-- A valid line has been decoded with its carriage return, if it has one at its end. -/
theorem eq_lineText_append (h : Utf8.decode? line = some cs) :
    cs = lineText line ++ keptReturn line := by
  by_cases hlast : line.getLast? = some 0x0D
  · obtain ⟨k, rfl⟩ := List.getLast?_eq_some_iff.1 hlast
    rw [Utf8.decode?_append_ascii k (by decide), Option.bind_eq_some_iff] at h
    obtain ⟨ds, hds, h⟩ := h
    obtain rfl := Option.some.inj h
    rw [lineText, dropCarriageReturn_concat, decode, hds, keptReturn, if_pos hlast]
    rfl
  · rw [lineText, dropCarriageReturn_of_getLast? hlast, decode, h, keptReturn, if_neg hlast,
      List.append_nil]

/-- And it ends in a carriage return only then. -/
theorem getLast?_of_decode? (h : Utf8.decode? line = some cs) (hlast : cs.getLast? = some '\r') :
    line.getLast? = some 0x0D := by
  have hbyte := Utf8.getLast?_of_decode? h hlast (by decide) (by decide)
  obtain ⟨b, hb, hreturn⟩ := Option.map_eq_some_iff.1 hbyte
  obtain rfl : b = 0x0D := UInt8.toNat_inj.1 hreturn
  exact hb

theorem newline_not_mem_of_decode? (h : Utf8.decode? line = some cs) (hline : 0x0A ∉ line) :
    '\n' ∉ cs := by
  have := newline_not_mem_decode hline
  rwa [decode, h] at this

/-! ## A whole file -/

/-- A line of a valid file before a line feed is that line decoded by itself. -/
theorem unifyLineEnds_line (h : Utf8.decode? line = some cs) (hline : 0x0A ∉ line)
    (more : List Char) :
    unifyLineEnds (cs ++ '\n' :: more) = lineText line ++ '\n' :: unifyLineEnds more := by
  have hmore : unifyLineEnds ('\n' :: more) = '\n' :: unifyLineEnds more :=
    unifyLineEnds_cons fun hc => absurd hc (by decide)
  by_cases hlast : line.getLast? = some 0x0D
  · have htext : cs = lineText line ++ ['\r'] := by
      rw [eq_lineText_append h, keptReturn, if_pos hlast]
    rw [htext, List.append_assoc, List.singleton_append,
      unifyLineEnds_append (newline_not_mem_lineText hline) (by simp), unifyLineEnds]
  · have htext : cs = lineText line := by
      rw [eq_lineText_append h, keptReturn, if_neg hlast, List.append_nil]
    rw [unifyLineEnds_append (newline_not_mem_of_decode? h hline)
      (fun hreturn => absurd (getLast?_of_decode? h hreturn) hlast), hmore, htext]

/-- **A valid file as a whole** is its lines, each decoded by itself, and the carriage return at its
end. -/
theorem unifyLineEnds_of_decode? (h : Utf8.decode? bs = some cs) :
    unifyLineEnds cs = joinWith ['\n'] ((byteLines bs).map lineText) ++ keptReturn bs := by
  induction bs using byteLines_induction generalizing cs with
  | last line hline =>
    have hnone : unifyLineEnds (cs ++ []) = cs ++ [] :=
      unifyLineEnds_append (newline_not_mem_of_decode? h hline) (by simp)
    rw [List.append_nil] at hnone
    rw [hnone, byteLines_of_not_mem hline, eq_lineText_append h]
    rfl
  | line line rest hline ih =>
    rw [Utf8.decode?_append_newline, Option.bind_eq_some_iff] at h
    obtain ⟨ds, hds, h⟩ := h
    obtain ⟨es, hes, rfl⟩ := Option.map_eq_some_iff.1 h
    have hkept : keptReturn (line ++ 0x0A :: rest) = keptReturn rest := by
      rw [keptReturn, keptReturn, List.getLast?_append, List.getLast?_cons]
      cases rest.getLast? <;> rfl
    have hlines : joinWith ['\n'] (lineText line :: (byteLines rest).map lineText) =
        lineText line ++ '\n' :: joinWith ['\n'] ((byteLines rest).map lineText) :=
      joinWith_append ['\n'] (List.cons_ne_nil _ []) (by simpa using byteLines_ne_nil rest)
    rw [unifyLineEnds_line hds hline, ih hes, byteLines_append hline, List.map_cons, hlines, hkept,
      List.append_assoc, List.cons_append]

/-- The lines of a file, each decoded by itself. -/
def lineTexts (bytes : List UInt8) : List (List Char) :=
  (byteLines (dropByteOrderMark bytes)).map lineText

/-- The text of a file that is decoded line by line. -/
def lineByLine (bytes : List UInt8) : List Char := joinWith ['\n'] (lineTexts bytes)

/-- What is left at the end of a file that is decoded as a whole. -/
def lastReturn (bytes : List UInt8) : List Char :=
  if (Utf8.decode? (dropByteOrderMark bytes)).isSome then keptReturn (dropByteOrderMark bytes)
  else []

theorem decodeLines_eq (bytes : List UInt8) :
    decodeLines bytes = lineByLine bytes ++ lastReturn bytes := by
  rw [decodeLines, lastReturn]
  cases h : Utf8.decode? (dropByteOrderMark bytes) with
  | some cs => exact unifyLineEnds_of_decode? h
  | none => exact (List.append_nil _).symm

theorem mem_lastReturn {bytes : List UInt8} {c : Char} (h : c ∈ lastReturn bytes) : c = '\r' := by
  rw [lastReturn, keptReturn] at h
  split at h
  · split at h
    · exact List.mem_singleton.1 h
    · cases h
  · cases h

theorem lastReturn_eq_nil_iff {bytes : List UInt8} :
    lastReturn bytes = [] ↔ ¬((Utf8.decode? (dropByteOrderMark bytes)).isSome ∧
      (dropByteOrderMark bytes).getLast? = some 0x0D) := by
  rw [lastReturn, keptReturn]
  split <;> simp_all

theorem newline_not_mem_of_mem_lineTexts {bytes : List UInt8} {text : List Char}
    (h : text ∈ lineTexts bytes) : '\n' ∉ text := by
  obtain ⟨line, hline, rfl⟩ := List.mem_map.1 h
  exact newline_not_mem_lineText (newline_not_mem_of_mem_byteLines hline)

/-- The lines of the text of a file are those that are decoded by themselves, but for a carriage
return at the end of the last one. -/
theorem cutLines_decodeLines (bytes : List UInt8) :
    ∃ init last, lineTexts bytes = init ++ [last] ∧
      cutLines (decodeLines bytes) = init ++ [last ++ lastReturn bytes] := by
  have hne : lineTexts bytes ≠ [] := by simpa [lineTexts] using byteLines_ne_nil _
  have hlines := List.dropLast_concat_getLast hne
  generalize (lineTexts bytes).dropLast = init, (lineTexts bytes).getLast hne = last at hlines
  have hnone : ∀ text ∈ init ++ [last ++ lastReturn bytes], '\n' ∉ text := by
    intro text htext
    have htexts : ∀ text ∈ init ++ [last], '\n' ∉ text := fun x hx =>
      newline_not_mem_of_mem_lineTexts (hlines ▸ hx)
    rcases List.mem_append.1 htext with htext | htext
    · exact htexts text (List.mem_append_left _ htext)
    · rw [List.mem_singleton.1 htext, List.mem_append, not_or]
      exact ⟨htexts last (by simp), fun hmem => absurd (mem_lastReturn hmem) (by decide)⟩
  have htext : decodeLines bytes = joinWith ['\n'] (init ++ [last ++ lastReturn bytes]) := by
    rw [decodeLines_eq, lineByLine, ← hlines]
    by_cases hinit : init = []
    · rw [hinit]
      rfl
    · rw [joinWith_append _ hinit (List.cons_ne_nil _ []),
        joinWith_append _ hinit (List.cons_ne_nil _ [])]
      simp only [joinWith, List.append_assoc]
  exact ⟨init, last, hlines.symm, by rw [htext, cutLines_joinWith (by simp) hnone]⟩

/-- **The two ways to decode a file come to the same**, but for a carriage return at the end of a
file that is UTF-8 throughout: that stays, and decoding line by line drops it.  So each line but the
last is decoded by itself, whatever the other lines are. -/
theorem decodeLines_line_by_line (bytes : List UInt8) :
    decodeLines bytes = lineByLine bytes ++ lastReturn bytes ∧
    (decodeLines bytes = lineByLine bytes ↔
      ¬((Utf8.decode? (dropByteOrderMark bytes)).isSome ∧
        (dropByteOrderMark bytes).getLast? = some 0x0D)) ∧
    ∀ i, i + 1 < (lineTexts bytes).length →
      (cutLines (decodeLines bytes))[i]? = (lineTexts bytes)[i]? := by
  refine ⟨decodeLines_eq bytes, ?_, fun i hi => ?_⟩
  · rw [decodeLines_eq, List.append_right_eq_self, lastReturn_eq_nil_iff]
  · obtain ⟨init, last, hlines, hcut⟩ := cutLines_decodeLines bytes
    rw [hlines, List.length_append, List.length_singleton] at hi
    rw [hcut, hlines, List.getElem?_append_left (by omega), List.getElem?_append_left (by omega)]

/-- A carriage return at the end of a file stays, unless some other line is not UTF-8. -/
theorem decodeLines_keeps_last_return :
    decodeLines [0x61, 0x0D] ≠ lineByLine [0x61, 0x0D] ∧
      (cutLines (decodeLines [0x61, 0x0D])).getLast? = some ['a', '\r'] ∧
      (cutLines (decodeLines [0xFF, 0x0A, 0x61, 0x0D])).getLast? = some ['a'] := by
  decide +kernel

end Codebook.Text
