import Codebook.Proofs.Schema.Reports
import Codebook.Proofs.Schema.Seam
import Codebook.Proofs.Sql.Blocks
import Codebook.Proofs.Text.LineEnds

/-!
# The lines of a file and those of its statements

A file is decoded such that there is one line of text for each line of bytes, and a statement has
the number of the line on which it starts.  So the line of a statement, and of a report on one, is a
line of the file itself.  How the lines end does not matter: what is left of a line is the same with
a carriage return at its end.

What is here: `fragments_decodeLines`, what is left of the lines of a file; `Statement.StartsOn`,
what it is for a statement to start on a line of a file; `Recovery.bytes_source_lines`; and
`Recovery.bytes_addReturns`.
-/

set_option autoImplicit false

namespace Codebook

open Text Sql

variable {bytes : List UInt8}

/-! ## Counting lines -/

namespace Text

/-- Lines that have no line feeds are joined by one less than they are. -/
theorem count_joinWith {lines : List (List Char)} (hne : lines ≠ [])
    (h : ∀ line ∈ lines, '\n' ∉ line) : (joinWith ['\n'] lines).count '\n' + 1 = lines.length := by
  have hlength := length_cutAt (· == '\n') (joinWith ['\n'] lines)
  rw [← cutLines, cutLines_joinWith hne h] at hlength
  exact hlength.symm

theorem count_dropByteOrderMark (bytes : List UInt8) :
    (dropByteOrderMark bytes).count 0x0A = bytes.count 0x0A := by
  rw [dropByteOrderMark_eq]
  split
  · rename_i hmark
    obtain ⟨rest, rfl⟩ := hmark
    rfl
  · rfl

/-- **The text of a file has a line feed for each byte 0x0A**, and no other. -/
theorem count_decodeLines (bytes : List UInt8) :
    (decodeLines bytes).count '\n' = bytes.count 0x0A := by
  have hlast : '\n' ∉ lastReturn bytes := fun hmem => absurd (mem_lastReturn hmem) (by decide)
  have hlines : (lineByLine bytes).count '\n' + 1 = (lineTexts bytes).length :=
    count_joinWith (by simpa [lineTexts] using byteLines_ne_nil _)
      fun _ => newline_not_mem_of_mem_lineTexts
  rw [lineTexts, List.length_map, length_byteLines, count_dropByteOrderMark] at hlines
  rw [decodeLines_eq, List.count_append, List.count_eq_zero.2 hlast]
  exact Nat.succ.inj hlines

/-- No line feed is part of a byte-order mark. -/
theorem dropByteOrderMark_append (line rest : List UInt8) :
    dropByteOrderMark (line ++ 0x0A :: rest) = dropByteOrderMark line ++ 0x0A :: rest := by
  rw [dropByteOrderMark_eq, dropByteOrderMark_eq]
  by_cases hline : [0xEF, 0xBB, 0xBF] <+: line
  · obtain ⟨first, rfl⟩ := hline
    simp
  · rw [if_neg hline, if_neg]
    rintro ⟨after, hafter⟩
    rcases List.append_eq_append_iff.1 hafter with ⟨as, hmark, -⟩ | ⟨cs, hmark, hcs⟩
    · exact hline ⟨as, hmark.symm⟩
    · cases cs with
      | nil => exact hline ⟨[], by rw [List.append_nil, hmark, List.append_nil]⟩
      | cons c cs =>
        obtain rfl : (0x0A : UInt8) = c := (List.cons.inj hcs).1
        have hmem : (0x0A : UInt8) ∈ [0xEF, 0xBB, 0xBF] := by
          rw [hmark]
          exact List.mem_append_right _ List.mem_cons_self
        exact absurd hmem (by decide)

/-- The byte-order mark is at the front of the first line. -/
theorem byteLines_dropByteOrderMark (bytes : List UInt8) :
    byteLines (dropByteOrderMark bytes) = (byteLines bytes).modifyHead dropByteOrderMark := by
  have hdrop {line : List UInt8} (h : 0x0A ∉ line) : 0x0A ∉ dropByteOrderMark line :=
    fun hmem => h (mem_of_mem_dropByteOrderMark hmem)
  induction bytes using byteLines_induction with
  | last line hline => rw [byteLines_of_not_mem hline, byteLines_of_not_mem (hdrop hline)]; rfl
  | line line rest hline =>
    rw [dropByteOrderMark_append, byteLines_append hline, byteLines_append (hdrop hline)]
    rfl

end Text

/-! ## What is left of the lines -/

namespace Sql

/-- Blanks at the end of a line do not matter. -/
theorem fragmentText?_append {line after : List Char} (h : ∀ c ∈ after, isBlank c = true) :
    fragmentText? (line ++ after) = fragmentText? line := by
  rw [fragmentText?, fragmentText?, trim_append_blanks h]

/-- **What is left of the lines of a file**, each of which is decoded by itself. -/
theorem fragments_decodeLines (bytes : List UInt8) :
    fragments (decodeLines bytes) = fragmentsFrom 1 (lineTexts bytes) := by
  obtain ⟨init, last, hlines, hcut⟩ := cutLines_decodeLines bytes
  have hblank : ∀ c ∈ lastReturn bytes, isBlank c = true := fun c hc => by
    rw [mem_lastReturn hc]
    decide
  simp only [fragments, hcut, hlines, fragmentsFrom_append, fragmentsFrom,
    fragmentText?_append hblank]

/-- The statements of a file are told by its lines. -/
theorem split_decodeLines (bytes : List UInt8) :
    Statement.split (decodeLines bytes) =
      (blocks (fragmentsFrom 1 (lineTexts bytes))).filterMap Statement.ofBlock? := by
  rw [Statement.split, fragments_decodeLines]

/-- The text of a block starts with its first fragment. -/
theorem isPrefix_blockText (f : Fragment) (fs : List Fragment) :
    f.text <+: blockText (f :: fs) := by
  have hjoin : f.text <+: joinWith [' '] ((f :: fs).map Fragment.text) := by
    rw [List.map_cons, joinWith_cons]
    exact List.prefix_append _ _
  dsimp only [blockText]
  split
  · exact hjoin
  · exact hjoin.trans (List.prefix_append _ _)

/-- The line of a file with a given number, without the byte-order mark if it is the first one. -/
def sourceLine? (bytes : List UInt8) (number : Nat) : Option (List UInt8) :=
  (byteLines bytes)[number - 1]?.map fun raw => if number = 1 then dropByteOrderMark raw else raw

theorem getElem?_lineTexts {number : Nat} (h : 0 < number) (bytes : List UInt8) :
    (lineTexts bytes)[number - 1]? = (sourceLine? bytes number).map lineText := by
  have hfirst : number - 1 = 0 ↔ number = 1 := by omega
  rw [lineTexts, List.getElem?_map, byteLines_dropByteOrderMark, List.getElem?_modifyHead,
    sourceLine?]
  cases (byteLines bytes)[number - 1]? <;> by_cases hnumber : number = 1 <;> simp [hnumber, hfirst]

/-- What it is for a statement to start on the line of a file that it has the number of: the line is
there, what is left of it when it is decoded by itself is the first fragment of the statement, and
the text of the statement starts with that. -/
def Statement.StartsOn (bytes : List UInt8) (s : Statement) : Prop :=
  ∃ f fs raw, f :: fs ∈ blocks (fragments (decodeLines bytes)) ∧
    Statement.ofBlock? (f :: fs) = some s ∧ 0 < s.line ∧ sourceLine? bytes s.line = some raw ∧
    fragmentText? (lineText raw) = some f.text ∧ f.text <+: s.text.toList

theorem Statement.startsOn_of_mem_split {s : Statement}
    (h : s ∈ Statement.split (decodeLines bytes)) : s.StartsOn bytes := by
  obtain ⟨block, hblock, hs⟩ := mem_split_iff.1 h
  obtain ⟨-, htext, hline⟩ := ofBlock?_eq_some_iff.1 hs
  obtain ⟨f, fs, rfl⟩ := List.exists_cons_of_ne_nil (ne_nil_of_mem_blocks hblock)
  have hline : f.line = s.line := Option.some.inj hline
  have hmem : f ∈ fragmentsFrom 1 (lineTexts bytes) := by
    rw [← fragments_decodeLines]
    exact mem_fragments_of_mem_blocks hblock List.mem_cons_self
  obtain ⟨hpos, text, hget, hleft⟩ := mem_fragmentsFrom_iff.1 hmem
  rw [hline] at hpos hget
  rw [getElem?_lineTexts hpos, Option.map_eq_some_iff] at hget
  obtain ⟨raw, hraw, rfl⟩ := hget
  exact ⟨f, fs, raw, hblock, hs, hpos, hraw, hleft, htext ▸ isPrefix_blockText f fs⟩

end Sql

/-! ## Files -/

namespace Recovery

/-- **Lines are those of the file.**  The text of a file has as many line feeds as the file has
bytes 0x0A.  Each statement starts on the line of the file that it has the number of.  And following
a file adds reports on its statements only, each with the text and the line of the statement. -/
theorem bytes_source_lines (bytes : List UInt8) :
    (decodeLines bytes).count '\n' = bytes.count 0x0A ∧
    (∀ s ∈ Statement.split (decodeLines bytes), s.StartsOn bytes) ∧
    ∀ (r : Recovery) (file : String), ∃ reports,
      (r.bytes file bytes).diagnostics = r.diagnostics ++ reports ∧
      ∀ d ∈ reports, ∃ s ∈ Statement.split (decodeLines bytes), s.StartsOn bytes ∧
        d.file = some file ∧ d.statement = some s.text ∧
        d.span = some ⟨0, s.text.utf8ByteSize, s.line, 1⟩ := by
  refine ⟨count_decodeLines bytes, fun s => Statement.startsOn_of_mem_split, fun r file =>
    ⟨_, diagnostics_statements r file _, fun d hd => ?_⟩⟩
  obtain ⟨s, hs, hreport⟩ := List.mem_filterMap.1 hd
  obtain ⟨-, hfile, hstatement, hspan⟩ := Statement.report?_says hreport
  exact ⟨s, hs, Statement.startsOn_of_mem_split hs, hfile, hstatement, hspan⟩

/-- **Line ends do not matter.**  A file without carriage returns may be given them before any of
its line feeds: it is followed as it was. -/
theorem bytes_addReturns (r : Recovery) (file : String) (h : 0x0D ∉ bytes)
    (chosen : Nat → Bool) : r.bytes file (addReturns chosen bytes) = r.bytes file bytes := by
  rw [Recovery.bytes, text, split_decodeLines, lineTexts_addReturns chosen h, ← split_decodeLines]
  rfl

/-- A malformed comment on two lines, the second of which is not UTF-8. -/
def twoLines : List UInt8 :=
  ("COMMENT ON TABLE t\nIS 5; -- ".toList.map fun c => UInt8.ofNat c.toNat) ++ [0xFF, 0x0A]

/-- The comment is reported all the same if the first of the lines ends in a carriage return. -/
theorem bytes_addReturns_twoLines :
    0x0D ∉ twoLines ∧ addReturns (· == 0) twoLines ≠ twoLines ∧
      ((({} : Recovery).bytes "a.sql" twoLines).diagnostics.length = 1) ∧
      ({} : Recovery).bytes "a.sql" (addReturns (· == 0) twoLines) =
        ({} : Recovery).bytes "a.sql" twoLines :=
  ⟨by decide +kernel, by decide +kernel, by decide +kernel,
    bytes_addReturns {} "a.sql" (by decide +kernel) (· == 0)⟩

end Recovery

end Codebook
