import Codebook.Go.Scan
import Codebook.Proofs.Go.ConstReading
import Codebook.Proofs.Go.Lines

/-!
# Written enumerations

A file with a package clause and one declaration of constants, as one writes it: comments and a mark
above the declaration, and each constant on a line of its own, with comments above it and one beside
it.

What is here: `Enumeration` and its `text`, what there is to write and how it is written; the lines
that the text consists of; and `scan_text`, its tokens.
-/

set_option autoImplicit false

namespace Codebook.Go

open Codebook.Text

/-! ## What is written -/

/-- A text on one line, without null characters. -/
structure LineText where
  /-- The text. -/
  text : List Char
  /-- It stands on one line. -/
  isPlain : ∀ c ∈ text, c ≠ '\n' ∧ c ≠ '\x00'

/-- A name as it is written. -/
structure Word where
  /-- The text. -/
  text : List Char
  /-- It is a name. -/
  isName : IsName text

/-- A letter or an underscore, with letters, digits and underscores after it, is a name. -/
theorem isName_of_ascii {c : Char} {cs : List Char} (hc : c.isAlpha = true ∨ c = '_')
    (hcs : ∀ x ∈ cs, x.isAlphanum = true ∨ x = '_') : IsName (c :: cs) := by
  have hstarts : startsWord c = true := by
    rcases hc with hc | rfl
    · have hlt : c.toNat < 128 := toNat_lt_128_of_isAlphanum (.inl (by simp [Char.isAlphanum, hc]))
      simp [startsWord, isIdentifierStart, hlt, hc]
    · rfl
  refine ⟨hstarts, fun x hx => ?_⟩
  have hlt : x.toNat < 128 := toNat_lt_128_of_isAlphanum (hcs x hx)
  simp [isIdentifierContinue, hlt, hcs x hx]

/-- A value as it is written. -/
inductive Written where
  /-- An integer. -/
  | integer (digits : List Char) (h : IsInteger digits)
  /-- A name. -/
  | word (w : Word) (h : String.ofList w.text ∉ longKeywords)
  /-- A name of a package. -/
  | selector (w x : Word) (h : String.ofList w.text ∉ longKeywords)

/-- A constant as it is written. -/
structure Entry where
  /-- The comments above it. -/
  docs : List LineText
  /-- Its name. -/
  name : Word
  /-- Its value. -/
  value : Option Written
  /-- The comment beside it. -/
  comment : Option LineText

/-- A declaration of constants as it is written. -/
structure Enumeration where
  /-- The comments above the one that is marked. -/
  before : List LineText
  /-- They have no mark. -/
  isUnmarked : ∀ t ∈ before, containsText marker t.text = false
  /-- What follows the mark. -/
  description : LineText
  /-- The first constant. -/
  first : Entry
  /-- The others. -/
  more : List Entry

/-! ## How it is written -/

/-- A comment to the end of the line. -/
def LineText.comment (t : LineText) : List Char := "// ".toList ++ t.text

/-- A comment on a line of its own. -/
def LineText.commentLine (t : LineText) : List Char := t.comment ++ ['\n']

/-- The text of a value. -/
def Written.text : Written → List Char
  | integer digits _ => digits
  | word w _ => w.text
  | selector w x _ => w.text ++ '.' :: x.text

namespace Entry

/-- The text of a constant with the comments around it. -/
def text (e : Entry) : List Char :=
  e.docs.flatMap LineText.commentLine ++ e.name.text ++
    (e.value.elim [] fun v => " = ".toList ++ v.text) ++
    (e.comment.elim [] fun t => ' ' :: t.comment) ++ ['\n']

end Entry

namespace Enumeration

/-- The constants. -/
def entries (e : Enumeration) : List Entry := e.first :: e.more

/-- The text of the file. -/
def text (e : Enumeration) : List Char :=
  "package p\n\n".toList ++ e.before.flatMap LineText.commentLine ++
    "// @ai ".toList ++ e.description.text ++ ['\n'] ++
    "const (\n".toList ++ e.entries.flatMap Entry.text ++ ")\n".toList

/-- The bytes of the file. -/
def bytes (e : Enumeration) : List UInt8 := (String.ofList e.text).toUTF8.toList

end Enumeration

/-! ## Pieces -/

/-- A space or the end of a line stands at the front. -/
def BlankAhead (cs : List Char) : Prop := ∃ c rest, cs = c :: rest ∧ EndsNumber c

section

variable {cs rest : List Char}

theorem isGap_eq_false {c : Char} {p : Char → Bool} (hc : p c = true)
    (hp : ∀ c ∈ [' ', '\t', '\r', '\x0b', '\x0c'], p c = false) : isGap c = false := by
  cases h : isGap c with
  | false => rfl
  | true =>
    have hmem : c ∈ [' ', '\t', '\r', '\x0b', '\x0c'] := by
      simpa [isGap, or_assoc] using h
    rw [hp c hmem] at hc
    cases hc

theorem endsBefore_word (hcs : IsName cs)
    (hrest : ∀ c ∈ rest.head?, isIdentifierContinue c = false) (spaced : Bool) :
    (Piece.mk spaced .word cs).EndsBefore rest := by
  refine ⟨?_, ?_, matchToken_name hcs hrest⟩
  · match cs, hcs with
    | c :: cs, hcs => exact ⟨c, cs, rfl, isGap_eq_false hcs.1 (by decide)⟩
  · match cs, hcs with
    | c :: cs, hcs =>
      intro hmem
      rcases List.mem_cons.1 hmem with rfl | hmem
      · exact absurd hcs.1 (by decide)
      · exact absurd (hcs.2 _ hmem) (by decide)

theorem endsBefore_integer (hcs : IsInteger cs) (hrest : BlankAhead rest) (spaced : Bool) :
    (Piece.mk spaced .number cs).EndsBefore rest := by
  obtain ⟨c, rest, rfl, hc⟩ := hrest
  refine ⟨?_, fun hmem => ?_, matchToken_integer hc hcs rest⟩
  · obtain ⟨d, ds, rfl⟩ := List.exists_cons_of_ne_nil hcs.ne_nil
    exact ⟨d, ds, rfl, isGap_eq_false (hcs.isDigit d List.mem_cons_self) (by decide)⟩
  · exact absurd (hcs.isDigit _ hmem) (by decide)

theorem endsBefore_symbol {c : Char} (hc : isGap c = false) (hline : c ≠ '\n')
    (hmatch : matchToken (c :: rest) = some (.symbol, rest)) (spaced : Bool) :
    (Piece.mk spaced .symbol [c]).EndsBefore rest :=
  ⟨⟨c, [], rfl, hc⟩, by simpa using Ne.symm hline, hmatch⟩

end

/-- A comment as a piece. -/
def LineText.piece (t : LineText) (spaced : Bool) : Piece := ⟨spaced, .comment, t.comment⟩

theorem LineText.endsBefore (t : LineText) (spaced : Bool) (rest : List Char) :
    (t.piece spaced).EndsBefore ('\n' :: rest) := by
  have hspace : ∀ c ∈ ' ' :: t.text, c ≠ '\n' ∧ c ≠ '\x00' :=
    List.forall_mem_cons.2 ⟨by decide, t.isPlain⟩
  refine ⟨⟨'/', '/' :: ' ' :: t.text, rfl, by decide⟩, ?_, matchToken_comment hspace rest⟩
  intro hmem
  have hmem' : '\n' ∈ ' ' :: t.text := by
    simpa [piece, comment] using hmem
  exact (hspace _ hmem').1 rfl

/-- The pieces of a value. -/
def Written.pieces : Written → List Piece
  | integer digits _ => [⟨true, .number, digits⟩]
  | word w _ => [⟨true, .word, w.text⟩]
  | selector w x _ => [⟨true, .word, w.text⟩, ⟨false, .symbol, ['.']⟩, ⟨false, .word, x.text⟩]

/-- The lines of some comments, each on a line of its own. -/
def ownLines (ts : List LineText) : List (List Piece) := ts.map fun t => [t.piece false]

namespace Entry

/-- The pieces of a constant. -/
def specPieces (e : Entry) : List Piece :=
  ⟨false, .word, e.name.text⟩ :: e.value.elim [] fun v => ⟨true, .symbol, ['=']⟩ :: v.pieces

/-- The piece of the comment beside a constant. -/
def besidePieces (e : Entry) : List Piece := e.comment.toList.map fun t => t.piece true

/-- The lines of a constant. -/
def lines (e : Entry) : List (List Piece) :=
  ownLines e.docs ++ [e.specPieces ++ e.besidePieces]

end Entry

namespace Enumeration

/-- The comment with the mark. -/
def marked (e : Enumeration) : LineText where
  text := "@ai ".toList ++ e.description.text
  isPlain := List.forall_mem_append.2 ⟨by decide, e.description.isPlain⟩

/-- The comments above the declaration. -/
def above (e : Enumeration) : List LineText := e.before ++ [e.marked]

/-- The line of the package clause. -/
def packageLine : List Piece := [⟨false, .word, "package".toList⟩, ⟨true, .word, ['p']⟩]

/-- The line on which the declaration starts. -/
def constLine : List Piece := [⟨false, .word, "const".toList⟩, ⟨true, .symbol, ['(']⟩]

/-- The line on which it ends. -/
def closingLine : List Piece := [⟨false, .symbol, [')']⟩]

/-- The lines of the file. -/
def lines (e : Enumeration) : List (List Piece) :=
  packageLine :: [] :: (ownLines e.above ++
    constLine :: (e.entries.flatMap Entry.lines ++ [closingLine]))

end Enumeration

/-! ## The text consists of the lines -/

theorem linesText_append (a b : List (List Piece)) :
    linesText (a ++ b) = linesText a ++ linesText b := List.flatMap_append

theorem linesText_cons (xs : List Piece) (lines : List (List Piece)) :
    linesText (xs :: lines) = lineText xs ++ '\n' :: linesText lines := by
  rw [linesText, List.flatMap_cons, List.append_assoc]
  rfl

theorem lineText_append (xs ys : List Piece) : lineText (xs ++ ys) = lineText xs ++ lineText ys :=
  List.flatMap_append

theorem LineText.lineText_piece (t : LineText) (spaced : Bool) :
    lineText [t.piece spaced] = (if spaced then [' '] else []) ++ t.comment := by
  cases spaced <;> simp [lineText, Piece.written, piece]

theorem linesText_ownLines (ts : List LineText) :
    linesText (ownLines ts) = ts.flatMap LineText.commentLine := by
  induction ts with
  | nil => rfl
  | cons t ts ih =>
    show linesText ([t.piece false] :: ownLines ts) = _
    rw [linesText_cons, List.flatMap_cons, ih, t.lineText_piece, if_neg Bool.false_ne_true,
      List.nil_append, LineText.commentLine, List.append_assoc]
    rfl

theorem Written.lineText_pieces (v : Written) : lineText v.pieces = ' ' :: v.text := by
  cases v <;> simp [lineText, Piece.written, pieces, text]

theorem Entry.lineText_specPieces (e : Entry) :
    lineText e.specPieces = e.name.text ++ e.value.elim [] fun v => " = ".toList ++ v.text := by
  rw [specPieces, lineText_cons]
  cases e.value with
  | none => rfl
  | some v =>
    rw [Option.elim_some, Option.elim_some, lineText_cons, v.lineText_pieces]
    rfl

theorem Entry.lineText_besidePieces (e : Entry) :
    lineText e.besidePieces = e.comment.elim [] fun t => ' ' :: t.comment := by
  rw [besidePieces]
  cases e.comment with
  | none => rfl
  | some t => exact t.lineText_piece true

theorem Entry.linesText_lines (e : Entry) : linesText e.lines = e.text := by
  rw [lines, linesText_append, linesText_ownLines, linesText_cons, lineText_append,
    e.lineText_specPieces, e.lineText_besidePieces, text]
  simp only [List.append_assoc]
  rfl

theorem linesText_entries (es : List Entry) :
    linesText (es.flatMap Entry.lines) = es.flatMap Entry.text := by
  induction es with
  | nil => rfl
  | cons e es ih =>
    rw [List.flatMap_cons, List.flatMap_cons, linesText_append, ih, e.linesText_lines]

theorem Enumeration.commentLine_marked (e : Enumeration) :
    e.marked.commentLine = "// @ai ".toList ++ e.description.text ++ ['\n'] := by
  have hmark : "// @ai ".toList = "// ".toList ++ "@ai ".toList := by decide
  show "// ".toList ++ ("@ai ".toList ++ e.description.text) ++ ['\n'] = _
  rw [hmark]
  simp only [List.append_assoc]

theorem Enumeration.linesText_lines (e : Enumeration) : linesText e.lines = e.text := by
  have hpackage : lineText packageLine ++ '\n' :: (lineText [] ++ ['\n']) =
      "package p\n\n".toList := by decide
  have hconst : lineText constLine ++ ['\n'] = "const (\n".toList := by decide
  have hclosing : linesText [closingLine] = ")\n".toList := by decide
  have habove : e.above.flatMap LineText.commentLine =
      e.before.flatMap LineText.commentLine ++
        ("// @ai ".toList ++ e.description.text ++ ['\n']) := by
    rw [above, List.flatMap_append, List.flatMap_singleton, e.commentLine_marked]
  calc linesText e.lines
      = (lineText packageLine ++ '\n' :: (lineText [] ++ ['\n'])) ++
          (e.above.flatMap LineText.commentLine ++
            ((lineText constLine ++ ['\n']) ++
              (e.entries.flatMap Entry.text ++ linesText [closingLine]))) := by
        rw [lines, linesText_cons, linesText_cons, linesText_append, linesText_ownLines,
          linesText_cons, linesText_append, linesText_entries]
        simp only [List.append_assoc, List.cons_append, List.nil_append]
    _ = "package p\n\n".toList ++ (e.before.flatMap LineText.commentLine ++
          ("// @ai ".toList ++ e.description.text ++ ['\n']) ++
            ("const (\n".toList ++ (e.entries.flatMap Entry.text ++ ")\n".toList))) := by
        rw [hpackage, habove, hconst, hclosing]
    _ = e.text := by
        unfold text
        simp only [List.append_assoc]

/-! ## The pieces are read apart -/

theorem Word.head_not_continue {rest : List Char} (hrest : BlankAhead rest) :
    ∀ c ∈ rest.head?, isIdentifierContinue c = false := by
  obtain ⟨c, rest, rfl, hc⟩ := hrest
  intro x hx
  obtain rfl := Option.some.inj hx
  rcases hc with rfl | rfl <;> decide

theorem Word.readApart (w : Word) (spaced : Bool) {rest : List Char} (hrest : BlankAhead rest) :
    (Piece.mk spaced .word w.text).EndsBefore rest :=
  endsBefore_word w.isName (head_not_continue hrest) spaced

theorem blankAhead_space (rest : List Char) : BlankAhead (' ' :: rest) := ⟨' ', rest, rfl, .inl rfl⟩

theorem blankAhead_lineEnd (rest : List Char) : BlankAhead ('\n' :: rest) :=
  ⟨'\n', rest, rfl, .inr rfl⟩

theorem Written.readApart (v : Written) {rest : List Char} (hrest : BlankAhead rest) :
    ReadApart v.pieces rest := by
  cases v with
  | integer digits h => exact ⟨endsBefore_integer h hrest true, trivial⟩
  | word w _ => exact ⟨w.readApart true hrest, trivial⟩
  | selector w x _ =>
    obtain ⟨c, cs, htext, hc⟩ : ∃ c cs, x.text = c :: cs ∧ startsWord c = true := by
      match hx : x.text, x.isName with
      | c :: cs, hname => exact ⟨c, cs, rfl, hname.1⟩
    have hselector : lineText [⟨false, .word, x.text⟩] ++ rest = c :: (cs ++ rest) := by
      rw [htext]
      simp [lineText, Piece.written]
    refine ⟨endsBefore_word w.isName ?_ true, ?_, x.readApart false hrest, trivial⟩
    · intro y hy
      obtain rfl : '.' = y := Option.some.inj hy
      decide
    · rw [hselector]
      exact endsBefore_symbol (by decide) (by decide) (matchToken_period hc _) false

theorem Entry.readApart_specPieces (e : Entry) {rest : List Char} (hrest : BlankAhead rest) :
    ReadApart e.specPieces rest := by
  rw [specPieces]
  cases e.value with
  | none => exact ⟨e.name.readApart false hrest, trivial⟩
  | some v =>
    have hequals : lineText v.pieces ++ rest = ' ' :: (v.text ++ rest) := by
      rw [v.lineText_pieces, List.cons_append]
    refine ⟨e.name.readApart false (blankAhead_space _), ?_, v.readApart hrest⟩
    rw [hequals]
    exact endsBefore_symbol (by decide) (by decide) (matchToken_equals _) true

theorem Entry.readApart_besidePieces (e : Entry) (rest : List Char) :
    ReadApart e.besidePieces ('\n' :: rest) := by
  rw [besidePieces]
  cases e.comment with
  | none => exact trivial
  | some t => exact ⟨t.endsBefore true rest, trivial⟩

/-- What stands beside a constant starts with a space, if there is anything. -/
theorem Entry.blankAhead_besidePieces (e : Entry) (rest : List Char) :
    BlankAhead (lineText e.besidePieces ++ '\n' :: rest) := by
  rw [e.lineText_besidePieces]
  cases e.comment with
  | none => exact blankAhead_lineEnd rest
  | some t => exact blankAhead_space _

theorem isLine_ownLines (ts : List LineText) : ∀ xs ∈ ownLines ts, IsLine xs := by
  intro xs hxs rest
  obtain ⟨t, -, rfl⟩ := List.mem_map.1 hxs
  exact ⟨t.endsBefore false rest, trivial⟩

theorem Entry.isLine (e : Entry) : ∀ xs ∈ e.lines, IsLine xs := by
  refine List.forall_mem_append.2 ⟨isLine_ownLines e.docs, ?_⟩
  rw [List.forall_mem_singleton]
  exact fun rest => readApart_append (e.readApart_specPieces (e.blankAhead_besidePieces rest))
    (e.readApart_besidePieces rest)

theorem Enumeration.isLine (e : Enumeration) : ∀ xs ∈ e.lines, IsLine xs := by
  have hpackage : IsLine packageLine := fun rest =>
    ⟨endsBefore_word (by decide) (Word.head_not_continue (blankAhead_space _)) false,
      endsBefore_word (by decide) (Word.head_not_continue (blankAhead_lineEnd rest)) true, trivial⟩
  have hconst : IsLine constLine := fun rest =>
    ⟨endsBefore_word (by decide) (Word.head_not_continue (blankAhead_space _)) false,
      endsBefore_symbol (by decide) (by decide) (matchToken_opening _) true, trivial⟩
  have hclosing : IsLine closingLine := fun rest =>
    ⟨endsBefore_symbol (by decide) (by decide) (matchToken_closing _) false, trivial⟩
  refine List.forall_mem_cons.2 ⟨hpackage, List.forall_mem_cons.2 ⟨fun _ => trivial, ?_⟩⟩
  refine List.forall_mem_append.2 ⟨isLine_ownLines _, List.forall_mem_cons.2 ⟨hconst, ?_⟩⟩
  refine List.forall_mem_append.2 ⟨?_, by rwa [List.forall_mem_singleton]⟩
  intro xs hxs
  obtain ⟨entry, -, hxs⟩ := List.mem_flatMap.1 hxs
  exact entry.isLine xs hxs

/-- **The tokens of the file are the pieces of its lines.** -/
theorem scan_text (e : Enumeration) : Token.scan e.text = .ok (linesTokens 0 e.lines) := by
  have hmark : ∀ rest, linesText e.lines ≠ '\uFEFF' :: rest := by
    intro rest heq
    rw [Enumeration.lines, linesText_cons] at heq
    exact absurd (List.cons.inj heq).1 (by decide)
  rw [← e.linesText_lines]
  exact scan_lines e.isLine hmark

end Codebook.Go
