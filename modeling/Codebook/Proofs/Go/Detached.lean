import Codebook.Proofs.Go.Cut
import Codebook.Proofs.Go.Places

/-!
# A comment between two blank lines

A comment with a blank line above and below may be put in the place of a blank line.  The tokens
above it stay, the comment and two line ends come next, and the tokens below it are two rows further
down.  A token that goes over the blank line would be in the way, and so would a null character that
ends the comment, and a block comment above it that is not closed, and that the text closes.

What is here: `Detached`, a blank line and what is put in its place; `Detached.IsOpen`, that a block
comment above it is not closed; and `Detached.exists_scan_replaced`, the tokens with the comment.
-/

set_option autoImplicit false

namespace Codebook.Go

open Codebook.Text

/-! ## Block comments -/

section

variable {cs rest rest' : List Char}

theorem skipBlockComment_cons {c : Char} (hc : c ≠ '\x00')
    (hnot : ∀ more, c = '*' → cs = '/' :: more → False) :
    skipBlockComment (c :: cs) = skipBlockComment cs := by
  rw [skipBlockComment, if_neg hc]
  exact hnot

/-- One character that does not close a block comment, before the rest of its line. -/
theorem skipBlockComment_cons_append {c : Char} (hc : c ≠ '\x00')
    (hnot : ∀ more, c = '*' → cs = '/' :: more → False) (rest : List Char) :
    skipBlockComment (c :: cs ++ '\n' :: rest) = skipBlockComment (cs ++ '\n' :: rest) := by
  refine skipBlockComment_cons hc fun more hstar hslash => ?_
  cases cs with
  | nil => simp at hslash
  | cons x cs => exact hnot cs hstar (by rw [(List.cons.inj hslash).1])

/-- **A block comment is closed on a line, or is ended on it by a null character, or goes over
it.** -/
theorem skipBlockComment_cases (cs : List Char) :
    (∃ left, ∀ rest, skipBlockComment (cs ++ '\n' :: rest) = some (left ++ '\n' :: rest)) ∨
      ('\x00' ∈ cs ∧ ∀ rest, skipBlockComment (cs ++ '\n' :: rest) = none) ∨
      ('\x00' ∉ cs ∧ ∀ rest, skipBlockComment (cs ++ '\n' :: rest) = skipBlockComment rest) := by
  fun_induction skipBlockComment cs with
  | case1 => exact .inr (.inr ⟨by simp, fun rest => rfl⟩)
  | case2 cs => exact .inl ⟨cs, fun rest => rfl⟩
  | case3 cs hnot =>
    refine .inr (.inl ⟨by simp, fun rest => ?_⟩)
    rw [List.cons_append, skipBlockComment, if_pos rfl]
    simp
  | case4 c cs hnot hc ih =>
    simp only [skipBlockComment_cons_append hc hnot, List.mem_cons, Ne.symm hc, false_or]
    exact ih

/-- A block comment goes over what neither closes nor ends it. -/
theorem skipBlockComment_append (hnull : '\x00' ∉ cs) (hclose : ¬ ['*', '/'] <:+: cs)
    (rest : List Char) : skipBlockComment (cs ++ '\n' :: rest) = skipBlockComment rest := by
  induction cs with
  | nil => rfl
  | cons c cs ih =>
    rw [List.mem_cons, not_or] at hnull
    rw [skipBlockComment_cons_append (Ne.symm hnull.1), ih hnull.2]
    · exact fun hends => hclose (hends.trans (List.suffix_cons c cs).isInfix)
    · rintro more rfl rfl
      exact hclose ⟨[], more, rfl⟩

/-- A block comment goes over blanks. -/
theorem skipBlockComment_blanks (hcs : ∀ c ∈ cs, isGap c = true) (rest : List Char) :
    skipBlockComment (cs ++ rest) = skipBlockComment rest := by
  induction cs with
  | nil => rfl
  | cons c cs ih =>
    have hc : isGap c = true := hcs c List.mem_cons_self
    rw [List.cons_append, skipBlockComment_cons, ih fun c hc => hcs c (List.mem_cons_of_mem _ hc)]
    · rintro rfl
      cases hc
    · rintro more rfl
      cases hc

theorem skipBlockComment_newline (rest : List Char) :
    skipBlockComment ('\n' :: rest) = skipBlockComment rest :=
  skipBlockComment_cons (by decide) fun _ hc => nomatch hc

end

/-! ## The blank line -/

/-- A source without a byte-order mark at the front. -/
def withoutMark : List Char → List Char
  | '\uFEFF' :: cs => cs
  | cs => cs

theorem withoutMark_cons {c : Char} (hc : c ≠ '\uFEFF') (cs : List Char) :
    withoutMark (c :: cs) = c :: cs := by
  rw [withoutMark]
  rintro _ ⟨⟩
  exact hc rfl

theorem scan_eq (source : List Char) : Token.scan source =
    Token.scanFrom (withoutMark source).length {} (withoutMark source) := rfl

/-- A blank line of a source, and a comment that may be put in its place. -/
structure Detached where
  /-- What is before the line. -/
  before : List Char
  /-- The line. -/
  line : List Char := []
  /-- What is behind the line. -/
  after : List Char
  /-- The line above the comment. -/
  above : List Char := []
  /-- What is before the comment on its line. -/
  indent : List Char := []
  /-- The text of the comment. -/
  text : List Char
  /-- The line below the comment. -/
  below : List Char := []
  /-- The line starts where lines start. -/
  startsLine : IsText (withoutMark before)
  /-- It ends where lines end. -/
  endsLine : after = [] ∨ ∃ more, after = '\n' :: more
  /-- It is blank. -/
  isBlank : ∀ c ∈ line, isGap c = true := by decide
  /-- And so is the line above the comment. -/
  isBlank_above : ∀ c ∈ above, isGap c = true := by decide
  /-- And what is before it on its line. -/
  isBlank_indent : ∀ c ∈ indent, isGap c = true := by decide
  /-- And the line below it. -/
  isBlank_below : ∀ c ∈ below, isGap c = true := by decide
  /-- The comment is one line. -/
  oneLine : '\n' ∉ text := by decide

namespace Detached

variable (d : Detached)

/-- The source with the blank line. -/
def source : List Char := d.before ++ (d.line ++ d.after)

/-- What comes in the place of the blank line and what is behind it. -/
def tail : List Char :=
  d.above ++ '\n' :: (d.indent ++ '/' :: '/' :: (d.text ++ '\n' :: (d.below ++ d.after)))

/-- The source with the comment in the place of the blank line. -/
def replaced : List Char := d.before ++ d.tail

/-- The row of the blank line. -/
def row : Nat := d.before.count '\n'

/-- The comment. -/
def comment : Token :=
  ⟨.comment, String.ofList ('/' :: '/' :: d.text), d.row + 1, width d.indent, d.row + 1⟩

/-- The tokens that come in the place of the blank line. -/
def inserted : List Token :=
  [⟨.lineEnd, "\n", d.row, width d.above, d.row⟩, d.comment,
    ⟨.lineEnd, "\n", d.row + 1, width d.indent + width ('/' :: '/' :: d.text), d.row + 1⟩]

/-- A token at or below the blank line, with the comment above it. -/
def moved (t : Token) : Token :=
  { t with
    row := t.row + 2
    endRow := t.endRow + 2
    column := if t.row = d.row then width d.below else t.column }

/-- A block comment that starts above the blank line is not closed, and no null character above the
line ends it. -/
def IsOpen : Prop :=
  ∃ ts p more,
    Scanned {} (withoutMark d.source) ts p ('/' :: '*' :: (more ++ (d.line ++ d.after))) ∧
    '\x00' ∉ more ∧ skipBlockComment (more ++ (d.line ++ d.after)) = none

/-! ## Its tokens -/

variable {d}

theorem withoutMark_append {cs : List Char} (hcs : ∀ c ∈ cs.head?, c ≠ '\uFEFF') (ds : List Char) :
    withoutMark (ds ++ cs) = withoutMark ds ++ cs := by
  cases ds with
  | nil =>
    cases cs with
    | nil => rfl
    | cons c cs => exact withoutMark_cons (hcs c rfl) cs
  | cons c ds =>
    by_cases hc : c = '\uFEFF'
    · subst hc
      rfl
    · rw [List.cons_append, withoutMark_cons hc, withoutMark_cons hc, List.cons_append]

/-- Blanks and the end of a line are no byte-order mark. -/
theorem head_ne_mark {cs ds : List Char} (hcs : ∀ c ∈ cs, isGap c = true)
    (hds : ds = [] ∨ ∃ more, ds = '\n' :: more) : ∀ c ∈ (cs ++ ds).head?, c ≠ '\uFEFF' := by
  rintro c hc rfl
  cases cs with
  | cons x cs =>
    obtain rfl := Option.some.inj hc
    cases hcs _ List.mem_cons_self
  | nil =>
    rcases hds with rfl | ⟨more, rfl⟩
    · cases hc
    · cases hc

theorem withoutMark_source (d : Detached) :
    withoutMark d.source = withoutMark d.before ++ (d.line ++ d.after) :=
  withoutMark_append (head_ne_mark d.isBlank d.endsLine) d.before

theorem withoutMark_replaced (d : Detached) :
    withoutMark d.replaced = withoutMark d.before ++ d.tail :=
  withoutMark_append (head_ne_mark d.isBlank_above (.inr ⟨_, rfl⟩)) d.before

/-- The blank line starts here. -/
theorem foldl_after_before (d : Detached) :
    (withoutMark d.before).foldl Place.after {} = ⟨d.row, 0⟩ := by
  have hcount : (withoutMark d.before).count '\n' = d.row := by
    rw [row]
    cases d.before with
    | nil => rfl
    | cons c cs =>
      by_cases hc : c = '\uFEFF'
      · subst hc
        rw [withoutMark, List.count_cons_of_ne (by decide)]
      · rw [withoutMark]
        rintro _ ⟨⟩
        exact hc rfl
  have hcolumn : ((withoutMark d.before).foldl Place.after {}).column = 0 := by
    rcases d.startsLine with h | h
    · rw [h]
      rfl
    · exact (h.foldl_after _).2
  have hrow := Place.row_foldl_after (withoutMark d.before) {}
  rw [hcount] at hrow
  cases hplace : (withoutMark d.before).foldl Place.after {} with
  | mk row column =>
    rw [hplace] at hrow hcolumn
    rw [show column = 0 from hcolumn, show row = 0 + d.row from hrow, Nat.zero_add]

/-- What is inserted closes no block comment. -/
theorem skipBlockComment_tail (hnull : '\x00' ∉ d.text)
    (hopen : d.IsOpen → ¬ ['*', '/'] <:+: d.text) {ts : List Token} {p : Place} {more : List Char}
    (h : Scanned {} (withoutMark d.source) ts p ('/' :: '*' :: (more ++ (d.line ++ d.after))))
    (hmore : IsText more) (hclose : skipBlockComment (more ++ (d.line ++ d.after)) = none) :
    skipBlockComment (more ++ d.tail) = none := by
  have htail (hmore : '\x00' ∉ more) (hrest : skipBlockComment (d.line ++ d.after) = none) :
      skipBlockComment d.tail = none := by
    have htext := hopen ⟨ts, p, more, h, hmore, hclose⟩
    -- below the comment it goes on as below the blank line
    rw [skipBlockComment_blanks d.isBlank] at hrest
    rw [tail, skipBlockComment_blanks d.isBlank_above, skipBlockComment_newline,
      skipBlockComment_blanks d.isBlank_indent, ← List.cons_append, ← List.cons_append,
      skipBlockComment_append, skipBlockComment_blanks d.isBlank_below, hrest]
    · simp only [List.mem_cons, not_or]
      exact ⟨by decide, by decide, hnull⟩
    · simpa [List.infix_cons_iff] using htext
  rcases hmore with rfl | ⟨line, rfl⟩
  · exact htail (by simp) hclose
  · simp only [List.append_assoc, List.singleton_append] at hclose ⊢
    rcases skipBlockComment_cases line with ⟨left, hleft⟩ | ⟨-, hnone⟩ | ⟨hline, hover⟩
    · rw [hleft] at hclose
      cases hclose
    · exact hnone _
    · rw [hover] at hclose ⊢
      exact htail (by simp [hline]) hclose

theorem not_mem_of_blank {cs : List Char} (hcs : ∀ c ∈ cs, isGap c = true) : '\n' ∉ cs :=
  fun hmem => nomatch hcs _ hmem

/-- The tokens that come in the place of the blank line. -/
theorem scanned_inserted (hnull : '\x00' ∉ d.text) :
    Scanned ⟨d.row, 0⟩ d.tail d.inserted ⟨d.row + 2, 0⟩ (d.below ++ d.after) := by
  have hline : '\n' ∉ '/' :: '/' :: d.text := by
    simp only [List.mem_cons, not_or]
    exact ⟨by decide, by decide, d.oneLine⟩
  have htext : ∀ c ∈ d.text, c ≠ '\n' ∧ c ≠ '\x00' := fun c hc =>
    ⟨ne_of_mem_of_not_mem hc d.oneLine, ne_of_mem_of_not_mem hc hnull⟩
  have hend : ('/' :: '/' :: d.text).foldl Place.after ⟨d.row + 1, width d.indent⟩ =
      ⟨d.row + 1, width d.indent + width ('/' :: '/' :: d.text)⟩ := foldl_after hline _ _
  have hcomment :
      Token.of ⟨d.row + 1, width d.indent⟩ .comment ('/' :: '/' :: d.text) = d.comment := by
    rw [Token.of, hend]
    rfl
  have hbelow : Scanned ⟨d.row + 1, 0⟩
      (d.indent ++ '/' :: '/' :: (d.text ++ '\n' :: (d.below ++ d.after)))
      [d.comment, ⟨.lineEnd, "\n", d.row + 1, width d.indent + width ('/' :: '/' :: d.text),
        d.row + 1⟩] ⟨d.row + 2, 0⟩ (d.below ++ d.after) := by
    refine .blanks d.isBlank_indent ?_
    rw [foldl_after (not_mem_of_blank d.isBlank_indent), Nat.zero_add, ← hcomment]
    refine .token (by decide) (matchToken_comment htext _) rfl ?_
    show Scanned (('/' :: '/' :: d.text).foldl Place.after ⟨d.row + 1, width d.indent⟩) _ _ _ _
    rw [hend]
    exact .newline (.done _ _)
  refine .blanks d.isBlank_above ?_
  rw [foldl_after (not_mem_of_blank d.isBlank_above), Nat.zero_add]
  exact .newline hbelow

/-- Tokens below the blank line are only moved down. -/
theorem moved_eq_down {t : Token} (h : d.row < t.row) : d.moved t = t.down 2 := by
  rw [moved, Token.down, if_neg (Nat.ne_of_gt h)]

/-- Below there is nothing, or the end of the blank line comes next. -/
theorem scanned_below {ts : List Token} {q : Place}
    (h : Scanned ⟨d.row, 0⟩ (d.line ++ d.after) ts q []) :
    d.after = [] ∧ ts = [] ∨ ∃ more us, d.after = '\n' :: more ∧
      ts = Token.of ⟨d.row, width d.line⟩ .lineEnd ['\n'] :: us ∧
      Scanned ⟨d.row + 1, 0⟩ more us q [] := by
  have hline := h.of_blanks d.isBlank
  rw [foldl_after (not_mem_of_blank d.isBlank), Nat.zero_add] at hline
  rcases d.endsLine with hafter | ⟨more, hafter⟩
  · rw [hafter] at hline
    exact .inl ⟨hafter, hline.eq_nil⟩
  · rw [hafter] at hline
    obtain ⟨us, rfl, hus⟩ := hline.of_newline
    exact .inr ⟨more, us, hafter, rfl, hus⟩

/-- The tokens below come further down. -/
theorem scanned_moved {ts : List Token} {q : Place}
    (h : Scanned ⟨d.row, 0⟩ (d.line ++ d.after) ts q []) :
    ∃ q', Scanned ⟨d.row + 2, 0⟩ (d.below ++ d.after) (ts.map d.moved) q' [] := by
  have hbelow {us : List Token} {q : Place}
      (h : Scanned ⟨d.row + 2, width d.below⟩ d.after us q []) :
      Scanned ⟨d.row + 2, 0⟩ (d.below ++ d.after) us q [] := by
    refine .blanks d.isBlank_below ?_
    rwa [foldl_after (not_mem_of_blank d.isBlank_below), Nat.zero_add]
  rcases scanned_below h with ⟨hafter, rfl⟩ | ⟨more, us, hafter, rfl, hus⟩
  · refine ⟨⟨d.row + 2, width d.below⟩, hbelow ?_⟩
    rw [hafter]
    exact .done _ []
  · have hmoved : us.map d.moved = us.map (Token.down 2) := by
      refine List.map_congr_left fun t ht => moved_eq_down ?_
      exact (hus.ordered.1 t ht).row_le
    have hfirst : d.moved (Token.of ⟨d.row, width d.line⟩ .lineEnd ['\n']) =
        Token.of ⟨d.row + 2, width d.below⟩ .lineEnd ['\n'] := by
      simp [moved, Token.of]
    refine ⟨q.down 2, hbelow ?_⟩
    rw [List.map_cons, hfirst, hmoved, hafter]
    exact .newline (hus.down 2)

/-! ## All tokens -/

/-- Tokens above the blank line, and tokens at or below it. -/
structure Divides (d : Detached) (us vs : List Token) : Prop where
  /-- The tokens above it are lines. -/
  isLines : IsLines us
  /-- They end above it. -/
  above : ∀ t ∈ us, t.row < d.row ∧ t.endRow < d.row
  /-- The other tokens start at or below it. -/
  below : ∀ t ∈ vs, d.row ≤ t.row

/-- The blank line divides what is scanned up to it from what is scanned behind. -/
theorem divides {us vs : List Token} {q : Place} {rest rest' : List Char}
    (hus : Scanned {} (withoutMark d.before ++ rest) us ⟨d.row, 0⟩ rest)
    (hvs : Scanned ⟨d.row, 0⟩ rest' vs q []) (hreaches : ∀ t ∈ us, ¬ t.Reaches d.row) :
    d.Divides us vs := by
  have hrow : ∀ t ∈ us, t.row < d.row := by
    intro t ht
    have hbefore := hus.place_before t ht
    simp only [Place.Before, Token.place] at hbefore
    omega
  refine ⟨?_, fun t ht => ⟨hrow t ht, ?_⟩, fun t ht => (hvs.ordered.1 t ht).row_le⟩
  · rcases d.startsLine with hbefore | hbefore
    · rw [hbefore] at hus
      exact .inl hus.eq_nil
    · refine .inr (hus.endsLine hbefore ?_)
      rwa [foldl_after_before]
  · cases hline : t.isLineEnd with
    | false => exact Nat.lt_of_not_le fun hle => hreaches t ht ⟨hline, hrow t ht, hle⟩
    | true =>
      have hend : t.endRow = t.row := by
        rw [hus.eq_of t ht, Token.of, if_pos (beq_iff_eq.1 hline)]
      rw [hend]
      exact hrow t ht

/-- What is scanned up to the blank line is scanned with the comment, too. -/
theorem scanned_stays (hnull : '\x00' ∉ d.text) (hopen : d.IsOpen → ¬ ['*', '/'] <:+: d.text)
    {us : List Token}
    (h : Scanned {} (withoutMark d.before ++ (d.line ++ d.after)) us ⟨d.row, 0⟩
      (d.line ++ d.after)) :
    Scanned {} (withoutMark d.before ++ d.tail) us ⟨d.row, 0⟩ d.tail := by
  refine h.append_congr d.startsLine fun ts p more hts hmore hclose => ?_
  rw [← withoutMark_source] at hts
  refine skipBlockComment_tail hnull hopen hts ?_ hclose
  exact d.startsLine.of_suffix (((List.suffix_cons _ _).trans (List.suffix_cons _ _)).trans hmore)

/-- **With the comment the tokens above the blank line stay, and those below it are two rows further
down.** -/
theorem exists_scan_replaced {ts : List Token} (h : Token.scan d.source = .ok ts)
    (hreaches : ∀ t ∈ ts, ¬ t.Reaches d.row) (hnull : '\x00' ∉ d.text)
    (hopen : d.IsOpen → ¬ ['*', '/'] <:+: d.text) :
    ∃ us vs, ts = us ++ vs ∧ d.Divides us vs ∧
      Token.scan d.replaced = .ok (us ++ (d.inserted ++ vs.map d.moved)) := by
  rw [scan_eq] at h
  obtain ⟨q, hscanned⟩ := exists_scanned_of_scanFrom (Nat.le_refl _) h
  rw [withoutMark_source] at hscanned
  rcases hscanned.split d.startsLine with ⟨us, vs, rfl, hus, hvs⟩ | ⟨t, ht, hreach⟩
  · rw [foldl_after_before] at hus hvs
    refine ⟨us, vs, rfl, divides hus hvs fun t ht => hreaches t (List.mem_append_left vs ht), ?_⟩
    obtain ⟨q', hmoved⟩ := scanned_moved hvs
    have hrest := (scanned_inserted hnull).trans hmoved
    rw [scan_eq, withoutMark_replaced]
    exact ((scanned_stays hnull hopen hus).trans hrest).scans _ (Nat.le_refl _)
  · rw [foldl_after_before] at hreach
    exact absurd hreach (hreaches t ht)

end Detached

end Codebook.Go
