import Codebook.Proofs.Sql.Balance
import Codebook.Proofs.Sql.Quoting

/-!
# What is left of a line

A line is read in two parts as one after the other: what is left of the first part does not depend
on the second one, and what is left of the second part depends on the mode after the first one, and
on nothing else.  So blanks at the ends of a line make no difference to its fragment, and the
fragments of a text are those of its lines.

What is here: `modeAfter` and `exists_stripFrom_append`, a line in two parts;
`stripComments_append`, a second part that makes no difference; `fragmentText?_eq_some_iff` and
`mem_fragmentsFrom_iff`, fragments told by the lines; and `Statement.ofBlock?_eq_some_iff`,
statements told by their fragments.
-/

set_option autoImplicit false

namespace Codebook.Sql

open Codebook.Text

/-! ## A line in two parts -/

/-- The mode in which a line is read at its end, from some mode on.  There is none after the mark of
a line comment. -/
def modeAfter : LineMode → List Char → Option LineMode
  | mode, [] => some mode
  | .quoted mark, c :: cs => modeAfter (if c = mark then .plain else .quoted mark) cs
  | .comment afterStar, c :: cs =>
    if afterStar ∧ c = '/' then modeAfter .plain cs else modeAfter (.comment (c == '*')) cs
  | .plain, '-' :: '-' :: _ => none
  | .plain, '/' :: '*' :: cs => modeAfter (.comment false) cs
  | .plain, c :: cs => modeAfter (if isQuoteMark c then .quoted c else .plain) cs

/-- What is left of the first part of a line does not depend on the second part, and the second part
is read in the mode after the first one, if no mark stands across the two. -/
theorem exists_stripFrom_append (mode : LineMode) (cs : List Char) :
    ∃ kept, ∀ ds : List Char, (∀ c ∈ ds.head?, c ≠ '-' ∧ c ≠ '*') →
      stripFrom mode (cs ++ ds) =
        (modeAfter mode cs).elim (some kept) fun m => (stripFrom m ds).map (kept ++ ·) := by
  have hcons {c : Char} {kept ds : List Char} (o : Option LineMode) :
      (o.elim (some kept) fun m => (stripFrom m ds).map (kept ++ ·)).map (c :: ·) =
        o.elim (some (c :: kept)) fun m => (stripFrom m ds).map (c :: kept ++ ·) := by
    cases o with
    | none => rfl
    | some m => exact Option.map_map ..
  fun_induction modeAfter mode cs with
  | case1 mode => exact ⟨[], fun ds _ => Option.map_id'.symm⟩
  | case2 mark c cs ih =>
    obtain ⟨kept, hkept⟩ := ih
    refine ⟨c :: kept, fun ds hds => ?_⟩
    rw [List.cons_append, stripFrom, hkept ds hds, hcons]
  | case3 afterStar c cs hclosed ih =>
    obtain ⟨kept, hkept⟩ := ih
    refine ⟨' ' :: kept, fun ds hds => ?_⟩
    rw [List.cons_append, stripFrom, if_pos hclosed, hkept ds hds, hcons]
  | case4 afterStar c cs hopen ih =>
    obtain ⟨kept, hkept⟩ := ih
    refine ⟨kept, fun ds hds => ?_⟩
    rw [List.cons_append, stripFrom, if_neg hopen, hkept ds hds]
  | case5 cs => exact ⟨[], fun ds _ => rfl⟩
  | case6 cs ih => exact ih
  | case7 c cs hdash hslash ih =>
    obtain ⟨kept, hkept⟩ := ih
    refine ⟨c :: kept, fun ds hds => ?_⟩
    have hsecond (mark : Char) (hmark : mark = '-' ∨ mark = '*') (tail : List Char)
        (htail : cs ++ ds = mark :: tail) : ∃ tail, cs = mark :: tail := by
      cases cs with
      | cons d cs => exact ⟨cs, congrArg (· :: cs) (List.cons.inj htail).1⟩
      | nil =>
        obtain ⟨hdash, hstar⟩ := hds mark (by rw [← List.nil_append ds, htail]; rfl)
        exact absurd hmark (by simp [hdash, hstar])
    rw [List.cons_append, stripFrom, hkept ds hds, hcons]
    · intro tail hc htail
      obtain ⟨tail, htail⟩ := hsecond '-' (.inl rfl) tail htail
      exact hdash tail hc htail
    · intro tail hc htail
      obtain ⟨tail, htail⟩ := hsecond '*' (.inr rfl) tail htail
      exact hslash tail hc htail

/-! ## Second parts that make no difference -/

theorem ne_mark_of_isBlank {c : Char} (h : isBlank c = true) :
    isQuoteMark c = false ∧ c ≠ '-' ∧ c ≠ '/' ∧ c ≠ '*' := by
  refine ⟨?_, ?_, ?_, ?_⟩
  · rw [← Bool.not_eq_true]
    intro hmark
    rw [isBlank_of_isQuoteMark hmark] at h
    cases h
  all_goals
    rintro rfl
    exact absurd h (by decide)

section

variable {mode : LineMode} {line ds : List Char}

/-- What stands at the end of a line makes no difference if it leaves nothing but blanks. -/
theorem stripComments_append (hds : ∀ c ∈ ds.head?, c ≠ '-' ∧ c ≠ '*')
    (h : ∀ mode, modeAfter .plain line = some mode →
      ∃ blanks : List Char, (∀ c ∈ blanks, isBlank c = true) ∧
        stripFrom mode ds = (stripFrom mode []).map (· ++ blanks)) :
    (stripComments (line ++ ds)).map trim = (stripComments line).map trim := by
  obtain ⟨kept, hkept⟩ := exists_stripFrom_append .plain line
  have hnil := hkept [] (by simp)
  rw [List.append_nil] at hnil
  rw [stripComments, stripComments, hkept ds hds, hnil]
  cases hmode : modeAfter .plain line with
  | none => rfl
  | some mode =>
    obtain ⟨blanks, hblanks, hstrip⟩ := h mode hmode
    have htrim (s : List Char) : trim (kept ++ (s ++ blanks)) = trim (kept ++ s) := by
      rw [← List.append_assoc, trim_append_blanks hblanks]
    simp only [Option.elim_some, hstrip, Option.map_map, Function.comp_def, htrim]

/-- Blanks at the end of a line are left, if anything is. -/
theorem stripFrom_blanks (h : ∀ c ∈ ds, isBlank c = true) :
    stripFrom mode ds = (stripFrom mode []).map (· ++ ds) := by
  induction ds generalizing mode with
  | nil => cases mode <;> rfl
  | cons c ds ih =>
    have hrest {mode : LineMode} : stripFrom mode ds = (stripFrom mode []).map (· ++ ds) :=
      ih fun x hx => h x (List.mem_cons_of_mem c hx)
    obtain ⟨hquote, hdash, hslash, -⟩ := ne_mark_of_isBlank (h c List.mem_cons_self)
    cases mode with
    | plain =>
      show stripFrom .plain (c :: ds) = some (c :: ds)
      rw [stripFrom, hquote, if_neg Bool.false_ne_true, hrest]
      · rfl
      · exact fun _ hc => absurd hc hdash
      · exact fun _ hc => absurd hc hslash
    | quoted mark =>
      show stripFrom (.quoted mark) (c :: ds) = some (c :: ds)
      rw [stripFrom, hrest]
      split <;> rfl
    | comment afterStar =>
      show stripFrom (.comment afterStar) (c :: ds) = none
      rw [stripFrom, if_neg fun hclosed => hslash hclosed.2, hrest]
      rfl

theorem stripComments_append_blanks (h : ∀ c ∈ ds, isBlank c = true) :
    (stripComments (line ++ ds)).map trim = (stripComments line).map trim := by
  refine stripComments_append (fun c hc => ?_) fun mode _ => ⟨ds, h, stripFrom_blanks h⟩
  obtain ⟨-, hdash, -, hstar⟩ := ne_mark_of_isBlank (h c (List.mem_of_head? hc))
  exact ⟨hdash, hstar⟩

/-- A line may as well be trimmed only once. -/
theorem stripComments_trim (line : List Char) :
    (stripComments (trim line)).map trim = (stripComments line).map trim := by
  obtain ⟨before, after, heq, hbefore, hafter⟩ := exists_trimWhile_append isBlank line
  have hkept : Kept before := Kept.plain fun c hc =>
    have hc := ne_mark_of_isBlank (hbefore c hc)
    ⟨hc.1, hc.2.1, hc.2.2.1⟩
  calc (stripComments (trim line)).map trim
      = (stripComments (trim line)).map fun s => trim (before ++ s) := by
        simp only [trim_blanks_append hbefore]
    _ = (stripComments (before ++ trim line)).map trim := by
        rw [stripComments, stripComments, hkept, Option.map_map]
        rfl
    _ = (stripComments (before ++ trim line ++ after)).map trim :=
        (stripComments_append_blanks hafter).symm
    _ = (stripComments line).map trim := by rw [trim, ← heq]

end

/-! ## Fragments -/

/-- A fragment is what is left of a line without its comments, trimmed, if there is anything. -/
theorem fragmentText?_eq_some_iff {line text : List Char} :
    fragmentText? line = some text ↔
      text ≠ [] ∧ ∃ stripped, stripComments line = some stripped ∧ trim stripped = text := by
  rw [← Option.map_eq_some_iff, fragmentText?, stripComments_trim]
  cases (stripComments line).map trim with
  | none => simp
  | some left => cases left <;> cases text <;> simp

/-- The fragment of a line is told by what is left of it, up to blanks. -/
theorem fragmentText?_congr {line line' : List Char}
    (h : (stripComments line).map trim = (stripComments line').map trim) :
    fragmentText? line = fragmentText? line' := by
  rw [fragmentText?, fragmentText?, stripComments_trim, stripComments_trim, h]

/-- The fragments come from the lines one by one, each with the number of its line. -/
theorem fragmentsFrom_eq (n : Nat) (lines : List (List Char)) :
    fragmentsFrom n lines = (lines.zipIdx n).filterMap fun x =>
      (fragmentText? x.1).map fun text => ⟨x.2, text⟩ := by
  induction lines generalizing n with
  | nil => rfl
  | cons line lines ih =>
    rw [fragmentsFrom, List.zipIdx_cons, List.filterMap_cons, ih]
    cases fragmentText? line <;> rfl

/-- A fragment is that of the line with its number. -/
theorem mem_fragmentsFrom_iff {n : Nat} {lines : List (List Char)} {f : Fragment} :
    f ∈ fragmentsFrom n lines ↔
      n ≤ f.line ∧ ∃ line, lines[f.line - n]? = some line ∧ fragmentText? line = some f.text := by
  obtain ⟨number, text⟩ := f
  rw [fragmentsFrom_eq, List.mem_filterMap]
  simp only [Option.map_eq_some_iff, Fragment.mk.injEq, Prod.exists]
  constructor
  · rintro ⟨line, i, hmem, _, htext, rfl, rfl⟩
    obtain ⟨hle, hline⟩ := List.mk_mem_zipIdx_iff_le_and_getElem?_sub.1 hmem
    exact ⟨hle, line, hline, htext⟩
  · rintro ⟨hle, line, hline, htext⟩
    exact ⟨line, number, List.mk_mem_zipIdx_iff_le_and_getElem?_sub.2 ⟨hle, hline⟩, text, htext,
      rfl, rfl⟩

/-- Each fragment stands on a later line than the one before it. -/
theorem pairwise_line_fragmentsFrom (n : Nat) (lines : List (List Char)) :
    (fragmentsFrom n lines).Pairwise fun f g => f.line < g.line := by
  induction lines generalizing n with
  | nil => exact List.Pairwise.nil
  | cons line lines ih =>
    rw [fragmentsFrom]
    cases fragmentText? line with
    | none => exact ih (n + 1)
    | some text =>
      exact List.pairwise_cons.2 ⟨fun f hf => (mem_fragmentsFrom_iff.1 hf).1, ih (n + 1)⟩

theorem isTrimmed_of_mem_fragments {text : List Char} {f : Fragment} (h : f ∈ fragments text) :
    f.text ≠ [] ∧ IsTrimmed f.text := by
  obtain ⟨-, line, -, hline⟩ := mem_fragmentsFrom_iff.1 h
  obtain ⟨hne, stripped, -, htrim⟩ := fragmentText?_eq_some_iff.1 hline
  exact ⟨hne, htrim ▸ isTrimmed_trim stripped⟩

/-! ## Statements -/

theorem mem_fragments_of_mem_blocks {fs block : List Fragment} (h : block ∈ blocks fs)
    {f : Fragment} (hf : f ∈ block) : f ∈ fs := by
  rw [← flatten_blocks fs]
  exact List.mem_flatten.2 ⟨block, h, hf⟩

/-- A block becomes a statement with its text, its kind, and the line of its first fragment. -/
theorem Statement.ofBlock?_eq_some_iff {block : List Fragment} {s : Statement} :
    Statement.ofBlock? block = some s ↔
      StatementKind.classify (blockText block) = some s.kind ∧ s.text.toList = blockText block ∧
        block.head?.map Fragment.line = some s.line := by
  obtain ⟨kind, text, line⟩ := s
  cases block with
  | nil => simp [ofBlock?]
  | cons f fs =>
    have htext : text.toList = blockText (f :: fs) ↔ String.ofList (blockText (f :: fs)) = text :=
      ⟨fun h => by rw [← h, String.ofList_toList], fun h => by rw [← h, String.toList_ofList]⟩
    rw [ofBlock?, htext]
    simp only [Option.map_eq_some_iff, Statement.mk.injEq, List.head?_cons, Option.map_some,
      Option.some.injEq]
    constructor
    · rintro ⟨_, hkind, rfl, hrest⟩
      exact ⟨hkind, hrest⟩
    · rintro ⟨hkind, hrest⟩
      exact ⟨kind, hkind, rfl, hrest⟩

theorem Statement.mem_split_iff {text : List Char} {s : Statement} :
    s ∈ Statement.split text ↔
      ∃ block ∈ blocks (fragments text), Statement.ofBlock? block = some s := by
  rw [split, List.mem_filterMap]

end Codebook.Sql
