import Codebook.Proofs.Schema.Seam
import Codebook.Proofs.Sql.Balance
import Codebook.Proofs.Sql.Line

/-!
# Statements on several lines

The lines of a statement are put on one line, with a space for each line break and the blanks around
it.  The lines are looked at one by one: what is quoted at the end of a line is forgotten at the
start of the next one, and a line that ends in a semicolon ends the statement, in quotes or not.

What is here: `opensComment`, whether something of a line is cut out; and `split_of_lines`, the
statement of some lines of which nothing is cut out.
-/

set_option autoImplicit false

namespace Codebook.Sql

open Codebook.Text

/-! ## Comments on a line -/

/-- Whether the mark of a comment stands outside of quotations, where a quotation is open at first
or not. -/
def opensComment : Option Char → List Char → Bool
  | _, [] => false
  | some mark, c :: cs => opensComment (if c = mark then none else some mark) cs
  | none, '-' :: '-' :: _ => true
  | none, '/' :: '*' :: _ => true
  | none, c :: cs => opensComment (if isQuoteMark c then some c else none) cs

/-- The mode of reading a line in which a quotation is open or not. -/
def LineMode.ofQuote : Option Char → LineMode
  | none => plain
  | some mark => quoted mark

/-- Whether two characters make the mark of a comment. -/
def isCommentMark (c : Char) (next : Option Char) : Bool :=
  (c == '-' && next == some '-') || (c == '/' && next == some '*')

/-- One step outside of quotations. -/
theorem opensComment_cons (c : Char) (cs : List Char) :
    opensComment none (c :: cs) =
      (isCommentMark c cs.head? || opensComment (if isQuoteMark c then some c else none) cs) := by
  by_cases hdash : ∃ tail, c = '-' ∧ cs = '-' :: tail
  · obtain ⟨tail, rfl, rfl⟩ := hdash
    rfl
  by_cases hslash : ∃ tail, c = '/' ∧ cs = '*' :: tail
  · obtain ⟨tail, rfl, rfl⟩ := hslash
    rfl
  have hmark : isCommentMark c cs.head? = false := by
    rw [isCommentMark, Bool.or_eq_false_iff, Bool.and_eq_false_imp, Bool.and_eq_false_imp]
    constructor
    · intro hc
      rw [beq_eq_false_iff_ne, ne_eq, List.head?_eq_some_iff]
      exact fun ⟨tail, hcs⟩ => hdash ⟨tail, beq_iff_eq.1 hc, hcs⟩
    · intro hc
      rw [beq_eq_false_iff_ne, ne_eq, List.head?_eq_some_iff]
      exact fun ⟨tail, hcs⟩ => hslash ⟨tail, beq_iff_eq.1 hc, hcs⟩
  rw [opensComment, hmark, Bool.false_or]
  · exact fun tail hc hcs => hdash ⟨tail, hc, hcs⟩
  · exact fun tail hc hcs => hslash ⟨tail, hc, hcs⟩

theorem opensComment_quoted (mark c : Char) (cs : List Char) :
    opensComment (some mark) (c :: cs) =
      opensComment (if c = mark then none else some mark) cs := by
  rw [opensComment]

section

variable {quote : Option Char} {cs ds : List Char}

/-- A line without such marks is left as it is. -/
theorem stripFrom_of_opensComment (h : opensComment quote cs = false) :
    stripFrom (.ofQuote quote) cs = some cs := by
  fun_induction opensComment quote cs with
  | case1 quote => cases quote <;> rfl
  | case2 mark c cs ih =>
    have hmode : (if c = mark then LineMode.plain else .quoted mark) =
        .ofQuote (if c = mark then none else some mark) := by split <;> rfl
    rw [LineMode.ofQuote, stripFrom, hmode, ih h, Option.map_some]
  | case3 => cases h
  | case4 => cases h
  | case5 c cs hdash hslash ih =>
    have hmode : (if isQuoteMark c then LineMode.quoted c else .plain) =
        .ofQuote (if isQuoteMark c then some c else none) := by split <;> rfl
    rw [LineMode.ofQuote, stripFrom, hmode, ih h, Option.map_some]
    · exact hdash
    · exact hslash

/-- What stands later on a line makes no mark of a comment before it go away. -/
theorem opensComment_of_append (h : opensComment quote (cs ++ ds) = false) :
    opensComment quote cs = false := by
  induction cs generalizing quote with
  | nil => cases quote <;> rfl
  | cons c cs ih =>
    cases quote with
    | some mark =>
      rw [List.cons_append, opensComment_quoted] at h
      rw [opensComment_quoted, ih h]
    | none =>
      rw [List.cons_append, opensComment_cons, Bool.or_eq_false_iff] at h
      rw [opensComment_cons, ih h.2, Bool.or_false]
      cases cs with
      | nil => simp [isCommentMark]
      | cons d cs => exact h.1

/-- A line may be continued without a comment where none may start and no mark is completed. -/
theorem opensComment_append (h : opensComment quote cs = false)
    (hds : ∀ q, opensComment q ds = false) (hhead : ∀ c ∈ ds.head?, c ≠ '-' ∧ c ≠ '*') :
    opensComment quote (cs ++ ds) = false := by
  induction cs generalizing quote with
  | nil => exact hds quote
  | cons c cs ih =>
    cases quote with
    | some mark =>
      rw [opensComment_quoted] at h
      rw [List.cons_append, opensComment_quoted, ih h]
    | none =>
      rw [opensComment_cons, Bool.or_eq_false_iff] at h
      rw [List.cons_append, opensComment_cons, ih h.2, Bool.or_false]
      cases cs with
      | cons d cs => exact h.1
      | nil =>
        rw [List.nil_append]
        cases ds with
        | nil => exact h.1
        | cons d ds =>
          obtain ⟨hdash, hstar⟩ := hhead d rfl
          simp [isCommentMark, hdash, hstar]

/-- A line that is not blank and has no such mark is a fragment as a whole. -/
theorem fragmentText?_of_opensComment (h : opensComment none cs = false) (hne : trim cs ≠ []) :
    fragmentText? cs = some (trim cs) :=
  fragmentText?_eq_some_iff.2 ⟨hne, cs,
    show stripFrom (.ofQuote none) cs = _ from stripFrom_of_opensComment h, rfl⟩

end

/-- Within its quotation a text with all marks of it written twice opens no comment. -/
theorem opensComment_doubled {mark : Char} (hmark : isQuoteMark mark = true) (s : List Char) :
    opensComment (some mark) (doubled mark false s) = false := by
  induction s with
  | nil => rfl
  | cons c s ih =>
    by_cases hc : c = mark
    · subst hc
      have hnone : ∀ next, isCommentMark c next = false := by
        intro next
        have hne : c ≠ '-' ∧ c ≠ '/' := by
          constructor <;> rintro rfl <;> exact absurd hmark (by decide)
        simp [isCommentMark, hne.1, hne.2]
      rw [doubled_cons_of_twice (.inl rfl), opensComment_quoted, if_pos rfl, opensComment_cons,
        hnone, hmark, Bool.false_or, if_pos rfl, ih]
    · rw [doubled_cons_of_once (by simpa using hc), opensComment_quoted, if_neg hc, ih]

/-! ## Blocks of lines -/

/-- Fragments before one that ends in a semicolon, or is the last one, are in its block. -/
theorem blocks_concat {fs : List Fragment} (h : ∀ f ∈ fs, endsInSemicolon f.text = false)
    (f : Fragment) : blocks (fs ++ [f]) = [fs ++ [f]] := by
  induction fs with
  | nil =>
    rw [List.nil_append, blocks]
    split <;> rfl
  | cons g fs ih =>
    rw [List.cons_append, blocks, h g List.mem_cons_self, if_neg Bool.false_ne_true,
      ih fun x hx => h x (List.mem_cons_of_mem _ hx)]

/-- The fragments of lines that are fragments as a whole. -/
theorem fragmentsFrom_of_forall {lines : List (List Char)}
    (h : ∀ line ∈ lines, fragmentText? line = some (trim line)) (n : Nat) :
    fragmentsFrom n lines = (lines.zipIdx n).map fun x => ⟨x.2, trim x.1⟩ := by
  induction lines generalizing n with
  | nil => rfl
  | cons line lines ih =>
    rw [fragmentsFrom, h line List.mem_cons_self]
    exact congrArg (_ :: ·) (ih (fun x hx => h x (List.mem_cons_of_mem _ hx)) (n + 1))

/-- Lines on one line, with a space for each line break and the blanks around it. -/
def onOneLine (lines : List (List Char)) : List Char := joinWith [' '] (lines.map trim)

/-- A joined text ends where its last part ends. -/
theorem getLast?_joinWith_concat (sep : List Char) (parts : List (List Char)) {last : List Char}
    (hlast : last ≠ []) : (joinWith sep (parts ++ [last])).getLast? = last.getLast? := by
  induction parts with
  | nil => rfl
  | cons part parts ih =>
    rw [List.cons_append, joinWith, List.getLast?_append, ih]
    · rw [List.getLast?_eq_some_getLast hlast]
      rfl
    · simp

section

variable {lines : List (List Char)} {last : List Char}
  (hlines : ∀ line ∈ lines ++ [last], '\n' ∉ line ∧ fragmentText? line = some (trim line))

include hlines

/-- The fragments of such lines. -/
theorem fragments_joinWith :
    fragments (joinWith ['\n'] (lines ++ [last])) =
      ((lines.zipIdx 1).map fun x => ⟨x.2, trim x.1⟩) ++ [⟨lines.length + 1, trim last⟩] := by
  rw [fragments, cutLines_joinWith (by simp) fun line hline => (hlines line hline).1,
    fragmentsFrom_of_forall fun line hline => (hlines line hline).2, List.zipIdx_append,
    List.map_append, Nat.add_comm 1]
  rfl

variable (hend : endsInSemicolon (trim last) = true)

include hend

/-- After the last line the next statement starts. -/
theorem closed_fragments_joinWith : Closed (fragments (joinWith ['\n'] (lines ++ [last]))) := by
  intro f hf
  rw [fragments_joinWith hlines, List.getLast?_concat] at hf
  obtain rfl := Option.some.inj hf
  exact hend

/-- **Lines of which only the last one ends in a semicolon are one statement.** -/
theorem split_of_lines (hopen : ∀ line ∈ lines, endsInSemicolon (trim line) = false)
    {kind : StatementKind}
    (hkind : StatementKind.classify (onOneLine (lines ++ [last])) = some kind) :
    Statement.split (joinWith ['\n'] (lines ++ [last])) =
      [⟨kind, String.ofList (onOneLine (lines ++ [last])), 1⟩] := by
  have hne : trim last ≠ [] := by
    intro hnil
    rw [hnil] at hend
    cases hend
  have htext : blockText (fragments (joinWith ['\n'] (lines ++ [last]))) =
      onOneLine (lines ++ [last]) := by
    have hmap : (fragments (joinWith ['\n'] (lines ++ [last]))).map Fragment.text =
        (lines ++ [last]).map trim := by
      rw [fragments_joinWith hlines, List.map_append, List.map_map, List.map_append]
      refine congrArg (· ++ [trim last]) ?_
      exact (List.map_map (g := trim) (f := Prod.fst)).symm.trans
        (congrArg (List.map trim) (List.zipIdx_map_fst 1 lines))
    have hlast : endsInSemicolon (onOneLine (lines ++ [last])) = true := by
      rw [endsInSemicolon, onOneLine, List.map_append, List.map_singleton,
        getLast?_joinWith_concat _ _ hne]
      exact hend
    simp only [blockText, hmap]
    rw [← onOneLine, if_pos hlast]
  have hblocks : blocks (fragments (joinWith ['\n'] (lines ++ [last]))) =
      [fragments (joinWith ['\n'] (lines ++ [last]))] := by
    rw [fragments_joinWith hlines]
    refine blocks_concat (fun f hf => ?_) _
    obtain ⟨x, hx, rfl⟩ := List.mem_map.1 hf
    exact hopen x.1 (List.fst_mem_of_mem_zipIdx hx)
  obtain ⟨f, fs, hfs, hline⟩ : ∃ f fs, fragments (joinWith ['\n'] (lines ++ [last])) = f :: fs ∧
      f.line = 1 := by
    rw [fragments_joinWith hlines]
    cases lines with
    | nil => exact ⟨_, _, rfl, rfl⟩
    | cons line lines => exact ⟨_, _, rfl, rfl⟩
  rw [hfs] at htext
  rw [Statement.split, hblocks, hfs, List.filterMap_cons, Statement.ofBlock?]
  simp only [htext, hkind, hline, Option.map_some, List.filterMap_nil]

end

end Codebook.Sql
