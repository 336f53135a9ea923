import Codebook.Proofs.Schema.Seam
import Codebook.Proofs.Sql.Fragment

/-!
# Comments make no difference

A comment may stand on a line of its own or at the end of a line, and the statements of the text are
the same as without it.  There is one place where `--` starts no comment: after a quotation that is
open at the end of the line.  And a comment that is added to a line with an open block comment may
not close it.

What is here: `fragmentText?_lineComment`, comments at the ends of lines; `IsDropped`, lines of
which nothing is left; and `Statement.split_comments`.
-/

set_option autoImplicit false

namespace Codebook.Sql

open Codebook.Text

/-! ## Comments at the ends of lines -/

section

variable {mode : LineMode} {line ds after : List Char}

/-- A block comment that is not closed leaves nothing of the line. -/
theorem stripFrom_comment_eq_none {afterStar : Bool}
    (h : ¬ ['*', '/'] <:+: if afterStar then '*' :: ds else ds) :
    stripFrom (.comment afterStar) ds = none := by
  induction ds generalizing afterStar with
  | nil => rfl
  | cons c ds ih =>
    have hopen : ¬ (afterStar = true ∧ c = '/') := by
      rintro ⟨rfl, rfl⟩
      exact h ⟨[], ds, rfl⟩
    rw [stripFrom, if_neg hopen]
    refine ih fun hinfix => h ?_
    have htail : ['*', '/'] <:+: c :: ds := by
      by_cases hc : c = '*'
      · rw [if_pos (beq_iff_eq.2 hc)] at hinfix
        rwa [hc]
      · rw [if_neg (by simpa using hc)] at hinfix
        exact List.infix_cons hinfix
    split
    · exact List.infix_cons htail
    · exact htail

/-- A line comment leaves a blank, outside of quotations. -/
theorem stripFrom_lineComment (hmode : ∀ mark, mode ≠ .quoted mark)
    (h : ¬ ['*', '/'] <:+: ds) :
    stripFrom mode (' ' :: '-' :: '-' :: ' ' :: ds) = (stripFrom mode []).map (· ++ [' ']) := by
  cases mode with
  | plain => rfl
  | quoted mark => exact absurd rfl (hmode mark)
  | comment afterStar =>
    refine stripFrom_comment_eq_none ?_
    cases afterStar <;> simpa [List.infix_cons_iff] using h

/-- A line comment at the end of a line makes no difference. -/
theorem fragmentText?_lineComment (hblanks : ∀ c ∈ after, isBlank c = true)
    (hquote : ∀ mark, modeAfter .plain line ≠ some (.quoted mark)) (h : ¬ ['*', '/'] <:+: ds) :
    fragmentText? (line ++ " -- ".toList ++ ds ++ after) = fragmentText? (line ++ after) := by
  refine fragmentText?_congr ?_
  rw [stripComments_append_blanks hblanks, stripComments_append_blanks hblanks, List.append_assoc]
  refine stripComments_append (fun c hc => ?_) fun mode hmode => ⟨[' '], by decide, ?_⟩
  · obtain rfl := Option.some.inj hc
    decide
  · refine stripFrom_lineComment (fun mark hmark => ?_) h
    exact hquote mark (hmark ▸ hmode)

end

/-! ## Lines of which nothing is left -/

/-- A line that is blank, a line comment, or opens a block comment and does not close it. -/
inductive IsDropped : List Char → Prop
  | blank {line : List Char} (h : ∀ c ∈ line, isBlank c = true) : IsDropped line
  | lineComment {line : List Char} (h : ['-', '-'] <+: trim line) : IsDropped line
  | openComment {before after : List Char} (hbefore : modeAfter .plain before = some .plain)
      (hafter : ¬ ['*', '/'] <:+: after) : IsDropped (before ++ '/' :: '*' :: after)

theorem IsDropped.fragmentText?_eq_none {line : List Char} (h : IsDropped line) :
    fragmentText? line = none := by
  cases h with
  | blank h =>
    have htrim : trim ([] ++ line) = trim [] := trim_append_blanks h
    rw [← List.nil_append line, fragmentText?, htrim]
    rfl
  | lineComment h =>
    obtain ⟨rest, hrest⟩ := h
    rw [fragmentText?, ← hrest]
    rfl
  | @openComment before after hbefore hafter =>
    obtain ⟨kept, hkept⟩ := exists_stripFrom_append .plain before
    have hstrip : stripComments (before ++ '/' :: '*' :: after) = none := by
      rw [stripComments, hkept _ (by simp), hbefore]
      show (stripFrom (.comment false) after).map _ = none
      rw [stripFrom_comment_eq_none (by simpa using hafter)]
      rfl
    rw [fragmentText?, stripComments_trim, hstrip]
    rfl

/-! ## Texts -/

/-- The number of a line after a new one below so many others. -/
def numberBelow (k n : Nat) : Nat := if k < n then n + 1 else n

/-- A line of which nothing is left only counts. -/
theorem fragmentsFrom_insert {line : List Char} (h : fragmentText? line = none)
    (above below : List (List Char)) :
    fragmentsFrom 1 (above ++ line :: below) =
      (fragmentsFrom 1 (above ++ below)).map (Fragment.renumber (numberBelow above.length)) := by
  have habove : fragmentsFrom 1 above =
      (fragmentsFrom 1 above).map (Fragment.renumber (numberBelow above.length)) := by
    refine (List.map_id _).symm.trans (List.map_congr_left fun f hf => ?_)
    obtain ⟨hpos, _, hline, -⟩ := mem_fragmentsFrom_iff.1 hf
    have hlt := (List.getElem?_eq_some_iff.1 hline).1
    rw [id, Fragment.renumber, numberBelow, if_neg (by omega)]
  have hbelow : fragmentsFrom (1 + above.length + 1) below =
      (fragmentsFrom (1 + above.length) below).map
        (Fragment.renumber (numberBelow above.length)) := by
    rw [fragmentsFrom_add]
    refine List.map_congr_left fun f hf => ?_
    have hle := (mem_fragmentsFrom_iff.1 hf).1
    rw [Fragment.down, Fragment.renumber, numberBelow, if_pos (by omega)]
  rw [fragmentsFrom_append, fragmentsFrom_append, List.map_append, ← habove, ← hbelow,
    fragmentsFrom, h]

/-- The fragments of lines are told by the fragments of each. -/
theorem fragmentsFrom_replace {line line' : List Char}
    (h : fragmentText? line' = fragmentText? line) (n : Nat) (above below : List (List Char)) :
    fragmentsFrom n (above ++ line' :: below) = fragmentsFrom n (above ++ line :: below) := by
  rw [fragmentsFrom_append, fragmentsFrom_append, fragmentsFrom, fragmentsFrom, h]

/-- **Comments make no difference to the statements of a text.**  A line that is blank, a line
comment, or opens a block comment without closing it, may be put between any lines: the statements
are the same, and those that start below it do so one line further down.  A line comment may be put
at the end of any line, before the blanks there or after them, if no quotation is open: the
statements are the same, on the same lines.  The comment may be of any characters, but for a line
feed and the mark that closes a block comment. -/
theorem Statement.split_comments (text : List Char) :
    (∀ (above below : List (List Char)) (line : List Char), cutLines text = above ++ below →
      '\n' ∉ line → IsDropped line →
        Statement.split (joinWith ['\n'] (above ++ line :: below)) =
          (Statement.split text).map (Statement.renumber (numberBelow above.length))) ∧
    ∀ (above below : List (List Char)) (line blanks c : List Char),
      cutLines text = above ++ (line ++ blanks) :: below → (∀ x ∈ blanks, isBlank x = true) →
      (∀ mark, modeAfter .plain line ≠ some (.quoted mark)) → '\n' ∉ c → ¬ ['*', '/'] <:+: c →
        Statement.split
            (joinWith ['\n'] (above ++ (line ++ " -- ".toList ++ c ++ blanks) :: below)) =
          Statement.split text := by
  have hlines {lines : List (List Char)} (h : cutLines text = lines) :
      ∀ line ∈ lines, '\n' ∉ line := fun _ hline => newline_not_mem_of_mem_cutLines (h ▸ hline)
  constructor
  · intro above below line hcut hline hdropped
    have hall : ∀ l ∈ above ++ line :: below, '\n' ∉ l := by
      have hold := hlines hcut
      rw [List.forall_mem_append] at hold ⊢
      exact ⟨hold.1, List.forall_mem_cons.2 ⟨hline, hold.2⟩⟩
    have hfragments : fragments (joinWith ['\n'] (above ++ line :: below)) =
        (fragments text).map (Fragment.renumber (numberBelow above.length)) := by
      rw [fragments, cutLines_joinWith (by simp) hall,
        fragmentsFrom_insert hdropped.fragmentText?_eq_none, ← hcut]
      rfl
    rw [split, hfragments, filterMap_blocks_renumber]
    rfl
  · intro above below line blanks c hcut hblanks hquote hc hclose
    have hall : ∀ l ∈ above ++ (line ++ " -- ".toList ++ c ++ blanks) :: below, '\n' ∉ l := by
      have hold := hlines hcut
      rw [List.forall_mem_append, List.forall_mem_cons, List.mem_append, not_or] at hold
      obtain ⟨habove, ⟨hline, hblanks⟩, hbelow⟩ := hold
      refine List.forall_mem_append.2 ⟨habove, List.forall_mem_cons.2 ⟨?_, hbelow⟩⟩
      simp [hline, hblanks, hc]
    have hfragments : fragments (joinWith ['\n']
        (above ++ (line ++ " -- ".toList ++ c ++ blanks) :: below)) = fragments text := by
      rw [fragments, cutLines_joinWith (by simp) hall,
        fragmentsFrom_replace (fragmentText?_lineComment hblanks hquote hclose), ← hcut]
      rfl
    rw [split, hfragments]
    rfl

/-- Outside of quotations is needed: what is quoted at the end of a line has its `--` kept. -/
example :
    Statement.split "COMMENT ON TABLE t IS 'a -- b\nc';".toList =
      [⟨.commentOn, "COMMENT ON TABLE t IS 'a -- b c';", 1⟩] := by decide

/-- The first lines of a statement, one of which opens a block comment. -/
def upperLines : List (List Char) := ["CREATE TABLE t (\r".toList, "  a text, /* open".toList]

/-- The other lines of the statement, and another statement without a semicolon. -/
def lowerLines : List (List Char) :=
  ["  b int DEFAULT '/*' /* it's */".toList, ");".toList, "COMMENT ON TABLE t IS '--'".toList]

/-- A line that opens a block comment. -/
def openedLine : List Char := "'x' ".toList ++ '/' :: '*' :: " ; it's /* -- ;\r".toList

/-- The first line with a line comment before the carriage return. -/
def endedLine : List Char :=
  "CREATE TABLE t (".toList ++ " -- ".toList ++ "; it's /*".toList ++ "\r".toList

/-- The statements are the same with the one line between, and with the other in place of the first
one. -/
theorem split_comments_upperLines :
    Statement.split (joinWith ['\n'] (upperLines ++ lowerLines)) =
        [⟨.createTable, "CREATE TABLE t ( b int DEFAULT '/*' );", 1⟩,
          ⟨.commentOn, "COMMENT ON TABLE t IS '--';", 5⟩] ∧
      Statement.split (joinWith ['\n'] (upperLines ++ openedLine :: lowerLines)) =
        [⟨.createTable, "CREATE TABLE t ( b int DEFAULT '/*' );", 1⟩,
          ⟨.commentOn, "COMMENT ON TABLE t IS '--';", 6⟩] ∧
      Statement.split (joinWith ['\n'] (endedLine :: (upperLines.tail ++ lowerLines))) =
        Statement.split (joinWith ['\n'] (upperLines ++ lowerLines)) := by
  have hsplit : Statement.split (joinWith ['\n'] (upperLines ++ lowerLines)) =
      [⟨.createTable, "CREATE TABLE t ( b int DEFAULT '/*' );", 1⟩,
        ⟨.commentOn, "COMMENT ON TABLE t IS '--';", 5⟩] := by decide
  obtain ⟨hline, hcomment⟩ := Statement.split_comments (joinWith ['\n'] (upperLines ++ lowerLines))
  have hopens : IsDropped openedLine :=
    .openComment (by decide) (by simp [List.infix_cons_iff])
  have hinserted := hline upperLines lowerLines openedLine (by decide) (by decide) hopens
  have hplain : modeAfter .plain "CREATE TABLE t (".toList = some .plain := by decide
  have hended := hcomment [] (upperLines.tail ++ lowerLines) "CREATE TABLE t (".toList "\r".toList
    "; it's /*".toList (by decide) (by decide) (by rw [hplain]; simp) (by decide)
    (by simp [List.infix_cons_iff])
  rw [hsplit] at hinserted
  exact ⟨hsplit, hinserted, hended⟩

end Codebook.Sql
