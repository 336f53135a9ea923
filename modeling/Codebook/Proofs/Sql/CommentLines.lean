import Codebook.Proofs.Sql.Folding

/-!
# A quoted text on several lines

The text of a comment may go on over several lines.  The statement is then put on one line as it is
meant, also where a line of the text has the mark of a comment within quotes of that line.  Only
the end of a statement is not told from the end of a line: where a line of the text ends in a
semicolon, the statement ends there, and a new one starts with the next line.

The main statement is `split_commentLines`.
-/

set_option autoImplicit false

namespace Codebook.Sql

open Codebook.Text

/-- The lines of a comment whose quoted text has a first line, some in the middle, and a last
one. -/
def commentLines (first : List Char) (middle : List (List Char)) (last : List Char) :
    List (List Char) :=
  ("COMMENT ON TABLE t IS '".toList ++ first) :: (middle ++ [last ++ "';".toList])

section

variable {first last s : List Char} {middle : List (List Char)}

/-- The kind of the statement is told by its first line. -/
theorem classify_onOneLine (first : List Char) (rest : List (List Char)) :
    StatementKind.classify (onOneLine (("COMMENT ON TABLE t IS '".toList ++ first) :: rest)) =
      some .commentOn := by
  obtain ⟨ds, after, rfl, hlast, hafter⟩ := exists_append_blanks first
  have htrimmed : IsTrimmed ("COMMENT ON TABLE t IS '".toList ++ ds) := by
    constructor
    · intro c hc
      obtain rfl : 'C' = c := Option.some.inj hc
      decide
    · intro c hc
      rw [Option.mem_def, List.getLast?_append, Option.or_eq_some_iff] at hc
      rcases hc with hc | ⟨-, hc⟩
      · exact hlast c hc
      · obtain rfl : '\'' = c := Option.some.inj hc
        decide
  have htrim := trim_append htrimmed (show ∀ c ∈ [], isBlank c = true by simp) hafter
  rw [List.nil_append, List.append_assoc] at htrim
  rw [onOneLine, List.map_cons, htrim, joinWith_cons, List.append_assoc]
  exact classify_keywords (by decide : IsIdentifier "COMMENT".toList)
    (by decide : IsIdentifier "ON".toList) ["TABLE", "t", "IS"] ('\'' :: _)

/-- Nothing is cut out of the first line. -/
theorem opensComment_first {rest : List Char} (hs : first ++ rest = doubled '\'' false s) :
    opensComment none ("COMMENT ON TABLE t IS '".toList ++ first) = false := by
  have hquoted := opensComment_doubled (by decide : isQuoteMark '\'' = true) s
  rw [← hs] at hquoted
  exact show opensComment (some '\'') first = false from opensComment_of_append hquoted

/-- Nothing is cut out of the last line, if there is no mark of a comment in the text. -/
theorem opensComment_last (h : opensComment none last = false) :
    opensComment none (last ++ "';".toList) = false := by
  refine opensComment_append h (fun q => ?_) (by decide)
  cases q with
  | none => rfl
  | some mark =>
    show opensComment (some mark) ['\'', ';'] = false
    rw [opensComment_quoted]
    split <;> rfl

theorem endsInSemicolon_last (last : List Char) :
    endsInSemicolon (trim (last ++ "';".toList)) = true := by
  have hlast : (last ++ "';".toList).getLast? = some ';' := by
    rw [List.getLast?_append]
    rfl
  rw [endsInSemicolon, trim, getLast?_trimWhile hlast (by decide)]
  rfl

/-- Each line is a fragment as a whole. -/
theorem fragmentText?_commentLines (hs : first ++ (middle.flatten ++ last) = doubled '\'' false s)
    (hlines : ∀ line ∈ first :: (middle ++ [last]), '\n' ∉ line)
    (hblank : ∀ line ∈ middle, trim line ≠ [])
    (hmarks : ∀ line ∈ middle ++ [last], opensComment none line = false) :
    ∀ line ∈ commentLines first middle last,
      '\n' ∉ line ∧ fragmentText? line = some (trim line) := by
  intro line hline
  rw [commentLines, List.mem_cons, List.mem_append, List.mem_singleton] at hline
  rcases hline with rfl | hline | rfl
  · refine ⟨?_, fragmentText?_of_opensComment (opensComment_first hs)
      (trimWhile_ne_nil (c := 'C') (by simp) (by decide))⟩
    rw [List.mem_append, not_or]
    exact ⟨by decide, hlines first List.mem_cons_self⟩
  · have hmem : line ∈ middle ++ [last] := List.mem_append_left _ hline
    exact ⟨hlines line (List.mem_cons_of_mem _ hmem),
      fragmentText?_of_opensComment (hmarks line hmem) (hblank line hline)⟩
  · have hmem : last ∈ middle ++ [last] := List.mem_append_right _ List.mem_cons_self
    refine ⟨?_, fragmentText?_of_opensComment (opensComment_last (hmarks last hmem))
      (trimWhile_ne_nil (c := ';') (by simp) (by decide))⟩
    rw [List.mem_append, not_or]
    exact ⟨hlines last (List.mem_cons_of_mem _ hmem), by decide⟩

end

/-- **A quoted text on several lines is put on one line, unless one of them ends in a semicolon.**
The lines make up the quoted text of a comment, with all its quote marks written twice; those in
the middle are not blank, and no line after the first has the mark of a comment outside of the
quotations that are opened on that line.  If no line of the statement but the last one ends in a
semicolon, the statement is the only one, and it is put on one line.  Otherwise the statement ends
with the first such line, and the lines after it are split by themselves. -/
theorem split_commentLines {first last s : List Char} {middle : List (List Char)}
    (hs : first ++ (middle.flatten ++ last) = doubled '\'' false s)
    (hlines : ∀ line ∈ first :: (middle ++ [last]), '\n' ∉ line)
    (hblank : ∀ line ∈ middle, trim line ≠ [])
    (hmarks : ∀ line ∈ middle ++ [last], opensComment none line = false) :
    let lines := commentLines first middle last
    ((∀ line ∈ lines.dropLast, endsInSemicolon (trim line) = false) →
      Statement.split (joinWith ['\n'] lines) =
        [⟨.commentOn, String.ofList (onOneLine lines), 1⟩]) ∧
    ∀ before line after, lines = before ++ line :: after → after ≠ [] →
      (∀ x ∈ before, endsInSemicolon (trim x) = false) → endsInSemicolon (trim line) = true →
        Statement.split (joinWith ['\n'] lines) =
          ⟨.commentOn, String.ofList (onOneLine (before ++ [line])), 1⟩ ::
            (Statement.split (joinWith ['\n'] after)).map (Statement.down (before.length + 1)) := by
  intro lines
  have hall := fragmentText?_commentLines hs hlines hblank hmarks
  constructor
  · intro hopen
    have hdrop : lines.dropLast = ("COMMENT ON TABLE t IS '".toList ++ first) :: middle :=
      show ((("COMMENT ON TABLE t IS '".toList ++ first) :: middle) ++
        [last ++ "';".toList]).dropLast = _ from List.dropLast_concat
    rw [hdrop] at hopen
    exact show Statement.split (joinWith ['\n']
        ((("COMMENT ON TABLE t IS '".toList ++ first) :: middle) ++ [last ++ "';".toList])) = _ from
      split_of_lines hall (endsInSemicolon_last last) hopen (classify_onOneLine first _)
  · intro before line after heq hafter hopen hend
    have hhere : ∀ x ∈ before ++ [line], '\n' ∉ x ∧ fragmentText? x = some (trim x) := by
      intro x hx
      refine hall x ?_
      rw [show commentLines first middle last = _ from heq, List.append_cons]
      exact List.mem_append_left _ hx
    have hkind : StatementKind.classify (onOneLine (before ++ [line])) = some .commentOn := by
      cases before with
      | nil =>
        obtain rfl : "COMMENT ON TABLE t IS '".toList ++ first = line := (List.cons.inj heq).1
        exact classify_onOneLine first []
      | cons x before =>
        obtain rfl : "COMMENT ON TABLE t IS '".toList ++ first = x := (List.cons.inj heq).1
        exact classify_onOneLine first _
    have hcount : (joinWith ['\n'] (before ++ [line])).count '\n' = before.length := by
      have hlength : (cutLines (joinWith ['\n'] (before ++ [line]))).length = _ :=
        length_cutAt _ _
      rw [cutLines_joinWith (by simp) fun x hx => (hhere x hx).1, List.length_append] at hlength
      exact (Nat.succ.inj hlength).symm
    have hjoin : joinWith ['\n'] lines =
        joinWith ['\n'] (before ++ [line]) ++ '\n' :: joinWith ['\n'] after := by
      rw [heq, List.append_cons, joinWith_append _ (by simp) hafter]
      rfl
    rw [hjoin, Statement.split_append (closed_fragments_joinWith hhere hend), hcount,
      split_of_lines hhere hend hopen hkind]
    rfl

/-- The mark of a comment on the first line, and a semicolon within a line and at its end. -/
theorem split_commentLines_semicolons :
    Statement.split "COMMENT ON TABLE t IS 'a -- b''\n  c; d \ne';".toList =
        [⟨.commentOn, "COMMENT ON TABLE t IS 'a -- b'' c; d e';", 1⟩] ∧
      Statement.split "COMMENT ON TABLE t IS 'a;\nb';".toList =
        [⟨.commentOn, "COMMENT ON TABLE t IS 'a;", 1⟩] := by
  constructor
  · have hs : "a -- b''".toList ++ (["  c; d ".toList].flatten ++ ['e']) =
        doubled '\'' false "a -- b'  c; d e".toList := by decide
    exact (split_commentLines hs (by decide) (by decide) (by decide)).1 (by decide)
  · have hs : "a;".toList ++ (([] : List (List Char)).flatten ++ ['b']) =
        doubled '\'' false "a;b".toList := by decide
    have hend := (split_commentLines hs (by decide) (by decide) (by decide)).2
      [] ("COMMENT ON TABLE t IS 'a;".toList) ["b';".toList] rfl (by decide) (by decide) (by decide)
    have hrest : Statement.split (joinWith ['\n'] ["b';".toList]) = [] := by decide
    rw [hrest] at hend
    exact hend

/-- Two texts on two lines that are not put on one line: the first line of one ends in a semicolon,
and the second line of the other has the mark of a comment. -/
theorem exists_split_commentLines_ne :
    ∃ first last first' last' s s', first ++ last = doubled '\'' false s ∧
      first' ++ last' = doubled '\'' false s' ∧
      (∀ line ∈ [first, last, first', last'], '\n' ∉ line ∧ trim line ≠ []) ∧
      Statement.split (joinWith ['\n'] (commentLines first [] last)) ≠
        [⟨.commentOn, String.ofList (onOneLine (commentLines first [] last)), 1⟩] ∧
      Statement.split (joinWith ['\n'] (commentLines first' [] last')) ≠
        [⟨.commentOn, String.ofList (onOneLine (commentLines first' [] last')), 1⟩] := by
  refine ⟨"a;".toList, ['b'], ['a'], "b -- c".toList, "a;b".toList, "ab -- c".toList, ?_⟩
  decide

end Codebook.Sql
