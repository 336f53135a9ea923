import Codebook.Proofs.Sql.Fragment

/-!
# A statement on one line

A line without comments that ends in a semicolon is one statement, if its first two words say of
which kind it is.
-/

set_option autoImplicit false

namespace Codebook.Sql

open Codebook.Text

/-- The kind of a text that starts with keywords. -/
theorem classify_keywords {first second : String} (hfirst : IsIdentifier first.toList)
    (hsecond : IsIdentifier second.toList) (ks : List String) (rest : List Char) :
    StatementKind.classify (keywords (first :: second :: ks) ++ rest) =
      StatementKind.ofWords? first.toList second.toList := by
  have hplain : ∀ k : String, IsIdentifier k.toList → ∀ c ∈ k.toList, isBlank c = false :=
    fun k hk c hc => (isPlain_of_isWord hk.1 hc).1
  rw [StatementKind.classify, keywords_cons_append, words_append hfirst.1.1 (hplain first hfirst),
    keywords_cons_append, words_append hsecond.1.1 (hplain second hsecond)]

/-- A line of which nothing is cut out is one fragment. -/
theorem fragments_of_kept {line : List Char} (hline : '\n' ∉ line) (hkept : Kept line)
    (htrim : IsTrimmed line) (hne : line ≠ []) : fragments line = [⟨1, line⟩] := by
  have htext : fragmentText? line = some line :=
    fragmentText?_eq_some_iff.2 ⟨hne, line, hkept.stripComments_eq, trim_eq_self htrim⟩
  simp only [fragments, cutLines_of_not_mem hline, fragmentsFrom, htext]

/-- Such a line is one statement, if it is of one of the kinds and ends in a semicolon. -/
theorem split_of_kept {line : List Char} (hline : '\n' ∉ line) (hkept : Kept line)
    (htrim : IsTrimmed line) (hend : endsInSemicolon line = true) {kind : StatementKind}
    (hkind : StatementKind.classify line = some kind) :
    Statement.split line = [⟨kind, String.ofList line, 1⟩] := by
  have hne : line ≠ [] := by
    rintro rfl
    cases hend
  have htext : blockText [⟨1, line⟩] = line := by
    simp only [blockText, List.map_cons, List.map_nil, joinWith, hend, if_true]
  have hstatement : Statement.ofBlock? [⟨1, line⟩] = some ⟨kind, String.ofList line, 1⟩ := by
    simp only [Statement.ofBlock?, htext, hkind, Option.map_some]
  rw [Statement.split, fragments_of_kept hline hkept htrim hne, blocks, if_pos hend, blocks,
    List.filterMap_cons, hstatement, List.filterMap_nil]

end Codebook.Sql
