import Codebook.Proofs.Sql.Fragment

/-!
# Statements are on one line

The split works by lines, and what it joins it joins with spaces.  Cutting comments out of a line
leaves characters of the line and spaces.  So the text of a statement has no line feed, however many
lines it has been written on.

What is here: `subset_of_stripFrom`, for comments; and `newline_not_mem_of_mem_split`, for
statements.
-/

set_option autoImplicit false

namespace Codebook.Sql

open Text

/-- Cutting out comments leaves characters of the line, and spaces. -/
theorem subset_of_stripFrom {mode : LineMode} {line stripped : List Char}
    (h : stripFrom mode line = some stripped) : stripped ⊆ ' ' :: line := by
  have hmap {a : Char} {line rest : List Char} {mode : LineMode}
      (ih : ∀ {stripped}, stripFrom mode line = some stripped → stripped ⊆ ' ' :: line)
      (hrest : (stripFrom mode line).map (a :: ·) = some rest) : rest ⊆ ' ' :: a :: line := by
    obtain ⟨rest', hstrip, rfl⟩ := Option.map_eq_some_iff.1 hrest
    refine List.cons_subset.2 ⟨by simp, List.Subset.trans (ih hstrip) ?_⟩
    exact List.cons_subset_cons _ (List.subset_cons_self _ _)
  fun_induction stripFrom mode line generalizing stripped with
  | case1 => exact Option.some.inj h ▸ List.nil_subset _
  | case2 => exact Option.some.inj h ▸ List.nil_subset _
  | case3 => cases h
  | case4 mark c cs ih => exact hmap ih h
  | case5 afterStar c cs hclosed ih =>
    intro x hx
    rcases List.mem_cons.1 (hmap ih h hx) with hx | hx
    · exact hx ▸ List.mem_cons_self
    · rcases List.mem_cons.1 hx with hx | hx
      · exact hx ▸ List.mem_cons_self
      · exact List.mem_cons_of_mem _ (List.mem_cons_of_mem _ hx)
  | case6 afterStar c cs hopen ih =>
    exact List.Subset.trans (ih h) (List.cons_subset_cons _ (List.subset_cons_self _ _))
  | case7 => exact Option.some.inj h ▸ List.nil_subset _
  | case8 cs ih =>
    exact List.Subset.trans (ih h) (List.cons_subset_cons _
      (List.Subset.trans (List.subset_cons_self _ _) (List.subset_cons_self _ _)))
  | case9 c cs _ _ ih => exact hmap ih h

theorem newline_not_mem_of_fragmentText? {line text : List Char} (hline : '\n' ∉ line)
    (h : fragmentText? line = some text) : '\n' ∉ text := by
  obtain ⟨-, stripped, hstripped, rfl⟩ := fragmentText?_eq_some_iff.1 h
  intro hmem
  have hmem' := subset_of_stripFrom hstripped (mem_of_mem_trimWhile hmem)
  rcases List.mem_cons.1 hmem' with hspace | hmem'
  · exact absurd hspace (by decide)
  · exact hline hmem'

theorem newline_not_mem_of_mem_fragments {text : List Char} {f : Fragment}
    (h : f ∈ fragments text) : '\n' ∉ f.text := by
  obtain ⟨-, line, hline, htext⟩ := mem_fragmentsFrom_iff.1 h
  have hmem := List.mem_of_getElem? hline
  exact newline_not_mem_of_fragmentText? (newline_not_mem_of_mem_cutLines hmem) htext

/-- **A statement is on one line.** -/
theorem newline_not_mem_of_mem_split {text : List Char} {s : Statement}
    (h : s ∈ Statement.split text) : '\n' ∉ s.text.toList := by
  obtain ⟨block, hblock, hs⟩ := Statement.mem_split_iff.1 h
  obtain ⟨-, htext, -⟩ := Statement.ofBlock?_eq_some_iff.1 hs
  have hjoin : '\n' ∉ joinWith [' '] (block.map Fragment.text) := by
    intro hmem
    rcases mem_joinWith hmem with hspace | ⟨part, hpart, hmem⟩
    · exact absurd hspace (by decide)
    · obtain ⟨f, hf, rfl⟩ := List.mem_map.1 hpart
      exact newline_not_mem_of_mem_fragments (mem_fragments_of_mem_blocks hblock hf) hmem
  rw [htext, blockText]
  split
  · exact hjoin
  · simpa using hjoin

end Codebook.Sql
