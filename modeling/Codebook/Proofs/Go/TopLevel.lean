import Codebook.Go.Scan
import Codebook.Proofs.Go.Depth
import Mathlib.Data.List.TakeWhile

/-!
# The trees of a file

Reading drops nothing but line ends.  What is read at the top of a file is marked as nodes, but for
the comments between them and the ends of statements; and a declaration or a statement is one node,
which has all that counts of it.

What is here: `Gives.took`, that all but line ends is kept; `Form.isWrapped` and
`Gives.standsAlone`, what trees there are at the top of a file; `Form.isMarked` and
`Gives.isMarked`, that a declaration is one node; `readFile_eq_ok_iff`, the trees that a file is
read as; and `exists_scan_of_readFile`, that their tokens are those of its source.
-/

set_option autoImplicit false

namespace Codebook.Go

open Form

/-! ## What is kept -/

section

variable {lineEnds : Bool} {p : Token → Bool} {f : Form Rule} {ts rest : List Token}
  {trees : List Tree} {o : Option Found}

/-- Tokens without the line ends. -/
def withoutBreaks (ts : List Token) : List Token := ts.filter fun t => !t.isLineEnd

theorem withoutBreaks_append (ts us : List Token) :
    withoutBreaks (ts ++ us) = withoutBreaks ts ++ withoutBreaks us := List.filter_append ..

/-- What is passed over, and what is left behind it. -/
theorem exists_passed (lineEnds : Bool) (ts : List Token) :
    ∃ passed, ts = passed ++ (skip lineEnds ts).2 ∧
      withoutBreaks (Tree.forestTokens (skip lineEnds ts).1) = withoutBreaks passed := by
  induction ts with
  | nil => exact ⟨[], rfl, rfl⟩
  | cons t ts ih =>
    obtain ⟨passed, heq, hkept⟩ := ih
    rw [skip]
    split
    · refine ⟨t :: passed, congrArg (t :: ·) heq, ?_⟩
      simp only [Tree.forestTokens_cons, Tree.tokens_leaf, List.cons_append, List.nil_append,
        withoutBreaks, List.filter_cons] at hkept ⊢
      rw [hkept]
    · split
      · rename_i hline
        refine ⟨t :: passed, congrArg (t :: ·) heq, ?_⟩
        rw [hkept, withoutBreaks, withoutBreaks, List.filter_cons_of_neg]
        simp [(Bool.and_eq_true_iff.1 hline).1]
      · exact ⟨[], rfl, rfl⟩

/-- What has been taken off the front of some tokens, without the line ends among it. -/
def Took (ts : List Token) (r : Found) : Prop :=
  ∃ taken, ts = taken ++ r.2 ∧ withoutBreaks (Tree.forestTokens r.1) = withoutBreaks taken

theorem took_nothing (ts : List Token) : Took ts ([], ts) := ⟨[], rfl, rfl⟩

theorem Took.behind {r : Found} (h : Took ts (trees, rest)) (hr : Took rest r) :
    Took ts (r.behind trees) := by
  obtain ⟨taken, rfl, hkept⟩ := h
  obtain ⟨more, hmore, hkept'⟩ := hr
  refine ⟨taken ++ more, by rw [List.append_assoc]; exact congrArg (taken ++ ·) hmore, ?_⟩
  rw [Found.behind, Tree.forestTokens_append, withoutBreaks_append, withoutBreaks_append, hkept,
    hkept']

theorem took_take {r : Found} (h : take lineEnds p ts = some r) : Took ts r := by
  obtain ⟨passed, heq, hkept⟩ := exists_passed lineEnds ts
  obtain ⟨comments, t, hskip, -, htrees⟩ := exists_skip_of_take h
  rw [hskip] at heq hkept
  refine ⟨passed ++ [t], by simp [heq], ?_⟩
  rw [htrees, Tree.forestTokens_append, withoutBreaks_append, withoutBreaks_append, hkept]
  rfl

/-- **Reading takes tokens off the front, and drops nothing of them but line ends.** -/
theorem Gives.took (h : Gives f ts o) : ∀ r, o = some r → Took ts r := by
  refine h.forall_found isCheck_true took_nothing Took.behind (fun _ => took_take) took_take
    (fun {ts} hleft => ?_) (fun _ _ hpart => ?_) trivial
  · obtain ⟨passed, heq, hkept⟩ := exists_passed true ts
    rw [hleft] at heq
    exact ⟨passed, heq, hkept⟩
  · obtain ⟨taken, heq, hkept⟩ := hpart trivial
    exact ⟨taken, heq, by rw [Found.marked, Tree.forestTokens_mark, hkept]⟩

end

/-! ## What stands at the top of a file -/

/-- Whether a tree may stand by itself: a node, a comment, or the end of a statement. -/
def Tree.standsAlone : Tree → Bool
  | .leaf t => t.isComment || endsStatement t
  | .node _ _ => true

/-- Rules whose trees all stand by themselves. -/
def Rule.isWrapped : Rule → Bool
  | .topItem | .topDeclaration | .consts _ | .vars _ | .openStatement _ | .closedStatement _ => true
  | _ => false

/-- Whether the trees of a form all stand by themselves. -/
def Form.isWrapped : Form Rule → Bool
  | .token _ => false
  | .rule r => r.isWrapped
  | .seq a b | .alt a b => a.isWrapped && b.isWrapped
  | .many a => a.isWrapped
  | _ => true

theorem Rule.isWrapped_form (r : Rule) : r.isWrapped = true → r.form.isWrapped = true := by
  cases r with
  | openStatement p | closedStatement p => cases p <;> decide
  | consts valued | vars valued => revert valued; decide
  | topItem | topDeclaration => decide
  | _ => exact fun h => nomatch h

section

variable {f : Form Rule} {ts : List Token} {o : Option Found}

theorem isComment_of_mem_skip (lineEnds : Bool) (ts : List Token) :
    ∀ t ∈ (skip lineEnds ts).1, t.isComment = true := by
  induction ts with
  | nil => exact fun t ht => absurd ht List.not_mem_nil
  | cons x ts ih =>
    rw [skip]
    split
    · rename_i hx
      refine List.forall_mem_cons.2 ⟨?_, ih⟩
      rw [Tree.isComment, Tree.comment?, if_pos hx]
      rfl
    · split
      · exact ih
      · exact fun t ht => absurd ht List.not_mem_nil

/-- A comment has no other token. -/
theorem Tree.eq_leaf_of_isComment {t : Tree} (h : t.isComment = true) :
    ∃ c : Token, t = .leaf c ∧ c.isComment = true := by
  cases t with
  | node label parts => cases h
  | leaf c =>
    refine ⟨c, rfl, ?_⟩
    by_contra hnot
    rw [isComment, comment?, if_neg hnot] at h
    cases h

theorem Tree.standsAlone_of_isComment {t : Tree} (h : t.isComment = true) :
    t.standsAlone = true := by
  obtain ⟨c, rfl, hc⟩ := eq_leaf_of_isComment h
  rw [standsAlone, hc, Bool.true_or]

theorem forall_mem_take {lineEnds : Bool} {p : Token → Bool} {r : Found} {P : Tree → Prop}
    (hcomment : ∀ t : Tree, t.isComment = true → P t) (hp : ∀ t, p t = true → P (.leaf t))
    (h : take lineEnds p ts = some r) : ∀ t ∈ r.1, P t := by
  have hcomments := isComment_of_mem_skip lineEnds ts
  obtain ⟨comments, t, hskip, ht, htrees⟩ := exists_skip_of_take h
  rw [hskip] at hcomments
  rw [htrees]
  refine List.forall_mem_append.2 ⟨fun t ht => hcomment t (hcomments t ht), ?_⟩
  exact List.forall_mem_singleton.2 (hp t ht)

/-- **Marked trees, comments and ends of statements stand at the top of a file.** -/
theorem Gives.standsAlone (h : Gives f ts o) (hf : f.isWrapped = true) :
    ∀ r, o = some r → ∀ t ∈ r.1, t.standsAlone = true := by
  have hcheck : IsCheck fun f => f.isWrapped = true :=
    ⟨fun {r} => r.isWrapped_form, Bool.and_eq_true_iff.1, Bool.and_eq_true_iff.1, id⟩
  refine h.forall_found hcheck (P := fun _ r => ∀ t ∈ r.1, t.standsAlone = true)
    (fun ts t ht => nomatch ht) (fun ha hb => List.forall_mem_append.2 ⟨ha, hb⟩)
    (fun htoken => nomatch htoken) ?_ (fun _ t ht => ?_) (fun _ _ _ t ht => ?_) hf
  · refine forall_mem_take (fun t => Tree.standsAlone_of_isComment) fun t ht => ?_
    rw [Tree.standsAlone, ht, Bool.or_true]
  · exact Tree.standsAlone_of_isComment (isComment_of_mem_skip true _ t ht)
  · rcases List.mem_append.1 ht with ht | ht
    · exact Tree.standsAlone_of_isComment (List.mem_takeWhile_imp ht)
    · obtain rfl := List.mem_singleton.1 ht
      rfl

end

/-! ## Declarations are nodes -/

/-- Rules that are one node. -/
def Rule.isMarked : Rule → Bool
  | .topDeclaration | .consts _ | .vars _ | .openStatement _ | .closedStatement _ => true
  | _ => false

/-- Whether a form is one node. -/
def Form.isMarked : Form Rule → Bool
  | .rule r => r.isMarked
  | .alt a b => a.isMarked && b.isMarked
  | .seq (.notAhead _) b => b.isMarked
  | .node _ _ => true
  | _ => false

theorem Rule.isMarked_form (r : Rule) : r.isMarked = true → r.form.isMarked = true := by
  cases r with
  | openStatement p | closedStatement p => cases p <;> decide
  | consts valued | vars valued => revert valued; decide
  | topDeclaration => decide
  | _ => exact fun h => nomatch h

/-- These are comments and one node. -/
def IsMarked (trees : List Tree) : Prop :=
  ∃ comments label parts, trees = comments ++ [.node label parts] ∧
    ∀ t ∈ comments, Tree.isComment t = true

/-- The node has all that counts. -/
theorem IsMarked.exists_tree {trees : List Tree} (h : IsMarked trees) :
    ∃ x ∈ trees, x.isNamed = true ∧ ∀ t ∈ Tree.forestTokens trees, t.Counts → t ∈ x.tokens := by
  obtain ⟨comments, label, parts, rfl, hcomments⟩ := h
  refine ⟨_, List.mem_append_right _ List.mem_cons_self, rfl, fun t ht hcounts => ?_⟩
  obtain ⟨x, hx, ht⟩ := Tree.mem_forestTokens.1 ht
  rcases List.mem_append.1 hx with hx | hx
  · obtain ⟨c, rfl, hc⟩ := Tree.eq_leaf_of_isComment (hcomments x hx)
    obtain rfl := List.mem_singleton.1 ht
    rw [hcounts.notComment] at hc
    cases hc
  · obtain rfl := List.mem_singleton.1 hx
    exact ht

/-- **A declaration is one node.** -/
theorem Gives.isMarked {f : Form Rule} {ts : List Token} {o : Option Found} (h : Gives f ts o)
    (hf : f.isMarked = true) : ∀ r, o = some r → IsMarked r.1 := by
  induction h with
  | @rule r ts o h ih => exact ih (r.isMarked_form hf)
  | altSome h ih => exact ih (Bool.and_eq_true_iff.1 hf).1
  | altNone ha hb iha ihb => exact ihb (Bool.and_eq_true_iff.1 hf).2
  | seqNone h ih => exact fun r hr => nomatch hr
  | @seqSome a b ts rest trees o ha hb iha ihb =>
    cases a with
    | notAhead a =>
      -- what is only looked for gives no trees
      obtain rfl : trees = [] := by
        generalize hgiven : some (trees, rest) = given at ha
        cases ha
        split at hgiven
        · cases hgiven
        · exact (Prod.mk.inj (Option.some.inj hgiven)).1
      intro r hr
      obtain ⟨r, rfl, rfl⟩ := Option.map_eq_some_iff.1 hr
      exact ihb hf r rfl
    | _ => cases hf
  | @node label a ts o h ih =>
    intro r hr
    obtain ⟨r, rfl, rfl⟩ := Option.map_eq_some_iff.1 hr
    exact ⟨_, label, _, rfl, fun t ht => List.mem_takeWhile_imp ht⟩
  | _ => cases hf

/-! ## Files -/

/-- Nothing is left of a file. -/
theorem Gives.rest_eq_nil {ts rest : List Token} {trees : List Tree}
    (h : Gives Rule.topLevel ts (some (trees, rest))) : rest = [] := by
  have hseq {a b : Form Rule} (hb : ∀ ts r, Gives b ts (some r) → r.2 = []) (ts : List Token)
      (r : Found) (h : Gives (.seq a b) ts (some r)) : r.2 = [] := by
    generalize hgiven : some r = given at h
    cases h with
    | seqNone => cases hgiven
    | seqSome _ h =>
      obtain ⟨r, rfl, rfl⟩ := Option.map_eq_some_iff.1 hgiven.symm
      exact hb _ r h
  refine hseq (hseq ?_) _ _ h
  intro ts r h
  have hfinish := h.unique (.finish ts)
  split at hfinish <;> cases hfinish
  rfl

/-- The trees of a file are what its tokens are read as. -/
theorem readFile_eq_ok_iff {path : String} {bytes : List UInt8} {forest : List Tree} :
    readFile path bytes = .ok forest ↔ ∃ source ts, Text.Utf8.decode? bytes = some source ∧
      Token.scan source = .ok ts ∧ Gives Rule.topLevel ts (some (forest, [])) := by
  constructor
  · intro h
    rw [readFile] at h
    split at h
    · cases h
    · rename_i source hdecode
      split at h
      · cases h
      · rename_i ts hscan
        split at h
        · rename_i found rest hread
          obtain rfl := Except.ok.inj h
          have hgives := gives_read ts
          rw [hread] at hgives
          obtain rfl := hgives.rest_eq_nil
          exact ⟨source, ts, hdecode, hscan, hgives⟩
        · cases h
  · rintro ⟨source, ts, hdecode, hscan, hgives⟩
    simp only [readFile, hdecode, hscan, read_of_gives hgives]

/-- The tokens of the trees of a file are tokens of its source, in their order. -/
theorem exists_scan_of_readFile {path : String} {bytes : List UInt8} {forest : List Tree}
    (h : readFile path bytes = .ok forest) :
    ∃ source ts, Token.scan source = .ok ts ∧ (Tree.forestTokens forest).Sublist ts := by
  obtain ⟨source, ts, -, hscan, hgives⟩ := readFile_eq_ok_iff.1 h
  have hsublist := hgives.sublist
  rw [List.append_nil] at hsublist
  exact ⟨source, ts, hscan, hsublist⟩

end Codebook.Go
