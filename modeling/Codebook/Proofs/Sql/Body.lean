import Codebook.Proofs.Sql.Unquoted
import Mathlib.Data.List.TakeWhile

/-!
# The list of a statement

The column list runs from the first parenthesis of a statement to its partner.  If the list is
paired that is what is read of it, whatever the rest of the statement is (`body?_append`).  If not,
the partner is some other parenthesis, or there is none, and in either case the parts of the list
after the imbalance are not told apart (`exists_body?_of_not_isBalanced`).

`body_between_parentheses` says what is read of any text at all.
-/

set_option autoImplicit false

namespace Codebook.Sql

open Codebook.Text

/-! ## Paired lists -/

theorem IsPlain.precedesOpening {cs : List Char} (h : IsPlain cs) : PrecedesOpening cs :=
  ⟨cs, .self fun c hc => (h c hc).1, fun hmem => (h '(' hmem).2.1 rfl⟩

theorem body?_eq_none_of_breakAtOpening {cs : List Char} (h : breakAtOpening cs = none) :
    body? cs = none := by
  rw [body?, h]

/-- The list is read from the first parenthesis on. -/
theorem body?_of_precedesOpening {before : List Char} (h : PrecedesOpening before)
    (rest : List Char) :
    body? (before ++ '(' :: rest) =
      ((Nesting.breakAt Nesting.closes ⟨none, 1⟩ rest).map Prod.fst).or (beforeLast? ')' rest) := by
  have hcloses : (fun c depth => c == ')' && depth == 0) = Nesting.closes := rfl
  rw [body?, breakAtOpening_eq_some_iff.2 ⟨rfl, h⟩, hcloses]
  cases hbreak : Nesting.breakAt Nesting.closes ⟨none, 1⟩ rest <;> simp [hbreak]

/-- The list is what stands between the first parenthesis and its partner. -/
theorem body?_append {before list : List Char} (h : PrecedesOpening before) (hlist : IsPaired list)
    (tail : List Char) : body? (before ++ '(' :: (list ++ ')' :: tail)) = some list := by
  rw [body?_of_precedesOpening h, breakAt_closes_eq_some_iff.2 ⟨rfl, hlist⟩]
  rfl

/-! ## Lists that leave something open -/

theorem beforeLast?_append {mark : Char} {cs ds : List Char} (h : mark ∉ ds) :
    beforeLast? mark (cs ++ mark :: ds) = some cs := by
  have hds : ∀ c ∈ ds.reverse, (c != mark) = true := by
    intro c hc
    rw [bne_iff_ne]
    rintro rfl
    exact h (List.mem_reverse.1 hc)
  have hdrop : (cs ++ mark :: ds).reverse.dropWhile (· != mark) = mark :: cs.reverse := by
    rw [List.reverse_append, List.reverse_cons, List.append_assoc,
      List.dropWhile_append_of_pos hds, List.singleton_append,
      List.dropWhile_cons_of_neg (by simp)]
  rw [beforeLast?, hdrop]
  exact congrArg some (List.reverse_reverse cs)

/-- No parenthesis is closed where none is written. -/
theorem breakAt_closes_of_forall {cs : List Char} (h : ∀ c ∈ cs, c ≠ ')') (s : Nesting) :
    Nesting.breakAt Nesting.closes s cs = none := by
  induction cs generalizing s with
  | nil => rfl
  | cons c cs ih =>
    have hc : (c == ')') = false := beq_eq_false_iff_ne.2 (h c List.mem_cons_self)
    have hseen : (s.level? c).any (Nesting.closes c) = false := by
      cases s.level? c <;> simp [Nesting.closes, hc]
    rw [Nesting.breakAt, hseen, if_neg Bool.false_ne_true,
      ih fun x hx => h x (List.mem_cons_of_mem _ hx)]
    rfl

/-- The parenthesis at the end of a list does not close it where more is open. -/
theorem breakAt_closes_end {quote : Option Char} {depth : Nat}
    (hmarks : Nesting.QuotesByMarks ⟨quote, depth⟩) (hopen : Nesting.mk quote depth ≠ {})
    {cs : List Char} (h : IsPlain cs) :
    Nesting.breakAt Nesting.closes ⟨quote, depth + 1⟩ (cs ++ [')', ';']) = none := by
  have hmarks' : Nesting.QuotesByMarks ⟨quote, depth + 1⟩ := hmarks
  have hcs := breakAt_closes_of_forall (fun c hc => (h c hc).2.2) ⟨quote, depth + 1⟩
  have hseen : (Nesting.level? ⟨quote, depth + 1⟩ ')').any (Nesting.closes ')') = false := by
    cases quote with
    | some mark => rfl
    | none =>
      have hdepth : depth ≠ 0 := by
        rintro rfl
        exact hopen rfl
      exact beq_eq_false_iff_ne.2 hdepth
  rw [Nesting.breakAt_append_of_none hcs, Nesting.afterAll_of_isPlain hmarks' h, Nesting.breakAt,
    hseen, if_neg Bool.false_ne_true, breakAt_closes_of_forall (by decide)]
  rfl

/-- **Where a list leaves something open, or closes too much, its end is not seen.**  What is then
read of a plain text after it is at most one part, however long it is. -/
theorem exists_body?_of_not_isBalanced {before list rest : List Char}
    (hbefore : IsPlain before) (hlist : isBalanced (fun _ => true) list = false)
    (hrest : IsPlain rest) (q : Char → Bool) :
    ∃ body, body? (before ++ '(' :: (list ++ rest ++ [')', ';'])) = some body ∧
      (Nesting.cutAtDepthZero q {} body).length ≤ list.length + 1 := by
  rw [body?_of_precedesOpening hbefore.precedesOpening, List.append_assoc]
  cases hbreak : Nesting.breakAt Nesting.closes ⟨none, 1⟩ list with
  | some found =>
    -- the parenthesis is closed within the list
    obtain ⟨inside, after⟩ := found
    obtain ⟨c, hparts, -⟩ := Nesting.breakAt_eq_some_iff.1 hbreak
    have hlength := Nesting.length_cutAtDepthZero_le q {} inside
    refine ⟨inside, by rw [Nesting.breakAt_append_of_some hbreak]; rfl, ?_⟩
    rw [hparts, List.length_append]
    omega
  | none =>
    -- something is still open at the end of the list
    have hmarks : Nesting.QuotesByMarks {} := fun m hm => by cases hm
    obtain ⟨quote, depth, hafter, hafter', hmarks, hbalanced⟩ :=
      Nesting.afterAll_of_breakAt_eq_none hmarks hbreak
    have hopen : Nesting.mk quote depth ≠ {} := by
      intro heq
      obtain ⟨rfl, rfl⟩ : quote = none ∧ depth = 0 := by simpa using heq
      rw [isBalanced, hbalanced.2 ⟨rfl, rfl⟩] at hlist
      cases hlist
    have hnotFound := breakAt_closes_end hmarks hopen hrest
    refine ⟨list ++ rest, ?_, ?_⟩
    · rw [Nesting.breakAt_append_of_none hbreak, hafter', hnotFound, ← List.append_assoc,
        beforeLast?_append (by decide)]
      rfl
    · have hlength := Nesting.length_cutAtDepthZero_append q {} list rest
      rw [hafter, Nesting.cutAtDepthZero_of_isPlain q hmarks hopen hrest] at hlength
      have hle := Nesting.length_cutAtDepthZero_le q {} list
      rw [List.length_singleton] at hlength
      omega

/-! ## Any text -/

theorem exists_append_last {mark : Char} {cs : List Char} (h : mark ∈ cs) :
    ∃ before after, cs = before ++ mark :: after ∧ mark ∉ after := by
  obtain ⟨after, before, hcs, hafter⟩ := List.eq_append_cons_of_mem (List.mem_reverse.2 h)
  refine ⟨before.reverse, after.reverse, ?_, by simpa using hafter⟩
  rw [← List.reverse_reverse cs, hcs]
  simp

theorem beforeLast?_eq_none_iff {mark : Char} {cs : List Char} :
    beforeLast? mark cs = none ↔ mark ∉ cs := by
  constructor
  · intro h hmem
    obtain ⟨before, after, rfl, hafter⟩ := exists_append_last hmem
    rw [beforeLast?_append hafter] at h
    cases h
  · intro h
    have hdrop : cs.reverse.dropWhile (· != mark) = [] := by
      rw [List.dropWhile_eq_nil_iff]
      intro c hc
      rw [bne_iff_ne]
      rintro rfl
      exact h (List.mem_reverse.1 hc)
    rw [beforeLast?, hdrop]

/-- **The list is what stands in the first parentheses.**  If the first opening parenthesis outside
of quotations has a partner, the list is the text between the two, whatever comes before and after.
If it has none, the list runs to the last closing parenthesis of any sort.  There is no list if and
only if there is no opening parenthesis outside of quotations, or no closing one after the first. -/
theorem body_between_parentheses (text : List Char) :
    (∀ before list after, text = before ++ '(' :: (list ++ ')' :: after) →
      PrecedesOpening before → IsPaired list → body? text = some list) ∧
    (∀ before rest, text = before ++ '(' :: rest → PrecedesOpening before →
      (∀ list after, rest = list ++ ')' :: after → ¬IsPaired list) → ')' ∈ rest →
        ∃ list after, rest = list ++ ')' :: after ∧ ')' ∉ after ∧ body? text = some list) ∧
    (body? text = none ↔
      (∀ before rest, text = before ++ '(' :: rest → ¬∃ seen, Unquoted before seen) ∨
        ∃ before rest, text = before ++ '(' :: rest ∧ PrecedesOpening before ∧ ')' ∉ rest) := by
  refine ⟨?_, ?_, ?_⟩
  · rintro before list after rfl hbefore hlist
    exact body?_append hbefore hlist after
  · rintro before rest rfl hbefore hunpaired hclose
    have hbreak : Nesting.breakAt Nesting.closes ⟨none, 1⟩ rest = none := by
      rw [Option.eq_none_iff_forall_ne_some]
      rintro ⟨list, after⟩ hfound
      obtain ⟨hrest, hpaired⟩ := breakAt_closes_eq_some_iff.1 hfound
      exact hunpaired list after hrest hpaired
    obtain ⟨list, after, hrest, hlast⟩ := exists_append_last hclose
    refine ⟨list, after, hrest, hlast, ?_⟩
    rw [body?_of_precedesOpening hbefore, hbreak, hrest, beforeLast?_append hlast]
    rfl
  · rw [← breakAtOpening_eq_none_iff]
    cases hopening : breakAtOpening text with
    | none => simp [body?_eq_none_of_breakAtOpening hopening]
    | some found =>
      obtain ⟨before, rest⟩ := found
      obtain ⟨rfl, hbefore⟩ := breakAtOpening_eq_some_iff.1 hopening
      have hnone : body? (before ++ '(' :: rest) = none ↔ ')' ∉ rest := by
        rw [body?_of_precedesOpening hbefore, Option.or_eq_none_iff, beforeLast?_eq_none_iff]
        refine and_iff_right_of_imp fun hclose => ?_
        rw [breakAt_closes_of_forall fun c hc => ne_of_mem_of_not_mem hc hclose]
        rfl
      rw [hnone]
      constructor
      · exact fun hclose => .inr ⟨before, rest, rfl, hbefore, hclose⟩
      · rintro (hquoted | ⟨before', rest', heq, hbefore', hclose⟩)
        · cases hquoted
        · -- the first opening parenthesis is in one place only
          rw [breakAtOpening_eq_some_iff.2 ⟨heq, hbefore'⟩] at hopening
          cases hopening
          exact hclose

/-- A list after a quoted parenthesis, with another one quoted in it; and a list that is not closed,
since its only closing parenthesis is the partner of another one. -/
theorem body_between_parentheses_oddOnes :
    (PrecedesOpening "\"a(\") ".toList ∧ IsPaired "id int, c text DEFAULT ')'".toList ∧
      body? "\"a(\") (id int, c text DEFAULT ')') WITH (x);".toList =
        some "id int, c text DEFAULT ')'".toList) ∧
    PrecedesOpening "t ".toList ∧
      (∀ list after, "n numeric(10,2);".toList = list ++ ')' :: after → ¬IsPaired list) ∧
      ')' ∈ "n numeric(10,2);".toList ∧
      ∃ list after, "n numeric(10,2);".toList = list ++ ')' :: after ∧ ')' ∉ after ∧
        body? "t (n numeric(10,2);".toList = some list := by
  have hbefore : PrecedesOpening "\"a(\") ".toList := by decide
  have hlist : IsPaired "id int, c text DEFAULT ')'".toList := by decide
  have hbefore' : PrecedesOpening "t ".toList := by decide
  have hopen : ∀ list after, "n numeric(10,2);".toList = list ++ ')' :: after → ¬IsPaired list := by
    intro list after hrest hpaired
    have hnone : Nesting.breakAt Nesting.closes ⟨none, 1⟩ "n numeric(10,2);".toList = none := by
      decide
    rw [breakAt_closes_eq_some_iff.2 ⟨hrest, hpaired⟩] at hnone
    cases hnone
  have hclose : ')' ∈ "n numeric(10,2);".toList := by decide
  exact ⟨⟨hbefore, hlist,
      (body_between_parentheses _).1 _ _ " WITH (x);".toList (by decide) hbefore hlist⟩,
    hbefore', hopen, hclose,
    (body_between_parentheses _).2.1 _ _ (by decide) hbefore' hopen hclose⟩

end Codebook.Sql
