import Codebook.Proofs.Sql.Walk

/-!
# What stands outside of quotations

A text is made of quotations and of characters between them: a quotation runs from a mark to the
next mark of the same kind, whatever it has inside.  This file says so without a walk, and says with
it what the first opening parenthesis of a text is, and what it is for parentheses to be in pairs.
Pairs are told by counting: from the front on there are never more closing parentheses than opening
ones, and in the end there are as many.  No depth is kept, so there is none that could stay at zero
where a parenthesis is closed that has not been opened.

The walks find what is meant: `breakAtOpening` the first opening parenthesis, and the search from
there on its partner.

What is here: `Unquoted`, `PrecedesOpening` and `IsPaired`; and `breakAtOpening_eq_some_iff`,
`breakAtOpening_eq_none_iff`, `isPaired_iff` and `breakAt_closes_eq_some_iff`, which say what the
walks find.
-/

set_option autoImplicit false

namespace Codebook.Sql

/-! ## Quotations and what is between them -/

/-- The characters of a text that stand outside of its quotations, all of which are closed. -/
inductive Unquoted : List Char → List Char → Prop
  | nil : Unquoted [] []
  | cons {c : Char} {cs seen : List Char} (hc : isQuoteMark c = false) (h : Unquoted cs seen) :
      Unquoted (c :: cs) (c :: seen)
  | quotation {mark : Char} {inside cs seen : List Char} (hmark : isQuoteMark mark = true)
      (hinside : mark ∉ inside) (h : Unquoted cs seen) :
      Unquoted (mark :: (inside ++ mark :: cs)) seen

/-- A text that an opening parenthesis may follow as the first one: it ends outside of quotations,
and outside of them it has no opening parenthesis. -/
def PrecedesOpening (cs : List Char) : Prop := ∃ seen, Unquoted cs seen ∧ '(' ∉ seen

/-- A text with its quote marks and parentheses in pairs: it ends outside of quotations, and outside
of them no parenthesis is closed that is not open, and none is open at the end. -/
def IsPaired (cs : List Char) : Prop :=
  ∃ seen, Unquoted cs seen ∧ (∀ front, front <+: seen → front.count ')' ≤ front.count '(') ∧
    seen.count ')' = seen.count '('

/-! ## The walk at a quotation -/

namespace Nesting

section

variable {mark c : Char} {cs inside : List Char}

theorem afterAll_of_not_mem (h : mark ∉ cs) (depth : Nat) :
    afterAll ⟨some mark, depth⟩ cs = ⟨some mark, depth⟩ := by
  induction cs with
  | nil => rfl
  | cons c cs ih =>
    rw [List.mem_cons, not_or] at h
    rw [afterAll_cons, after_quoted, if_neg (Ne.symm h.1), ih h.2]

theorem afterAll_quotation (h : mark ∉ inside) (depth : Nat) (cs : List Char) :
    afterAll ⟨some mark, depth⟩ (inside ++ mark :: cs) = afterAll ⟨none, depth⟩ cs := by
  rw [afterAll_append, afterAll_of_not_mem h, afterAll_cons, after_quoted, if_pos rfl]

theorem marks_of_not_mem (h : mark ∉ cs) (depth : Nat) :
    marks ⟨some mark, depth⟩ cs = cs.map (·, none) := by
  induction cs with
  | nil => rfl
  | cons c cs ih =>
    rw [List.mem_cons, not_or] at h
    rw [marks, after_quoted, if_neg (Ne.symm h.1), ih h.2]
    rfl

/-- Nothing of a quotation is seen. -/
theorem marks_quotation (h : mark ∉ inside) (depth : Nat) (cs : List Char) :
    marks ⟨some mark, depth⟩ (inside ++ mark :: cs) =
      inside.map (·, none) ++ (mark, none) :: marks ⟨none, depth⟩ cs := by
  rw [marks_append, marks_of_not_mem h, afterAll_of_not_mem h, marks, after_quoted, if_pos rfl]
  rfl

/-- Outside of quotations a character that is no quote mark is seen, and opens no quotation. -/
theorem exists_level?_of_not_mark (h : isQuoteMark c = false) (depth : Nat) :
    ∃ level depth',
      level? ⟨none, depth⟩ c = some level ∧ after ⟨none, depth⟩ c = ⟨none, depth'⟩ := by
  by_cases ho : c = '('
  · subst ho
    exact ⟨depth, depth + 1, rfl, rfl⟩
  by_cases hc : c = ')'
  · subst hc
    exact ⟨depth - 1, depth - 1, rfl, rfl⟩
  · exact ⟨depth, depth, level?_plain h hc depth, after_plain h ho hc depth⟩

theorem level?_opening (s : Nesting) :
    s.level? '(' = if s.quote = none then some s.depth else none := by
  rw [level?]
  cases s.quote <;> rfl

end

end Nesting

namespace Unquoted

variable {cs seen : List Char}

/-- A text without quote marks is its own outside. -/
theorem self (h : ∀ c ∈ cs, isQuoteMark c = false) : Unquoted cs cs := by
  induction cs with
  | nil => exact .nil
  | cons c cs ih =>
    exact .cons (h c List.mem_cons_self) (ih fun x hx => h x (List.mem_cons_of_mem c hx))

theorem isQuoteMark_of_mem (h : Unquoted cs seen) : ∀ c ∈ seen, isQuoteMark c = false := by
  induction h with
  | nil => simp
  | cons hc h ih => exact List.forall_mem_cons.2 ⟨hc, ih⟩
  | quotation hmark hinside h ih => exact ih

theorem quote_afterAll (h : Unquoted cs seen) (depth : Nat) :
    (Nesting.afterAll ⟨none, depth⟩ cs).quote = none := by
  induction h generalizing depth with
  | nil => rfl
  | cons hc h ih =>
    obtain ⟨level, depth', -, hafter⟩ := Nesting.exists_level?_of_not_mark hc depth
    rw [Nesting.afterAll_cons, hafter, ih]
  | quotation hmark hinside h ih =>
    rw [Nesting.afterAll_cons, Nesting.after_mark hmark, Nesting.afterAll_quotation hinside, ih]

/-- What stands outside of quotations is what the walk sees. -/
theorem filterMap_marks (h : Unquoted cs seen) (depth : Nat) :
    (Nesting.marks ⟨none, depth⟩ cs).filterMap (fun m => m.2.map fun _ => m.1) = seen := by
  induction h generalizing depth with
  | nil => rfl
  | @cons c cs seen hc h ih =>
    obtain ⟨level, depth', hlevel, hafter⟩ := Nesting.exists_level?_of_not_mark hc depth
    rw [Nesting.marks, hlevel, hafter]
    exact congrArg (c :: ·) (ih depth')
  | quotation hmark hinside h ih =>
    rw [Nesting.marks, Nesting.level?_mark hmark, Nesting.after_mark hmark,
      Nesting.marks_quotation hinside]
    simp [ih, List.filterMap_map]

theorem mem_iff (h : Unquoted cs seen) {c : Char} :
    c ∈ seen ↔ ∃ level, (c, some level) ∈ Nesting.marks {} cs := by
  rw [← h.filterMap_marks 0, List.mem_filterMap]
  constructor
  · rintro ⟨⟨x, level?⟩, hmem, hx⟩
    obtain ⟨level, rfl, rfl⟩ := Option.map_eq_some_iff.1 hx
    exact ⟨level, hmem⟩
  · rintro ⟨level, hmem⟩
    exact ⟨_, hmem, rfl⟩

/-- Quotations make no difference to whether a text is balanced. -/
theorem isBalancedFrom_eq (h : Unquoted cs seen) (p : Char → Bool) (depth : Nat) :
    isBalancedFrom p none depth cs = isBalancedFrom p none depth seen := by
  induction h generalizing depth with
  | nil => rfl
  | @cons c cs seen hc h ih =>
    by_cases ho : c = '('
    · subst ho
      exact ih (depth + 1)
    by_cases hclose : c = ')'
    · subst hclose
      rw [isBalancedFrom_close, isBalancedFrom_close, ih]
    · rw [isBalancedFrom_plain hc ho hclose, isBalancedFrom_plain hc ho hclose, ih]
  | quotation hmark hinside h ih =>
    rw [isBalancedFrom_mark hmark, isBalancedFrom_quotation hinside, ih]

/-- A text that the walk leaves outside of quotations is made of quotations and characters between
them. -/
theorem exists_of_quote_afterAll {depth : Nat}
    (h : (Nesting.afterAll ⟨none, depth⟩ cs).quote = none) : ∃ seen, Unquoted cs seen := by
  -- a quotation is taken off as a whole, so the induction is on the length
  induction hn : cs.length using Nat.strongRecOn generalizing cs depth with
  | _ n ih =>
    cases cs with
    | nil => exact ⟨[], .nil⟩
    | cons c cs =>
      rw [Nesting.afterAll_cons] at h
      by_cases hc : isQuoteMark c = true
      · rw [Nesting.after_mark hc] at h
        by_cases hmem : c ∈ cs
        · obtain ⟨inside, rest, rfl, hinside⟩ := List.eq_append_cons_of_mem hmem
          rw [Nesting.afterAll_quotation hinside] at h
          obtain ⟨seen, hseen⟩ := ih rest.length (by simp [← hn]; omega) h rfl
          exact ⟨seen, .quotation hc hinside hseen⟩
        · rw [Nesting.afterAll_of_not_mem hmem] at h
          cases h
      · rw [Bool.not_eq_true] at hc
        obtain ⟨level, depth', -, hafter⟩ := Nesting.exists_level?_of_not_mark hc depth
        rw [hafter] at h
        obtain ⟨seen, hseen⟩ := ih cs.length (by simp [← hn]) h rfl
        exact ⟨c :: seen, .cons hc hseen⟩

end Unquoted

theorem exists_unquoted_iff {cs : List Char} :
    (∃ seen, Unquoted cs seen) ↔ (Nesting.afterAll {} cs).quote = none :=
  ⟨fun ⟨_, h⟩ => h.quote_afterAll 0, Unquoted.exists_of_quote_afterAll⟩

/-! ## The first parenthesis -/

/-- The search finds nothing in a text that precedes the first parenthesis, and is outside of
quotations at its end. -/
theorem precedesOpening_iff {cs : List Char} :
    PrecedesOpening cs ↔ Nesting.breakAt (fun c _ => c == '(') {} cs = none ∧
      (Nesting.afterAll {} cs).quote = none := by
  have hsearch (seen : List Char) (h : Unquoted cs seen) :
      '(' ∉ seen ↔ Nesting.breakAt (fun c _ => c == '(') {} cs = none := by
    rw [h.mem_iff, Nesting.breakAt_eq_none_iff, not_exists]
    constructor
    · rintro hnone ⟨c, _ | level⟩ hmem
      · rfl
      · refine beq_eq_false_iff_ne.2 ?_
        rintro rfl
        exact hnone level hmem
    · intro hnone level hmem
      cases hnone _ hmem
  rw [← exists_unquoted_iff]
  constructor
  · rintro ⟨seen, hseen, hopen⟩
    exact ⟨(hsearch seen hseen).1 hopen, seen, hseen⟩
  · rintro ⟨hnone, seen, hseen⟩
    exact ⟨seen, hseen, (hsearch seen hseen).2 hnone⟩

instance : DecidablePred PrecedesOpening := fun _ => decidable_of_iff _ precedesOpening_iff.symm

/-- What is found is the first opening parenthesis outside of quotations. -/
theorem breakAtOpening_eq_some_iff {cs before rest : List Char} :
    breakAtOpening cs = some (before, rest) ↔
      cs = before ++ '(' :: rest ∧ PrecedesOpening before := by
  rw [breakAtOpening, Nesting.breakAt_eq_some_iff, precedesOpening_iff]
  constructor
  · rintro ⟨c, rfl, hnone, hseen⟩
    obtain ⟨level, hlevel, hc⟩ := (Option.any_eq_true _ _).1 hseen
    obtain rfl : c = '(' := by simpa using hc
    rw [Nesting.level?_opening] at hlevel
    refine ⟨rfl, hnone, Decidable.byContradiction fun hquote => ?_⟩
    rw [if_neg hquote] at hlevel
    cases hlevel
  · rintro ⟨rfl, hnone, hquote⟩
    exact ⟨'(', rfl, hnone, by rw [Nesting.level?_opening, if_pos hquote]; rfl⟩

/-- Nothing is found if and only if all opening parentheses are quoted. -/
theorem breakAtOpening_eq_none_iff {cs : List Char} :
    breakAtOpening cs = none ↔
      ∀ before rest, cs = before ++ '(' :: rest → ¬∃ seen, Unquoted before seen := by
  constructor
  · rintro h before rest rfl hseen
    rw [breakAtOpening, Nesting.breakAt_eq_none_iff, Nesting.marks_append] at h
    have hopen := h ('(', (Nesting.afterAll {} before).level? '(') (by simp [Nesting.marks])
    rw [Nesting.level?_opening, if_pos (exists_unquoted_iff.1 hseen)] at hopen
    cases hopen
  · intro h
    cases hbreak : breakAtOpening cs with
    | none => rfl
    | some found =>
      obtain ⟨hcs, seen, hseen, -⟩ := breakAtOpening_eq_some_iff.1 hbreak
      exact absurd ⟨seen, hseen⟩ (h _ _ hcs)

/-! ## Its partner -/

theorem forall_prefix_cons_iff {c : Char} {cs : List Char} {P : List Char → Prop} :
    (∀ front, front <+: c :: cs → P front) ↔ P [] ∧ ∀ front, front <+: cs → P (c :: front) := by
  constructor
  · intro h
    exact ⟨h [] List.nil_prefix, fun front hfront => h _ (List.cons_prefix_cons.2 ⟨rfl, hfront⟩)⟩
  · rintro ⟨hnil, hcons⟩ front hfront
    rcases List.prefix_cons_iff.1 hfront with rfl | ⟨front', rfl, hfront'⟩
    · exact hnil
    · exact hcons front' hfront'

/-- Where nothing is quoted, a text is balanced if and only if at no place more parentheses have
been closed than there were to close, and at the end all have been closed. -/
theorem isBalancedFrom_iff_count {cs : List Char} (h : ∀ c ∈ cs, isQuoteMark c = false)
    (depth : Nat) :
    isBalancedFrom (fun _ => true) none depth cs = true ↔
      (∀ front, front <+: cs → front.count ')' ≤ depth + front.count '(') ∧
        cs.count ')' = depth + cs.count '(' := by
  induction cs generalizing depth with
  | nil =>
    rw [isBalancedFrom]
    simp [@eq_comm Nat 0]
  | cons c cs ih =>
    have hrest := ih fun x hx => h x (List.mem_cons_of_mem c hx)
    rw [forall_prefix_cons_iff]
    by_cases ho : c = '('
    · subst ho
      rw [isBalancedFrom_open, hrest]
      simp [Nat.add_assoc, Nat.add_comm 1]
    by_cases hclose : c = ')'
    · subst hclose
      rw [isBalancedFrom_close]
      cases depth with
      | zero => simpa using fun hle => absurd (hle [] List.nil_prefix) (by simp)
      | succ depth => simp [hrest, Nat.add_right_comm depth 1]
    · rw [isBalancedFrom_plain (h c List.mem_cons_self) ho hclose, Bool.or_true, Bool.true_and,
        hrest]
      simp [ho, hclose]

/-- A text has its marks and parentheses in pairs if and only if it is balanced. -/
theorem isPaired_iff {cs : List Char} : IsPaired cs ↔ isBalanced (fun _ => true) cs = true := by
  have hcount (seen : List Char) (h : Unquoted cs seen) :
      isBalanced (fun _ => true) cs = true ↔
        (∀ front, front <+: seen → front.count ')' ≤ front.count '(') ∧
          seen.count ')' = seen.count '(' := by
    rw [isBalanced, h.isBalancedFrom_eq, isBalancedFrom_iff_count h.isQuoteMark_of_mem]
    simp only [Nat.zero_add]
  constructor
  · rintro ⟨seen, hseen, hpaired⟩
    exact (hcount seen hseen).2 hpaired
  · intro h
    obtain ⟨seen, hseen⟩ :=
      exists_unquoted_iff.2 (congrArg Nesting.quote (Nesting.afterAll_of_isBalanced h))
    exact ⟨seen, hseen, (hcount seen hseen).1 h⟩

instance : DecidablePred IsPaired := fun _ => decidable_of_iff _ isPaired_iff.symm

/-- What is found after an opening parenthesis is its partner: the text between them is paired. -/
theorem breakAt_closes_eq_some_iff {cs inside rest : List Char} :
    Nesting.breakAt Nesting.closes ⟨none, 1⟩ cs = some (inside, rest) ↔
      cs = inside ++ ')' :: rest ∧ IsPaired inside := by
  rw [isPaired_iff]
  constructor
  · intro h
    obtain ⟨c, rfl, hnone, hseen⟩ := Nesting.breakAt_eq_some_iff.1 h
    obtain ⟨level, hlevel, hc⟩ := (Option.any_eq_true _ _).1 hseen
    obtain ⟨rfl, rfl⟩ : c = ')' ∧ level = 0 := by simpa [Nesting.closes] using hc
    -- the walk one level deeper is at its own depth again, so nothing of the text is open
    obtain ⟨quote, depth, -, hafter, -, hbalanced⟩ :=
      Nesting.afterAll_of_breakAt_eq_none (fun _ hm => by cases hm) hnone
    refine ⟨rfl, hbalanced.2 ?_⟩
    rw [hafter] at hlevel
    cases quote with
    | some mark => cases hlevel
    | none => exact ⟨rfl, Option.some.inj hlevel⟩
  · rintro ⟨rfl, hinside⟩
    have hcloses : ∀ (c : Char) (l : Nat), 1 ≤ l → Nesting.closes c l = false := by
      intro c l hl
      rw [Nesting.closes, Bool.and_eq_false_iff, beq_eq_false_iff_ne (a := l)]
      exact .inr (by omega)
    have hbreak : Nesting.breakAt Nesting.closes ⟨none, 1⟩ (inside ++ ')' :: rest) =
        some (inside ++ [], rest) := breakAt_append hcloses hinside (')' :: rest)
    rw [hbreak, List.append_nil]

end Codebook.Sql
