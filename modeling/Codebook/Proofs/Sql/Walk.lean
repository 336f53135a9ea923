import Codebook.Proofs.Sql.Balance

/-!
# Walks over texts that are put together

`Balance` says how the walks pass over a balanced text.  This file says how they pass over any text:
what is open after the first part is where the walk over the second part starts.

A walk that starts outside of all parentheses cannot tell a closing parenthesis without partner,
since its depth stays at zero there.  One that starts a level deeper can, as it comes out of that
level.  `afterAll_of_breakAt_eq_none` tells the two walks apart, and with them the texts that are
balanced from those that leave something open.

What is here: lemmas on `Nesting.afterAll`, `Nesting.breakAt` and `Nesting.cutAtDepthZero` for two
parts of a text; `Nesting.breakAt_eq_some_iff`, what a search finds; and `IsPlain`, texts in which a
walk changes nothing.
-/

set_option autoImplicit false

namespace Codebook.Sql

namespace Nesting

/-! ## What is open -/

@[simp] theorem afterAll_nil (s : Nesting) : s.afterAll [] = s := rfl

@[simp] theorem afterAll_cons (s : Nesting) (c : Char) (cs : List Char) :
    s.afterAll (c :: cs) = (s.after c).afterAll cs := rfl

theorem afterAll_append (s : Nesting) (cs ds : List Char) :
    s.afterAll (cs ++ ds) = (s.afterAll cs).afterAll ds := List.foldl_append

/-- A balanced text leaves open what was open before it. -/
theorem afterAll_of_isBalancedFrom {p : Char → Bool} {quote : Option Char} {depth : Nat}
    {cs : List Char} (h : isBalancedFrom p quote depth cs = true) (k : Nat) :
    afterAll ⟨quote, depth + k⟩ cs = ⟨none, k⟩ := by
  induction cs generalizing quote depth with
  | nil =>
    obtain ⟨rfl, rfl⟩ := eq_of_isBalancedFrom_nil h
    rw [Nat.zero_add]
    rfl
  | cons c cs ih =>
    obtain ⟨quote', depth', hafter, h', -⟩ := after_of_isBalancedFrom h k
    rw [afterAll_cons, hafter, ih h']

theorem afterAll_of_isBalanced {p : Char → Bool} {cs : List Char} (h : isBalanced p cs = true) :
    afterAll {} cs = {} :=
  afterAll_of_isBalancedFrom h 0

theorem map_fst_marks (s : Nesting) (cs : List Char) : (s.marks cs).map Prod.fst = cs := by
  induction cs generalizing s with
  | nil => rfl
  | cons c cs ih => exact congrArg (c :: ·) (ih (s.after c))

theorem marks_append (s : Nesting) (cs ds : List Char) :
    s.marks (cs ++ ds) = s.marks cs ++ (s.afterAll cs).marks ds := by
  induction cs generalizing s with
  | nil => rfl
  | cons c cs ih => exact congrArg ((c, s.level? c) :: ·) (ih (s.after c))

/-! ## Searching -/

theorem breakAt_append_of_none {p : Char → Nat → Bool} {s : Nesting} {cs : List Char}
    (h : breakAt p s cs = none) (ds : List Char) :
    breakAt p s (cs ++ ds) =
      (breakAt p (s.afterAll cs) ds).map fun (before, after) => (cs ++ before, after) := by
  induction cs generalizing s with
  | nil => exact Option.map_id'.symm
  | cons c cs ih =>
    rw [breakAt] at h
    rw [List.cons_append, breakAt]
    split at h
    · cases h
    · rename_i hseen
      rw [if_neg hseen, ih (Option.map_eq_none_iff.1 h), Option.map_map]
      rfl

/-- What is found is the first of the characters that are seen and are looked for. -/
theorem breakAt_eq_some_iff {p : Char → Nat → Bool} {s : Nesting} {cs before after : List Char} :
    breakAt p s cs = some (before, after) ↔
      ∃ c, cs = before ++ c :: after ∧ breakAt p s before = none ∧
        ((s.afterAll before).level? c).any (p c) = true := by
  constructor
  · intro h
    induction cs generalizing s before with
    | nil => cases h
    | cons c cs ih =>
      rw [breakAt] at h
      split at h
      · rename_i hseen
        obtain ⟨rfl, rfl⟩ : [] = before ∧ cs = after := by simpa using h
        exact ⟨c, rfl, rfl, hseen⟩
      · rename_i hseen
        obtain ⟨⟨b, a⟩, hb, heq⟩ := Option.map_eq_some_iff.1 h
        obtain ⟨rfl, rfl⟩ : c :: b = before ∧ a = after := by simpa using heq
        obtain ⟨x, rfl, hnone, hx⟩ := ih hb
        refine ⟨x, rfl, ?_, hx⟩
        rw [breakAt, if_neg hseen, hnone]
        rfl
  · rintro ⟨c, rfl, hnone, hseen⟩
    rw [breakAt_append_of_none hnone, breakAt, if_pos hseen]
    exact congrArg (fun cs => some (cs, after)) (List.append_nil before)

theorem breakAt_append_of_some {p : Char → Nat → Bool} {s : Nesting} {cs before after : List Char}
    (h : breakAt p s cs = some (before, after)) (ds : List Char) :
    breakAt p s (cs ++ ds) = some (before, after ++ ds) := by
  obtain ⟨c, rfl, hfound⟩ := breakAt_eq_some_iff.1 h
  exact breakAt_eq_some_iff.2 ⟨c, List.append_assoc .., hfound⟩

/-- Nothing is found where nothing that is seen is looked for. -/
theorem breakAt_eq_none_iff {p : Char → Nat → Bool} {s : Nesting} {cs : List Char} :
    breakAt p s cs = none ↔ ∀ m ∈ s.marks cs, m.2.any (p m.1) = false := by
  induction cs generalizing s with
  | nil => simp [breakAt, marks]
  | cons c cs ih =>
    rw [breakAt, marks, List.forall_mem_cons, ← ih]
    split
    · rename_i hseen
      simp [hseen]
    · rename_i hseen
      simpa using fun _ => hseen

/-! ## Cutting -/

section

variable {p : Char → Bool} {s : Nesting} {cs : List Char}

theorem cutAtDepthZero_ne_nil (p : Char → Bool) (s : Nesting) (cs : List Char) :
    cutAtDepthZero p s cs ≠ [] := by
  cases cs with
  | nil => exact List.cons_ne_nil _ _
  | cons c cs =>
    rw [cutAtDepthZero]
    split
    · exact List.cons_ne_nil _ _
    · split <;> exact List.cons_ne_nil _ _

theorem cutAtDepthZero_cons_of_pos {c : Char} (h : (p c && s.level? c == some 0) = true) :
    cutAtDepthZero p s (c :: cs) = [] :: cutAtDepthZero p (s.after c) cs := by
  rw [cutAtDepthZero, h, if_pos rfl]

/-- A character at which nothing is cut is the first of the first part. -/
theorem cutAtDepthZero_cons_of_neg {c : Char} (h : (p c && s.level? c == some 0) = false)
    {part : List Char} {parts : List (List Char)}
    (hcs : cutAtDepthZero p (s.after c) cs = part :: parts) :
    cutAtDepthZero p s (c :: cs) = (c :: part) :: parts := by
  rw [cutAtDepthZero, h, if_neg Bool.false_ne_true, hcs]

/-- A text is cut in two by a cut within it, where nothing is open. -/
theorem cutAtDepthZero_append_cons (hs : s.afterAll cs = {}) {c : Char}
    (hc : (p c && level? {} c == some 0) = true) (ds : List Char) :
    cutAtDepthZero p s (cs ++ c :: ds) =
      cutAtDepthZero p s cs ++ cutAtDepthZero p (after {} c) ds := by
  induction cs generalizing s with
  | nil =>
    obtain rfl : s = {} := hs
    show cutAtDepthZero p {} (c :: ds) = [] :: cutAtDepthZero p (after {} c) ds
    rw [cutAtDepthZero, hc, if_pos rfl]
  | cons x cs ih =>
    rw [List.cons_append, cutAtDepthZero, cutAtDepthZero, ih hs]
    split
    · rfl
    · obtain ⟨part, parts, hcut⟩ :=
        List.exists_cons_of_ne_nil (cutAtDepthZero_ne_nil p (s.after x) cs)
      rw [hcut]
      rfl

/-- The parts of two texts: the last of the first text and the first of the second are one. -/
theorem length_cutAtDepthZero_append (p : Char → Bool) (s : Nesting) (cs ds : List Char) :
    (cutAtDepthZero p s (cs ++ ds)).length + 1 =
      (cutAtDepthZero p s cs).length + (cutAtDepthZero p (s.afterAll cs) ds).length := by
  induction cs generalizing s with
  | nil => exact Nat.add_comm _ _
  | cons c cs ih =>
    have htail := ih (s.after c)
    obtain ⟨part, parts, hcut⟩ :=
      List.exists_cons_of_ne_nil (cutAtDepthZero_ne_nil p (s.after c) (cs ++ ds))
    obtain ⟨part', parts', hcut'⟩ :=
      List.exists_cons_of_ne_nil (cutAtDepthZero_ne_nil p (s.after c) cs)
    rw [hcut, hcut'] at htail
    rw [List.cons_append, cutAtDepthZero, cutAtDepthZero, hcut, hcut', afterAll_cons]
    dsimp only
    split
    · simp only [List.length_cons] at htail ⊢
      omega
    · exact htail

theorem length_cutAtDepthZero_le (p : Char → Bool) (s : Nesting) (cs : List Char) :
    (cutAtDepthZero p s cs).length ≤ cs.length + 1 := by
  induction cs generalizing s with
  | nil => exact Nat.le_refl 1
  | cons c cs ih =>
    have htail := ih (s.after c)
    obtain ⟨part, parts, hcut⟩ :=
      List.exists_cons_of_ne_nil (cutAtDepthZero_ne_nil p (s.after c) cs)
    rw [hcut] at htail
    rw [cutAtDepthZero, hcut]
    dsimp only
    split
    · exact Nat.succ_le_succ htail
    · exact Nat.le_succ_of_le htail

end

end Nesting

/-! ## Plain texts -/

/-- A text without quote marks and parentheses. -/
def IsPlain (cs : List Char) : Prop := ∀ c ∈ cs, isQuoteMark c = false ∧ c ≠ '(' ∧ c ≠ ')'

namespace Nesting

/-- What is open is opened by quote marks. -/
def QuotesByMarks (s : Nesting) : Prop := ∀ mark ∈ s.quote, isQuoteMark mark = true

section

variable {s : Nesting} {cs : List Char}

theorem after_of_isPlain (hs : s.QuotesByMarks) {c : Char}
    (hc : isQuoteMark c = false ∧ c ≠ '(' ∧ c ≠ ')') : s.after c = s := by
  obtain ⟨quote, depth⟩ := s
  cases quote with
  | none => exact after_plain hc.1 hc.2.1 hc.2.2 depth
  | some mark =>
    have hne : c ≠ mark := by
      rintro rfl
      rw [hs c rfl] at hc
      cases hc.1
    simp [after, hne]

theorem afterAll_of_isPlain (hs : s.QuotesByMarks) (h : IsPlain cs) : s.afterAll cs = s := by
  induction cs with
  | nil => rfl
  | cons c cs ih =>
    rw [afterAll_cons, after_of_isPlain hs (h c List.mem_cons_self)]
    exact ih fun x hx => h x (List.mem_cons_of_mem _ hx)

/-- Nothing is cut in a plain text while something is open. -/
theorem cutAtDepthZero_of_isPlain (p : Char → Bool) (hs : s.QuotesByMarks) (hopen : s ≠ {})
    (h : IsPlain cs) : cutAtDepthZero p s cs = [cs] := by
  induction cs with
  | nil => rfl
  | cons c cs ih =>
    have hc := h c List.mem_cons_self
    have hcut := ih fun x hx => h x (List.mem_cons_of_mem _ hx)
    rw [← after_of_isPlain hs hc] at hcut
    refine cutAtDepthZero_cons_of_neg ?_ hcut
    rw [Bool.and_eq_false_iff, beq_eq_false_iff_ne]
    refine .inr fun hlevel => hopen ?_
    obtain ⟨quote, depth⟩ := s
    cases quote with
    | some mark => cases hlevel
    | none =>
      rw [level?_plain hc.1 hc.2.2] at hlevel
      obtain rfl : depth = 0 := Option.some.inj hlevel
      rfl

end

/-! ## The partner of a parenthesis -/

/-- Whether a character closes the parenthesis around a text. -/
def closes (c : Char) (depth : Nat) : Bool := c == ')' && depth == 0

/-- **Two walks over a text**, one outside of all parentheses and one a level deeper.  Unless the
text closes the parenthesis around it the two go side by side, and the text is balanced if and only
if nothing is open at its end. -/
theorem afterAll_of_breakAt_eq_none {quote : Option Char} {depth : Nat} {cs : List Char}
    (hquote : QuotesByMarks ⟨quote, depth⟩) (h : breakAt closes ⟨quote, depth + 1⟩ cs = none) :
    ∃ quote' depth', afterAll ⟨quote, depth⟩ cs = ⟨quote', depth'⟩ ∧
      afterAll ⟨quote, depth + 1⟩ cs = ⟨quote', depth' + 1⟩ ∧
      QuotesByMarks ⟨quote', depth'⟩ ∧
      (isBalancedFrom (fun _ => true) quote depth cs = true ↔ quote' = none ∧ depth' = 0) := by
  induction cs generalizing quote depth with
  | nil => exact ⟨quote, depth, rfl, rfl, hquote, by simp [isBalancedFrom]⟩
  | cons c cs ih =>
    rw [breakAt] at h
    split at h
    · cases h
    rename_i hseen
    have h' := Option.map_eq_none_iff.1 h
    simp only [afterAll_cons]
    cases quote with
    | some mark =>
      rw [after_quoted] at h'
      rw [after_quoted, after_quoted, isBalancedFrom_quoted]
      refine ih (fun m hm => ?_) h'
      by_cases hc : c = mark
      · simp [hc] at hm
      · exact hquote m (by simpa [hc] using hm)
    | none =>
      by_cases hm : isQuoteMark c = true
      · rw [after_mark hm] at h'
        rw [after_mark hm, after_mark hm, isBalancedFrom_mark hm]
        refine ih (fun m hmem => ?_) h'
        obtain rfl : c = m := Option.some.inj hmem
        exact hm
      by_cases ho : c = '('
      · subst ho
        exact ih hquote h'
      by_cases hc : c = ')'
      · subst hc
        -- the walk a level deeper would have come out
        obtain ⟨n, rfl⟩ : ∃ n, depth = n + 1 := by
          refine Nat.exists_eq_succ_of_ne_zero fun hzero => ?_
          subst hzero
          exact hseen rfl
        exact ih hquote h'
      · rw [Bool.not_eq_true] at hm
        rw [after_plain hm ho hc] at h'
        rw [after_plain hm ho hc, after_plain hm ho hc, isBalancedFrom_plain hm ho hc, Bool.or_true,
          Bool.true_and]
        exact ih hquote h'

end Nesting

end Codebook.Sql
