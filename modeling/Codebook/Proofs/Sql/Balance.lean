import Codebook.Proofs.Text.Blank
import Codebook.Sql.ColumnList

/-!
# Balanced texts

A text is balanced if it ends outside of quotations, each of its parentheses has a partner, and its
characters at the top level, quote marks and parentheses apart, are of some sort.  The walks over
column lists pass over such a text as if it were one character: at the top level the walk goes on
after it where it stood before it, and whatever the walk looks for is not found within.

What is here: `isBalancedFrom`, the condition, computed; `after_of_isBalancedFrom`, what one step of
a walk does within such a text; and one lemma for each walk, `breakAt_append`,
`cutAtDepthZero_append` and `tokensFrom_append`.
-/

set_option autoImplicit false

namespace Codebook.Sql

open Codebook.Text

/-- Whether a text closes what is open and what it opens itself, and has at the top level only
characters in `p` besides quotations and parentheses. -/
def isBalancedFrom (p : Char → Bool) (quote : Option Char) (depth : Nat) : List Char → Bool
  | [] => quote.isNone && depth == 0
  | c :: cs =>
    match quote with
    | some mark => isBalancedFrom p (if c = mark then none else some mark) depth cs
    | none =>
      if isQuoteMark c then isBalancedFrom p (some c) depth cs
      else if c = '(' then isBalancedFrom p none (depth + 1) cs
      else if c = ')' then depth != 0 && isBalancedFrom p none (depth - 1) cs
      else (depth != 0 || p c) && isBalancedFrom p none depth cs

/-- Whether a text is balanced, with only characters in `p` at the top level. -/
def isBalanced (p : Char → Bool) (cs : List Char) : Bool := isBalancedFrom p none 0 cs

/-! ## One character -/

section

variable {p : Char → Bool} {c mark : Char} {cs : List Char} {depth : Nat}

theorem isBalancedFrom_quoted :
    isBalancedFrom p (some mark) depth (c :: cs) =
      isBalancedFrom p (if c = mark then none else some mark) depth cs := by
  rw [isBalancedFrom]

theorem isBalancedFrom_mark (hc : isQuoteMark c = true) :
    isBalancedFrom p none depth (c :: cs) = isBalancedFrom p (some c) depth cs := by
  rw [isBalancedFrom]
  simp only [hc, if_true]

theorem isBalancedFrom_open :
    isBalancedFrom p none depth ('(' :: cs) = isBalancedFrom p none (depth + 1) cs := rfl

theorem isBalancedFrom_close :
    isBalancedFrom p none depth (')' :: cs) =
      (depth != 0 && isBalancedFrom p none (depth - 1) cs) := rfl

theorem isBalancedFrom_plain (hc : isQuoteMark c = false) (ho : c ≠ '(') (hc' : c ≠ ')') :
    isBalancedFrom p none depth (c :: cs) =
      ((depth != 0 || p c) && isBalancedFrom p none depth cs) := by
  rw [isBalancedFrom]
  simp only [hc, ho, hc', if_false, Bool.false_eq_true]

theorem isBalancedFrom_quotation {inside : List Char} (h : mark ∉ inside) :
    isBalancedFrom p (some mark) depth (inside ++ mark :: cs) = isBalancedFrom p none depth cs := by
  induction inside with
  | nil => rw [List.nil_append, isBalancedFrom_quoted, if_pos rfl]
  | cons c inside ih =>
    rw [List.mem_cons, not_or] at h
    rw [List.cons_append, isBalancedFrom_quoted, if_neg (Ne.symm h.1), ih h.2]

end

namespace Nesting

theorem after_quoted (mark c : Char) (depth : Nat) :
    after ⟨some mark, depth⟩ c = ⟨if c = mark then none else some mark, depth⟩ := by
  rw [after]
  by_cases hc : c = mark <;> simp [hc]

theorem after_mark {mark : Char} (hmark : isQuoteMark mark = true) (depth : Nat) :
    after ⟨none, depth⟩ mark = ⟨some mark, depth⟩ := by
  simp [after, hmark]

theorem after_plain {c : Char} (hm : isQuoteMark c = false) (ho : c ≠ '(') (hc : c ≠ ')')
    (depth : Nat) : after ⟨none, depth⟩ c = ⟨none, depth⟩ := by
  simp [after, hm, ho, hc]

theorem level?_mark {mark : Char} (hmark : isQuoteMark mark = true) (s : Nesting) :
    s.level? mark = none := by
  rw [level?]
  cases s.quote <;> simp [hmark]

theorem level?_plain {c : Char} (hm : isQuoteMark c = false) (hc : c ≠ ')') (depth : Nat) :
    level? ⟨none, depth⟩ c = some depth := by
  simp [level?, hm, hc]

end Nesting

/-- The cases of a balanced text that is not empty, where the walk is outside of quotations: it
starts with a quote mark, a parenthesis, or a character that is neither. -/
theorem isBalancedFrom_cons_cases {p : Char → Bool} {c : Char} {cs : List Char} {depth : Nat}
    (h : isBalancedFrom p none depth (c :: cs) = true) :
    (isQuoteMark c = true ∧ isBalancedFrom p (some c) depth cs = true) ∨
      (c = '(' ∧ isBalancedFrom p none (depth + 1) cs = true) ∨
      (c = ')' ∧ ∃ n, depth = n + 1 ∧ isBalancedFrom p none n cs = true) ∨
      (isQuoteMark c = false ∧ c ≠ '(' ∧ c ≠ ')' ∧ (depth = 0 → p c = true) ∧
        isBalancedFrom p none depth cs = true) := by
  by_cases hmark : isQuoteMark c = true
  · exact .inl ⟨hmark, by rwa [isBalancedFrom_mark hmark] at h⟩
  rw [Bool.not_eq_true] at hmark
  by_cases ho : c = '('
  · subst ho
    rw [isBalancedFrom_open] at h
    exact .inr (.inl ⟨rfl, h⟩)
  by_cases hc : c = ')'
  · subst hc
    rw [isBalancedFrom_close, Bool.and_eq_true, bne_iff_ne] at h
    obtain ⟨n, rfl⟩ := Nat.exists_eq_succ_of_ne_zero h.1
    exact .inr (.inr (.inl ⟨rfl, n, rfl, h.2⟩))
  · rw [isBalancedFrom_plain hmark ho hc, Bool.and_eq_true, Bool.or_eq_true, bne_iff_ne] at h
    exact .inr (.inr (.inr ⟨hmark, ho, hc, fun hd => h.1.resolve_left (· hd), h.2⟩))

/-! ## Putting texts together -/

/-- A balanced text goes before another one, also where the other allows more at the top level. -/
theorem isBalancedFrom_append {p q : Char → Bool} (hpq : ∀ c, p c = true → q c = true)
    {quote : Option Char} {depth : Nat} {cs ds : List Char}
    (h : isBalancedFrom p quote depth cs = true) (hds : isBalanced q ds = true) :
    isBalancedFrom q quote depth (cs ++ ds) = true := by
  induction cs generalizing quote depth with
  | nil =>
    rw [isBalancedFrom, Bool.and_eq_true, Option.isNone_iff_eq_none, beq_iff_eq] at h
    obtain ⟨rfl, rfl⟩ := h
    exact hds
  | cons c cs ih =>
    rw [List.cons_append]
    cases quote with
    | some mark =>
      rw [isBalancedFrom_quoted] at h ⊢
      exact ih h
    | none =>
      rcases isBalancedFrom_cons_cases h with ⟨hm, h⟩ | ⟨rfl, h⟩ | ⟨rfl, n, rfl, h⟩ |
        ⟨hm, ho, hc, hp, h⟩
      · rw [isBalancedFrom_mark hm]
        exact ih h
      · exact ih h
      · rw [isBalancedFrom_close]
        exact ih h
      · rw [isBalancedFrom_plain hm ho hc, ih h, Bool.and_true, Bool.or_eq_true, bne_iff_ne]
        by_cases hd : depth = 0
        · exact .inr (hpq c (hp hd))
        · exact .inl hd

theorem isBalanced_mono {p q : Char → Bool} (hpq : ∀ c, p c = true → q c = true)
    {cs : List Char} (h : isBalanced p cs = true) : isBalanced q cs = true := by
  have happend := isBalancedFrom_append hpq h (rfl : isBalanced q [] = true)
  rwa [List.append_nil] at happend

theorem isBalanced_append {p : Char → Bool} {cs ds : List Char} (hcs : isBalanced p cs = true)
    (hds : isBalanced p ds = true) : isBalanced p (cs ++ ds) = true :=
  isBalancedFrom_append (fun _ hc => hc) hcs hds

/-- A text without quote marks and parentheses is balanced. -/
theorem isBalanced_of_forall {p : Char → Bool} {cs : List Char}
    (h : ∀ c ∈ cs, p c = true ∧ isQuoteMark c = false ∧ c ≠ '(' ∧ c ≠ ')') :
    isBalanced p cs = true := by
  induction cs with
  | nil => rfl
  | cons c cs ih =>
    obtain ⟨hp, hm, ho, hc⟩ := h c (by simp)
    rw [isBalanced, isBalancedFrom_plain hm ho hc, hp, Bool.or_true, Bool.true_and]
    exact ih fun x hx => h x (List.mem_cons_of_mem _ hx)

/-! ## Walks -/

section

variable {p : Char → Bool} {quote : Option Char} {depth : Nat} {cs : List Char}

/-- One step of a walk within a balanced text.  The text may stand at any depth `k`: what is open
there is still open afterwards, and a character that is seen at the depth of the text is a
parenthesis or one that is allowed at the top level. -/
theorem after_of_isBalancedFrom {c : Char} (h : isBalancedFrom p quote depth (c :: cs) = true)
    (k : Nat) :
    ∃ quote' depth', Nesting.after ⟨quote, depth + k⟩ c = ⟨quote', depth' + k⟩ ∧
      isBalancedFrom p quote' depth' cs = true ∧
      ∀ l ∈ Nesting.level? ⟨quote, depth + k⟩ c, k ≤ l ∧
        (l = k → p c = true ∨ c = '(' ∨ c = ')') := by
  cases quote with
  | some mark =>
    rw [isBalancedFrom_quoted] at h
    exact ⟨_, depth, Nesting.after_quoted mark c _, h, by simp [Nesting.level?]⟩
  | none =>
    rcases isBalancedFrom_cons_cases h with ⟨hm, h⟩ | ⟨rfl, h⟩ | ⟨rfl, n, rfl, h⟩ |
      ⟨hm, ho, hc, hp, h⟩
    · exact ⟨some c, depth, Nesting.after_mark hm _, h, by simp [Nesting.level?_mark hm]⟩
    · refine ⟨none, depth + 1, ?_, h, ?_⟩
      · show Nesting.mk none (depth + k + 1) = _
        rw [Nat.add_right_comm]
      · rintro l hl
        obtain rfl : depth + k = l := Option.some.inj hl
        exact ⟨Nat.le_add_left k depth, fun _ => .inr (.inl rfl)⟩
    · refine ⟨none, n, ?_, h, ?_⟩
      · show Nesting.mk none (n + 1 + k - 1) = _
        rw [Nat.add_right_comm, Nat.add_sub_cancel]
      · rintro l hl
        obtain rfl : n + 1 + k - 1 = l := Option.some.inj hl
        exact ⟨by omega, fun _ => .inr (.inr rfl)⟩
    · refine ⟨none, depth, Nesting.after_plain hm ho hc _, h, ?_⟩
      rintro l hl
      rw [Nesting.level?_plain hm hc] at hl
      obtain rfl : depth + k = l := Option.some.inj hl
      exact ⟨Nat.le_add_left k depth, fun hk => .inl (hp (by omega))⟩

/-- One step of a walk at the depth of a balanced text, where it looks for characters that are not
allowed there: this is none of them. -/
theorem not_seen_of_isBalancedFrom {q : Char → Bool} (hpq : ∀ c, p c = true → q c = false)
    (ho : q '(' = false) (hc : q ')' = false) {c : Char}
    (h : isBalancedFrom p quote depth (c :: cs) = true) :
    (q c && Nesting.level? ⟨quote, depth⟩ c == some 0) = false ∧
      ∃ quote' depth', Nesting.after ⟨quote, depth⟩ c = ⟨quote', depth'⟩ ∧
        isBalancedFrom p quote' depth' cs = true := by
  obtain ⟨quote', depth', hafter, h', hlevel⟩ := after_of_isBalancedFrom h 0
  refine ⟨?_, quote', depth', hafter, h'⟩
  rw [Bool.and_eq_false_iff, beq_eq_false_iff_ne]
  by_cases hl : Nesting.level? ⟨quote, depth⟩ c = some 0
  · rcases (hlevel 0 hl).2 rfl with hp | rfl | rfl
    · exact .inl (hpq c hp)
    · exact .inl ho
    · exact .inl hc
  · exact .inr hl

/-- What is open after the empty text: nothing of its own. -/
theorem eq_of_isBalancedFrom_nil (h : isBalancedFrom p quote depth [] = true) :
    quote = none ∧ depth = 0 := by
  rw [isBalancedFrom, Bool.and_eq_true, Option.isNone_iff_eq_none, beq_iff_eq] at h
  exact h

/-- A search for something further out goes past a balanced text. -/
theorem breakAt_append {k : Nat} {q : Char → Nat → Bool} (hq : ∀ c l, k ≤ l → q c l = false)
    (h : isBalancedFrom p quote depth cs = true) (rest : List Char) :
    Nesting.breakAt q ⟨quote, depth + k⟩ (cs ++ rest) =
      (Nesting.breakAt q ⟨none, k⟩ rest).map fun (before, after) => (cs ++ before, after) := by
  induction cs generalizing quote depth with
  | nil =>
    obtain ⟨rfl, rfl⟩ := eq_of_isBalancedFrom_nil h
    rw [Nat.zero_add]
    exact Option.map_id'.symm
  | cons c cs ih =>
    obtain ⟨quote', depth', hafter, h', hlevel⟩ := after_of_isBalancedFrom h k
    have hseen : (Nesting.level? ⟨quote, depth + k⟩ c).any (q c) = false := by
      rw [Option.any_eq_false_iff_get]
      intro hsome
      rw [hq c _ (hlevel _ (Option.get_mem hsome)).1]
    rw [List.cons_append, Nesting.breakAt, hseen, if_neg Bool.false_ne_true, hafter, ih h',
      Option.map_map]
    rfl

/-- Nothing is cut within a balanced text, unless at a character that is allowed at its top level:
it is the start of the first part. -/
theorem cutAtDepthZero_append {q : Char → Bool} (hpq : ∀ c, p c = true → q c = false)
    (ho : q '(' = false) (hc : q ')' = false) (h : isBalancedFrom p quote depth cs = true)
    {rest part : List Char} {parts : List (List Char)}
    (hrest : Nesting.cutAtDepthZero q {} rest = part :: parts) :
    Nesting.cutAtDepthZero q ⟨quote, depth⟩ (cs ++ rest) = (cs ++ part) :: parts := by
  induction cs generalizing quote depth with
  | nil =>
    obtain ⟨rfl, rfl⟩ := eq_of_isBalancedFrom_nil h
    exact hrest
  | cons c cs ih =>
    obtain ⟨hseen, quote', depth', hafter, h'⟩ := not_seen_of_isBalancedFrom hpq ho hc h
    rw [List.cons_append, Nesting.cutAtDepthZero, hseen, if_neg Bool.false_ne_true, hafter, ih h']
    rfl

/-- One step of the cutting into tokens, told as a step of the other walks. -/
theorem tokensFrom_cons (s : Nesting) (current : List Char) (c : Char) (cs : List Char) :
    tokensFrom s.quote s.depth current (c :: cs) =
      if isAsciiBlank c && s.level? c == some 0 then
        closeToken current (tokensFrom (s.after c).quote (s.after c).depth [] cs)
      else tokensFrom (s.after c).quote (s.after c).depth (c :: current) cs := by
  obtain ⟨quote, depth⟩ := s
  cases quote with
  | some mark => by_cases hc : c = mark <;> simp [tokensFrom, Nesting.level?, Nesting.after, hc]
  | none =>
    by_cases hm : isQuoteMark c = true
    · simp [tokensFrom, Nesting.level?, Nesting.after, hm]
    by_cases ho : c = '('
    · subst ho
      rfl
    by_cases hc : c = ')'
    · subst hc
      rfl
    · simp [tokensFrom, Nesting.level?, Nesting.after, hm, ho, hc]

/-- A balanced text without blanks at the top level goes on with the token that has been started. -/
theorem tokensFrom_append (hp : ∀ c, p c = true → isAsciiBlank c = false)
    (h : isBalancedFrom p quote depth cs = true) (current rest : List Char) :
    tokensFrom quote depth current (cs ++ rest) =
      tokensFrom none 0 (cs.reverse ++ current) rest := by
  induction cs generalizing quote depth current with
  | nil =>
    obtain ⟨rfl, rfl⟩ := eq_of_isBalancedFrom_nil h
    rfl
  | cons c cs ih =>
    obtain ⟨hseen, quote', depth', hafter, h'⟩ := not_seen_of_isBalancedFrom hp rfl rfl h
    rw [List.cons_append, tokensFrom_cons ⟨quote, depth⟩, hseen, if_neg Bool.false_ne_true, hafter,
      ih h', List.reverse_cons, List.append_assoc]
    rfl

/-! ## Ends -/

theorem isBlank_of_isQuoteMark {c : Char} (h : isQuoteMark c = true) : isBlank c = false := by
  simp only [isQuoteMark, Bool.or_eq_true, beq_iff_eq] at h
  rcases h with (rfl | rfl) | rfl <;> decide

theorem isBlank_head_of_isBalanced (hp : ∀ c, p c = true → isBlank c = false)
    (h : isBalanced p cs = true) : ∀ c ∈ cs.head?, isBlank c = false := by
  intro c hc
  obtain ⟨rest, rfl⟩ : ∃ rest, cs = c :: rest := List.head?_eq_some_iff.1 hc
  rcases isBalancedFrom_cons_cases h with ⟨hm, -⟩ | ⟨rfl, -⟩ | ⟨-, n, hn, -⟩ | ⟨-, -, -, hpc, -⟩
  · exact isBlank_of_isQuoteMark hm
  · decide
  · cases hn
  · exact hp c (hpc rfl)

theorem isBlank_getLast_of_isBalancedFrom (hp : ∀ c, p c = true → isBlank c = false)
    (hquote : ∀ mark ∈ quote, isBlank mark = false)
    (h : isBalancedFrom p quote depth cs = true) : ∀ c ∈ cs.getLast?, isBlank c = false := by
  induction cs generalizing quote depth with
  | nil => simp
  | cons c cs ih =>
    by_cases hcs : cs = []
    · subst hcs
      rintro d hd
      obtain rfl : c = d := Option.some.inj hd
      cases quote with
      | some mark =>
        rw [isBalancedFrom_quoted] at h
        by_cases hc : c = mark
        · exact hc ▸ hquote mark rfl
        · rw [if_neg hc] at h
          cases (eq_of_isBalancedFrom_nil h).1
      | none =>
        rcases isBalancedFrom_cons_cases h with ⟨hm, -⟩ | ⟨rfl, -⟩ | ⟨rfl, -⟩ | ⟨-, -, -, hpc, h⟩
        · exact isBlank_of_isQuoteMark hm
        · decide
        · decide
        · exact hp c (hpc (eq_of_isBalancedFrom_nil h).2)
    · rw [List.getLast?_cons_of_ne_nil hcs]
      cases quote with
      | some mark =>
        rw [isBalancedFrom_quoted] at h
        refine ih (fun m hm => ?_) h
        by_cases hc : c = mark
        · rw [if_pos hc] at hm
          cases hm
        · rw [if_neg hc] at hm
          exact hquote m hm
      | none =>
        rcases isBalancedFrom_cons_cases h with ⟨hm, h⟩ | ⟨-, h⟩ | ⟨-, n, -, h⟩ | ⟨-, -, -, -, h⟩
        · refine ih (fun m hmem => ?_) h
          obtain rfl : c = m := Option.some.inj hmem
          exact isBlank_of_isQuoteMark hm
        all_goals exact ih (by simp) h

/-- A balanced text without blanks at the top level has none at its ends. -/
theorem isTrimmed_of_isBalanced (hp : ∀ c, p c = true → isBlank c = false)
    (h : isBalanced p cs = true) : IsTrimmed cs :=
  ⟨isBlank_head_of_isBalanced hp h, isBlank_getLast_of_isBalancedFrom hp (by simp) h⟩

end

end Codebook.Sql
