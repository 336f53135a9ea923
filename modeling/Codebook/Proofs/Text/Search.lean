import Codebook.Proofs.Text.Blank
import Codebook.Text.Search
import Mathlib.Data.List.Infix

/-!
# What is found in a text

A character that does not occur in what is searched for is a wall: an occurrence stands before it or
behind it.  So a search through joined lines is one through the lines, and the first occurrence is
that in the first line that has one.

What is here: `containsText_iff`, what it is to contain a text; `infix_append_cons_iff`, the wall;
and `removeFirst_joinWith`, that the first occurrence among some lines is taken from its line.
-/

set_option autoImplicit false

namespace Codebook.Text

variable {needle cs ds : List Char} {s : Char}

/-! ## Occurrences -/

theorem afterPrefix?_eq_none_iff : afterPrefix? needle cs = none ↔ ¬ needle <+: cs := by
  rw [Option.eq_none_iff_forall_not_mem, List.IsPrefix, not_exists]
  exact forall_congr' fun rest => not_congr ((afterPrefix?_eq_some_iff ..).trans eq_comm)

/-- **A text contains what is an infix of it.** -/
theorem containsText_iff : containsText needle cs = true ↔ needle <:+: cs := by
  rw [containsText]
  constructor
  · intro h
    obtain ⟨⟨before, rest⟩, hbreak⟩ := Option.isSome_iff_exists.1 h
    exact ⟨before, rest, (eq_of_breakAtText hbreak).symm⟩
  · intro h
    induction cs with
    | nil =>
      obtain rfl := List.infix_nil.1 h
      rfl
    | cons c cs ih =>
      rw [breakAtText]
      split
      · rfl
      · rename_i hnone
        rw [Option.isSome_map]
        exact ih ((List.infix_cons_iff.1 h).resolve_left (afterPrefix?_eq_none_iff.1 hnone))

/-- **An occurrence stands before or behind a character that it does not have.** -/
theorem infix_append_cons_iff (hs : s ∉ needle) (cs ds : List Char) :
    needle <:+: cs ++ s :: ds ↔ needle <:+: cs ∨ needle <:+: ds := by
  constructor
  · rintro ⟨before, after, heq⟩
    rcases List.append_eq_append_iff.1 heq with ⟨x, hcs, -⟩ | ⟨x, hbefore, hrest⟩
    · exact .inl ⟨before, x, hcs.symm⟩
    rcases List.cons_eq_append_iff.1 hrest with ⟨rfl, -⟩ | ⟨y, rfl, rfl⟩
    · exact .inl ⟨before, [], by simpa using hbefore⟩
    rcases List.append_eq_append_iff.1 hbefore with ⟨z, -, hneedle⟩ | ⟨z, -, hwall⟩
    · exact absurd (by simp [hneedle]) hs
    rcases List.cons_eq_append_iff.1 hwall with ⟨rfl, hneedle⟩ | ⟨w, rfl, rfl⟩
    · exact absurd (by simp [hneedle]) hs
    · exact .inr ⟨w, after, rfl⟩
  · rintro (h | h)
    · exact h.trans (List.prefix_append cs _).isInfix
    · exact h.trans ((List.suffix_cons s ds).trans (List.suffix_append cs _)).isInfix

theorem infix_cons_iff_of_not_mem (hne : needle ≠ []) (hs : s ∉ needle) (cs : List Char) :
    needle <:+: s :: cs ↔ needle <:+: cs := by
  rw [← List.nil_append (s :: cs), infix_append_cons_iff hs, List.infix_nil, or_iff_right hne]

/-- What has no blanks is found whether or not trailing blanks are trimmed away. -/
theorem infix_trimRight_iff (hne : needle ≠ []) (hblank : ∀ c ∈ needle, isBlank c = false)
    (cs : List Char) : needle <:+: trimRight cs ↔ needle <:+: cs := by
  obtain ⟨after, heq, hafter⟩ : ∃ after, cs = trimRight cs ++ after ∧
      ∀ c ∈ after, isBlank c = true := by
    refine ⟨(cs.reverse.takeWhile isBlank).reverse, ?_, fun c hc => ?_⟩
    · rw [trimRight, trimRightWhile, ← List.reverse_append, List.takeWhile_append_dropWhile,
        List.reverse_reverse]
    · exact List.all_eq_true.1 List.all_takeWhile c (List.mem_reverse.1 hc)
  cases after with
  | nil => rw [List.append_nil] at heq; rw [← heq]
  | cons b bs =>
    have hnot : ∀ c ∈ b :: bs, c ∉ needle := fun c hc hmem =>
      Bool.false_ne_true ((hblank c hmem).symm.trans (hafter c hc))
    have hbs : ¬ needle <:+: bs := fun h => by
      obtain ⟨c, hc⟩ := List.exists_mem_of_ne_nil needle hne
      exact hnot c (List.mem_cons_of_mem b (h.subset hc)) hc
    conv_rhs => rw [heq, infix_append_cons_iff (hnot b List.mem_cons_self), or_iff_left hbs]

theorem joinWith_char_cons {parts : List (List Char)} (hparts : parts ≠ []) (part : List Char) :
    joinWith [s] (part :: parts) = part ++ s :: joinWith [s] parts :=
  joinWith_append [s] (List.cons_ne_nil part []) hparts

/-- **What is found among joined lines is found in a line.** -/
theorem infix_joinWith_iff (hne : needle ≠ []) (hs : s ∉ needle) (lines : List (List Char)) :
    needle <:+: joinWith [s] lines ↔ ∃ line ∈ lines, needle <:+: line := by
  induction lines with
  | nil => simp [joinWith, hne]
  | cons line lines ih =>
    cases lines with
    | nil => simp [joinWith]
    | cons next lines =>
      rw [joinWith_char_cons (List.cons_ne_nil next lines), infix_append_cons_iff hs, ih]
      simp only [List.mem_cons, exists_eq_or_imp]

/-! ## The first occurrence -/

/-- What is found in a text is found there when more follows. -/
theorem breakAtText_append {before rest : List Char}
    (h : breakAtText needle cs = some (before, rest)) (ds : List Char) :
    breakAtText needle (cs ++ ds) = some (before, rest ++ ds) := by
  induction cs generalizing before with
  | nil =>
    cases needle with
    | nil =>
      obtain ⟨rfl, rfl⟩ : [] = before ∧ [] = rest := by simpa [breakAtText] using h
      cases ds <;> rfl
    | cons n needle => simp [breakAtText] at h
  | cons c cs ih =>
    rw [breakAtText] at h
    rw [List.cons_append, breakAtText, ← List.cons_append]
    split at h
    · rename_i r hr
      obtain ⟨rfl, rfl⟩ : [] = before ∧ r = rest := by simpa using h
      have hfront : afterPrefix? needle (c :: cs ++ ds) = some (r ++ ds) := by
        rw [afterPrefix?_eq_some_iff, (afterPrefix?_eq_some_iff ..).1 hr, List.append_assoc]
      rw [hfront]
    · rename_i hnone
      obtain ⟨⟨b, r⟩, hb, heq⟩ := Option.map_eq_some_iff.1 h
      obtain ⟨rfl, rfl⟩ : c :: b = before ∧ r = rest := by simpa using heq
      -- An occurrence fits into `cs`, so it cannot start here and reach into `ds`.
      have hlength : needle.length ≤ (c :: cs).length := by
        have hlen := congrArg List.length (eq_of_breakAtText hb)
        simp only [List.length_append, List.length_cons] at hlen ⊢
        omega
      have hnot : afterPrefix? needle (c :: cs ++ ds) = none :=
        afterPrefix?_eq_none_iff.2 fun hfront => afterPrefix?_eq_none_iff.1 hnone
          (List.prefix_of_prefix_length_le hfront (List.prefix_append _ ds) hlength)
      rw [hnot, ih hb]
      rfl

/-- No occurrence starts before a wall that has none before it. -/
theorem afterPrefix?_append_cons (hs : s ∉ needle) (hcs : ¬ needle <:+: cs) (ds : List Char) :
    afterPrefix? needle (cs ++ s :: ds) = none := by
  rw [afterPrefix?_eq_none_iff]
  rintro ⟨t, ht⟩
  rcases List.append_eq_append_iff.1 ht with ⟨x, hx, -⟩ | ⟨x, hx, hrest⟩
  · exact hcs ⟨[], x, hx.symm⟩
  rcases List.cons_eq_append_iff.1 hrest with ⟨rfl, -⟩ | ⟨y, rfl, -⟩
  · exact hcs ⟨[], [], by simpa using hx⟩
  · exact hs (by simp [hx])

/-- The first occurrence is behind a wall that has none before it. -/
theorem breakAtText_append_cons (hs : s ∉ needle) (hcs : ¬ needle <:+: cs) (ds : List Char) :
    breakAtText needle (cs ++ s :: ds) =
      (breakAtText needle ds).map fun (before, rest) => (cs ++ s :: before, rest) := by
  induction cs with
  | nil =>
    have hnone : afterPrefix? needle (s :: ds) = none := afterPrefix?_append_cons hs hcs ds
    rw [List.nil_append, breakAtText, hnone]
    rfl
  | cons c cs ih =>
    have hnone : afterPrefix? needle (c :: (cs ++ s :: ds)) = none :=
      afterPrefix?_append_cons hs hcs ds
    have hrest : ¬ needle <:+: cs := fun h => hcs (h.trans (List.suffix_cons c cs).isInfix)
    rw [List.cons_append, breakAtText, hnone, ih hrest]
    cases breakAtText needle ds <;> rfl

theorem removeFirst_append (h : needle <:+: cs) (ds : List Char) :
    removeFirst needle (cs ++ ds) = removeFirst needle cs ++ ds := by
  obtain ⟨⟨before, rest⟩, hbreak⟩ := Option.isSome_iff_exists.1 (containsText_iff.2 h)
  rw [removeFirst, removeFirst, breakAtText_append hbreak, hbreak]
  exact (List.append_assoc ..).symm

theorem removeFirst_append_cons (hs : s ∉ needle) (hcs : ¬ needle <:+: cs) (ds : List Char) :
    removeFirst needle (cs ++ s :: ds) = cs ++ s :: removeFirst needle ds := by
  rw [removeFirst, removeFirst, breakAtText_append_cons hs hcs]
  cases breakAtText needle ds with
  | none => rfl
  | some found => simp

/-- **The first occurrence among some lines is taken from the first line that has one.** -/
theorem removeFirst_joinWith (hs : s ∉ needle) {pre post : List (List Char)} {line : List Char}
    (hpre : ∀ x ∈ pre, ¬ needle <:+: x) (hline : needle <:+: line) :
    removeFirst needle (joinWith [s] (pre ++ line :: post)) =
      joinWith [s] (pre ++ removeFirst needle line :: post) := by
  induction pre with
  | nil =>
    rw [List.nil_append, List.nil_append, joinWith_cons, joinWith_cons, removeFirst_append hline]
  | cons x pre ih =>
    have hx := hpre x List.mem_cons_self
    have hrest := ih fun y hy => hpre y (List.mem_cons_of_mem x hy)
    rw [List.cons_append, List.cons_append, joinWith_char_cons (by simp),
      joinWith_char_cons (by simp), removeFirst_append_cons hs hx, hrest]

end Codebook.Text
