import Codebook.Proofs.Sql.Balance
import Codebook.Proofs.Sql.Lexing

/-!
# Tokens and their layout

A clause of a column list is written in tokens with blanks between them.  This file says what a
token is and how tokens are laid out, and shows that cutting the text at its blanks gives the tokens
back.

What is here: `IsToken`; `Spaced`, tokens with blanks between them; and `IsWritten`, tokens with
blanks between and around them, as they stand between two commas.
-/

set_option autoImplicit false

namespace Codebook.Sql

open Codebook.Text

/-! ## Tokens -/

/-- A token: it has some character, its quotations and parentheses are closed, and outside of them
it has neither blanks nor commas. -/
structure IsToken (cs : List Char) : Prop where
  /-- It has some character. -/
  ne_nil : cs ≠ []
  /-- It is balanced. -/
  balanced : isBalanced (fun c => !isBlank c && c != ',') cs = true

instance : DecidablePred IsToken := fun cs =>
  decidable_of_iff (cs ≠ [] ∧ isBalanced (fun c => !isBlank c && c != ',') cs = true)
    ⟨fun h => ⟨h.1, h.2⟩, fun h => ⟨h.ne_nil, h.balanced⟩⟩

namespace IsToken

variable {cs : List Char}

theorem isTrimmed (h : IsToken cs) : IsTrimmed cs := by
  refine isTrimmed_of_isBalanced (fun c hc => ?_) h.balanced
  rw [Bool.and_eq_true, Bool.not_eq_true'] at hc
  exact hc.1

/-- A token is read on from wherever its first character is. -/
theorem tokensFrom_append (h : IsToken cs) (rest : List Char) :
    tokensFrom none 0 [] (cs ++ rest) = tokensFrom none 0 cs.reverse rest := by
  have hp : ∀ c, (!isBlank c && c != ',') = true → isAsciiBlank c = false := by
    intro c hc
    rw [Bool.and_eq_true, Bool.not_eq_true'] at hc
    rw [← Bool.not_eq_true]
    intro hblank
    rw [isBlank_of_isAsciiBlank hblank] at hc
    exact Bool.noConfusion hc.1
  rw [Sql.tokensFrom_append hp h.balanced, List.append_nil]

theorem closeToken_reverse (h : IsToken cs) (ts : List (List Char)) :
    closeToken cs.reverse ts = cs :: ts := by
  rw [closeToken, List.reverse_reverse, List.isEmpty_reverse, List.isEmpty_eq_false_iff.2 h.ne_nil,
    if_neg Bool.false_ne_true]

end IsToken

/-- A word is a token. -/
theorem IsWord.isToken {cs : List Char} (h : IsWord cs) : IsToken cs := by
  refine ⟨h.1, isBalanced_of_forall fun c hc => ?_⟩
  obtain ⟨hblank, hquote, hother⟩ := isPlain_of_isWord h hc
  simp only [List.mem_cons, List.not_mem_nil, or_false, not_or] at hother
  exact ⟨by simp [hblank, hother.1], hquote, hother.2.1, hother.2.2.1⟩

/-! ## Layout -/

/-- Tokens with blanks between them. -/
inductive Spaced : List (List Char) → List Char → Prop
  | single (t : List Char) : Spaced [t] t
  | cons {t blanks text : List Char} {ts : List (List Char)} (hne : blanks ≠ [])
      (hblanks : ∀ c ∈ blanks, isAsciiBlank c = true) (h : Spaced ts text) :
      Spaced (t :: ts) (t ++ blanks ++ text)

theorem tokensFrom_blank {c : Char} (hc : isAsciiBlank c = true) (current cs : List Char) :
    tokensFrom none 0 current (c :: cs) = closeToken current (tokens cs) := by
  simp only [isAsciiBlank, Bool.or_eq_true, beq_iff_eq] at hc
  rcases hc with (((rfl | rfl) | rfl) | rfl) | rfl <;> rfl

/-- Blanks at the front are in no token. -/
theorem tokens_blanks {blanks : List Char} (h : ∀ c ∈ blanks, isAsciiBlank c = true)
    (cs : List Char) : tokens (blanks ++ cs) = tokens cs := by
  induction blanks with
  | nil => rfl
  | cons c blanks ih =>
    rw [List.cons_append, tokens, tokensFrom_blank (h c List.mem_cons_self),
      ih fun x hx => h x (List.mem_cons_of_mem _ hx)]
    rfl

/-- Blanks are balanced, and no commas. -/
theorem isBalanced_blanks {blanks : List Char} (h : ∀ c ∈ blanks, isBlank c = true) :
    isBalanced (· != ',') blanks = true := by
  refine isBalanced_of_forall fun c hc => ?_
  have hblank := h c hc
  refine ⟨?_, ?_, ?_, ?_⟩
  · rw [bne_iff_ne]
    rintro rfl
    exact absurd hblank (by decide)
  · rw [← Bool.not_eq_true]
    intro hm
    rw [isBlank_of_isQuoteMark hm] at hblank
    exact Bool.noConfusion hblank
  · rintro rfl
    exact absurd hblank (by decide)
  · rintro rfl
    exact absurd hblank (by decide)

namespace Spaced

variable {ts : List (List Char)} {text : List Char}

/-- The tokens of a text are the ones that it was written from. -/
theorem tokens_eq (h : Spaced ts text) (hts : ∀ t ∈ ts, IsToken t) : tokens text = ts := by
  induction h with
  | single t =>
    have ht := hts t List.mem_cons_self
    have htokens := ht.tokensFrom_append []
    rw [List.append_nil] at htokens
    rw [tokens, htokens]
    exact ht.closeToken_reverse []
  | @cons t blanks text ts hne hblanks h ih =>
    have ht := hts t List.mem_cons_self
    obtain ⟨c, blanks, rfl⟩ := List.exists_cons_of_ne_nil hne
    rw [List.append_assoc, tokens, ht.tokensFrom_append, List.cons_append,
      tokensFrom_blank (hblanks c List.mem_cons_self),
      tokens_blanks fun x hx => hblanks x (List.mem_cons_of_mem _ hx),
      ih fun x hx => hts x (List.mem_cons_of_mem _ hx)]
    exact ht.closeToken_reverse ts

/-- What stands after a blank is cut into tokens by itself. -/
theorem tokens_append (h : Spaced ts text) (hts : ∀ t ∈ ts, IsToken t) {c : Char}
    (hc : isAsciiBlank c = true) (rest : List Char) :
    tokens (text ++ c :: rest) = ts ++ tokens rest := by
  induction h with
  | single t =>
    have ht := hts t List.mem_cons_self
    rw [tokens, ht.tokensFrom_append, tokensFrom_blank hc]
    exact ht.closeToken_reverse _
  | @cons t blanks text ts hne hblanks h ih =>
    have ht := hts t List.mem_cons_self
    obtain ⟨x, blanks, rfl⟩ := List.exists_cons_of_ne_nil hne
    rw [List.append_assoc, List.append_assoc, tokens, ht.tokensFrom_append, List.cons_append,
      tokensFrom_blank (hblanks x List.mem_cons_self),
      tokens_blanks fun y hy => hblanks y (List.mem_cons_of_mem _ hy),
      ih fun y hy => hts y (List.mem_cons_of_mem _ hy)]
    exact ht.closeToken_reverse _

theorem ne_nil (h : Spaced ts text) (hts : ∀ t ∈ ts, IsToken t) : text ≠ [] := by
  cases h with
  | single t => exact (hts _ List.mem_cons_self).ne_nil
  | cons hne hblanks h => simp [(hts _ List.mem_cons_self).ne_nil]

theorem isTrimmed (h : Spaced ts text) (hts : ∀ t ∈ ts, IsToken t) : IsTrimmed text := by
  induction h with
  | single t => exact (hts t List.mem_cons_self).isTrimmed
  | cons hne hblanks h ih =>
    have ht := hts _ List.mem_cons_self
    have hts' := fun x hx => hts x (List.mem_cons_of_mem _ hx)
    exact ht.isTrimmed.append ht.ne_nil (ih hts') (h.ne_nil hts')

/-- There is no comma at the top level. -/
theorem isBalanced (h : Spaced ts text) (hts : ∀ t ∈ ts, IsToken t) :
    isBalanced (· != ',') text = true := by
  have hmono : ∀ t, IsToken t → Sql.isBalanced (· != ',') t = true := by
    refine fun t ht => isBalanced_mono (fun c hc => ?_) ht.balanced
    rw [Bool.and_eq_true] at hc
    exact hc.2
  induction h with
  | single t => exact hmono t (hts t List.mem_cons_self)
  | cons hne hblanks h ih =>
    refine isBalanced_append (isBalanced_append (hmono _ (hts _ List.mem_cons_self)) ?_)
      (ih fun x hx => hts x (List.mem_cons_of_mem _ hx))
    exact isBalanced_blanks fun c hc => isBlank_of_isAsciiBlank (hblanks c hc)

end Spaced

/-- Tokens as they are written between two commas: with blanks between them, and around. -/
def IsWritten (ts : List (List Char)) (text : List Char) : Prop :=
  ∃ before inner after, text = before ++ inner ++ after ∧ Spaced ts inner ∧
    (∀ c ∈ before, isBlank c = true) ∧ ∀ c ∈ after, isBlank c = true

namespace IsWritten

variable {ts : List (List Char)} {text : List Char}

theorem tokens_trim (h : IsWritten ts text) (hts : ∀ t ∈ ts, IsToken t) :
    tokens (trim text) = ts := by
  obtain ⟨before, inner, after, rfl, hinner, hbefore, hafter⟩ := h
  rw [trim_append (hinner.isTrimmed hts) hbefore hafter, hinner.tokens_eq hts]

theorem ne_nil (h : IsWritten ts text) (hts : ∀ t ∈ ts, IsToken t) : text ≠ [] := by
  obtain ⟨before, inner, after, rfl, hinner, -, -⟩ := h
  simp [hinner.ne_nil hts]

theorem isBalanced (h : IsWritten ts text) (hts : ∀ t ∈ ts, IsToken t) :
    Sql.isBalanced (· != ',') text = true := by
  obtain ⟨before, inner, after, rfl, hinner, hbefore, hafter⟩ := h
  exact isBalanced_append
    (isBalanced_append (isBalanced_blanks hbefore) (hinner.isBalanced hts))
    (isBalanced_blanks hafter)

end IsWritten

/-- One space between the tokens is a layout. -/
theorem spaced_joinWith {ts : List (List Char)} (hne : ts ≠ []) :
    Spaced ts (joinWith [' '] ts) := by
  induction ts with
  | nil => exact absurd rfl hne
  | cons t ts ih =>
    cases ts with
    | nil => exact .single t
    | cons next ts => exact .cons (by simp) (by decide) (ih (List.cons_ne_nil _ _))

theorem isWritten_joinWith {ts : List (List Char)} (hne : ts ≠ []) :
    IsWritten ts (joinWith [' '] ts) :=
  ⟨[], joinWith [' '] ts, [], by simp, spaced_joinWith hne, by simp, by simp⟩

end Codebook.Sql
