import Codebook.Proofs.Go.Matching
import Codebook.Proofs.Go.TopLevel
import Mathlib.Data.List.TakeWhile

/-!
# The tokens of the trees of a file

Reading makes no tokens.  So what is known of all tokens of a source is known of the tokens of its
trees; and what is known here is that a word is a name, which no blank breaks.

What is here: `IsName.isBlank_eq_false`, that names have no blanks; `Token.IsMatched`, what is known
of every token of a source, and that words are names; and `isMatched_of_readFile` and
`wordsAreNames_readFile`.
-/

set_option autoImplicit false

namespace Codebook

/-! ## Names have no blanks -/

namespace Text

/-- Ranges that have no character in common with others. -/
def Ranges.Apart (r s : Ranges) : Prop := ∀ p ∈ r, ∀ q ∈ s, p.2 < q.1 ∨ q.2 < p.1

instance (r s : Ranges) : Decidable (r.Apart s) :=
  inferInstanceAs (Decidable (∀ p ∈ r, ∀ q ∈ s, p.2 < q.1 ∨ q.2 < p.1))

theorem Ranges.Apart.contains_eq_false {r s : Ranges} (h : r.Apart s) {c : Char}
    (hc : r.contains c = true) : s.contains c = false := by
  obtain ⟨p, hp, hlow, hhigh⟩ := (r.contains_iff c).1 hc
  rw [← Bool.not_eq_true, s.contains_iff]
  rintro ⟨q, hq, hlow', hhigh'⟩
  have := h p hp q hq
  omega

/-- A character that may stand in a word is not blank. -/
theorem isBlank_of_isIdentifierContinue {c : Char} (h : isIdentifierContinue c = true) :
    isBlank c = false := by
  by_cases hc : c.toNat < 128
  · have hall : ∀ n < 128, isIdentifierContinue (Char.ofNat n) = true →
        isBlank (Char.ofNat n) = false := by decide +kernel
    exact forall_of_lt_128 (p := fun c => isIdentifierContinue c = true → isBlank c = false)
      hall hc h
  · have hstart : identifierStartRanges.Apart blankRanges := by decide +kernel
    have hextra : identifierExtraRanges.Apart blankRanges := by decide +kernel
    rw [isIdentifierContinue, if_neg hc, Bool.or_eq_true] at h
    exact h.elim hstart.contains_eq_false hextra.contains_eq_false

end Text

namespace Go

open Codebook.Text Form

theorem isIdentifierContinue_of_startsWord {c : Char} (h : startsWord c = true) :
    isIdentifierContinue c = true := by
  rw [startsWord, Bool.or_eq_true, beq_iff_eq] at h
  rcases h with rfl | h
  · decide
  · exact isIdentifierContinue_of_start h

/-- **A name has no blanks.** -/
theorem IsName.isBlank_eq_false {cs : List Char} (h : IsName cs) : ∀ c ∈ cs, isBlank c = false := by
  match cs, h with
  | c :: cs, h =>
    intro x hx
    refine isBlank_of_isIdentifierContinue ?_
    rcases List.mem_cons.1 hx with rfl | hx
    · exact isIdentifierContinue_of_startsWord h.1
    · exact h.2 x hx

/-! ## Words are names -/

/-- A word at the front is a name, and what is left follows it. -/
theorem exists_isName_append {cs rest : List Char} (h : matchToken cs = some (.word, rest)) :
    ∃ name, IsName name ∧ cs = name ++ rest := by
  cases fronts_of_matchToken h with
  | @word c hstarts more =>
    refine ⟨c :: more.takeWhile isIdentifierContinue, ⟨hstarts, fun x hx => ?_⟩, ?_⟩
    · exact List.mem_takeWhile_imp hx
    · rw [List.cons_append, List.takeWhile_append_dropWhile]

/-- A token is what is matched at some place of a source. -/
def Token.IsMatched (t : Token) : Prop :=
  ∃ cs rest, matchToken cs = some (t.kind, rest) ∧
    t.text.toList = cs.take (cs.length - rest.length)

theorem isMatched_of_scanFrom {fuel : Nat} {p : Place} {cs : List Char} {ts : List Token}
    (h : Token.scanFrom fuel p cs = .ok ts) : ∀ t ∈ ts, t.IsMatched := by
  induction fuel generalizing p cs ts with
  | zero =>
    obtain rfl := Except.ok.inj h
    simp
  | succ fuel ih =>
    cases cs with
    | nil =>
      obtain rfl := Except.ok.inj h
      simp
    | cons c cs =>
      rw [Token.scanFrom] at h
      split at h
      · exact ih h
      · cases hmatch : matchToken (c :: cs) with
        | none => simp [hmatch] at h
        | some r =>
          obtain ⟨kind, rest⟩ := r
          simp only [hmatch] at h
          split at h
          · cases h
          · rename_i tokens htokens
            obtain rfl := Except.ok.inj h
            intro t ht
            rcases List.mem_cons.1 ht with rfl | ht
            · exact ⟨c :: cs, rest, hmatch, String.toList_ofList⟩
            · exact ih htokens t ht

/-- The tokens of a source are what is matched in it. -/
theorem isMatched_of_scan {source : List Char} {ts : List Token} (h : Token.scan source = .ok ts) :
    ∀ t ∈ ts, t.IsMatched := isMatched_of_scanFrom h

namespace Token.IsMatched

variable {t : Token}

/-- The text of a token is what the matcher has taken. -/
theorem text_eq {cs taken rest : List Char} (hcs : cs = taken ++ rest)
    (htext : t.text.toList = cs.take (cs.length - rest.length)) : t.text.toList = taken := by
  rw [htext, hcs, List.length_append, Nat.add_sub_cancel, List.take_left]

/-- **The words of a source are names.** -/
theorem isName (h : t.IsMatched) (hkind : t.kind = .word) : IsName t.text.toList := by
  obtain ⟨cs, rest, hmatch, htext⟩ := h
  obtain ⟨name, hname, hcs⟩ := exists_isName_append (hkind ▸ hmatch)
  rwa [text_eq hcs htext]

end Token.IsMatched

/-! ## The tokens of a file -/

/-- The tokens of the trees of a file are what is matched in its source. -/
theorem isMatched_of_readFile {path : String} {bytes : List UInt8} {forest : List Tree}
    (h : readFile path bytes = .ok forest) : ∀ t ∈ Tree.forestTokens forest, t.IsMatched := by
  obtain ⟨source, ts, hscan, hsublist⟩ := exists_scan_of_readFile h
  exact fun t ht => isMatched_of_scan hscan t (hsublist.subset ht)

/-- All words of some trees are names. -/
def WordsAreNames (forest : List Tree) : Prop :=
  ∀ t ∈ Tree.forestTokens forest, t.kind = .word → IsName t.text.toList

/-- What holds of the words of a tree holds of those below it. -/
theorem WordsAreNames.children {forest parts : List Tree} {label : Label}
    (h : WordsAreNames forest) (hmem : .node label parts ∈ forest) : WordsAreNames parts :=
  fun t ht => h t (Tree.mem_forestTokens.2 ⟨_, hmem, ht⟩)

/-- **The words of the trees of a file are names.** -/
theorem wordsAreNames_readFile {path : String} {bytes : List UInt8} {forest : List Tree}
    (h : readFile path bytes = .ok forest) : WordsAreNames forest :=
  fun t ht hkind => (isMatched_of_readFile h t ht).isName hkind

end Go

end Codebook
