import Codebook.Proofs.Sql.Quoting
import Codebook.Proofs.Sql.Token
import Codebook.Proofs.Sql.Walk

/-!
# String literals

The lexer knows where a string literal ends, with its escapes.  The walks over raw text know of no
escapes; for them a quotation runs to the next mark of its kind.  Where no mark is escaped by a
backslash the two agree, since a mark that is written twice closes a quotation and opens it again.
Where one is, the walks take it for the end, and what follows for text outside of quotations.

What is here: `IsLiteral`, the texts that the lexer takes as one string literal, and their shape;
`endsUnescaped`, the condition that no mark is escaped; and `IsLiteral.isToken`, that a literal with
the condition is a token for the walks.
-/

set_option autoImplicit false

namespace Codebook.Sql

open Codebook.Text

/-! ## Lexemes that are no texts -/

/-- What is read is no text, if anything is read. -/
def GivesNoText (r : Except LexicalError (Option Lexeme × List Char)) : Prop :=
  ∀ style value rest, r ≠ .ok (some (.text style value), rest)

theorem givesNoText_readOperator (d : Dialect) (rest : List Char) :
    GivesNoText (readOperator d rest) := by
  simp [GivesNoText, readOperator]

theorem givesNoText_readAtSign (d : Dialect) (rest : List Char) :
    GivesNoText (readAtSign d rest) := by
  intro style value after h
  cases d <;> simp only [readAtSign, readOperator, readWord] at h <;> grind

theorem givesNoText_readSymbol (d : Dialect) (c : Char) (rest : List Char) :
    GivesNoText (readSymbol d c rest) := by
  have hop := givesNoText_readOperator d
  have hat := givesNoText_readAtSign d
  intro style value after h
  unfold readSymbol at h
  split at h
  case h_2 rest' =>
    cases hcomment : skipBlockComment 0 ' ' rest' <;> simp [hcomment, Except.map] at h
  all_goals grind [GivesNoText]

theorem readNumber_ne_text (d : Dialect) (cs : List Char) (style : TextStyle) (value : String) :
    (readNumber d cs).1 ≠ .text style value := by
  unfold readNumber
  grind


/-- Strings of bits and bytes are no texts. -/
theorem givesNoText_readText (mark : Char) (escapes : Bool) (cs : List Char) :
    GivesNoText (readText mark escapes (fun _ => .other) cs) := by
  intro style value after h
  unfold readText at h
  split at h <;> simp at h

theorem GivesNoText.ite {p : Prop} [Decidable p]
    {a b : Except LexicalError (Option Lexeme × List Char)} (ha : p → GivesNoText a)
    (hb : ¬p → GivesNoText b) : GivesNoText (if p then a else b) := by
  split
  · exact ha ‹_›
  · exact hb ‹_›

theorem givesNoText_readWord (d : Dialect) (start rest : List Char) :
    GivesNoText (.ok (some (readWord d start rest).1, (readWord d start rest).2)) := by
  simp [GivesNoText, readWord]

/-- A text starts with a quote mark, or with a letter and a quote mark. -/
theorem givesNoText_readOne {d : Dialect} {c : Char} {rest : List Char}
    (hmark : isQuoteMark c = false)
    (hletter : c ∈ ['n', 'N', 'e', 'E'] → ∀ more, rest ≠ '\'' :: more) :
    GivesNoText (readOne d c rest) := by
  have hword := givesNoText_readWord d [c] rest
  have hmarks : (c ≠ '\'' ∧ c ≠ '"') ∧ c ≠ '\x60' := by simpa [isQuoteMark] using hmark
  unfold readOne
  refine .ite (fun _ => by simp [GivesNoText]) fun _ => .ite (fun _ => ?bits) fun _ =>
    .ite (fun hn => ?national) fun _ => .ite (fun he => ?escaped) fun _ => .ite (fun _ => ?unicode)
    fun _ => .ite (fun _ => ?bytes) fun _ => .ite (fun h => ?plain) fun _ => .ite (fun _ => ?name)
    fun _ => .ite (fun h => ?double) fun _ => .ite (fun _ => ?number) fun _ =>
    .ite (fun _ => ?symbol) fun _ => .ite (fun _ => hword) fun _ => .ite (fun _ => ?dollar)
    fun _ => .ite (fun _ => by simp [GivesNoText]) fun _ => by simp [GivesNoText]
  case bits =>
    split
    · exact givesNoText_readText _ _ _
    · exact givesNoText_readText _ _ _
    · exact hword
  case national =>
    split
    · exact absurd rfl (hletter (by grind) _)
    · exact hword
  case escaped =>
    split
    · exact absurd rfl (hletter (by grind) _)
    · exact hword
  case unicode =>
    split
    · rename_i text
      cases skipUnicode (text.length + 1) text <;> simp [GivesNoText, bind, Except.bind]
    · exact hword
  case bytes =>
    split
    · exact givesNoText_readText _ _ _
    · exact hword
  case plain => exact absurd (beq_iff_eq.1 h) hmarks.1.1
  case name => split <;> simp [GivesNoText]
  case double => exact absurd (beq_iff_eq.1 h) hmarks.1.2
  case number =>
    intro style value after h
    simp only [Except.ok.injEq, Prod.mk.injEq, Option.some.injEq] at h
    exact readNumber_ne_text d (c :: rest) style value h.1
  case symbol => exact givesNoText_readSymbol d c rest
  case dollar => split <;> simp [GivesNoText]

/-! ## The shape of a literal -/

/-- The lexer takes a whole text as one string literal. -/
def IsLiteral (d : Dialect) (cs : List Char) : Prop :=
  ∃ c rest style value, cs = c :: rest ∧ readOne d c rest = .ok (some (.text style value), [])

/-- Whether the lexer takes a whole text as one string literal, computed. -/
def isLiteral (d : Dialect) : List Char → Bool
  | [] => false
  | c :: rest =>
    match readOne d c rest with
    | .ok (some (.text _ _), []) => true
    | _ => false

theorem isLiteral_iff (d : Dialect) (cs : List Char) : isLiteral d cs = true ↔ IsLiteral d cs := by
  constructor
  · intro h
    unfold isLiteral at h
    split at h
    · cases h
    · rename_i c rest
      split at h
      · rename_i style value hone
        exact ⟨c, rest, style, value, rfl, hone⟩
      · cases h
  · rintro ⟨c, rest, style, value, rfl, hone⟩
    simp only [isLiteral, hone]

instance (d : Dialect) : DecidablePred (IsLiteral d) := fun cs =>
  decidable_of_iff _ (isLiteral_iff d cs)

/-- A literal has a quote mark at its front, or after a letter. -/
theorem IsLiteral.shape {d : Dialect} {cs : List Char} (h : IsLiteral d cs) :
    ∃ letters mark body, cs = letters ++ mark :: body ∧ isQuoteMark mark = true ∧
      ∀ c ∈ letters, c ∈ ['n', 'N', 'e', 'E'] := by
  obtain ⟨c, rest, style, value, rfl, hone⟩ := h
  by_cases hmark : isQuoteMark c = true
  · exact ⟨[], c, rest, rfl, hmark, by simp⟩
  · by_cases hletter : c ∈ ['n', 'N', 'e', 'E'] ∧ ∃ more, rest = '\'' :: more
    · obtain ⟨hc, more, rfl⟩ := hletter
      exact ⟨[c], '\'', more, rfl, rfl, by simpa using hc⟩
    · refine absurd hone (givesNoText_readOne (by simpa using hmark) ?_ style value [])
      exact fun hc more hmore => hletter ⟨hc, more, hmore⟩

/-! ## Marks that are not escaped -/

/-- Whether a literal ends where it does also when its backslashes are read as they stand: no mark
in it is escaped by one. -/
def endsUnescaped (cs : List Char) : Bool :=
  match cs.dropWhile fun c => !isQuoteMark c with
  | [] => false
  | mark :: body => (readQuoted mark false body).any fun r => r.2.isEmpty

/-- How a quotation without escapes goes on: it ends, it has a mark that is written twice, or it has
some other character. -/
theorem readQuoted_cases {mark : Char} {body value : List Char}
    (h : readQuoted mark false body = some (value, [])) :
    body = [mark] ∨
      (∃ rest value', body = mark :: mark :: rest ∧
        readQuoted mark false rest = some (value', [])) ∨
      ∃ c rest value', body = c :: rest ∧ c ≠ mark ∧
        readQuoted mark false rest = some (value', []) := by
  have hread : ∀ {cs : List Char} {c : Char},
      (readQuoted mark false cs).map (consRead c) = some (value, []) →
        ∃ value', readQuoted mark false cs = some (value', []) := by
    intro cs c hmap
    obtain ⟨⟨value', rest⟩, hr, heq⟩ := Option.map_eq_some_iff.1 hmap
    obtain rfl : rest = [] := (Prod.mk.inj heq).2
    exact ⟨value', hr⟩
  cases body with
  | nil => cases h
  | cons c cs =>
    rw [readQuoted_cons] at h
    by_cases hc : c = mark
    · subst hc
      rw [if_pos rfl] at h
      cases cs with
      | nil => exact .inl rfl
      | cons d rest =>
        dsimp only at h
        by_cases hd : d = c
        · subst hd
          rw [if_pos rfl] at h
          obtain ⟨value', hvalue⟩ := hread h
          exact .inr (.inl ⟨rest, value', rfl, hvalue⟩)
        · rw [if_neg hd] at h
          cases h
    · rw [if_neg hc, if_neg (by simp)] at h
      obtain ⟨value', hvalue⟩ := hread h
      exact .inr (.inr ⟨c, cs, value', rfl, hc, hvalue⟩)

/-- A quotation without escapes is closed at its end. -/
theorem isBalancedFrom_of_readQuoted {p : Char → Bool} {mark : Char}
    (hmark : isQuoteMark mark = true) {body value : List Char}
    (h : readQuoted mark false body = some (value, [])) :
    isBalancedFrom p (some mark) 0 body = true := by
  induction hn : body.length using Nat.strongRecOn generalizing body value with
  | ind n ih =>
    subst hn
    rcases readQuoted_cases h with rfl | ⟨rest, v, rfl, hrest⟩ | ⟨c, rest, v, rfl, hc, hrest⟩
    · rw [isBalancedFrom_quoted, if_pos rfl]
      rfl
    · -- the second mark opens the quotation again
      rw [isBalancedFrom_quoted, if_pos rfl, isBalancedFrom_mark hmark]
      exact ih rest.length (by rw [List.length_cons, List.length_cons]; omega) hrest rfl
    · rw [isBalancedFrom_quoted, if_neg hc]
      exact ih rest.length (by simp) hrest rfl

/-- **A literal without escaped marks is one token** for the walks over raw text. -/
theorem IsLiteral.isToken {d : Dialect} {cs : List Char} (h : IsLiteral d cs)
    (hend : endsUnescaped cs = true) : IsToken cs := by
  obtain ⟨letters, mark, body, rfl, hmark, hletters⟩ := h.shape
  have hplain : ∀ c ∈ letters, (!isBlank c && c != ',') = true ∧ isQuoteMark c = false ∧
      c ≠ '(' ∧ c ≠ ')' := by
    have hall : ∀ c ∈ ['n', 'N', 'e', 'E'], (!isBlank c && c != ',') = true ∧
        isQuoteMark c = false ∧ c ≠ '(' ∧ c ≠ ')' := by decide
    exact fun c hc => hall c (hletters c hc)
  have hdrop : (letters ++ mark :: body).dropWhile (fun c => !isQuoteMark c) = mark :: body := by
    rw [List.dropWhile_append_of_pos fun c hc => by simp [(hplain c hc).2.1],
      List.dropWhile_cons_of_neg (by simp [hmark])]
  rw [endsUnescaped, hdrop] at hend
  cases hread : readQuoted mark false body with
  | none => simp [hread] at hend
  | some r =>
    obtain ⟨value, rest⟩ := r
    obtain rfl : rest = [] := by simpa [hread] using hend
    refine ⟨by simp, isBalanced_append (isBalanced_of_forall hplain) ?_⟩
    rw [isBalanced, isBalancedFrom_mark hmark]
    exact isBalancedFrom_of_readQuoted hmark hread

/-- A literal starts with a character that is neither a blank nor a comma. -/
theorem IsLiteral.exists_head {d : Dialect} {cs : List Char} (h : IsLiteral d cs) :
    ∃ c rest, cs = c :: rest ∧ isBlank c = false ∧ c ≠ ',' := by
  obtain ⟨letters, mark, body, rfl, hmark, hletters⟩ := h.shape
  cases letters with
  | nil =>
    refine ⟨mark, body, rfl, isBlank_of_isQuoteMark hmark, ?_⟩
    rintro rfl
    cases hmark
  | cons c letters =>
    have hall : ∀ c ∈ ['n', 'N', 'e', 'E'], isBlank c = false ∧ c ≠ ',' := by decide
    exact ⟨c, letters ++ mark :: body, rfl, hall c (hletters c List.mem_cons_self)⟩

end Codebook.Sql
