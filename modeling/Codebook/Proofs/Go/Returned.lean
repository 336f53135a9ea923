import Codebook.Proofs.Go.Detached
import Codebook.Proofs.Text.Returned

/-!
# Tokens with carriage returns before line feeds

A carriage return is nothing by itself between two tokens, and part of a token within a comment or a
raw string.  So a text with carriage returns before its line feeds has the same tokens, if no string
or rune in quotes goes over the end of a line: there the return would be an escaped or a quoted
character.

What is here: `Follows`, a matcher that takes the same off such a text; and `matchToken_returned`, a
single token.
-/

set_option autoImplicit false

namespace Codebook.Go

open Codebook.Text Matcher

/-! ## Matchers -/

/-- A matcher takes something off the front, and the same off a text with carriage returns. -/
structure Follows (m : Matcher) : Prop where
  /-- It takes something off the front. -/
  isCut : IsCut m
  /-- What is left has carriage returns. -/
  returned_eq : ∀ cs, m (returned cs) = (m cs).map returned

section

variable {a b m : Matcher} {p : Char → Bool}

theorem Follows.andThen (ha : Follows a) (hb : Follows b) : Follows (a.andThen b) where
  isCut := ha.isCut.andThen hb.isCut
  returned_eq cs := by
    rw [Matcher.andThen, Matcher.andThen, ha.returned_eq]
    cases a cs with
    | none => rfl
    | some left => exact hb.returned_eq left

theorem Follows.orNothing (ha : Follows a) : Follows (Matcher.orNothing a) where
  isCut := ha.isCut.orNothing
  returned_eq cs := by
    rw [Matcher.orNothing, Matcher.orNothing, ha.returned_eq]
    cases a cs <;> rfl

theorem follows_one (hp : p '\n' = false ∧ p '\r' = false) : Follows (one p) where
  isCut := (advances_one p).isCut
  returned_eq cs := by
    cases cs with
    | nil => rfl
    | cons c cs =>
      rw [returned]
      split
      · rename_i hc
        rw [hc, one, one, hp.1, hp.2]
        rfl
      · rw [one, one]
        cases p c <;> rfl

/-- A front character that is not in `p`, as it is with a carriage return. -/
theorem exists_returned_cons (hp : p '\n' = false ∧ p '\r' = false) {c : Char} (hc : p c = false)
    (cs : List Char) :
    ∃ d ds, returned (c :: cs) = d :: ds ∧ p d = false ∧ (c = '_' ↔ d = '_') := by
  rw [returned]
  split
  · rename_i hline
    exact ⟨'\r', '\n' :: returned cs, rfl, hp.2, by rw [hline]; decide⟩
  · exact ⟨c, returned cs, rfl, hc, Iff.rfl⟩

theorem skipDigits_returned (hp : p '\n' = false ∧ p '\r' = false) (cs : List Char) :
    skipDigits p (returned cs) = returned (skipDigits p cs) := by
  have hin {c : Char} (hc : p c = true) : c ≠ '\n' := by
    rintro rfl
    rw [hp.1] at hc
    cases hc
  have hunderscore (cs : List Char) : returned ('_' :: cs) = '_' :: returned cs :=
    returned_cons (by decide) cs
  fun_induction skipDigits p cs with
  | case1 => rfl
  | case2 c cs hc ih => rw [hunderscore, returned_cons (hin hc), skipDigits, if_pos hc, ih]
  | case3 c cs hc =>
    obtain ⟨d, ds, heq, hd, -⟩ := exists_returned_cons hp (Bool.eq_false_iff.2 hc) cs
    rw [hunderscore, heq, skipDigits, if_neg (by simp [hd])]
  | case4 c cs hnot hc ih =>
    rw [returned_cons (hin hc), skipDigits, if_pos hc, ih]
    rintro x xs rfl heq
    cases cs with
    | nil => cases heq
    | cons y ys => exact hnot y ys rfl rfl
  | case5 c cs hnot hc =>
    have hcs : cs = [] ∨ c ≠ '_' := by
      by_cases hc : c = '_'
      · cases cs with
        | nil => exact .inl rfl
        | cons y ys => exact (hnot y ys hc rfl).elim
      · exact .inr hc
    obtain ⟨d, ds, heq, hd, hsame⟩ := exists_returned_cons hp (Bool.eq_false_iff.2 hc) cs
    rw [heq, skipDigits, if_neg (by simp [hd])]
    rintro x xs hx rfl
    rcases hcs with rfl | hne
    · rw [hsame.2 hx] at heq
      cases heq
    · exact hne (hsame.2 hx)

theorem follows_digits (hp : p '\n' = false ∧ p '\r' = false) : Follows (digits p) where
  isCut := (advances_digits p).isCut
  returned_eq cs := by
    rw [digits, digits, (follows_one hp).returned_eq]
    cases one p cs with
    | none => rfl
    | some left => exact congrArg some (skipDigits_returned hp left)

/-- Of two matches the longer one is the longer one with carriage returns. -/
theorem longer_returned {cs : List Char} {o o' : Option (List Char)} (ho : ∀ x ∈ o, x <:+ cs)
    (ho' : ∀ x ∈ o', x <:+ cs) :
    longer (o.map returned) (o'.map returned) = (longer o o').map returned := by
  cases o with
  | none => rfl
  | some x =>
    cases o' with
    | none => rfl
    | some y =>
      have hx := ho x rfl
      have hy := ho' y rfl
      have hiff : (returned y).length < (returned x).length ↔ y.length < x.length := by
        constructor
        · intro hlt
          by_contra hle
          have hle := length_returned_le (List.suffix_of_suffix_length_le hx hy (Nat.not_lt.1 hle))
          omega
        · intro hlt
          obtain ⟨front, rfl⟩ := List.suffix_of_suffix_length_le hy hx (Nat.le_of_lt hlt)
          obtain ⟨c, front, rfl⟩ := List.exists_cons_of_ne_nil (l := front) fun hnil => by
            rw [hnil, List.nil_append] at hlt
            exact Nat.lt_irrefl _ hlt
          rw [returned_append, List.length_append, returned]
          split <;> simp +arith
      simp only [Option.map_some, longer, hiff]
      split <;> rfl

theorem follows_longest {ms : List Matcher} (h : ∀ m ∈ ms, Follows m) : Follows (longest ms) where
  isCut cs rest hrest := by
    obtain ⟨m, hm, hrest⟩ := exists_mem_of_longest hrest
    exact (h m hm).isCut cs rest hrest
  returned_eq cs := by
    have hfold (best : Option (List Char)) (hbest : ∀ x ∈ best, x <:+ cs) :
        ms.foldl (fun best m => longer best (m (returned cs))) (best.map returned) =
          (ms.foldl (fun best m => longer best (m cs)) best).map returned := by
      induction ms generalizing best with
      | nil => rfl
      | cons m ms ih =>
        have hm := h m List.mem_cons_self
        have hcut : ∀ x ∈ m cs, x <:+ cs := fun x hx => hm.isCut cs x hx
        rw [List.foldl_cons, List.foldl_cons, hm.returned_eq, longer_returned hbest hcut]
        refine ih (fun x hx => h x (List.mem_cons_of_mem m hx)) _ fun x hx => ?_
        rcases longer_eq_or best (m cs) with heq | heq
        · exact hbest x (heq ▸ hx)
        · exact hcut x (heq ▸ hx)
    exact hfold none (by simp)

theorem passedOn_follows : PassedOn Follows :=
  ⟨follows_one, follows_digits, Follows.andThen, Follows.orNothing⟩

theorem follows_number : Follows number := passedOn_follows.number follows_longest

theorem findSome?_afterPrefix?_returned {symbols : List String}
    (h : ∀ s ∈ symbols, '\n' ∉ s.toList ∧ '\r' ∉ s.toList) (cs : List Char) :
    symbols.findSome? (fun s => afterPrefix? s.toList (returned cs)) =
      (symbols.findSome? fun s => afterPrefix? s.toList cs).map returned := by
  induction symbols with
  | nil => rfl
  | cons s symbols ih =>
    rw [List.forall_mem_cons] at h
    rw [List.findSome?_cons, List.findSome?_cons, afterPrefix?_returned h.1.1 h.1.2, ih h.2]
    cases afterPrefix? s.toList cs <;> rfl

theorem follows_symbol : Follows Go.symbol where
  isCut := advances_symbol.isCut
  returned_eq cs := by
    have hshort := (follows_one (p := fun c => shortSymbols.contains c) (by decide)).returned_eq cs
    rw [Go.symbol, Go.symbol, findSome?_afterPrefix?_returned (by decide), hshort]
    cases longSymbols.findSome? fun s => afterPrefix? s.toList cs <;> rfl

theorem dropWhile_returned (hp : p '\n' = false ∧ p '\r' = false) (cs : List Char) :
    (returned cs).dropWhile p = returned (cs.dropWhile p) := by
  induction cs with
  | nil => rfl
  | cons c cs ih =>
    cases hc : p c with
    | true =>
      have hline : c ≠ '\n' := by
        rintro rfl
        rw [hp.1] at hc
        cases hc
      rw [returned_cons hline, List.dropWhile_cons_of_pos hc, List.dropWhile_cons_of_pos hc, ih]
    | false =>
      obtain ⟨d, ds, heq, hd, -⟩ := exists_returned_cons hp hc cs
      rw [List.dropWhile_cons_of_neg (by simp [hc]), heq, List.dropWhile_cons_of_neg (by simp [hd])]

theorem follows_skipRawString : Follows skipRawString where
  isCut := isCut_skipRawString
  returned_eq cs := by
    fun_induction skipRawString cs with
    | case1 => rfl
    | case2 cs => rw [returned_cons (by decide), skipRawString, if_pos rfl]; rfl
    | case3 cs => rw [returned_cons (by decide)]; rfl
    | case4 c cs hquote hnull ih =>
      rw [returned]
      split
      · exact ih
      · rw [skipRawString, if_neg hquote, if_neg hnull, ih]

theorem follows_skipBlockComment : Follows skipBlockComment where
  isCut := isCut_skipBlockComment
  returned_eq cs := by
    fun_induction skipBlockComment cs with
    | case1 => rfl
    | case2 cs => rw [returned_cons (by decide), returned_cons (by decide)]; rfl
    | case3 cs =>
      rw [returned_cons (by decide), skipBlockComment, if_pos rfl]
      · rfl
      · simp
    | case4 c cs hnot hnull ih =>
      rw [returned]
      split
      · rw [skipBlockComment_cons (by decide) (by simp), skipBlockComment_newline, ih]
      · rw [skipBlockComment_cons hnull, ih]
        -- no slash comes to stand behind an asterisk
        intro more hstar hslash
        cases cs with
        | nil => cases hslash
        | cons x cs =>
          rw [returned] at hslash
          split at hslash
          · cases hslash
          · exact hnot cs hstar (by rw [(List.cons.inj hslash).1])

/-- A comment to the end of the line takes the carriage return before that. -/
theorem skipLineComment_returned (cs : List Char) :
    ∃ tail, returned (skipLineComment cs) = tail ++ skipLineComment (returned cs) ∧
      (tail = [] ∨ tail = ['\r']) := by
  induction cs with
  | nil => exact ⟨[], rfl, .inl rfl⟩
  | cons c cs ih =>
    by_cases hline : c = '\n'
    · exact ⟨['\r'], by rw [hline]; rfl, .inr rfl⟩
    · rw [returned_cons hline, skipLineComment, skipLineComment]
      split
      · exact ⟨[], returned_cons hline cs, .inl rfl⟩
      · exact ih

/-! ## Single tokens -/

/-- A string in double quotes, or a rune. -/
def IsQuoted (kind : TokenKind) (taken : List Char) : Prop :=
  kind = .rune ∨ kind = .string ∧ taken.head? = some '"'

instance (kind : TokenKind) (taken : List Char) : Decidable (IsQuoted kind taken) :=
  inferInstanceAs (Decidable (_ ∨ _))

variable {cs taken left : List Char} {kind : TokenKind}

theorem numberOrSymbol_returned (cs : List Char) :
    numberOrSymbol (returned cs) = (numberOrSymbol cs).map fun r => (r.1, returned r.2) := by
  unfold numberOrSymbol
  rw [follows_number.returned_eq, follows_symbol.returned_eq]
  generalize number cs = o, Go.symbol cs = o'
  cases o with
  | some rest => rfl
  | none => cases o' <;> rfl

/-- What is matched with some sort is matched with it in a text with carriage returns. -/
theorem Follows.map_match_returned (hm : Follows m) {k : TokenKind}
    (hmatch : (m cs).map (k, ·) = some (kind, left)) :
    (m (returned cs)).map (k, ·) = some (kind, returned left) := by
  obtain ⟨rest, hrest, heq⟩ := Option.map_eq_some_iff.1 hmatch
  obtain ⟨rfl, rfl⟩ := Prod.mk.inj heq
  rw [hm.returned_eq, hrest]
  rfl

/-- What is closed and on one line is taken off a text with carriage returns. -/
theorem IsClosed.map_match_returned (hm : IsClosed m) {k : TokenKind}
    (hmatch : (m cs).map (k, ·) = some (kind, left))
    (hline : ∀ taken, cs = taken ++ left → '\n' ∉ taken) :
    (m (returned cs)).map (k, ·) = some (kind, returned left) := by
  obtain ⟨rest, hrest, heq⟩ := Option.map_eq_some_iff.1 hmatch
  obtain ⟨rfl, rfl⟩ := Prod.mk.inj heq
  obtain ⟨taken, rfl, htaken⟩ := hm cs rest hrest
  rw [returned_append, returned_of_not_mem (hline taken rfl), htaken]
  rfl

theorem matchToken_quote_returned (hmatch : matchToken ('"' :: cs) = some (kind, left))
    (hline : ∀ taken, cs = taken ++ left → '\n' ∉ taken) :
    matchToken ('"' :: returned cs) = some (kind, returned left) := by
  obtain ⟨rest, hrest, heq⟩ := Option.map_eq_some_iff.1 hmatch
  obtain ⟨rfl, rfl⟩ := Prod.mk.inj heq
  obtain ⟨taken, rfl, hstring⟩ := exists_taken_of_skipString hrest
  have hreturned : returned (taken ++ rest) = taken ++ returned rest := by
    rw [returned_append, returned_of_not_mem (hline taken rfl)]
  have hfuel : taken.length ≤ (taken ++ returned rest).length + 1 := by simp; omega
  rw [hreturned]
  exact congrArg (Option.map (TokenKind.string, ·)) (hstring _ hfuel (returned rest))

/-- A slash that starts no comment. -/
theorem matchToken_slash_returned (hcs : ∀ c ∈ cs.head?, c ≠ '/' ∧ c ≠ '*')
    (hmatch : matchToken ('/' :: cs) = some (kind, left)) :
    matchToken ('/' :: returned cs) = some (kind, returned left) := by
  cases cs with
  | nil =>
    have hslash : matchToken ['/'] = some (.symbol, []) := by decide
    obtain ⟨rfl, rfl⟩ := Prod.mk.inj (Option.some.inj (hslash.symm.trans hmatch))
    exact hslash
  | cons c cs =>
    have hc := hcs c rfl
    rw [matchToken_slash hc] at hmatch
    have hreturned := numberOrSymbol_returned ('/' :: c :: cs)
    rw [hmatch, returned_cons (by decide)] at hreturned
    by_cases hline : c = '\n'
    · rw [hline, returned_newline] at hreturned ⊢
      rw [matchToken_slash (by decide), hreturned]
      rfl
    · rw [returned_cons hline] at hreturned ⊢
      rw [matchToken_slash hc, hreturned]
      rfl

theorem matchToken_slashStar_returned
    (hmatch : matchToken ('/' :: '*' :: cs) = some (kind, left)) :
    matchToken ('/' :: '*' :: returned cs) = some (kind, returned left) := by
  rw [matchToken_slashStar] at hmatch ⊢
  rw [follows_skipBlockComment.returned_eq]
  cases hclose : skipBlockComment cs with
  | some rest =>
    rw [hclose] at hmatch
    obtain ⟨rfl, rfl⟩ := Prod.mk.inj (Option.some.inj hmatch)
    rfl
  | none =>
    rw [hclose] at hmatch
    obtain ⟨rfl, rfl⟩ := Prod.mk.inj (Option.some.inj hmatch)
    rw [returned_cons (by decide)]
    rfl

/-- What has no mark of its own at the front. -/
theorem matchToken_cons_returned {c : Char} (hc : c ∉ openingMarks)
    (hmatch : matchToken (c :: cs) = some (kind, left)) :
    matchToken (c :: returned cs) = some (kind, returned left) := by
  have hline : c ≠ '\n' := by
    rintro rfl
    exact hc (by decide)
  rw [matchToken_cons_eq hc] at hmatch ⊢
  split at hmatch
  · rename_i hword
    obtain ⟨rfl, rfl⟩ := Prod.mk.inj (Option.some.inj hmatch)
    rw [if_pos hword, dropWhile_returned (by decide)]
  · rename_i hword
    have hreturned := numberOrSymbol_returned (c :: cs)
    rw [hmatch, returned_cons hline] at hreturned
    rw [if_neg hword, hreturned]
    rfl

/-- A token is at the front of a text with carriage returns, too.  What is left has carriage returns
as well, but for the one that a comment to the end of the line takes. -/
def MatchReturned (cs : List Char) (kind : TokenKind) (left : List Char) : Prop :=
  ∃ tail left', matchToken (returned cs) = some (kind, left') ∧ returned left = tail ++ left' ∧
    (tail = [] ∨ tail = ['\r'] ∧ ∃ more, cs = '/' :: '/' :: more)

/-- A token that is no comment to the end of the line. -/
theorem MatchReturned.of_eq {c : Char} (hc : c ≠ '\n')
    (h : matchToken (c :: returned cs) = some (kind, returned left)) :
    MatchReturned (c :: cs) kind left :=
  ⟨[], returned left, (returned_cons hc cs).symm ▸ h, rfl, .inl rfl⟩

/-- A comment, or a slash that starts none. -/
theorem matchReturned_slash (hmatch : matchToken ('/' :: cs) = some (kind, left)) :
    MatchReturned ('/' :: cs) kind left := by
  by_cases hslash : ∃ more, cs = '/' :: more
  · obtain ⟨more, rfl⟩ := hslash
    obtain ⟨rfl, rfl⟩ := Prod.mk.inj (Option.some.inj hmatch)
    obtain ⟨tail, htail, hcases⟩ := skipLineComment_returned more
    refine ⟨tail, _, ?_, htail, hcases.imp_right fun h => ⟨h, more, rfl⟩⟩
    rw [returned_cons (by decide), returned_cons (by decide)]
    rfl
  by_cases hstar : ∃ more, cs = '*' :: more
  · obtain ⟨more, rfl⟩ := hstar
    refine .of_eq (by decide) ?_
    rw [returned_cons (by decide)]
    exact matchToken_slashStar_returned hmatch
  · refine .of_eq (by decide) (matchToken_slash_returned (fun c hc => ⟨?_, ?_⟩) hmatch)
    · rintro rfl
      exact hslash ⟨cs.tail, List.eq_cons_of_mem_head? hc⟩
    · rintro rfl
      exact hstar ⟨cs.tail, List.eq_cons_of_mem_head? hc⟩

/-- **A token of a text is one of the text with carriage returns**, if it is no string or rune in
quotes that goes over the end of a line. -/
theorem matchToken_returned (hmatch : matchToken cs = some (kind, left)) (hkind : kind ≠ .lineEnd)
    (hquoted : ∀ taken, cs = taken ++ left → IsQuoted kind taken → '\n' ∉ taken) :
    MatchReturned cs kind left := by
  cases cs with
  | nil => cases hmatch
  | cons c cs =>
    have hline (h : ∀ taken, IsQuoted kind (c :: taken)) :
        ∀ taken, cs = taken ++ left → '\n' ∉ taken := by
      rintro taken rfl hmem
      exact hquoted (c :: taken) rfl (h taken) (List.mem_cons_of_mem c hmem)
    by_cases hmark : c ∈ openingMarks
    · simp only [openingMarks, List.mem_cons, List.not_mem_nil, or_false] at hmark
      rcases hmark with rfl | rfl | rfl | rfl | rfl
      · exact absurd (Prod.mk.inj (Option.some.inj hmatch)).1.symm hkind
      · exact matchReturned_slash hmatch
      · obtain ⟨rest, -, heq⟩ := Option.map_eq_some_iff.1 hmatch
        have hquotes := hline fun taken => .inr ⟨(Prod.mk.inj heq).1.symm, rfl⟩
        exact .of_eq (by decide) (matchToken_quote_returned hmatch hquotes)
      · exact .of_eq (by decide) (follows_skipRawString.map_match_returned hmatch)
      · obtain ⟨rest, -, heq⟩ := Option.map_eq_some_iff.1 hmatch
        have hquotes := hline fun taken => .inl (Prod.mk.inj heq).1.symm
        exact .of_eq (by decide) (isClosed_skipRune.map_match_returned hmatch hquotes)
    · refine .of_eq ?_ (matchToken_cons_returned hmark hmatch)
      rintro rfl
      exact hmark (by decide)

end

end Codebook.Go
