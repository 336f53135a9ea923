import Codebook.Proofs.Schema.Undelivered
import Codebook.Proofs.Sql.Clause
import Codebook.Proofs.Sql.Literal
import Codebook.Proofs.Sql.Quoting

/-!
# Quoted names in column lists

The name of a column is read off a column list by taking the marks at its ends away, and nothing is
undone within.  So a name in quotes is recorded as it is meant only if it has no mark that is
written twice and none at its ends.

What is here: the column that a clause with a quoted name declares, and
`sameNameAsciiCase_unquote_iff`, which says when it can be found under the name that was quoted.
-/

set_option autoImplicit false

namespace Codebook.Sql

open Codebook.Text

/-! ## Quotes that are written twice -/

section

variable {mark : Char}

theorem length_doubled (mark : Char) (cs : List Char) :
    (doubled mark false cs).length = cs.length + cs.count mark := by
  induction cs with
  | nil => rfl
  | cons c cs ih =>
    by_cases hc : c = mark
    · rw [doubled_cons_of_twice (.inl hc), hc, List.count_cons_self, List.length_cons,
        List.length_cons, List.length_cons, ih]
      omega
    · rw [doubled_cons_of_once (by simpa using hc), List.count_cons_of_ne hc, List.length_cons,
        List.length_cons, ih]
      omega

theorem head?_doubled (mark : Char) (cs : List Char) :
    (doubled mark false cs).head? = cs.head? := by
  cases cs with
  | nil => rfl
  | cons c cs =>
    by_cases hc : c = mark
    · rw [doubled_cons_of_twice (.inl hc)]
      rfl
    · rw [doubled_cons_of_once (by simpa using hc)]
      rfl

theorem getLast?_doubled (mark : Char) (cs : List Char) :
    (doubled mark false cs).getLast? = cs.getLast? := by
  obtain rfl | ⟨cs, c, rfl⟩ := cs.eq_nil_or_concat
  · rfl
  · rw [List.concat_eq_append, doubled, List.flatMap_append, List.getLast?_append,
      List.getLast?_concat, List.flatMap_singleton]
    split <;> rfl

theorem doubled_of_not_mem {cs : List Char} (h : mark ∉ cs) : doubled mark false cs = cs := by
  induction cs with
  | nil => rfl
  | cons c cs ih =>
    rw [List.mem_cons, not_or] at h
    rw [doubled_cons_of_once (by simpa using Ne.symm h.1), ih h.2]

end

/-! ## Names -/

namespace Dialect

variable (d : Dialect)

theorem isQuoteMark_of_mem_nameQuotes {q : Char} (hq : q ∈ d.nameQuotes) :
    isQuoteMark q = true := by
  revert q
  cases d <;> decide

/-- Both marks of names show that a word is no keyword. -/
theorem quotesName_of_mem_nameQuotes {q : Char} (hq : q ∈ d.nameQuotes) :
    (q == '"' || q == '\x60') = true := by
  revert q
  cases d <;> decide

/-- A quote mark is no letter. -/
theorem contains_nameQuotes_toLower (c : Char) :
    d.nameQuotes.contains c.toLower = d.nameQuotes.contains c := by
  by_cases hc : c.isUpper = true
  · have halphanum : c.isAlphanum = true := by
      show (c.isUpper || c.isLower || c.isDigit) = true
      rw [hc]
      rfl
    have hlt := toNat_lt_128_of_isAlphanum (.inl halphanum)
    revert hc
    refine forall_of_lt_128 (p := fun c => c.isUpper = true →
      d.nameQuotes.contains c.toLower = d.nameQuotes.contains c) ?_ hlt
    cases d <;> decide
  · have hsame : c.toLower = c := dif_neg fun h => hc (decide_eq_true h)
    rw [hsame]

/-- What a column list makes of a name in quotes. -/
theorem unquote_quoted {q : Char} (hq : q ∈ d.nameQuotes) (s : List Char) :
    d.unquote (quoted q false s) =
      trimWhile (fun c => d.nameQuotes.contains c) (doubled q false s) :=
  trimWhile_cons_append (List.contains_iff_mem.2 hq) _

end Dialect

/-- A name that a column list and a lexer read alike: it has no mark of its quotation within, and
none that quotes at its ends. -/
def ReadsAlike (d : Dialect) (q : Char) (s : List Char) : Prop :=
  q ∉ s ∧ (∀ c ∈ s.head?, c ∉ d.nameQuotes) ∧ ∀ c ∈ s.getLast?, c ∉ d.nameQuotes

section

variable {d : Dialect} {q : Char} {s : List Char}

theorem ReadsAlike.unquote_quoted (h : ReadsAlike d q s) (hq : q ∈ d.nameQuotes) :
    d.unquote (quoted q false s) = s := by
  rw [d.unquote_quoted hq, doubled_of_not_mem h.1]
  exact trimWhile_eq_self (fun c hc => by simpa using h.2.1 c hc)
    fun c hc => by simpa using h.2.2 c hc

/-- **A quoted name is found again just if it needs no quoting within.**  The letter case is of no
account for that. -/
theorem sameNameAsciiCase_unquote_iff (hq : q ∈ d.nameQuotes) :
    sameNameAsciiCase (String.ofList (d.unquote (quoted q false s))) (String.ofList s) = true ↔
      ReadsAlike d q s := by
  rw [sameNameAsciiCase_iff, String.toList_ofList, String.toList_ofList]
  constructor
  · intro hsame
    rw [d.unquote_quoted hq] at hsame
    generalize hu : trimWhile (fun c => d.nameQuotes.contains c) (doubled q false s) = u at hsame
    have hlower : ∀ c x : Char, c.toLower = x.toLower → d.nameQuotes.contains c = false →
        x ∉ d.nameQuotes := by
      intro c x hcx hc hx
      rw [← d.contains_nameQuotes_toLower, hcx, d.contains_nameQuotes_toLower,
        List.contains_iff_mem.2 hx] at hc
      cases hc
    -- the ends of the name are those of what is left of it, up to the letter case
    have hhead : ∀ c ∈ s.head?, c ∉ d.nameQuotes := by
      intro c hc
      have hmap := congrArg List.head? hsame
      rw [List.head?_map, List.head?_map, Option.mem_def.1 hc] at hmap
      obtain ⟨x, hx, hxc⟩ := Option.map_eq_some_iff.1 hmap
      exact hlower x c hxc (of_mem_head?_trimWhile (hu ▸ hx))
    have hlast : ∀ c ∈ s.getLast?, c ∉ d.nameQuotes := by
      intro c hc
      have hmap := congrArg List.getLast? hsame
      rw [List.getLast?_map, List.getLast?_map, Option.mem_def.1 hc] at hmap
      obtain ⟨x, hx, hxc⟩ := Option.map_eq_some_iff.1 hmap
      exact hlower x c hxc (of_mem_getLast?_trimWhile (hu ▸ hx))
    -- so nothing is trimmed away, and there is no room for a mark that is written twice
    have hself : u = doubled q false s := by
      rw [← hu]
      exact trimWhile_eq_self (fun c hc => by simpa using hhead c (by rwa [head?_doubled] at hc))
        fun c hc => by simpa using hlast c (by rwa [getLast?_doubled] at hc)
    have hlength := congrArg List.length hsame
    rw [List.length_map, List.length_map, hself, length_doubled] at hlength
    exact ⟨List.count_eq_zero.1 (by omega), hhead, hlast⟩
  · intro h
    rw [h.unquote_quoted hq]

/-! ## Clauses -/

/-- A quoted name is one token. -/
theorem isToken_quoted (hq : isQuoteMark q = true) (hb : q ≠ '\\') (s : List Char) :
    IsToken (quoted q false s) := by
  refine ⟨List.cons_ne_nil _ _, ?_⟩
  rw [isBalanced, quoted, isBalancedFrom_mark hq]
  exact isBalancedFrom_of_readQuoted hq (readQuoted_doubled hb s (show [].head? ≠ some q by simp))

/-- The clause of a column with a quoted name. -/
def quotedClause (q : Char) (s type : List Char) : List Char :=
  joinWith [' '] [quoted q false s, type]

theorem isWritten_quotedClause (q : Char) (s type : List Char) :
    IsWritten [quoted q false s, type] (quotedClause q s type) :=
  isWritten_joinWith (List.cons_ne_nil _ _)

section

variable (hq : q ∈ d.nameQuotes) {type : List Char} (htype : IsToken type)

include hq htype

theorem isToken_of_mem_quotedClause : ∀ t ∈ [quoted q false s, type], IsToken t := by
  have hmark := d.isQuoteMark_of_mem_nameQuotes hq
  have hb : q ≠ '\\' := by
    rintro rfl
    cases hmark
  simp [isToken_quoted hmark hb, htype]

theorem isBalanced_quotedClause : isBalanced (fun _ => true) (quotedClause q s type) = true :=
  isBalanced_mono (fun _ _ => rfl)
    ((isWritten_quotedClause q s type).isBalanced (isToken_of_mem_quotedClause hq htype))

/-- The columns of a list that is one such clause. -/
theorem columns_quotedClause :
    columns d (quotedClause q s type) = [(d.unquote (quoted q false s), type)] := by
  have htokens := isToken_of_mem_quotedClause (s := s) hq htype
  have hwritten := isWritten_quotedClause q s type
  have hsplit : splitTopLevel ',' (quotedClause q s type) = [quotedClause q s type] :=
    show splitTopLevel ',' (joinWith [','] [quotedClause q s type]) = _ from
      splitTopLevel_joinWith (by simpa using hwritten.ne_nil htokens)
        (by simpa using hwritten.isBalanced htokens)
  have htrim := hwritten.tokens_trim htokens
  have hclause : isTableClause d (trim (quotedClause q s type)) = false := by
    simp only [isTableClause, htrim]
    rw [quoted, List.head?_cons, Option.any_some, d.quotesName_of_mem_nameQuotes hq, if_pos rfl]
  have hcolumn : column? d (quotedClause q s type) = some (d.unquote (quoted q false s), type) := by
    simp only [column?, hclause, htrim, Bool.false_eq_true, if_false, columnType,
      List.takeWhile_nil, joinWith]
  rw [columns, hsplit, List.filterMap_cons, hcolumn]
  rfl

end

end

end Codebook.Sql
