import Codebook.Proofs.Sql.Token

/-!
# Clauses as they are written

This file says which tokens make a column and which make a clause about the table, without looking
at how they are read, and shows that the columns of a list are those of its clauses.

What is here:

* `HasKeyword` and `ContinuesType`, conditions on tokens;
* `Clause`, with `Clause.tokens`, what is written, and `Clause.declared?`, what is meant;
* `Clause.IsValid`, the grammar;
* `WrittenClause`, a clause with its text, and `columns_listText`, the columns of a list of them.
-/

set_option autoImplicit false

namespace Codebook.Sql

open Codebook.Text

/-! ## Keywords -/

/-- A token that starts with one of some keywords, in any letter case: the keyword is the whole
token, or is followed by a parenthesis or bracket. -/
def HasKeyword (keywords : List String) (token : List Char) : Prop :=
  ∃ word suffix, token = word ++ suffix ∧ String.ofList (word.map Char.toUpper) ∈ keywords ∧
    ∀ c ∈ suffix.head?, c = '(' ∨ c = '['

/-- The keyword of a word with a suffix is the word. -/
theorem keywordOf_append {word suffix : List Char} (hword : ∀ c ∈ word, c ≠ '(' ∧ c ≠ '[')
    (hsuffix : ∀ c ∈ suffix.head?, c = '(' ∨ c = '[') :
    keywordOf (word ++ suffix) = String.ofList (word.map Char.toUpper) := by
  have htake : suffix.takeWhile (fun c => !(c == '(' || c == '[')) = [] := by
    cases suffix with
    | nil => rfl
    | cons c suffix => rcases hsuffix c rfl with rfl | rfl <;> rfl
  have hpos : ∀ c ∈ word, (!(c == '(' || c == '[')) = true := by
    intro c hc
    simp [hword c hc]
  rw [keywordOf, List.takeWhile_append_of_pos hpos, htake, List.append_nil]

/-- Reading the keyword off a token finds it, where the keywords are made of letters. -/
theorem keywordOf_mem_iff {keywords : List String}
    (hk : ∀ k ∈ keywords, ∀ c ∈ k.toList, c.isAlpha = true) (token : List Char) :
    keywordOf token ∈ keywords ↔ HasKeyword keywords token := by
  constructor
  · intro h
    refine ⟨_, _, (List.takeWhile_append_dropWhile).symm, h, fun c hc => ?_⟩
    have hstop := List.head?_dropWhile_not (fun c => !(c == '(' || c == '[')) token
    rw [Option.mem_def.1 hc] at hstop
    exact Decidable.or_iff_not_imp_left.2 (by simpa using hstop)
  · rintro ⟨word, suffix, rfl, hmem, hsuffix⟩
    rwa [keywordOf_append (fun c hc => ?_) hsuffix]
    have halpha : c.toUpper.isAlpha = true := by
      refine hk _ hmem _ ?_
      rw [String.toList_ofList]
      exact List.mem_map_of_mem hc
    constructor <;> rintro rfl <;> exact absurd halpha (by decide)

/-- A token that continues the type of a column: a continuing word, or one that starts with a
parenthesis or bracket. -/
def ContinuesType (token : List Char) : Prop :=
  HasKeyword typeContinuations token ∨ ∃ c ∈ token.head?, c = '(' ∨ c = '['

theorem continuesType_iff (token : List Char) :
    continuesType token = true ↔ ContinuesType token := by
  rw [continuesType, Bool.or_eq_true, List.contains_iff_mem, keywordOf_mem_iff (by decide),
    ContinuesType, or_comm]
  refine or_congr_right ?_
  cases token.head? <;> simp

/-- The keywords that make a clause one about the table. -/
def Dialect.clauseKeywords (d : Dialect) : List String :=
  tableClauses ++ if d.hasIndexClauses then indexClauses else []

/-! ## Clauses -/

/-- A clause of a column list, in tokens. -/
inductive Clause where
  /-- A column: its name, the first token of its type, the tokens that continue the type, and what
  comes after the type. -/
  | column (name type : List Char) (more rest : List (List Char))
  /-- A clause about the table. -/
  | table (first : List Char) (rest : List (List Char))

namespace Clause

/-- The tokens of a clause. -/
def tokens : Clause → List (List Char)
  | column name type more rest => name :: type :: (more ++ rest)
  | table first rest => first :: rest

/-- The name and the type of the column that is declared, if one is. -/
def declared? : Clause → Option (String × String)
  | column name type more _ =>
    some (String.ofList name, String.ofList (joinWith [' '] (type :: more)))
  | table _ _ => none

/-- The grammar of clauses.  The name of a column is a word that is no keyword of the dialect, and a
type ends before the first token that does not continue it. -/
inductive IsValid (d : Dialect) : Clause → Prop
  | column {name type : List Char} {more rest : List (List Char)} (hname : IsWord name)
      (hkeyword : String.ofList (name.map Char.toUpper) ∉ d.clauseKeywords)
      (htokens : ∀ t ∈ type :: (more ++ rest), IsToken t) (hmore : ∀ t ∈ more, ContinuesType t)
      (hrest : ∀ t ∈ rest.head?, ¬ContinuesType t) : IsValid d (column name type more rest)
  | table {first : List Char} {rest : List (List Char)}
      (hkeyword : HasKeyword d.clauseKeywords first) (htokens : ∀ t ∈ first :: rest, IsToken t) :
      IsValid d (table first rest)

theorem IsValid.isToken {d : Dialect} {c : Clause} (h : c.IsValid d) :
    ∀ t ∈ c.tokens, IsToken t := by
  cases h with
  | column hname _ htokens =>
    intro t ht
    rcases List.mem_cons.1 ht with rfl | ht
    · exact hname.isToken
    · exact htokens t ht
  | table _ htokens => exact htokens

end Clause

instance : DecidablePred ContinuesType := fun t => decidable_of_iff _ (continuesType_iff t)

/-- Keywords are in letters, and not empty. -/
theorem isAlpha_of_mem_clauseKeywords (d : Dialect) :
    ∀ k ∈ d.clauseKeywords, k ≠ "" ∧ ∀ c ∈ k.toList, c.isAlpha = true := by
  cases d <;> decide

/-- Whether a clause is about the table is told by its first token. -/
theorem isTableClause_eq (d : Dialect) {text first : List Char} {rest : List (List Char)}
    (h : tokens text = first :: rest) :
    isTableClause d text = (!(first.head?.any fun c => c == '"' || c == '\x60') &&
      d.clauseKeywords.contains (keywordOf first)) := by
  rw [isTableClause, h, Dialect.clauseKeywords]
  cases hquoted : first.head?.any fun c => c == '"' || c == '\x60' with
  | true => simp [hquoted]
  | false => cases d <;> simp [hquoted, Dialect.hasIndexClauses]

/-- A token with a keyword does not start with a quote. -/
theorem HasKeyword.head_any_eq_false {d : Dialect} {token : List Char}
    (h : HasKeyword d.clauseKeywords token) :
    (token.head?.any fun c => c == '"' || c == '\x60') = false := by
  obtain ⟨word, suffix, rfl, hmem, -⟩ := h
  obtain ⟨hne, halpha⟩ := isAlpha_of_mem_clauseKeywords d _ hmem
  rw [String.toList_ofList] at halpha
  cases word with
  | nil => exact absurd rfl hne
  | cons c word =>
    have hc := halpha c.toUpper (by simp)
    rw [List.cons_append, List.head?_cons, Option.any_some, Bool.or_eq_false_iff,
      beq_eq_false_iff_ne, beq_eq_false_iff_ne]
    constructor <;> rintro rfl <;> exact absurd hc (by decide)

theorem isTableClause_of_hasKeyword {d : Dialect} {text first : List Char}
    {rest : List (List Char)} (h : tokens text = first :: rest)
    (hkeyword : HasKeyword d.clauseKeywords first) : isTableClause d text = true := by
  have hmem := (keywordOf_mem_iff (fun k hk => (isAlpha_of_mem_clauseKeywords d k hk).2) first).2
    hkeyword
  rw [isTableClause_eq d h, hkeyword.head_any_eq_false, List.contains_iff_mem.2 hmem]
  rfl

theorem keywordOf_of_isWord {name : List Char} (h : IsWord name) :
    keywordOf name = String.ofList (name.map Char.toUpper) := by
  have hname : ∀ c ∈ name, c ≠ '(' ∧ c ≠ '[' := by
    intro c hc
    have hother := (isPlain_of_isWord h hc).2.2
    simp only [List.mem_cons, List.not_mem_nil, or_false, not_or] at hother
    exact ⟨hother.2.1, hother.2.2.2⟩
  have happend : keywordOf (name ++ []) = _ := keywordOf_append hname (by simp)
  rwa [List.append_nil] at happend

theorem unquote_of_isWord (d : Dialect) {name : List Char} (h : IsWord name) :
    d.unquote name = name := by
  have hname : ∀ c ∈ name, d.nameQuotes.contains c = false := by
    intro c hc
    have hquote := (isPlain_of_isWord h hc).2.1
    rw [← Bool.not_eq_true, List.contains_iff_mem]
    intro hmem
    have hmarks : ∀ x ∈ d.nameQuotes, isQuoteMark x = true := by cases d <;> decide
    rw [hmarks c hmem] at hquote
    cases hquote
  rw [Dialect.unquote, trimWhile, trimLeftWhile, trimRightWhile,
    dropWhile_eq_self_of_head? fun c hc => hname c (List.mem_of_mem_head? hc),
    dropWhile_eq_self_of_head? fun c hc => hname c (List.mem_reverse.1 (List.mem_of_mem_head? hc)),
    List.reverse_reverse]

/-- The type ends where it should. -/
theorem columnType_append {type : List Char} {more rest : List (List Char)}
    (hmore : ∀ t ∈ more, ContinuesType t) (hrest : ∀ t ∈ rest.head?, ¬ContinuesType t) :
    columnType (type :: (more ++ rest)) = joinWith [' '] (type :: more) := by
  have htake : rest.takeWhile continuesType = [] := by
    cases rest with
    | nil => rfl
    | cons t rest =>
      have ht := hrest t rfl
      rw [← continuesType_iff] at ht
      rw [List.takeWhile_cons_of_neg ht]
  rw [columnType, List.takeWhile_append_of_pos fun t ht => (continuesType_iff t).2 (hmore t ht),
    htake, List.append_nil]

/-- A clause declares what it is meant to declare. -/
theorem column?_of_isWritten {d : Dialect} {c : Clause} (h : c.IsValid d) {text : List Char}
    (hwritten : IsWritten c.tokens text) :
    (column? d text).map (fun (name, type) => (String.ofList name, String.ofList type)) =
      c.declared? := by
  have htokens := hwritten.tokens_trim h.isToken
  cases h with
  | @column name type more rest hname hkeyword _ hmore hrest =>
    have hcolumn : isTableClause d (trim text) = false := by
      rw [isTableClause_eq d htokens, keywordOf_of_isWord hname, Bool.and_eq_false_iff,
        ← Bool.not_eq_true (d.clauseKeywords.contains _), List.contains_iff_mem]
      exact .inr hkeyword
    simp only [column?, hcolumn, htokens, Clause.tokens, if_false, Bool.false_eq_true,
      unquote_of_isWord d hname, columnType_append hmore hrest]
    rfl
  | table hkeyword _ =>
    simp only [column?, isTableClause_of_hasKeyword htokens hkeyword, if_true]
    rfl

/-! ## Lists of clauses -/

theorem dropEmptyLast_of_getLast? {parts : List (List Char)}
    (h : ∀ last ∈ parts.getLast?, last ≠ []) : dropEmptyLast parts = parts := by
  induction parts with
  | nil => rfl
  | cons part parts ih =>
    cases parts with
    | nil =>
      have hpart := List.isEmpty_eq_false_iff.2 (h part rfl)
      rw [dropEmptyLast, hpart, if_neg Bool.false_ne_true]
    | cons next parts =>
      rw [List.getLast?_cons_cons] at h
      rw [dropEmptyLast, ih h]

/-- Texts joined with commas are cut at these commas and nowhere else. -/
theorem cutAtDepthZero_joinWith {texts : List (List Char)} (hne : texts ≠ [])
    (h : ∀ text ∈ texts, isBalanced (· != ',') text = true) :
    Nesting.cutAtDepthZero (· == ',') {} (joinWith [','] texts) = texts := by
  have hcomma : ∀ c, (c != ',') = true → (c == ',') = false := by
    intro c hc
    rw [beq_eq_false_iff_ne]
    exact bne_iff_ne.1 hc
  induction texts with
  | nil => exact absurd rfl hne
  | cons text texts ih =>
    have htext := h text List.mem_cons_self
    cases texts with
    | nil =>
      have hcut := cutAtDepthZero_append hcomma rfl rfl htext
        (rfl : Nesting.cutAtDepthZero (· == ',') {} [] = [[]])
      rwa [List.append_nil] at hcut
    | cons next texts =>
      have hrest := ih (List.cons_ne_nil _ _) fun x hx => h x (List.mem_cons_of_mem _ hx)
      have hstart : Nesting.cutAtDepthZero (· == ',') {} (',' :: joinWith [','] (next :: texts)) =
          [] :: next :: texts := congrArg ([] :: ·) hrest
      have hcut := cutAtDepthZero_append hcomma rfl rfl htext hstart
      rw [List.append_nil] at hcut
      rw [joinWith, List.append_assoc]
      · exact hcut
      · simp

theorem splitTopLevel_joinWith {texts : List (List Char)}
    (hlast : ∀ last ∈ texts.getLast?, last ≠ [])
    (h : ∀ text ∈ texts, isBalanced (· != ',') text = true) :
    splitTopLevel ',' (joinWith [','] texts) = texts := by
  by_cases htexts : texts = []
  · rw [htexts]
    rfl
  · rw [splitTopLevel, cutAtDepthZero_joinWith htexts h, dropEmptyLast_of_getLast? hlast]

/-- Balanced texts are balanced with commas between them, too. -/
theorem isBalanced_joinWith {texts : List (List Char)}
    (h : ∀ text ∈ texts, isBalanced (fun _ => true) text = true) :
    isBalanced (fun _ => true) (joinWith [','] texts) = true := by
  induction texts with
  | nil => rfl
  | cons text texts ih =>
    have htext := h text List.mem_cons_self
    cases texts with
    | nil => exact htext
    | cons next texts =>
      exact isBalanced_append (isBalanced_append htext rfl)
        (ih fun x hx => h x (List.mem_cons_of_mem _ hx))

/-- A clause as it is written. -/
structure WrittenClause (d : Dialect) where
  /-- The clause. -/
  clause : Clause
  /-- The text. -/
  text : List Char
  /-- The clause follows the grammar. -/
  isValid : clause.IsValid d
  /-- The text is that of the clause. -/
  isWritten : IsWritten clause.tokens text

namespace WrittenClause

variable {d : Dialect}

/-- A clause with one space between its tokens. -/
def plain (c : Clause) (h : c.IsValid d) : WrittenClause d :=
  ⟨c, joinWith [' '] c.tokens, h, isWritten_joinWith (by cases c <;> simp [Clause.tokens])⟩

/-- The text of a column list. -/
def listText (cs : List (WrittenClause d)) : List Char := joinWith [','] (cs.map text)

/-- The names and types of the columns that are declared. -/
def declared (cs : List (WrittenClause d)) : List (String × String) :=
  cs.filterMap fun c => c.clause.declared?

/-- **The columns of a list are those of its clauses.** -/
theorem columns_listText (cs : List (WrittenClause d)) :
    (columns d (listText cs)).map (fun (name, type) => (String.ofList name, String.ofList type)) =
      declared cs := by
  have hsplit : splitTopLevel ',' (listText cs) = cs.map text := by
    refine splitTopLevel_joinWith ?_ ?_
    · intro t ht
      obtain ⟨c, -, rfl⟩ := List.mem_map.1 (List.mem_of_getLast? ht)
      exact c.isWritten.ne_nil c.isValid.isToken
    · intro t ht
      obtain ⟨c, -, rfl⟩ := List.mem_map.1 ht
      exact c.isWritten.isBalanced c.isValid.isToken
  rw [columns, hsplit, List.map_filterMap, List.filterMap_map]
  exact congrArg (fun f => cs.filterMap f)
    (funext fun c => column?_of_isWritten c.isValid c.isWritten)

/-- All that a list opens it closes. -/
theorem isBalanced_listText (cs : List (WrittenClause d)) :
    isBalanced (fun _ => true) (listText cs) = true := by
  refine isBalanced_joinWith fun t ht => ?_
  obtain ⟨c, -, rfl⟩ := List.mem_map.1 ht
  exact isBalanced_mono (fun _ _ => rfl) (c.isWritten.isBalanced c.isValid.isToken)

end WrittenClause

end Codebook.Sql
