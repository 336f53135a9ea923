import Codebook.Proofs.Sql.Clause
import Codebook.Proofs.Sql.Walk

/-!
# Default values in column lists

The walks over a column list look at the text of a default value as at any other.  This file says
what that text does to the columns of the list.

A column is told by its name, its type and the word `DEFAULT`, so its own value does not matter to
it (`column?_append`).  It matters to what follows: where the value has a comma that the walks see,
the rest of it is another clause, and where it leaves something open, the clauses after it are not
told apart.

What is here: `IsInert`, the values that do neither; `DefaultPlace`, a column list with a place for
a default value; and the columns of the list, with a balanced value (`DefaultPlace.columns_list`)
and with an inert one (`DefaultPlace.columns_list_of_isInert`).
-/

set_option autoImplicit false

namespace Codebook.Sql

open Codebook.Text

/-! ## Columns of lists -/

theorem column?_nil (d : Dialect) : column? d [] = none := by
  cases d <;> rfl

/-- An empty part at the end is no column. -/
theorem filterMap_dropEmptyLast (d : Dialect) (parts : List (List Char)) :
    (dropEmptyLast parts).filterMap (column? d) = parts.filterMap (column? d) := by
  induction parts with
  | nil => rfl
  | cons part parts ih =>
    cases parts with
    | nil =>
      rw [dropEmptyLast]
      split
      · rename_i hpart
        rw [List.isEmpty_iff.1 hpart, List.filterMap_cons, column?_nil]
      · rfl
    | cons next parts => rw [dropEmptyLast, List.filterMap_cons, List.filterMap_cons, ih]

theorem columns_eq (d : Dialect) (list : List Char) :
    columns d list = (Nesting.cutAtDepthZero (· == ',') {} list).filterMap (column? d) := by
  rw [columns, splitTopLevel, filterMap_dropEmptyLast]

/-- The columns before and after a comma where nothing is open. -/
theorem columns_append_comma (d : Dialect) {cs : List Char} (h : Nesting.afterAll {} cs = {})
    (ds : List Char) : columns d (cs ++ ',' :: ds) = columns d cs ++ columns d ds := by
  rw [columns_eq, Nesting.cutAtDepthZero_append_cons h rfl, List.filterMap_append, ← columns_eq]
  exact congrArg _ (columns_eq d ds).symm

theorem columns_joinWith (d : Dialect) {parts : List (List Char)}
    (h : ∀ part ∈ parts, Nesting.afterAll {} part = {}) :
    columns d (joinWith [','] parts) = parts.flatMap (columns d) := by
  induction parts with
  | nil => rfl
  | cons part parts ih =>
    rw [List.flatMap_cons]
    cases parts with
    | nil => exact (List.append_nil _).symm
    | cons next parts =>
      rw [joinWith, List.append_assoc, List.singleton_append,
        columns_append_comma d (h part List.mem_cons_self),
        ih fun x hx => h x (List.mem_cons_of_mem _ hx)]
      simp

/-! ## A column and its value -/

theorem takeWhile_append_cons_of_neg {α : Type} {p : α → Bool} {a : α} (ha : p a = false)
    (l m : List α) : (l ++ a :: m).takeWhile p = l.takeWhile p := by
  induction l with
  | nil => rw [List.nil_append, List.takeWhile_cons_of_neg (by simp [ha])]; rfl
  | cons x l ih =>
    rw [List.cons_append, List.takeWhile_cons, List.takeWhile_cons, ih]

section

variable {d : Dialect} {name type stop : List Char} {more : List (List Char)}

/-- The column that is told by some tokens, of which one ends the type. -/
theorem column?_eq_of_tokens {text text' : List Char} {ts ts' : List (List Char)}
    (hstop : ¬ContinuesType stop)
    (h : tokens (trim text) = name :: type :: (more ++ stop :: ts))
    (h' : tokens (trim text') = name :: type :: (more ++ stop :: ts')) :
    column? d text = column? d text' := by
  have hstop' : continuesType stop = false := by
    rw [← Bool.not_eq_true, continuesType_iff]
    exact hstop
  simp only [column?, h, h', isTableClause_eq d h, isTableClause_eq d h', columnType,
    takeWhile_append_cons_of_neg hstop']

/-- What follows the end of the type does not matter to a column. -/
theorem column?_append {lead inner : List Char} (hlead : ∀ c ∈ lead, isBlank c = true)
    (hinner : Spaced (name :: type :: (more ++ [stop])) inner)
    (htokens : ∀ t ∈ name :: type :: (more ++ [stop]), IsToken t) (hstop : ¬ContinuesType stop)
    {c : Char} (hc : isBlank c = false) (rest : List Char) :
    column? d (lead ++ inner ++ ' ' :: c :: rest) = column? d (lead ++ inner) := by
  obtain ⟨ds, after, rfl, htrim, hafter⟩ := exists_isTrimmed_append hc rest
  have hinner' := hinner.isTrimmed htokens
  have hvalue : IsTrimmed (inner ++ [' '] ++ c :: ds) :=
    hinner'.append (hinner.ne_nil htokens) htrim (List.cons_ne_nil _ _)
  have hlong : trim (lead ++ inner ++ ' ' :: c :: (ds ++ after)) = inner ++ ' ' :: c :: ds := by
    have htrimmed := trim_append hvalue hlead hafter
    simpa using htrimmed
  have hshort : trim (lead ++ inner) = inner := by
    have htrimmed : trim (lead ++ inner ++ []) = inner := trim_append hinner' hlead (by simp)
    rwa [List.append_nil] at htrimmed
  have htokens_long : tokens (trim (lead ++ inner ++ ' ' :: c :: (ds ++ after))) =
      name :: type :: (more ++ stop :: tokens (c :: ds)) := by
    rw [hlong, hinner.tokens_append htokens rfl]
    simp
  have htokens_short : tokens (trim (lead ++ inner)) = name :: type :: (more ++ stop :: []) := by
    rw [hshort, hinner.tokens_eq htokens]
  exact column?_eq_of_tokens hstop htokens_long htokens_short

end

/-! ## Values that change nothing -/

/-- A value that the walks pass over: it leaves nothing open, and where it is cut at a comma it does
not become a column. -/
structure IsInert (d : Dialect) (value : List Char) : Prop where
  /-- It is balanced. -/
  balanced : isBalanced (fun _ => true) value = true
  /-- What follows a comma in it declares no column. -/
  no_column : ∀ part ∈ (Nesting.cutAtDepthZero (· == ',') {} value).tail, column? d part = none

/-- A token is cut at no comma. -/
theorem IsToken.isInert {cs : List Char} (h : IsToken cs) (d : Dialect) : IsInert d cs := by
  have hcommas : isBalanced (· != ',') cs = true := (Spaced.single cs).isBalanced (by simpa using h)
  have hcut : Nesting.cutAtDepthZero (· == ',') {} cs = [cs] :=
    cutAtDepthZero_joinWith (List.cons_ne_nil cs []) (by simpa using hcommas)
  refine ⟨isBalanced_mono (fun _ _ => rfl) h.balanced, fun part hpart => ?_⟩
  rw [hcut] at hpart
  cases hpart

/-! ## A place for a value -/

/-- A column list with a place for the default value of one of its columns. -/
structure DefaultPlace where
  /-- The clauses before the column. -/
  before : List (List Char)
  /-- The clauses after the column. -/
  after : List (List Char)
  /-- The name of the column. -/
  name : List Char
  /-- The first token of its type. -/
  type : List Char
  /-- The tokens up to the word `DEFAULT`. -/
  more : List (List Char)
  /-- The blanks before the name. -/
  lead : List Char
  /-- The text from the name to the word `DEFAULT`. -/
  text : List Char
  isBalanced_before : ∀ clause ∈ before, isBalanced (fun _ => true) clause = true
  isBalanced_after : ∀ clause ∈ after, isBalanced (fun _ => true) clause = true
  isToken : ∀ t ∈ name :: type :: more, IsToken t
  isBlank_lead : ∀ c ∈ lead, isBlank c = true
  spaced : Spaced (name :: type :: (more ++ ["DEFAULT".toList])) text

namespace DefaultPlace

/-- The clause of the column without the value. -/
def head (p : DefaultPlace) : List Char := p.lead ++ p.text

/-- The clause of the column. -/
def clause (p : DefaultPlace) (value : List Char) : List Char := p.head ++ ' ' :: value

/-- The column list. -/
def list (p : DefaultPlace) (value : List Char) : List Char :=
  joinWith [','] (p.before ++ p.clause value :: p.after)

section

variable (p : DefaultPlace) (d : Dialect) {value : List Char}

theorem isToken_head : ∀ t ∈ p.name :: p.type :: (p.more ++ ["DEFAULT".toList]), IsToken t := by
  intro t ht
  rw [← List.cons_append, ← List.cons_append, List.mem_append, List.mem_singleton] at ht
  rcases ht with ht | rfl
  · exact p.isToken t ht
  · decide

theorem isBalanced_head : isBalanced (· != ',') p.head = true :=
  isBalanced_append (isBalanced_blanks p.isBlank_lead) (p.spaced.isBalanced p.isToken_head)

theorem isBalanced_clause (h : isBalanced (fun _ => true) value = true) :
    isBalanced (fun _ => true) (p.clause value) = true :=
  isBalancedFrom_append (fun _ _ => rfl) p.isBalanced_head
    (isBalanced_append (rfl : isBalanced _ [' '] = true) h)

theorem isBalanced_of_mem (h : isBalanced (fun _ => true) value = true) :
    ∀ part ∈ p.before ++ p.clause value :: p.after, isBalanced (fun _ => true) part = true := by
  intro part hpart
  rcases List.mem_append.1 hpart with hpart | hpart
  · exact p.isBalanced_before part hpart
  rcases List.mem_cons.1 hpart with rfl | hpart
  · exact p.isBalanced_clause h
  · exact p.isBalanced_after part hpart

theorem isBalanced_list (h : isBalanced (fun _ => true) value = true) :
    isBalanced (fun _ => true) (p.list value) = true :=
  isBalanced_joinWith (p.isBalanced_of_mem h)

/-- The columns of a list with a balanced value. -/
theorem columns_list (h : isBalanced (fun _ => true) value = true) :
    columns d (p.list value) = p.before.flatMap (columns d) ++
      (columns d (p.clause value) ++ p.after.flatMap (columns d)) := by
  rw [list, columns_joinWith d fun part hpart =>
    Nesting.afterAll_of_isBalanced (p.isBalanced_of_mem h part hpart), List.flatMap_append,
    List.flatMap_cons]

/-- The column is the same with every value; what follows a comma in the value are other clauses. -/
theorem columns_clause {c : Char} (hblank : isBlank c = false) (hcomma : c ≠ ',')
    (rest : List Char) :
    columns d (p.clause (c :: rest)) = (column? d p.head).toList ++
      (Nesting.cutAtDepthZero (· == ',') {} (c :: rest)).tail.filterMap (column? d) := by
  obtain ⟨part, parts, hcut⟩ :=
    List.exists_cons_of_ne_nil (Nesting.cutAtDepthZero_ne_nil (· == ',') (Nesting.after {} c) rest)
  have hvalue : Nesting.cutAtDepthZero (· == ',') {} (c :: rest) = (c :: part) :: parts :=
    Nesting.cutAtDepthZero_cons_of_neg (by simp [hcomma]) hcut
  have hspace : Nesting.cutAtDepthZero (· == ',') {} (' ' :: c :: rest) =
      (' ' :: c :: part) :: parts := Nesting.cutAtDepthZero_cons_of_neg rfl hvalue
  have hclause : Nesting.cutAtDepthZero (· == ',') {} (p.clause (c :: rest)) =
      (p.head ++ ' ' :: c :: part) :: parts := by
    refine cutAtDepthZero_append (fun x hx => ?_) rfl rfl p.isBalanced_head hspace
    rwa [beq_eq_false_iff_ne, ← bne_iff_ne]
  have hcolumn : column? d (p.head ++ ' ' :: c :: part) = column? d p.head :=
    column?_append p.isBlank_lead p.spaced p.isToken_head (by decide) hblank part
  rw [columns_eq, hclause, hvalue, List.filterMap_cons, hcolumn, List.tail_cons]
  cases column? d p.head <;> rfl

/-- **An inert value adds no column and hides none.** -/
theorem columns_list_of_isInert {c : Char} (hblank : isBlank c = false) (hcomma : c ≠ ',')
    {rest : List Char} (h : IsInert d (c :: rest)) :
    columns d (p.list (c :: rest)) = p.before.flatMap (columns d) ++
      ((column? d p.head).toList ++ p.after.flatMap (columns d)) := by
  have hnone := List.filterMap_eq_nil_iff.2 h.no_column
  rw [p.columns_list d h.balanced, p.columns_clause d hblank hcomma, hnone, List.append_nil]

end

end DefaultPlace

end Codebook.Sql
