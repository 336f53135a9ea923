import Codebook.Proofs.Schema.Creation
import Codebook.Proofs.Sql.DefaultValue
import Codebook.Proofs.Sql.Literal

/-!
# Literals as default values

A string literal as the default value of a column is meant to have no effect on the columns of the
table: the empty literal would do as well.  The main statement, `Recovery.default_literal`, tells
for which literals this is so: the walks over raw text, which know of no escapes, must not take a
part of the literal for a part of the list.  It is so for all literals without a mark that is
escaped by a backslash, and `Recovery.exists_literal_ne` shows one with such a mark for which it is
not.
-/

set_option autoImplicit false

namespace Codebook

open Sql Text

namespace Sql.DefaultPlace

/-- The list of one column with a value, and some columns after it. -/
def ahead (n : Nat) : DefaultPlace where
  before := []
  after := List.replicate n "z int".toList
  name := "a".toList
  type := "int".toList
  more := []
  lead := []
  text := "a int DEFAULT".toList
  isBalanced_before := by simp
  isBalanced_after := by
    intro clause hclause
    rw [List.eq_of_mem_replicate hclause]
    rfl
  isToken := by decide
  isBlank_lead := by simp
  spaced := spaced_joinWith (List.cons_ne_nil _ _)

/-- The text of the columns that are ahead. -/
def aheadText (n : Nat) : List Char := (List.replicate n "z int".toList).flatMap (',' :: ·)

theorem isPlain_aheadText (n : Nat) : IsPlain (aheadText n) := by
  intro c hc
  obtain ⟨clause, hclause, hc⟩ := List.mem_flatMap.1 hc
  have hplain : IsPlain (',' :: "z int".toList) := by
    unfold IsPlain
    decide
  rw [List.eq_of_mem_replicate hclause] at hc
  exact hplain c hc

theorem list_ahead (n : Nat) (value : List Char) :
    (ahead n).list value = (ahead n).clause value ++ aheadText n := joinWith_cons [','] _ _

/-- A value is balanced if and only if the clause with it is. -/
theorem isBalanced_clause_ahead (n : Nat) (value : List Char) :
    isBalanced (fun _ => true) ((ahead n).clause value) = isBalanced (fun _ => true) value := rfl

/-- The column that is told by what stands before the value. -/
theorem column?_head_ahead (d : Dialect) (n : Nat) :
    column? d (ahead n).head = some ("a".toList, "int".toList) := by
  cases d <;> rfl

/-- An inert value leaves one column and the columns ahead. -/
theorem length_columns_ahead (d : Dialect) (n : Nat) {c : Char} {rest : List Char}
    (hblank : isBlank c = false) (hcomma : c ≠ ',') (h : IsInert d (c :: rest)) :
    (columns d ((ahead n).list (c :: rest))).length = n + 1 := by
  have hone : (columns d "z int".toList).length = 1 := by cases d <;> rfl
  have hahead : ((List.replicate n "z int".toList).flatMap (columns d)).length = n := by
    induction n with
    | zero => rfl
    | succ n ih =>
      rw [List.replicate_succ, List.flatMap_cons, List.length_append, hone, ih, Nat.add_comm]
  rw [columns_list_of_isInert _ d hblank hcomma h, column?_head_ahead]
  exact congrArg Nat.succ hahead

end Sql.DefaultPlace

namespace Recovery

/-- The definition of a table after it is created with a column list. -/
def tableAfter (r : Recovery) (file : String) (line : Nat) (table list : List Char) :
    Option Table :=
  (r.statement file ⟨.createTable, String.ofList (createTableText false [] table list [';']),
    line⟩).schema.catalog.get? (String.ofList table)

/-- The literal of the empty string. -/
def emptyLiteral : List Char := ['\'', '\'']

theorem isInert_emptyLiteral (d : Dialect) : IsInert d emptyLiteral := IsToken.isInert (by decide) d

/-- The columns of a list as they are recorded. -/
def recordedColumns (d : Dialect) (list : List Char) : List (String × String) :=
  (columns d list).map fun (name, type) => (String.ofList name, String.ofList type)

section

variable (r : Recovery) (file : String) (line : Nat) {table : List Char}
  (htable : IsIdentifier table)

include htable

/-- What is defined is told by the columns of the list. -/
theorem tableAfter_of_body? {list body : List Char}
    (hbody : body? (createTableText false [] table list [';']) = some body) :
    r.tableAfter file line table list =
      (r.schema.apply (.defineTable (String.ofList table)
        (recordedColumns r.dialect body))).catalog.get? (String.ofList table) := by
  have hread : (Statement.mk .createTable
      (String.ofList (createTableText false [] table list [';'])) line).read r.dialect =
      .ok (.defineTable (String.ofList table) (recordedColumns r.dialect body)) := by
    rw [Statement.read]
    simp only [String.toList_ofList]
    exact readCreateTable_of_body? false htable.isUnquotedName hbody
  rw [tableAfter, statement_of_read file hread]

/-- The columns of the list are the columns that are defined. -/
theorem declared_tableAfter {list body : List Char}
    (hbody : body? (createTableText false [] table list [';']) = some body) :
    (r.tableAfter file line table list).map Table.declared =
      some (recordedColumns r.dialect body) := by
  rw [r.tableAfter_of_body? file line htable hbody, Schema.apply, Schema.defineTable_eq,
    Catalog.get?_put, Table.name_remarks, Schema.name_redeclared, if_pos rfl, Option.map_some,
    Table.declared_remarks, Schema.declared_redeclared]

/-- Equal definitions come from equally many columns. -/
theorem length_columns_eq {list list' body body' : List Char}
    (hbody : body? (createTableText false [] table list [';']) = some body)
    (hbody' : body? (createTableText false [] table list' [';']) = some body')
    (h : r.tableAfter file line table list = r.tableAfter file line table list') :
    (columns r.dialect body).length = (columns r.dialect body').length := by
  have hcolumns := (r.declared_tableAfter file line htable hbody).symm.trans
    ((congrArg _ h).trans (r.declared_tableAfter file line htable hbody'))
  have hlength := congrArg List.length (Option.some.inj hcolumns)
  rwa [recordedColumns, recordedColumns, List.length_map, List.length_map] at hlength

/-- The list with a balanced value is what is read of the statement. -/
theorem body?_list (p : DefaultPlace) {value : List Char}
    (h : isBalanced (fun _ => true) value = true) :
    body? (createTableText false [] table (p.list value) [';']) = some (p.list value) :=
  body?_append (isPlain_headerText false (by simpa using htable.1)).precedesOpening
    (isPaired_iff.2 (p.isBalanced_list h)) [';']

/-- An inert value is of no account wherever it stands. -/
theorem tableAfter_of_isInert {c : Char} {rest : List Char} (hblank : isBlank c = false)
    (hcomma : c ≠ ',') (h : IsInert r.dialect (c :: rest)) (p : DefaultPlace) :
    r.tableAfter file line table (p.list (c :: rest)) =
      r.tableAfter file line table (p.list emptyLiteral) := by
  have hempty := isInert_emptyLiteral r.dialect
  have hcolumns : columns r.dialect (p.list (c :: rest)) =
      columns r.dialect (p.list emptyLiteral) := by
    rw [p.columns_list_of_isInert r.dialect hblank hcomma h]
    exact (p.columns_list_of_isInert r.dialect (by decide) (by decide) hempty).symm
  rw [r.tableAfter_of_body? file line htable (body?_list htable p h.balanced),
    r.tableAfter_of_body? file line htable (body?_list htable p hempty.balanced),
    recordedColumns, hcolumns, ← recordedColumns]

/-- A value is balanced if it hides none of the columns ahead, of which there may be many. -/
theorem isBalanced_of_tableAfter {value : List Char}
    (h : ∀ p : DefaultPlace, r.tableAfter file line table (p.list value) =
      r.tableAfter file line table (p.list emptyLiteral)) :
    isBalanced (fun _ => true) value = true := by
  cases hvalue : isBalanced (fun _ => true) value with
  | true => rfl
  | false =>
    let n := ((DefaultPlace.ahead 0).clause value).length + 1
    have hheader : IsPlain (headerText false [] table) :=
      isPlain_headerText false (by simpa using htable.1)
    obtain ⟨body, hbody, hparts⟩ := exists_body?_of_not_isBalanced hheader
      ((DefaultPlace.isBalanced_clause_ahead n value).trans hvalue)
      (DefaultPlace.isPlain_aheadText n) (· == ',')
    rw [← DefaultPlace.list_ahead] at hbody
    have hempty := isInert_emptyLiteral r.dialect
    have hbody' := body?_list htable (DefaultPlace.ahead n) hempty.balanced
    have hlength := r.length_columns_eq file line htable hbody hbody' (h (DefaultPlace.ahead n))
    have hseen : (columns r.dialect body).length ≤ n := by
      rw [columns_eq]
      exact Nat.le_trans (List.length_filterMap_le _ _) hparts
    have hall : (columns r.dialect ((DefaultPlace.ahead n).list emptyLiteral)).length = n + 1 :=
      DefaultPlace.length_columns_ahead _ n (by decide) (by decide) hempty
    omega

/-- A balanced value is inert if it adds no column to the one that has it. -/
theorem isInert_of_tableAfter {c : Char} {rest : List Char} (hblank : isBlank c = false)
    (hcomma : c ≠ ',') (hbalanced : isBalanced (fun _ => true) (c :: rest) = true)
    (h : r.tableAfter file line table ((DefaultPlace.ahead 0).list (c :: rest)) =
      r.tableAfter file line table ((DefaultPlace.ahead 0).list emptyLiteral)) :
    IsInert r.dialect (c :: rest) := by
  have hempty := isInert_emptyLiteral r.dialect
  have hlength := r.length_columns_eq file line htable (body?_list htable _ hbalanced)
    (body?_list htable _ hempty.balanced) h
  have hone : (columns r.dialect ((DefaultPlace.ahead 0).list emptyLiteral)).length = 1 :=
    DefaultPlace.length_columns_ahead _ 0 (by decide) (by decide) hempty
  rw [hone, DefaultPlace.columns_list _ _ hbalanced, DefaultPlace.columns_clause _ _ hblank hcomma,
    DefaultPlace.column?_head_ahead] at hlength
  refine ⟨hbalanced, List.filterMap_eq_nil_iff.1 (List.eq_nil_of_length_eq_zero ?_)⟩
  simpa [DefaultPlace.ahead] using hlength

/-- **Literals as default values.**  With the empty literal the table is always defined.  Another
literal may stand for it in every column list if and only if it is inert, and it is inert if none of
its marks is escaped by a backslash. -/
theorem default_literal {value : List Char} (hvalue : IsLiteral r.dialect value) :
    (∀ p : DefaultPlace, (r.tableAfter file line table (p.list emptyLiteral)).isSome = true) ∧
      ((∀ p : DefaultPlace, r.tableAfter file line table (p.list value) =
        r.tableAfter file line table (p.list emptyLiteral)) ↔ IsInert r.dialect value) ∧
      (endsUnescaped value = true → IsInert r.dialect value) := by
  refine ⟨fun p => ?_, ?_, fun hends => (hvalue.isToken hends).isInert r.dialect⟩
  · have hbody := body?_list htable p (isInert_emptyLiteral r.dialect).balanced
    rw [← Option.isSome_map, r.declared_tableAfter file line htable hbody]
    rfl
  obtain ⟨c, rest, rfl, hblank, hcomma⟩ := hvalue.exists_head
  constructor
  · intro h
    exact r.isInert_of_tableAfter file line htable hblank hcomma
      (r.isBalanced_of_tableAfter file line htable h) (h _)
  · exact r.tableAfter_of_isInert file line htable hblank hcomma

end

/-- A literal with a mark that is written twice, a comma and a parenthesis. -/
theorem default_literal_twice :
    IsIdentifier "t".toList ∧ IsLiteral .postgreSql "E'it''s, ('".toList ∧
      ∀ p : DefaultPlace,
        tableAfter { dialect := .postgreSql } "s.sql" 1 "t".toList (p.list "E'it''s, ('".toList) =
          tableAfter { dialect := .postgreSql } "s.sql" 1 "t".toList (p.list emptyLiteral) := by
  have htable : IsIdentifier "t".toList := by decide
  have hvalue : IsLiteral .postgreSql "E'it''s, ('".toList := by
    simp only [String.reduceToList]
    decide
  have hends : endsUnescaped "E'it''s, ('".toList = true := by
    simp only [String.reduceToList]
    decide
  obtain ⟨-, hiff, hinert⟩ :=
    default_literal { dialect := .postgreSql } "s.sql" 1 htable hvalue
  exact ⟨htable, hvalue, hiff.2 (hinert hends)⟩

/-- **Not every literal may stand for the empty one.**  In `a int DEFAULT 'it\'s',z int` the walks
take the escaped mark for the end of the quotation and the last mark for the start of one that is
not closed, and so the comma before the column `z` is not seen. -/
theorem exists_literal_ne :
    ¬∀ (r : Recovery) (file : String) (line : Nat) (table value : List Char),
      IsIdentifier table → IsLiteral r.dialect value → '\n' ∉ value → ∀ p : DefaultPlace,
        r.tableAfter file line table (p.list value) =
          r.tableAfter file line table (p.list emptyLiteral) := by
  intro hall
  have htable : IsIdentifier "t".toList := by decide
  have hvalue : IsLiteral .mySql "'it\\'s'".toList := by
    simp only [String.reduceToList]
    decide
  have h := hall { dialect := .mySql } "s.sql" 1 "t".toList _ htable hvalue (by decide)
    (DefaultPlace.ahead 1)
  have hbody : body? (createTableText false [] "t".toList
      ((DefaultPlace.ahead 1).list "'it\\'s'".toList) [';']) =
      some "a int DEFAULT 'it\\'s',z int".toList := by
    simp only [String.reduceToList]
    decide
  have hbody' := body?_list htable (DefaultPlace.ahead 1) (isInert_emptyLiteral .mySql).balanced
  have hlength := length_columns_eq { dialect := .mySql } "s.sql" 1 htable hbody hbody' h
  revert hlength
  simp only [String.reduceToList]
  decide

end Recovery

end Codebook
