import Codebook.Proofs.Schema.Run
import Codebook.Proofs.Sql.Body
import Codebook.Proofs.Sql.Clause
import Codebook.Proofs.Sql.DottedName

/-!
# Creating a table

The text of a `CREATE TABLE` is put together from a name and a list of clauses, with anything after
the list.  What is read from it are the name and the declared columns, and so the table has these
columns and no others afterwards, whatever the schema was before.

What is here: `createTableText`; `readCreateTable_createTableText`, the reading of it; and
`Recovery.declared_of_createTableText`, its effect.
-/

set_option autoImplicit false

namespace Codebook.Sql

open Codebook.Text

/-- The text of a `CREATE TABLE` before its list, with `IF NOT EXISTS` or not. -/
def headerText (guarded : Bool) (schemas : List (List Char)) (name : List Char) : List Char :=
  keywords ["CREATE", "TABLE"] ++ ((if guarded then keywords ["IF", "NOT", "EXISTS"] else []) ++
    (joinWith ['.'] (schemas ++ [name]) ++ [' ']))

/-- The text of a `CREATE TABLE`, with anything after its list. -/
def createTableText (guarded : Bool) (schemas : List (List Char)) (name list tail : List Char) :
    List Char :=
  headerText guarded schemas name ++ '(' :: (list ++ ')' :: tail)

/-! ## Its parts -/

/-- Without `IF` and the rest there is nothing to skip before the name. -/
theorem afterKeywords?_dotted (names : List String) :
    afterKeywords? ["IF", "NOT", "EXISTS"] (dotted none names) = none := by
  match names with
  | [] => rfl
  | [name] =>
    rw [dotted, afterKeywords?]
    split <;> rfl
  | name :: next :: names =>
    rw [dotted, afterKeywords?]
    split <;> rfl

/-- The name that is found in the lexemes of a header. -/
theorem tableName?_append (guarded : Bool) {names : List String} {name : String}
    (hname : names.getLast? = some name) :
    ∃ q : QualifiedName, q.name = name ∧
      tableName? (["CREATE", "TABLE"].map (.word · none) ++
        ((if guarded then ["IF", "NOT", "EXISTS"].map (.word · none) else []) ++
          dotted none names)) = some q := by
  have hne : names ≠ [] := by
    rintro rfl
    cases hname
  have hobject : objectName (dotted none names ++ []) = (names, []) :=
    objectName_dotted none hne (by simp)
  rw [List.append_nil] at hobject
  have hlast := QualifiedName.name_ofSegments? names
  rw [hname, Option.map_eq_some_iff] at hlast
  obtain ⟨q, hq, hqname⟩ := hlast
  refine ⟨q, hqname, ?_⟩
  rw [tableName?, afterKeywords?_map]
  cases guarded with
  | false =>
    simp only [Bool.false_eq_true, if_false, List.nil_append, afterKeywords?_dotted,
      Option.getD_none, hobject, hq]
  | true => simp only [if_true, afterKeywords?_map, Option.getD_some, hobject, hq]

/-! ## The reading -/

section

variable {d : Dialect} (guarded : Bool) {schemas : List (List Char)} {name : List Char}

/-- There are no quotations and parentheses before the list. -/
theorem isPlain_headerText (hwords : ∀ s ∈ schemas ++ [name], IsWord s) :
    IsPlain (headerText guarded schemas name) := by
  intro c hc
  rw [headerText, List.mem_append, List.mem_append, List.mem_append, List.mem_singleton] at hc
  rcases hc with hc | hc | hc | rfl
  · revert c
    decide
  · cases guarded with
    | false => cases hc
    | true =>
      revert c
      decide
  · obtain hc | ⟨s, hs, hc⟩ := mem_joinWith hc
    · rw [List.mem_singleton.1 hc]
      decide
    · have hplain := isPlain_of_isWord (hwords s hs) hc
      simp only [List.mem_cons, List.not_mem_nil, or_false, not_or] at hplain
      exact ⟨hplain.2.1, hplain.2.2.2.1, hplain.2.2.2.2.1⟩
  · decide

variable (hname : IsUnquotedName d (schemas ++ [name]))

include hname

/-- The lexemes before the list. -/
theorem reads_headerText :
    Reads d (headerText guarded schemas name)
      (["CREATE", "TABLE"].map (.word · none) ++
        ((if guarded then ["IF", "NOT", "EXISTS"].map (.word · none) else []) ++
          dotted none ((schemas ++ [name]).map String.ofList))) := by
  have hnames := hname.reads (endsSegment_space []) (Reads.nil d).space
  rw [List.append_nil] at hnames
  refine Reads.keywords (by decide) ?_
  cases guarded with
  | false => exact hnames
  | true => exact Reads.keywords (by decide) hnames

/-- What is read are the name and the columns of the list, whatever its text is. -/
theorem readCreateTable_of_body? {list tail body : List Char}
    (hbody : body? (createTableText guarded schemas name list tail) = some body) :
    readCreateTable d (createTableText guarded schemas name list tail) =
      .ok (.defineTable (String.ofList name)
        ((columns d body).map fun (name, type) => (String.ofList name, String.ofList type))) := by
  have hplain := isPlain_headerText guarded hname.isWord
  have hheader : breakAtOpening (headerText guarded schemas name ++ '(' :: (list ++ ')' :: tail)) =
      some (headerText guarded schemas name, list ++ ')' :: tail) :=
    breakAtOpening_eq_some_iff.2 ⟨rfl, hplain.precedesOpening⟩
  have hlexemes := (reads_headerText guarded hname).lexemes_eq
  have hlast : ((schemas ++ [name]).map String.ofList).getLast? = some (String.ofList name) := by
    simp
  obtain ⟨q, hq, htable⟩ := tableName?_append guarded hlast
  rw [createTableText] at hbody
  rw [readCreateTable, createTableText, header, hheader]
  simp only [hlexemes, htable, hbody, hq]

/-- What is read are the name and the declared columns. -/
theorem readCreateTable_createTableText (list : List (WrittenClause d)) (tail : List Char) :
    readCreateTable d
        (createTableText guarded schemas name (WrittenClause.listText list) tail) =
      .ok (.defineTable (String.ofList name) (WrittenClause.declared list)) := by
  have hbody := body?_append (isPlain_headerText guarded hname.isWord).precedesOpening
    (isPaired_iff.2 (WrittenClause.isBalanced_listText list)) tail
  rw [readCreateTable_of_body? guarded hname hbody, WrittenClause.columns_listText]

end

end Codebook.Sql

namespace Codebook.Recovery

open Sql

/-- **A created table has exactly the declared columns.**  Whatever has been recovered before, a
`CREATE TABLE` with a name that is read without quotes and with clauses that follow the grammar is
not reported, and the columns of its table are, in order, those that its clauses declare. -/
theorem declared_of_createTableText (r : Recovery) (file : String) (line : Nat) (guarded : Bool)
    {schemas : List (List Char)} {name : List Char}
    (hname : IsUnquotedName r.dialect (schemas ++ [name])) (list : List (WrittenClause r.dialect))
    (tail : List Char) :
    let text := createTableText guarded schemas name (WrittenClause.listText list) tail
    let after := r.statement file ⟨.createTable, String.ofList text, line⟩
    after.diagnostics = r.diagnostics ∧
      ∃ t, after.schema.catalog.get? (String.ofList name) = some t ∧
        t.declared = WrittenClause.declared list := by
  intro text after
  have hread : (Statement.mk .createTable (String.ofList text) line).read r.dialect =
      .ok (.defineTable (String.ofList name) (WrittenClause.declared list)) := by
    rw [Statement.read]
    simp only [String.toList_ofList]
    exact readCreateTable_createTableText guarded hname list tail
  have hafter := statement_of_read file hread
  rw [show after = _ from hafter]
  refine ⟨rfl, (r.schema.redeclared (String.ofList name) (WrittenClause.declared list)).remarks
    (r.schema.waiting.remarksOn (String.ofList name)), ?_, ?_⟩
  · simp only [Schema.apply, Schema.defineTable_eq, Catalog.get?_put, Table.name_remarks,
      Schema.name_redeclared, if_true]
  · rw [Table.declared_remarks, Schema.declared_redeclared]

/-- A type of two words, a constraint after it, and a key, in a table of a schema whose name starts
with digits. -/
theorem declared_of_createTableText_orders :
    let after := ({ dialect := .mySql } : Recovery).statement "shop.sql" ⟨.createTable,
      "CREATE TABLE IF NOT EXISTS 2024q1.orders (id bigint unsigned NOT NULL,PRIMARY KEY (id));",
      1⟩
    after.diagnostics = [] ∧
      ∃ t, after.schema.catalog.get? "orders" = some t ∧
        t.declared = [("id", "bigint unsigned")] := by
  have hid : Clause.IsValid .mySql (.column "id".toList "bigint".toList ["unsigned".toList]
      ["NOT".toList, "NULL".toList]) :=
    .column (by decide) (by decide +kernel) (by decide) (by decide +kernel) (by decide +kernel)
  have hkey : Clause.IsValid .mySql (.table "PRIMARY".toList ["KEY".toList, "(id)".toList]) :=
    .table ((keywordOf_mem_iff (by decide) _).1 (by decide +kernel)) (by decide)
  have htext : String.ofList (createTableText true ["2024q1".toList] "orders".toList
      (WrittenClause.listText [.plain _ hid, .plain _ hkey]) [';']) =
      "CREATE TABLE IF NOT EXISTS 2024q1.orders (id bigint unsigned NOT NULL,PRIMARY KEY (id));" := by
    simp only [WrittenClause.listText, WrittenClause.plain, List.map_cons, List.map_nil]
    decide +kernel
  have hdeclared : WrittenClause.declared [.plain _ hid, .plain _ hkey] =
      [("id", "bigint unsigned")] := by
    simp only [WrittenClause.declared, WrittenClause.plain, Clause.declared?, List.filterMap_cons,
      List.filterMap_nil]
    decide +kernel
  have hname : IsUnquotedName .mySql (["2024q1".toList] ++ ["orders".toList]) := by decide
  have h := declared_of_createTableText { dialect := .mySql } "shop.sql" 1 true hname
    [.plain _ hid, .plain _ hkey] [';']
  dsimp only at h
  rwa [htext, hdeclared, String.ofList_toList] at h

/-- **A word that is read as a number names no table.**  The statement is reported, and there is no
such table. -/
theorem exists_createTableText_reported :
    ∃ (name : List Char) (list : List (WrittenClause .postgreSql)), IsWord name ∧
      String.ofList (createTableText false [] name (WrittenClause.listText list) [';']) =
        "CREATE TABLE 1t (a int);" ∧
      WrittenClause.declared list = [("a", "int")] ∧
      let after := ({ dialect := .postgreSql } : Recovery).statement "a.sql" ⟨.createTable,
        "CREATE TABLE 1t (a int);", 1⟩
      after.diagnostics ≠ [] ∧ after.schema.catalog.get? (String.ofList name) = none := by
  have hcolumn : Clause.IsValid .postgreSql (.column "a".toList "int".toList [] []) :=
    .column (by decide) (by decide +kernel) (by decide) (by decide +kernel) (by decide +kernel)
  refine ⟨"1t".toList, [.plain _ hcolumn], by decide, ?_, ?_, ?_⟩
  · simp only [WrittenClause.listText, WrittenClause.plain, List.map_cons, List.map_nil]
    decide +kernel
  · simp only [WrittenClause.declared, WrittenClause.plain, Clause.declared?, List.filterMap_cons,
      List.filterMap_nil]
    decide +kernel
  · decide +kernel

end Codebook.Recovery
