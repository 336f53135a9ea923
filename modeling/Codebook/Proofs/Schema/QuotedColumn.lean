import Codebook.Proofs.Schema.Creation
import Codebook.Proofs.Sql.Line
import Codebook.Proofs.Sql.QuotedName

/-!
# Columns with quoted names

A column is declared under a name in quotes, and then a comment is made on it under the same name in
the same quotes.  The two names are read by different machines: the column list is cut up as raw
text, and the comment is read lexeme by lexeme.  The main statement,
`Recovery.commented_quotedColumn_iff`, tells for which names the comment gets to the column.

The comment on a name goes astray in three ways.  A mark that is written twice is one character for
the lexer and stays two in the column list; a mark at an end of the name is lost in the column list;
and in MySQL double quotes make a name in a column list and a text everywhere else.
-/

set_option autoImplicit false

namespace Codebook

open Sql Text

namespace Sql

/-! ## The statements -/

/-- The declaration of a table with one column, whose name is in quotes. -/
def quotedCreation (q : Char) (s : List Char) : List Char :=
  "CREATE TABLE t (".toList ++ (quoted q false s ++ " int);".toList)

/-- A comment on that column. -/
def quotedRemark (q : Char) (s : List Char) : List Char :=
  "COMMENT ON COLUMN t.".toList ++ (quoted q false s ++ " IS 'x';".toList)

/-- A statement around a quoted name. -/
theorem split_around_quoted {q : Char} (hq : isQuoteMark q = true) {s : List Char} (hs : '\n' ∉ s)
    {c : Char} {before after : List Char} (hblank : isBlank c = false)
    (hbefore : Kept (c :: before)) (hafter : Kept (after ++ [';']))
    (hline : '\n' ∉ c :: before ∧ '\n' ∉ after) {kind : StatementKind}
    (hkind : StatementKind.classify (c :: before ++ (quoted q false s ++ (after ++ [';']))) =
      some kind) :
    Statement.split (c :: before ++ (quoted q false s ++ (after ++ [';']))) =
      [⟨kind, String.ofList (c :: before ++ (quoted q false s ++ (after ++ [';']))), 1⟩] := by
  have hlast : (c :: before ++ (quoted q false s ++ (after ++ [';']))).getLast? = some ';' := by
    rw [List.getLast?_append, List.getLast?_append, List.getLast?_append, List.getLast?_singleton]
    rfl
  have hnewline : '\n' ∉ quoted q false s := by
    intro h
    rcases mem_quoted h with rfl | h
    · cases hq
    · exact hs h
  refine split_of_kept ?_ (hbefore.append ((Kept.quoted hq false s).append hafter)) ⟨?_, ?_⟩ ?_
    hkind
  · simp only [List.mem_append, List.mem_singleton, not_or]
    exact ⟨hline.1, hnewline, hline.2, by decide⟩
  · intro x hx
    obtain rfl : c = x := Option.some.inj hx
    exact hblank
  · intro x hx
    rw [hlast] at hx
    obtain rfl := Option.some.inj hx
    decide
  · rw [endsInSemicolon, hlast]
    rfl

section

variable {d : Dialect} {q : Char} (hq : q ∈ d.nameQuotes) {s : List Char}

include hq

theorem split_quotedCreation (hs : '\n' ∉ s) :
    Statement.split (quotedCreation q s) =
      [⟨.createTable, String.ofList (quotedCreation q s), 1⟩] := by
  have heq : quotedCreation q s =
      'C' :: "REATE TABLE t (".toList ++ (quoted q false s ++ (" int)".toList ++ [';'])) := rfl
  rw [heq]
  refine split_around_quoted (d.isQuoteMark_of_mem_nameQuotes hq) hs (by decide)
    (.plain (by decide)) (.plain (by decide)) (by decide) ?_
  exact classify_keywords (by decide : IsIdentifier "CREATE".toList)
    (by decide : IsIdentifier "TABLE".toList) [] _

theorem split_quotedRemark (hs : '\n' ∉ s) :
    Statement.split (quotedRemark q s) =
      [⟨.commentOn, String.ofList (quotedRemark q s), 1⟩] := by
  have heq : quotedRemark q s =
      'C' :: "OMMENT ON COLUMN t.".toList ++
        (quoted q false s ++ (" IS 'x'".toList ++ [';'])) := rfl
  have hspace : Kept " IS ".toList := .plain (by decide)
  have htext : Kept (quoted '\'' false ['x']) := .quoted (by decide) false ['x']
  have hafter : Kept (" IS 'x'".toList ++ [';']) :=
    hspace.append (htext.append (.plain (by decide)))
  rw [heq]
  refine split_around_quoted (d.isQuoteMark_of_mem_nameQuotes hq) hs (by decide)
    (.plain (by decide)) hafter (by decide) ?_
  exact classify_keywords (by decide : IsIdentifier "COMMENT".toList)
    (by decide : IsIdentifier "ON".toList) [] _

/-! ## The readings -/

omit hq in
theorem quotedCreation_eq (q : Char) (s : List Char) :
    quotedCreation q s = createTableText false [] ['t'] (quotedClause q s "int".toList) [';'] := by
  rw [createTableText, quotedClause, joinWith_cons, List.flatMap_singleton, List.append_assoc]
  rfl

/-- The declaration is read with the raw name. -/
theorem readCreateTable_quotedCreation :
    readCreateTable d (quotedCreation q s) =
      .ok (.defineTable "t" [(String.ofList (d.unquote (quoted q false s)), "int")]) := by
  have hname : IsUnquotedName d [['t']] := IsIdentifier.isUnquotedName (by decide)
  have hheader : IsPlain (headerText false [] ['t']) := isPlain_headerText false hname.isWord
  have hlist := isBalanced_quotedClause hq (s := s) (by decide : IsToken "int".toList)
  have hbody := body?_append hheader.precedesOpening (isPaired_iff.2 hlist) [';']
  rw [quotedCreation_eq, readCreateTable_of_body? false hname hbody,
    columns_quotedClause hq (by decide)]
  rfl

end

/-- The lexemes of the comment, where those from the name on are known. -/
theorem reads_quotedRemark {d : Dialect} {q : Char} {s : List Char} {ls : List Lexeme}
    (hq : q.isDigit = false) (h : Reads d (quoted q false s ++ " IS 'x';".toList) ls) :
    Reads d (quotedRemark q s)
      (["COMMENT", "ON", "COLUMN"].map (.word · none) ++ .word "t" none :: .period :: ls) := by
  have heq : quotedRemark q s = keywords ["COMMENT", "ON", "COLUMN"] ++
      (['t'] ++ '.' :: (quoted q false s ++ " IS 'x';".toList)) := rfl
  have hperiod := Reads.period (fun c hc => ?_) h
  · rw [heq]
    exact .keywords (by decide) (.word (by decide) (endsWord_period d _) hperiod)
  · obtain rfl : q = c := Option.some.inj hc
    exact hq

/-- The end of the comment. -/
theorem reads_isText (d : Dialect) :
    Reads d " IS 'x';".toList [.word "IS" none, .text .plain "x", .other] := by
  have heq : " IS 'x';".toList =
      ' ' :: (keywords ["IS"] ++ (quoted '\'' d.hasBackslashEscapes ['x'] ++ [';'])) := by
    cases d <;> rfl
  rw [heq]
  exact (Reads.keywords (by decide) (Reads.quotedText ['x'] (by simp) (Reads.semicolon d))).space

/-- In the quotes of the lexer the comment is read with the name itself. -/
theorem readComment_quotedRemark (d : Dialect) (s : List Char) :
    readComment d (quotedRemark d.nameMark s) =
      .ok (.describeColumn "t" (String.ofList s) (some "x")) := by
  have hname := Reads.quotedName s (fun h => by cases d <;> cases h) (reads_isText d)
  have hlexemes := (reads_quotedRemark (by cases d <;> decide) hname).lexemes_eq
  rw [readComment, hlexemes]
  rfl

/-- One lexeme is read, whatever becomes of the text after it. -/
theorem scanFrom_cons {d : Dialect} {c : Char} {cs rest : List Char} {l : Option Lexeme}
    (hone : readOne d c cs = .ok (l, rest)) (fuel : Nat) :
    Lexeme.scanFrom d (fuel + 1) (c :: cs) =
      (Lexeme.scanFrom d fuel rest).map (l.toList ++ ·) := by
  simp only [Lexeme.scanFrom, hone]
  cases Lexeme.scanFrom d fuel rest <;> rfl

/-- So are keywords. -/
theorem scanFrom_keywords (d : Dialect) {ks : List String}
    (hks : ∀ k ∈ ks, IsIdentifier k.toList) (fuel : Nat) (rest : List Char) :
    Lexeme.scanFrom d (fuel + 2 * ks.length) (keywords ks ++ rest) =
      (Lexeme.scanFrom d fuel rest).map (ks.map (.word · none) ++ ·) := by
  induction ks with
  | nil => cases h : Lexeme.scanFrom d fuel rest <;> simp [keywords, h, Except.map]
  | cons k ks ih =>
    have hk := hks k List.mem_cons_self
    obtain ⟨c, cs, hcs⟩ := List.exists_cons_of_ne_nil hk.1.1
    rw [hcs] at hk
    have hword := readOne_word hk (endsWord_space d (keywords ks ++ rest))
    have hspace : readOne d ' ' (keywords ks ++ rest) = .ok (none, keywords ks ++ rest) := rfl
    have hfuel : fuel + 2 * (k :: ks).length = fuel + 2 * ks.length + 1 + 1 := by
      rw [List.length_cons]
      omega
    rw [keywords_cons_append, hcs, List.cons_append, hfuel, scanFrom_cons hword,
      scanFrom_cons hspace, ih fun x hx => hks x (List.mem_cons_of_mem _ hx), ← hcs,
      String.ofList_toList]
    cases Lexeme.scanFrom d fuel rest <;> rfl

/-- In MySQL double quotes make a text. -/
theorem exists_text_of_scanFrom {fuel : Nat} {tail : List Char} {ls : List Lexeme}
    (h : Lexeme.scanFrom .mySql (fuel + 1) ('"' :: tail) = .ok ls) :
    ∃ value ls', ls = .text .double value :: ls' := by
  have hone : readOne .mySql '"' tail = readText '"' true (.text .double) ('"' :: tail) := rfl
  rw [Lexeme.scanFrom, hone, readText, List.drop_one, List.tail_cons] at h
  cases hread : readQuoted '"' true tail with
  | none =>
    rw [hread] at h
    cases h
  | some r =>
    rw [hread] at h
    dsimp only at h
    cases hrest : Lexeme.scanFrom .mySql fuel r.2 with
    | error e =>
      rw [hrest] at h
      cases h
    | ok ls' =>
      rw [hrest] at h
      exact ⟨_, ls', (Except.ok.inj h).symm⟩

/-- So the comment cannot be read, however the text goes on. -/
theorem readComment_quotedRemark_double (s : List Char) :
    ∃ fault, readComment .mySql (quotedRemark '"' s) = .error fault := by
  generalize htail : doubled '"' false s ++ ['"'] ++ " IS 'x';".toList = tail
  have heq : quotedRemark '"' s =
      keywords ["COMMENT", "ON", "COLUMN"] ++ 't' :: '.' :: '"' :: tail := by
    rw [← htail]
    rfl
  have hlength : (quotedRemark '"' s).length = tail.length + 12 + 1 + 1 + 1 + 2 * 3 := by
    rw [heq, List.length_append, Nat.add_comm]
    rfl
  have htable : readOne .mySql 't' ('.' :: '"' :: tail) = .ok (some (.word "t" none), _) :=
    readOne_word (by decide : IsIdentifier ['t']) (endsWord_period .mySql _)
  have hperiod : readOne .mySql '.' ('"' :: tail) = .ok (some .period, _) :=
    readOne_period .mySql (by simp)
  have hscan := scanFrom_keywords .mySql
    (by decide : ∀ k ∈ ["COMMENT", "ON", "COLUMN"], IsIdentifier k.toList)
    (tail.length + 12 + 1 + 1 + 1) ('t' :: '.' :: '"' :: tail)
  rw [scanFrom_cons htable, scanFrom_cons hperiod, ← heq] at hscan
  change Lexeme.scanFrom .mySql (tail.length + 12 + 1 + 1 + 1 + 2 * 3) _ = _ at hscan
  rw [readComment, lexemes, Lexeme.scan, hlength, hscan]
  cases h : Lexeme.scanFrom .mySql (tail.length + 12 + 1) ('"' :: tail) with
  | error e => exact ⟨_, rfl⟩
  | ok ls =>
    obtain ⟨value, ls', rfl⟩ := exists_text_of_scanFrom h
    exact ⟨.noIs, rfl⟩

end Sql

/-! ## The effect -/

/-- The only column of a table is found under its name in any letter case. -/
theorem Table.columnIndex?_of_columns_singleton {t : Table} {c : Column} (h : t.columns = [c])
    (name : String) :
    t.columnIndex? name = if sameNameAsciiCase c.name name then some 0 else none := by
  by_cases hname : c.name = name
  · have hsame : sameNameAsciiCase c.name name = true := by rw [sameNameAsciiCase_iff, hname]
    rw [hsame, if_pos rfl, ← hname]
    exact columnIndex?_of_columns_eq (show t.columns = [] ++ c :: [] from h) (by simp)
  · have hne : (c.name == name) = false := beq_eq_false_iff_ne.2 hname
    rw [columnIndex?, h, List.findIdx?_singleton, List.findIdx?_singleton, hne,
      if_neg Bool.false_ne_true, Option.none_or]

namespace Recovery

open Sql

/-- The recovery that has found one table with one column. -/
def oneColumn (d : Dialect) (name : String) (comment : Option String) : Recovery where
  dialect := d
  schema := { catalog := ⟨[{ name := "t", columns := [⟨name, "int", comment⟩] }]⟩ }

/-- The column has got its comment, and nothing has been reported. -/
def Commented (r : Recovery) : Prop :=
  r.diagnostics = [] ∧
    ∃ t c, r.schema.catalog.get? "t" = some t ∧ t.columns = [c] ∧ c.comment = some "x"

theorem commented_oneColumn_iff (d : Dialect) (name : String) (comment : Option String) :
    (oneColumn d name comment).Commented ↔ comment = some "x" := by
  constructor
  · rintro ⟨-, t, c, ht, hc, hcomment⟩
    obtain rfl : _ = t := Option.some.inj ht
    obtain rfl : _ = c := List.head_eq_of_cons_eq hc
    exact hcomment
  · exact fun h => ⟨rfl, _, _, rfl, rfl, h⟩

/-- A comment gets to the column if that has the name, up to case, and waits otherwise. -/
theorem apply_describeColumn_oneColumn (d : Dialect) (name column : String) :
    (oneColumn d name none).schema.apply (.describeColumn "t" column (some "x")) =
      if sameNameAsciiCase name column then (oneColumn d name (some "x")).schema
      else { (oneColumn d name none).schema with waiting := [(("t", column), "x")] } := by
  have hindex := Table.columnIndex?_of_columns_singleton
    (t := (oneColumn d name none).schema.catalog.getOrEmpty "t") (c := ⟨name, "int", none⟩) rfl
    column
  rw [Schema.apply, Schema.describeColumn]
  simp only [Table.updateColumn?, hindex]
  cases sameNameAsciiCase name column <;> rfl

/-- What is recovered once the declaration has been read. -/
def created (d : Dialect) (file : String) (q : Char) (s : List Char) : Recovery :=
  ({ dialect := d } : Recovery).text file (quotedCreation q s)

section

variable {d : Dialect} {q : Char} (hq : q ∈ d.nameQuotes) {s : List Char} (hs : '\n' ∉ s)
  (file : String)

include hq hs

/-- The declaration brings the column under its raw name. -/
theorem created_eq :
    created d file q s =
      oneColumn d (String.ofList (d.unquote (quoted q false s))) none := by
  have hread : (Statement.mk .createTable (String.ofList (quotedCreation q s)) 1).read d =
      .ok (.defineTable "t" [(String.ofList (d.unquote (quoted q false s)), "int")]) := by
    rw [Statement.read, String.toList_ofList]
    exact readCreateTable_quotedCreation hq
  rw [created, text, split_quotedCreation hq hs]
  exact statement_of_read (r := { dialect := d }) file hread

/-- In the quotes of the lexer the comment is on the name itself. -/
theorem text_quotedRemark_nameMark (hmark : q = d.nameMark) (name : String) :
    (oneColumn d name none).text file (quotedRemark q s) =
      if sameNameAsciiCase name (String.ofList s) then oneColumn d name (some "x")
      else { oneColumn d name none with schema :=
        { (oneColumn d name none).schema with waiting := [(("t", String.ofList s), "x")] } } := by
  have hread : (Statement.mk .commentOn (String.ofList (quotedRemark q s)) 1).read d =
      .ok (.describeColumn "t" (String.ofList s) (some "x")) := by
    rw [Statement.read, String.toList_ofList, hmark]
    exact readComment_quotedRemark d s
  have hstatement := statement_of_read (r := oneColumn d name none) file hread
  rw [apply_describeColumn_oneColumn] at hstatement
  rw [text, split_quotedRemark hq hs]
  refine Eq.trans hstatement ?_
  cases sameNameAsciiCase name (String.ofList s) <;> rfl

theorem commented_quotedRemark_nameMark_iff (hmark : q = d.nameMark) (name : String) :
    ((oneColumn d name none).text file (quotedRemark q s)).Commented ↔
      sameNameAsciiCase name (String.ofList s) = true := by
  rw [text_quotedRemark_nameMark hq hs file hmark]
  split
  · rename_i hsame
    exact iff_of_true ((commented_oneColumn_iff d name _).2 rfl) hsame
  · rename_i hsame
    refine iff_of_false (fun h => ?_) hsame
    have hnone := (commented_oneColumn_iff d name none).1 h
    cases hnone

/-- In other quotes it is reported. -/
theorem diagnostics_quotedRemark_ne (hmark : q ≠ d.nameMark) (name : String) :
    ((oneColumn d name none).text file (quotedRemark q s)).diagnostics ≠ [] := by
  obtain ⟨rfl, rfl⟩ : d = .mySql ∧ q = '"' := by
    revert q
    cases d <;> decide
  obtain ⟨fault, hfault⟩ := readComment_quotedRemark_double s
  have hread : (Statement.mk .commentOn (String.ofList (quotedRemark '"' s)) 1).read .mySql =
      .error fault := by
    rw [Statement.read, String.toList_ofList]
    exact hfault
  have hdialect : (oneColumn .mySql name none).dialect = .mySql := rfl
  rw [text, split_quotedRemark hq hs, statements, List.foldl_cons, statement, hdialect, hread]
  exact List.append_ne_nil_of_right_ne_nil _ (List.cons_ne_nil _ _)

/-- **A comment finds a column under a quoted name just if both machines read the name alike.**  The
name is any text without line feeds, in any quotes that the dialect has for names.  The declaration
records what is left of the quoted name without the marks at its ends.  The comment then gets to
the column, and nothing is reported, if and only if the quotes are those of the lexer, the name
does not have the mark of these quotes, and neither end of it is a mark that the dialect has for
names; then the column is recorded under the name itself. -/
theorem commented_quotedColumn_iff :
    created d file q s = oneColumn d (String.ofList (d.unquote (quoted q false s))) none ∧
      (((created d file q s).text file (quotedRemark q s)).Commented ↔
        q = d.nameMark ∧ ReadsAlike d q s) ∧
      (q = d.nameMark ∧ ReadsAlike d q s →
        (created d file q s).text file (quotedRemark q s) =
          oneColumn d (String.ofList s) (some "x")) := by
  have hcreated := created_eq hq hs file
  refine ⟨hcreated, ?_, ?_⟩
  · rw [hcreated, ← sameNameAsciiCase_unquote_iff hq]
    by_cases hmark : q = d.nameMark
    · rw [commented_quotedRemark_nameMark_iff hq hs file hmark, and_iff_right hmark]
    · exact iff_of_false (fun h => diagnostics_quotedRemark_ne hq hs file hmark _ h.1)
        fun h => hmark h.1
  · rintro ⟨hmark, halike⟩
    have hsame := (sameNameAsciiCase_unquote_iff hq).2 halike
    rw [hcreated, text_quotedRemark_nameMark hq hs file hmark, if_pos hsame,
      halike.unquote_quoted hq]

end

/-- A name with a space in it. -/
theorem commented_quotedColumn_iff_space :
    (({} : Recovery).text "a.sql" "CREATE TABLE t (\"a b\" int);".toList).text "a.sql"
      "COMMENT ON COLUMN t.\"a b\" IS 'x';".toList = oneColumn .postgreSql "a b" (some "x") :=
  (commented_quotedColumn_iff (d := .postgreSql) (q := '"') (by decide) (s := "a b".toList)
    (by decide) "a.sql").2.2 ⟨rfl, by decide, by decide, by decide⟩

/-- A name with a mark in it that the comment does not find, though both statements can be read. -/
theorem exists_not_commented_quotedColumn :
    ∃ d q s, q ∈ Dialect.nameQuotes d ∧ s ≠ [] ∧ '\n' ∉ s ∧
      ¬((created d "a.sql" q s).text "a.sql" (quotedRemark q s)).Commented := by
  refine ⟨.postgreSql, '"', "a\"b".toList, by decide, by decide, by decide, fun h => ?_⟩
  rw [created_eq (by decide) (by decide)] at h
  exact absurd ((commented_quotedRemark_nameMark_iff (q := '"') (by decide) (by decide) "a.sql" rfl
    _).1 h) (by decide)

end Recovery

end Codebook
