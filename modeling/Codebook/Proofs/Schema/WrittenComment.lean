import Codebook.Proofs.Schema.Run
import Codebook.Proofs.Sql.Line

/-!
# Comments as they are written

A `COMMENT ON` is written with its names and its text in quotes.  The text of the statement is then
split into this one statement, and what is read from it are the same names and the same text, which
may hold quotes, backslashes, semicolons and the marks of comments.

What is here: `commentOnText`; `split_commentOnText` and `readComment_commentOnText`, what is made
of it; and `Recovery.text_commentOnText`, its effect.
-/

set_option autoImplicit false

namespace Codebook.Sql

open Codebook.Text

/-- The keyword for what a comment is about, if it is said. -/
def CommentTarget.keywords : CommentTarget → List String
  | table => ["TABLE"]
  | column => ["COLUMN"]
  | unspecified => []

/-- The text of a comment on a name, with all segments of the name in quotes. -/
def commentOnText (d : Dialect) (target : CommentTarget) (segments : List (List Char))
    (comment : List Char) : List Char :=
  keywords ["COMMENT", "ON"] ++ (keywords target.keywords ++
    (joinWith ['.'] (segments.map (quoted d.nameMark false)) ++
      ' ' :: (keywords ["IS"] ++ (quoted '\'' d.hasBackslashEscapes comment ++ [';']))))

section

variable (d : Dialect) (target : CommentTarget) {segments : List (List Char)} {comment : List Char}

/-! ## The line -/

theorem getLast?_commentOnText : (commentOnText d target segments comment).getLast? = some ';' := by
  simp [commentOnText, List.getLast?_append, List.getLast?_cons]

theorem isTrimmed_commentOnText : IsTrimmed (commentOnText d target segments comment) := by
  constructor
  · intro c hc
    obtain rfl : 'C' = c := Option.some.inj hc
    decide
  · intro c hc
    rw [getLast?_commentOnText] at hc
    obtain rfl := Option.some.inj hc
    decide

/-- Names and texts without line feeds make a statement without line feeds. -/
theorem newline_not_mem_commentOnText (hsegments : ∀ s ∈ segments, '\n' ∉ s)
    (hcomment : '\n' ∉ comment) : '\n' ∉ commentOnText d target segments comment := by
  have hname : '\n' ≠ d.nameMark := by cases d <;> decide
  intro h
  rw [commentOnText, List.mem_append, List.mem_append, List.mem_append, List.mem_cons,
    List.mem_append, List.mem_append] at h
  rcases h with h | h | h | h | h | h | h
  · exact absurd h (by decide)
  · cases target <;> exact absurd h (by decide)
  · obtain h | ⟨part, hpart, h⟩ := mem_joinWith h
    · exact absurd h (by decide)
    · obtain ⟨s, hs, rfl⟩ := List.mem_map.1 hpart
      exact (mem_quoted h).elim hname (hsegments s hs)
  · exact absurd h (by decide)
  · exact absurd h (by decide)
  · exact (mem_quoted h).elim (by decide) hcomment
  · exact absurd h (by decide)

/-- Nothing of the statement is a comment of SQL. -/
theorem kept_commentOnText : Kept (commentOnText d target segments comment) := by
  have hmark : isQuoteMark d.nameMark = true := by cases d <;> decide
  have hcommand : Kept (keywords ["COMMENT", "ON"]) := .plain (by decide)
  have htarget : Kept (keywords target.keywords) := by cases target <;> exact .plain (by decide)
  have hname : Kept (joinWith ['.'] (segments.map (quoted d.nameMark false))) := by
    refine .joinWith (.plain (by decide)) fun part hpart => ?_
    obtain ⟨s, -, rfl⟩ := List.mem_map.1 hpart
    exact .quoted hmark false s
  have hspace : Kept [' '] := .plain (by decide)
  have his : Kept (keywords ["IS"]) := .plain (by decide)
  have hsemicolon : Kept [';'] := .plain (by decide)
  have htext : Kept (quoted '\'' d.hasBackslashEscapes comment) := .quoted (by decide) _ _
  exact hcommand.append (htarget.append (hname.append (hspace.append (his.append
    (htext.append hsemicolon)))))

/-- The text is split into the one statement that was written. -/
theorem split_commentOnText (hsegments : ∀ s ∈ segments, '\n' ∉ s) (hcomment : '\n' ∉ comment) :
    Statement.split (commentOnText d target segments comment) =
      [⟨.commentOn, String.ofList (commentOnText d target segments comment), 1⟩] := by
  refine split_of_kept (newline_not_mem_commentOnText d target hsegments hcomment)
    (kept_commentOnText d target) (isTrimmed_commentOnText d target) ?_ ?_
  · rw [endsInSemicolon, getLast?_commentOnText]
    rfl
  · rw [commentOnText, classify_keywords (by decide) (by decide)]
    decide

/-! ## The reading -/

/-- What the comment is about is found before its quoted name. -/
theorem commentTarget_append {mark : Char} {names : List String} (hne : names ≠ [])
    (rest : List Lexeme) :
    commentTarget (target.keywords.map (.word · none) ++ (dotted (some mark) names ++ rest)) =
      (target, dotted (some mark) names ++ rest) := by
  cases target with
  | table => rfl
  | column => rfl
  | unspecified =>
    match names with
    | [] => exact absurd rfl hne
    | [name] => rfl
    | name :: next :: names => rfl

/-- The lexemes of the statement. -/
theorem reads_commentOnText (hne : segments ≠ []) :
    Reads d (commentOnText d target segments comment)
      (["COMMENT", "ON"].map (.word · none) ++ (target.keywords.map (.word · none) ++
        (dotted (some d.nameMark) (segments.map String.ofList) ++
          (["IS"].map (.word · none) ++ [.text .plain (String.ofList comment), .other])))) := by
  have htarget : ∀ k ∈ target.keywords, IsIdentifier k.toList := by cases target <;> decide
  have htext := Reads.quotedText comment (by simp) (Reads.semicolon d)
  have his : Reads d (keywords ["IS"] ++ _) _ := .keywords (by decide) htext
  obtain ⟨first, later, rfl⟩ := List.exists_cons_of_ne_nil hne
  have hname := Reads.dotted (quoted d.nameMark false) (readsSegment_quoted d first).reads
    (fun s (_ : s ∈ later) => readsSegment_quoted d s) (endsSegment_space _) his.space
  exact .keywords (by decide) (.keywords htarget hname)

/-- What is read from such lexemes. -/
theorem readComment_of_lexemes {text : List Char} {mark : Char} {names : List String}
    {comment : String} (hne : names ≠ [])
    (h : lexemes d text = .ok (["COMMENT", "ON"].map (.word · none) ++
      (target.keywords.map (.word · none) ++ (dotted (some mark) names ++
        (["IS"].map (.word · none) ++ [.text .plain comment, .other]))))) :
    readComment d text = describe target (some comment) names := by
  have hname : objectName (dotted (some mark) names ++
      (["IS"].map (.word · none) ++ [.text .plain comment, .other])) = (names, _) :=
    objectName_dotted _ hne (by simp)
  obtain ⟨first, rest, rfl⟩ := List.exists_cons_of_ne_nil hne
  simp only [readComment, h, afterKeywords?_map, commentTarget_append target hne, hname,
    commentText]

/-- What is read are the names and the text that were written. -/
theorem readComment_commentOnText (hne : segments ≠ []) :
    readComment d (commentOnText d target segments comment) =
      describe target (some (String.ofList comment)) (segments.map String.ofList) :=
  readComment_of_lexemes d target (by simpa using hne)
    (reads_commentOnText d target hne).lexemes_eq

end

/-- The last two segments of a name are a table and its column. -/
theorem describe_column (comment : Option String) (schemas : List String) (table column : String) :
    describe .column comment (schemas ++ [table, column]) =
      .ok (.describeColumn table column comment) := by
  induction schemas with
  | nil => rfl
  | cons first schemas ih =>
    match schemas with
    | [] => rfl
    | second :: schemas =>
      rw [← ih]
      cases schemas <;> rfl

/-- The last segment of a name is a table, if a table is what the comment is about. -/
theorem describe_table (comment : Option String) (schemas : List String) (table : String) :
    describe .table comment (schemas ++ [table]) = .ok (.describeTable table comment) := by
  induction schemas with
  | nil => rfl
  | cons first schemas ih =>
    match schemas with
    | [] => rfl
    | second :: schemas =>
      rw [← ih]
      cases schemas <;> rfl

end Codebook.Sql

namespace Codebook

open Sql

/-! ## The effect -/

namespace Recovery

/-- A written comment has the effect of the request that its names make. -/
theorem text_commentOnText_of_describe (r : Recovery) (file : String) {target : CommentTarget}
    {segments : List (List Char)} (hne : segments ≠ []) (hsegments : ∀ s ∈ segments, '\n' ∉ s)
    {comment : List Char} (hcomment : '\n' ∉ comment) {reading : Reading}
    (h : describe target (some (String.ofList comment)) (segments.map String.ofList) =
      .ok reading) :
    r.text file (commentOnText r.dialect target segments comment) =
      { r with schema := r.schema.apply reading } := by
  rw [text, split_commentOnText r.dialect target hsegments hcomment]
  refine statement_of_read file ?_
  simp only [Statement.read, String.toList_ofList]
  rw [readComment_commentOnText r.dialect target hne, h]

/-- **A written comment is read back exactly.**  The names and the text of the comment are any texts
without line feeds, and the state is any state in which the table is known.  A comment on a column
goes to the first column of just that name, and a comment on the table goes to the table.  Nothing
is reported, nothing is left waiting, and all the rest of the state is as it was. -/
theorem text_commentOnText (r : Recovery) (file : String) {earlier later : List Table} {t : Table}
    (htables : r.schema.catalog.tables = earlier ++ t :: later)
    (hearlier : ∀ x ∈ earlier, x.name ≠ t.name) (schemas : List (List Char))
    (hschemas : ∀ s ∈ schemas, '\n' ∉ s) (hname : '\n' ∉ t.name.toList) (comment : List Char)
    (hcomment : '\n' ∉ comment) :
    (∀ before c after, t.columns = before ++ c :: after → (∀ x ∈ before, x.name ≠ c.name) →
      '\n' ∉ c.name.toList →
      r.text file (commentOnText r.dialect .column (schemas ++ [t.name.toList, c.name.toList])
          comment) =
        { r with schema := { r.schema with catalog := ⟨earlier ++ { t with
            columns := before ++ { c with comment := some (String.ofList comment) } :: after } ::
          later⟩ } }) ∧
      r.text file (commentOnText r.dialect .table (schemas ++ [t.name.toList]) comment) =
        { r with schema := { r.schema with catalog :=
          ⟨earlier ++ { t with comment := some (String.ofList comment) } :: later⟩ } } := by
  have hget := Catalog.getOrEmpty_of_tables_eq htables hearlier
  constructor
  · intro before c after hcolumns hbefore hcolumn
    have hsegments : ∀ s ∈ schemas ++ [t.name.toList, c.name.toList], '\n' ∉ s := by
      intro s hs
      rw [List.mem_append, List.mem_cons, List.mem_singleton] at hs
      rcases hs with hs | rfl | rfl
      · exact hschemas s hs
      · exact hname
      · exact hcolumn
    have hdescribe : describe .column (some (String.ofList comment))
        ((schemas ++ [t.name.toList, c.name.toList]).map String.ofList) =
        .ok (.describeColumn t.name c.name (some (String.ofList comment))) := by
      simp [describe_column]
    rw [text_commentOnText_of_describe r file (by simp) hsegments hcomment hdescribe, Schema.apply,
      Schema.describeColumn_eq, hget, Table.columnIndex?_of_columns_eq hcolumns hbefore,
      Table.remark_of_columns_eq hcolumns hbefore, Catalog.put_of_tables_eq htables hearlier]
    · rfl
    · rfl
  · have hsegments : ∀ s ∈ schemas ++ [t.name.toList], '\n' ∉ s := by
      intro s hs
      rw [List.mem_append, List.mem_singleton] at hs
      rcases hs with hs | rfl
      · exact hschemas s hs
      · exact hname
    have hdescribe : describe .table (some (String.ofList comment))
        ((schemas ++ [t.name.toList]).map String.ofList) =
        .ok (.describeTable t.name (some (String.ofList comment))) := by
      simp [describe_table]
    rw [text_commentOnText_of_describe r file (by simp) hsegments hcomment hdescribe, Schema.apply,
      Schema.describeTable, Catalog.update, hget, Catalog.put_of_tables_eq htables hearlier]
    rfl

/-- Quotes, backslashes, and what looks like comments and the end of a statement. -/
theorem text_commentOnText_marks :
    ({ dialect := .mySql, schema := { catalog :=
        ⟨[{ name := "t`", columns := [{ name := "c;", dataType := "int" }] }]⟩ } } : Recovery).text
        "a.sql" "COMMENT ON COLUMN `s`.`t```.`c;` IS 'it''s -- \\\\ /* \";';".toList =
      { dialect := .mySql, schema := { catalog := ⟨[{ name := "t`", columns :=
        [{ name := "c;", dataType := "int", comment := some "it's -- \\ /* \";" }] }]⟩ } } := by
  have hwritten : commentOnText .mySql .column (["s".toList] ++ ["t`".toList, "c;".toList])
      "it's -- \\ /* \";".toList =
      "COMMENT ON COLUMN `s`.`t```.`c;` IS 'it''s -- \\\\ /* \";';".toList := by decide
  have h := (text_commentOnText { dialect := .mySql, schema := { catalog :=
      ⟨[{ name := "t`", columns := [{ name := "c;", dataType := "int" }] }]⟩ } } "a.sql"
    (rfl : _ = [] ++ _ :: []) (by simp) ["s".toList] (by decide) (by decide)
    "it's -- \\ /* \";".toList (by decide)).1 [] _ [] rfl (by simp) (by decide)
  rw [← hwritten]
  exact h

end Recovery

end Codebook
