import Codebook.Proofs.Schema.Run

/-!
# What is reported

A statement is read to its end before anything is done, so one that cannot be read leaves no trace
but its report.  Whether a statement is reported, and what is said about it, depends on the
statement and the dialect alone: no schema makes a statement unreadable.

What is here: `read_ne_noSegments`, a fault that no statement has; `Statement.report?`, what is said
about a statement; `diagnostics_statements` and `schema_statements_unreported`, many statements; and
`Recovery.effect_or_report`.
-/

set_option autoImplicit false

namespace Codebook

open Sql

/-! ## A fault that does not occur -/

namespace Sql

/-- A name that has a segment is the name of something that can be described. -/
theorem exists_describe (target : CommentTarget) (comment : Option String) (segment : String)
    (segments : List String) :
    ∃ reading, describe target comment (segment :: segments) = .ok reading := by
  induction segments generalizing segment with
  | nil => exact ⟨_, rfl⟩
  | cons second segments ih =>
    cases segments with
    | nil =>
      rw [describe]
      split
      · exact ⟨_, rfl⟩
      · exact ⟨_, rfl⟩
    | cons third segments => exact ih second

theorem ne_noSegments_of_lexemes {d : Dialect} {text : List Char} {fault : StatementFault}
    (h : lexemes d text = .error fault) : fault ≠ .noSegments := by
  rw [lexemes] at h
  split at h
  · cases h
  · cases h
    simp

theorem ne_noSegments_of_commentText {l : Lexeme} {fault : StatementFault}
    (h : commentText l = .error fault) : fault ≠ .noSegments := by
  unfold commentText at h
  split at h
  · cases h
  · cases h
  · split at h
    · cases h
    · cases h
      simp

/-- A comment on a name without segments is refused before anything is described. -/
theorem readComment_ne_noSegments (d : Dialect) (text : List Char) :
    readComment d text ≠ .error .noSegments := by
  rw [readComment]
  split
  case h_1 fault hlexemes => simpa using ne_noSegments_of_lexemes hlexemes
  case h_2 ls _ =>
    split
    case h_1 => simp
    case h_2 rest _ =>
      dsimp only
      split
      case h_1 => simp
      case h_2 segment segments rest' _ =>
        split
        case h_1 => simp
        case h_2 => simp
        case h_3 l _ _ =>
          split
          case h_1 fault htext => simpa using ne_noSegments_of_commentText htext
          case h_2 comment _ =>
            obtain ⟨reading, hreading⟩ :=
              exists_describe (commentTarget rest).1 comment segment segments
            simp [hreading]

theorem readCreateTable_ne_noSegments (d : Dialect) (text : List Char) :
    readCreateTable d text ≠ .error .noSegments := by
  rw [readCreateTable]
  split
  case h_1 fault hlexemes => simpa using ne_noSegments_of_lexemes hlexemes
  case h_2 ls _ =>
    split
    case h_1 => simp
    case h_2 q _ => split <;> simp

/-- **No statement comments on a name without segments.** -/
theorem Statement.read_ne_noSegments (d : Dialect) (s : Statement) :
    s.read d ≠ .error .noSegments := by
  rw [Statement.read]
  cases s.kind with
  | createTable => exact readCreateTable_ne_noSegments d _
  | commentOn => exact readComment_ne_noSegments d _
  | alterTable => simp

/-! ## Reports -/

/-- What is said about a statement, if it cannot be read. -/
def Statement.report? (d : Dialect) (file : String) (s : Statement) : Option Diagnostic :=
  match s.read d with
  | .ok _ => none
  | .error fault => some (fault.toDiagnostic file s)

/-- A report is a warning with the file, the text, the line and the length of the statement. -/
theorem Statement.report?_says {d : Dialect} {file : String} {s : Statement} {w : Diagnostic}
    (h : s.report? d file = some w) :
    w.severity = .warning ∧ w.file = some file ∧ w.statement = some s.text ∧
      w.span = some ⟨0, s.text.utf8ByteSize, s.line, 1⟩ := by
  rw [Statement.report?] at h
  split at h
  · cases h
  · cases h
    exact ⟨rfl, rfl, rfl, rfl⟩

end Sql

/-- What a request is about is known once it has been followed. -/
theorem Schema.isSome_get?_apply (s : Schema) {r : Reading} {table : String}
    (h : r.table? = some table) : ((s.apply r).catalog.get? table).isSome := by
  rcases catalog_apply s r with ⟨hnone, -⟩ | ⟨t, ht, hcatalog⟩
  · rw [hnone] at h
    cases h
  · obtain rfl : t.name = table := by simpa [ht] using h
    rw [hcatalog, Catalog.get?_put_self]
    rfl

namespace Recovery

theorem statement_of_report?_none {r : Recovery} {file : String} {s : Statement}
    (h : s.report? r.dialect file = none) :
    ∃ reading, s.read r.dialect = .ok reading ∧
      r.statement file s = { r with schema := r.schema.apply reading } := by
  rw [Statement.report?] at h
  split at h
  · rename_i reading hread
    exact ⟨reading, hread, statement_of_read file hread⟩
  · cases h

theorem statement_of_report?_some {r : Recovery} {file : String} {s : Statement} {w : Diagnostic}
    (h : s.report? r.dialect file = some w) :
    r.statement file s = { r with diagnostics := r.diagnostics ++ [w] } := by
  rw [Statement.report?] at h
  split at h
  · cases h
  · rename_i fault hread
    cases h
    rw [statement, hread]

/-! ## Many statements -/

/-- The reports on some statements are those on each of them, in order. -/
theorem diagnostics_statements (r : Recovery) (file : String) (ss : List Statement) :
    (r.statements file ss).diagnostics =
      r.diagnostics ++ ss.filterMap (Statement.report? r.dialect file) := by
  induction ss generalizing r with
  | nil => exact (List.append_nil _).symm
  | cons s ss ih =>
    have hcons : r.statements file (s :: ss) = (r.statement file s).statements file ss := rfl
    rw [hcons, ih, dialect_statement, List.filterMap_cons]
    cases hreport : s.report? r.dialect file with
    | none =>
      obtain ⟨reading, -, heq⟩ := statement_of_report?_none hreport
      rw [heq]
    | some w =>
      rw [statement_of_report?_some hreport]
      exact List.append_assoc ..

/-- What is reported can be left out: the schema comes from the other statements. -/
theorem schema_statements_unreported (r : Recovery) (file : String) (ss : List Statement) :
    (r.statements file (ss.filter fun s => (s.report? r.dialect file).isNone)).schema =
      (r.statements file ss).schema := by
  have hrequests : ∀ l : List Statement, Run.requests r.dialect (l.map fun s => (file, s)) =
      l.filterMap fun s => (s.read r.dialect).toOption := by
    intro l
    rw [Run.requests, List.filterMap_map]
    rfl
  rw [schema_statements, schema_statements, hrequests, hrequests, List.filterMap_filter]
  congr 2
  funext s
  rw [Statement.report?]
  cases s.read r.dialect <;> rfl

/-- **A statement takes effect or is reported, never both.**  Either nothing is reported, and what
the statement asks for is done, after which the table that it is about is known; or there is one
more report, a warning with the file, the text, the line and the length of the statement, and
nothing else has changed.  No statement has the fault of a name without segments.  So after many
statements there is one report more for each that cannot be read, in their order, and the schema is
what the other ones make. -/
theorem effect_or_report (r : Recovery) (file : String) :
    (∀ s : Statement,
      (∃ reading, s.read r.dialect = .ok reading ∧
          r.statement file s = { r with schema := r.schema.apply reading } ∧
          ∀ table, reading.table? = some table →
            ((r.statement file s).schema.catalog.get? table).isSome) ∨
        ∃ w : Diagnostic, r.statement file s = { r with diagnostics := r.diagnostics ++ [w] } ∧
          w.severity = .warning ∧ w.file = some file ∧ w.statement = some s.text ∧
          w.span = some ⟨0, s.text.utf8ByteSize, s.line, 1⟩) ∧
      (∀ s : Statement, s.read r.dialect ≠ .error .noSegments) ∧
      ∀ ss : List Statement,
        (r.statements file ss).diagnostics =
            r.diagnostics ++ ss.filterMap (Statement.report? r.dialect file) ∧
          (r.statements file ss).schema =
            (r.statements file (ss.filter fun s => (s.report? r.dialect file).isNone)).schema := by
  refine ⟨fun s => ?_, Statement.read_ne_noSegments r.dialect, fun ss =>
    ⟨diagnostics_statements r file ss, (schema_statements_unreported r file ss).symm⟩⟩
  cases hreport : s.report? r.dialect file with
  | none =>
    obtain ⟨reading, hread, heq⟩ := statement_of_report?_none hreport
    refine .inl ⟨reading, hread, heq, fun table htable => ?_⟩
    rw [heq]
    exact Schema.isSome_get?_apply r.schema htable
  | some w => exact .inr ⟨w, statement_of_report?_some hreport, Statement.report?_says hreport⟩

/-- A table with a column list. -/
def listed : Statement := ⟨.createTable, "CREATE TABLE t (a int);", 1⟩

/-- The same table without one. -/
def listless : Statement := ⟨.createTable, "CREATE TABLE t;", 2⟩

/-- The first statement makes the table known; the second one is reported with its line and its
length, and changes nothing else. -/
theorem effect_or_report_listless :
    ((({} : Recovery).statement "s.sql" listed).schema.catalog.get? "t").isSome ∧
      (∃ w : Diagnostic, ({} : Recovery).statement "s.sql" listless = { diagnostics := [w] } ∧
        w.severity = .warning ∧ w.file = some "s.sql" ∧ w.statement = some "CREATE TABLE t;" ∧
        w.span = some ⟨0, 15, 2, 1⟩) ∧
      (({} : Recovery).statements "s.sql" [listed, listless]).schema =
        (({} : Recovery).statements "s.sql" [listed]).schema := by
  have hlisted : listed.read .postgreSql = .ok (.defineTable "t" [("a", "int")]) := by
    refine Statement.read_eq_ok ?_
    simp only [listed, Statement.read, String.reduceToList]
    decide
  have hlistless : listless.read .postgreSql = .error (.noColumnList "t") := by
    have h : (match listless.read .postgreSql with
        | .ok _ => none
        | .error fault => some fault) = some (.noColumnList "t") := by
      simp only [listless, Statement.read, String.reduceToList]
      decide
    cases hread : listless.read .postgreSql with
    | ok r => rw [hread] at h; cases h
    | error fault => rw [hread] at h; cases h; rfl
  obtain ⟨hstep, -, hmany⟩ := effect_or_report {} "s.sql"
  refine ⟨?_, ?_, ?_⟩
  · rcases hstep listed with ⟨reading, hread, -, hknown⟩ | ⟨w, heq, -⟩
    · cases hlisted.symm.trans hread
      exact hknown "t" rfl
    · rw [statement_of_read "s.sql" hlisted] at heq
      cases congrArg Recovery.diagnostics heq
  · rcases hstep listless with ⟨reading, hread, -⟩ | ⟨w, hw⟩
    · cases hlistless.symm.trans hread
    · exact ⟨w, hw⟩
  · have hunreported : [listed, listless].filter
        (fun s => (s.report? .postgreSql "s.sql").isNone) = [listed] := by
      simp only [List.filter_cons, List.filter_nil, Statement.report?, hlisted, hlistless]
      rfl
    rw [(hmany [listed, listless]).2]
    exact congrArg (fun ss => (({} : Recovery).statements "s.sql" ss).schema) hunreported

end Recovery

end Codebook
