import Codebook.Command.Generate
import Codebook.Proofs.Schema.Run

/-!
# What files add to a survey

Each file adds something of its own, whatever the survey has found before: a Go file its groups, an
SQL file the requests of its statements, and a file that cannot be taken one report.  So what a
survey comes to is told by the files alone, and files of different languages do not depend on each
other.

What is here: `SourceFile`, with what it adds; `Survey.Took`, what holds of a survey after some
files; and `survey_took`, by which it holds of every run over files.
-/

set_option autoImplicit false

namespace Codebook

open Sql

/-! ## Files -/

/-- A file: its path and its bytes. -/
abbrev SourceFile := String × List UInt8

namespace SourceFile

/-- The language of a file. -/
def kind? (f : SourceFile) : Option SourceKind := SourceKind.ofPath? f.1

/-- Why a file cannot be taken.  That can only be so for a Go file. -/
def error? (f : SourceFile) : Option Go.ScanError :=
  match f.kind?, Go.scan f.1 f.2 with
  | some .go, .error e => some e
  | _, _ => none

/-- The groups of a file. -/
def groups (f : SourceFile) : List Group :=
  match f.kind?, Go.scan f.1 f.2 with
  | some .go, .ok groups => groups
  | _, _ => []

/-- What the statements of a file ask for. -/
def requests (d : Dialect) (f : SourceFile) : List Reading :=
  match f.kind? with
  | some .sql => Run.requests d ((Statement.split (Text.decodeLines f.2)).map fun s => (f.1, s))
  | _ => []

variable {f : SourceFile} {e : Go.ScanError}

theorem kind?_of_error? (h : f.error? = some e) : f.kind? = some .go := by
  rw [error?] at h
  split at h
  · assumption
  · cases h

theorem groups_of_error? (h : f.error? = some e) : f.groups = [] := by
  rw [error?] at h
  rw [groups]
  split at h
  · rename_i hkind hscan
    rw [hkind, hscan]
  · cases h

theorem requests_of_error? (h : f.error? = some e) (d : Dialect) : f.requests d = [] := by
  rw [requests, kind?_of_error? h]

theorem groups_of_kind?_ne (h : f.kind? ≠ some .go) : f.groups = [] := by
  rw [groups]
  split
  · rename_i hkind _
    exact absurd hkind h
  · rfl

theorem requests_of_kind?_ne (h : f.kind? ≠ some .sql) (d : Dialect) : f.requests d = [] := by
  rw [requests]
  split
  · rename_i hkind
    exact absurd hkind h
  · rfl

end SourceFile

/-! ## Reports of errors -/

/-- The reports that are errors. -/
def errorsIn (ds : List Diagnostic) : List Diagnostic := ds.filter (·.severity == .error)

theorem errorsIn_append (ds es : List Diagnostic) :
    errorsIn (ds ++ es) = errorsIn ds ++ errorsIn es := List.filter_append ..

theorem any_error_eq_true_iff (ds : List Diagnostic) :
    (ds.any fun d => d.severity == .error) = true ↔ errorsIn ds ≠ [] := by
  simp [errorsIn]

/-- A statement that cannot be read is a warning and no error. -/
theorem Recovery.errorsIn_statements (r : Recovery) (file : String) (ss : List Statement) :
    errorsIn (r.statements file ss).diagnostics = errorsIn r.diagnostics := by
  induction ss generalizing r with
  | nil => rfl
  | cons s ss ih =>
    have hstep : errorsIn (r.statement file s).diagnostics = errorsIn r.diagnostics := by
      rw [Recovery.statement]
      split
      · rfl
      · show errorsIn (_ ++ [_]) = _
        rw [errorsIn_append]
        exact List.append_nil _
    exact (ih _).trans hstep

/-! ## Surveys -/

namespace Registry

theorem insertAll_append (r : Registry) (gs hs : List Group) :
    r.insertAll (gs ++ hs) = (r.insertAll gs).insertAll hs := List.foldl_append

end Registry

namespace Survey

/-- What a survey has come to after some files, of which those that cannot be taken are reported. -/
structure Took (s : Survey) (files : List SourceFile) (s' : Survey) : Prop where
  /-- The groups are those of the files. -/
  registry : s'.registry = s.registry.insertAll (files.flatMap SourceFile.groups)
  /-- The schema is that of the requests of the files. -/
  schema : s'.recovery.schema =
    s.recovery.schema.applyAll (files.flatMap (SourceFile.requests s.recovery.dialect))
  /-- The dialect is the same. -/
  dialect : s'.recovery.dialect = s.recovery.dialect
  /-- There is one error for each file that cannot be taken. -/
  errors : errorsIn s'.diagnostics =
    errorsIn s.diagnostics ++ (files.filterMap SourceFile.error?).map Go.ScanError.toDiagnostic

namespace Took

variable {s s' s'' : Survey} {f : SourceFile} {files more : List SourceFile}

theorem nil (s : Survey) : s.Took [] s := ⟨rfl, rfl, rfl, (List.append_nil _).symm⟩

theorem append (h : s.Took files s') (h' : s'.Took more s'') : s.Took (files ++ more) s'' := by
  refine ⟨?_, ?_, h'.dialect.trans h.dialect, ?_⟩
  · rw [h'.registry, h.registry, List.flatMap_append, Registry.insertAll_append]
  · rw [h'.schema, h.schema, h.dialect, List.flatMap_append, Schema.applyAll_append]
  · rw [h'.errors, h.errors, List.filterMap_append, List.map_append, List.append_assoc]

/-- A file that cannot be taken is reported, and that is all. -/
theorem record {e : Go.ScanError} (h : f.error? = some e) : s.Took [f] (s.record e) := by
  refine ⟨?_, ?_, rfl, ?_⟩
  · rw [List.flatMap_singleton, SourceFile.groups_of_error? h]
    rfl
  · rw [List.flatMap_singleton, SourceFile.requests_of_error? h]
    rfl
  · rw [List.filterMap_cons, h]
    exact errorsIn_append _ _

end Took

/-- Whether a file is taken is told by the file alone. -/
theorem addFile_cases (s : Survey) (f : SourceFile) :
    (∃ e, f.error? = some e ∧ s.addFile f.1 f.2 = .error e) ∨
      f.error? = none ∧ ∃ s' known, s.addFile f.1 f.2 = .ok (s', known) ∧ s.Took [f] s' := by
  rw [addFile, ← SourceFile.kind?, SourceFile.error?]
  cases hkind : f.kind? with
  | none =>
    have hgroups : f.groups = [] := SourceFile.groups_of_kind?_ne (by simp [hkind])
    have hrequests := SourceFile.requests_of_kind?_ne (f := f) (by simp [hkind])
    have herror : f.error? = none := by simp [SourceFile.error?, hkind]
    refine .inr ⟨rfl, s, false, rfl, ?_⟩
    constructor <;> simp [hgroups, hrequests, herror, Registry.insertAll]
  | some kind =>
    cases kind with
    | go =>
      have hrequests := SourceFile.requests_of_kind?_ne (f := f) (by simp [hkind])
      simp only [addGo]
      cases hscan : Go.scan f.1 f.2 with
      | error e => exact .inl ⟨e, rfl, rfl⟩
      | ok groups =>
        have hgroups : f.groups = groups := by rw [SourceFile.groups, hkind, hscan]
        have herror : f.error? = none := by rw [SourceFile.error?, hkind, hscan]
        refine .inr ⟨rfl, _, true, rfl, ?_⟩
        constructor <;> simp [hgroups, hrequests, herror, diagnostics]
    | sql =>
      have hgroups : f.groups = [] := SourceFile.groups_of_kind?_ne (by simp [hkind])
      have herror : f.error? = none := by simp [SourceFile.error?, hkind]
      refine .inr ⟨rfl, _, true, rfl, ?_, ?_, ?_, ?_⟩
      · simp [hgroups, Registry.insertAll, addSql]
      · rw [List.flatMap_singleton, SourceFile.requests, hkind]
        exact Recovery.schema_statements _ _ _
      · exact Recovery.dialect_statements _ _ _
      · simp only [List.filterMap_cons, herror, List.filterMap_nil, List.map_nil, List.append_nil]
        exact Recovery.errorsIn_statements _ _ _

theorem addFile_eq_error_iff (s : Survey) (f : SourceFile) (e : Go.ScanError) :
    s.addFile f.1 f.2 = .error e ↔ f.error? = some e := by
  rcases addFile_cases s f with ⟨e', herror, hadd⟩ | ⟨herror, s', known, hadd, -⟩
  · rw [hadd, herror, Except.error.injEq, Option.some.injEq]
  · rw [hadd, herror]
    simp

end Survey

/-! ## Runs over files -/

namespace Command

open Survey

/-- A run that goes on takes all files. -/
theorem survey_took (s : Survey) (n : Nat) (files : List SourceFile) :
    ∃ s' m, survey true s n files = .ok (s', m) ∧ s.Took files s' := by
  induction files generalizing s n with
  | nil => exact ⟨s, n, rfl, .nil s⟩
  | cons f files ih =>
    rcases addFile_cases s f with ⟨e, herror, hadd⟩ | ⟨-, t, known, hadd, ht⟩
    · obtain ⟨s', m, hrun, hs'⟩ := ih (s.record e) n
      refine ⟨s', m, ?_, (Took.record herror).append hs'⟩
      simp only [survey, hadd, if_true, hrun]
    · obtain ⟨s', m, hrun, hs'⟩ := ih t (if known then n + 1 else n)
      exact ⟨s', m, by simp only [survey, hadd, hrun], ht.append hs'⟩

/-- Where all files can be taken it does not matter whether a run would go on. -/
theorem survey_eq_of_forall {files : List SourceFile} (h : ∀ f ∈ files, f.error? = none)
    (keepGoing : Bool) (s : Survey) (n : Nat) :
    survey keepGoing s n files = survey true s n files := by
  induction files generalizing s n with
  | nil => rfl
  | cons f files ih =>
    rcases addFile_cases s f with ⟨e, herror, -⟩ | ⟨-, t, known, hadd, -⟩
    · rw [h f List.mem_cons_self] at herror
      cases herror
    · simp only [survey, hadd]
      exact ih (fun x hx => h x (List.mem_cons_of_mem _ hx)) _ _

/-- A run that does not go on stops at the first file that cannot be taken. -/
theorem survey_eq_error_iff (s : Survey) (n : Nat) (files : List SourceFile) (e : Go.ScanError) :
    survey false s n files = .error e ↔ (files.filterMap SourceFile.error?).head? = some e := by
  induction files generalizing s n with
  | nil => simp [survey]
  | cons f files ih =>
    rcases addFile_cases s f with ⟨e', herror, hadd⟩ | ⟨herror, t, known, hadd, -⟩
    · simp [survey, hadd, herror]
    · simp only [survey, hadd, List.filterMap_cons, herror]
      exact ih _ _

end Command

end Codebook
