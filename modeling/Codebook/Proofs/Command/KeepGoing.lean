import Codebook.Proofs.Survey.Files

/-!
# Files that cannot be taken

A file that cannot be taken has no effect but its report.  A run that goes on after such files finds
what a run finds that never meets them, also where the files of the two languages come in another
order; and a command that stops at such a file fails just where one that goes on ends with errors.

What is here: `Interleaves`, the orders that count as the same; `Ready`, a request in which nothing
but the files can go wrong; and `Command.keepGoing_only_reports`, which says all of the above.
-/

set_option autoImplicit false

namespace Codebook

/-! ## Orders of files -/

theorem flatMap_filter_of_forall {α β : Type} {p : α → Bool} {f : α → List β}
    (h : ∀ a, p a = false → f a = []) (l : List α) : (l.filter p).flatMap f = l.flatMap f := by
  induction l with
  | nil => rfl
  | cons a l ih =>
    rw [List.filter_cons, List.flatMap_cons]
    cases ha : p a with
    | true => rw [if_pos rfl, List.flatMap_cons, ih]
    | false => rw [if_neg Bool.false_ne_true, ih, h a ha, List.nil_append]

/-- The files of a list that are of some language. -/
def filesOf (kind : SourceKind) (files : List SourceFile) : List SourceFile :=
  files.filter fun f => f.kind? == some kind

/-- The files of a list that can be taken. -/
def readable (files : List SourceFile) : List SourceFile :=
  files.filter fun f => f.error?.isNone

/-- Of each language, one list has the files of the other that can be taken, in their order. -/
def Interleaves (good files : List SourceFile) : Prop :=
  ∀ kind, filesOf kind good = filesOf kind (readable files)

namespace Interleaves

variable {good files : List SourceFile}

/-- What only files of one language have is the same in both lists. -/
theorem flatMap_eq {β : Type} (h : Interleaves good files) (kind : SourceKind)
    {f : SourceFile → List β} (hkind : ∀ x, x.kind? ≠ some kind → f x = [])
    (herror : ∀ x e, x.error? = some e → f x = []) : good.flatMap f = files.flatMap f := by
  have hof : ∀ l : List SourceFile, (filesOf kind l).flatMap f = l.flatMap f :=
    flatMap_filter_of_forall fun x hx => hkind x (by simpa using hx)
  have hreadable : (readable files).flatMap f = files.flatMap f := by
    refine flatMap_filter_of_forall (fun x hx => ?_) files
    obtain ⟨e, he⟩ := Option.isSome_iff_exists.1 (Option.isNone_eq_false_iff.1 hx)
    exact herror x e he
  rw [← hof good, h kind, hof, hreadable]

theorem groups_eq (h : Interleaves good files) :
    good.flatMap SourceFile.groups = files.flatMap SourceFile.groups :=
  h.flatMap_eq .go (fun _ => SourceFile.groups_of_kind?_ne) fun _ _ => SourceFile.groups_of_error?

theorem requests_eq (h : Interleaves good files) (d : Sql.Dialect) :
    good.flatMap (SourceFile.requests d) = files.flatMap (SourceFile.requests d) :=
  h.flatMap_eq .sql (fun _ hx => SourceFile.requests_of_kind?_ne hx d)
    fun _ _ he => SourceFile.requests_of_error? he d

/-- All files of the list can be taken. -/
theorem error?_eq_none (h : Interleaves good files) {f : SourceFile} (hf : f ∈ good) :
    f.error? = none := by
  cases herror : f.error? with
  | none => rfl
  | some e =>
    have hmem : f ∈ filesOf .go good :=
      List.mem_filter.2 ⟨hf, by rw [SourceFile.kind?_of_error? herror]; rfl⟩
    rw [h .go] at hmem
    have hnone := (List.mem_filter.1 (List.mem_filter.1 hmem).1).2
    rw [herror] at hnone
    cases hnone

end Interleaves

namespace Command

/-- **A run that goes on finds what is found without the files that cannot be taken.** -/
theorem survey_eq_of_interleaves {good files : List SourceFile} (h : Interleaves good files)
    (s : Survey) (n : Nat) :
    ∃ s₁ n₁ s₂ n₂, survey true s n files = .ok (s₁, n₁) ∧ survey false s n good = .ok (s₂, n₂) ∧
      s₁.registry = s₂.registry ∧ s₁.recovery.schema = s₂.recovery.schema ∧
      errorsIn s₁.diagnostics = errorsIn s.diagnostics ++
        (files.filterMap SourceFile.error?).map Go.ScanError.toDiagnostic := by
  obtain ⟨s₁, n₁, hrun₁, htook₁⟩ := survey_took s n files
  obtain ⟨s₂, n₂, hrun₂, htook₂⟩ := survey_took s n good
  refine ⟨s₁, n₁, s₂, n₂, hrun₁, ?_, ?_, ?_, htook₁.errors⟩
  · rw [survey_eq_of_forall (fun f hf => h.error?_eq_none hf), hrun₂]
  · rw [htook₁.registry, htook₂.registry, h.groups_eq]
  · rw [htook₁.schema, htook₂.schema, h.requests_eq]

/-- A document is told by the groups and the schema. -/
theorem DocumentFormat.document_congr {s t : Survey} (format : DocumentFormat)
    (hregistry : s.registry = t.registry) (hschema : s.recovery.schema = t.recovery.schema) :
    format.document s = format.document t := by
  cases format with
  | markdown => rw [document, document, Survey.markdown, Survey.markdown, Survey.catalog,
      Survey.catalog, hregistry, hschema]
  | json => rw [document, document, Survey.json, Survey.json, Survey.catalog,
      Survey.catalog, hregistry, hschema]

/-! ## The command -/

/-- A request for which there are settings that make a plan, a directory of the project, and a place
where any document can be written. -/
structure Ready (scene : Scene) (g : Generation) (plan : Plan) (address : Address) : Prop where
  /-- The settings make the plan. -/
  planned : (Settings.gather scene g).bind Settings.plan = .ok plan
  /-- The directory of the project is there. -/
  root : scene.volume.directory? scene.directory plan.root = some address
  /-- The document can be written. -/
  writable : ∀ document, ∃ v,
    writeDocument scene plan.output (documentName plan.format address) document = .ok v

/-- A request that goes on after files that cannot be taken. -/
def Generation.goingOn (g : Generation) : Generation := { g with keepGoing := true }

/-- Nothing else of a plan depends on whether the command goes on. -/
theorem Settings.plan_keepGoing (s : Settings) (b : Option Bool) :
    { s with keepGoing := b }.plan =
      s.plan.map fun plan => { plan with keepGoing := b.getD false } := by
  cases hformat : s.format with
  | none =>
    cases hdialect : s.dialect with
    | none => simp only [plan, hformat, hdialect]; rfl
    | some name =>
      cases hname : Sql.Dialect.ofName? name <;>
        simp only [plan, hformat, hdialect, hname] <;> rfl
  | some word =>
    cases hword : DocumentFormat.ofSetting? word with
    | none => simp only [plan, hformat, hword]; rfl
    | some format =>
      cases hdialect : s.dialect with
      | none => simp only [plan, hformat, hword, hdialect]; rfl
      | some name =>
        cases hname : Sql.Dialect.ofName? name <;>
          simp only [plan, hformat, hword, hdialect, hname] <;> rfl

theorem Settings.under_goingOn (s : Settings) (g : Generation) :
    s.under g.goingOn = { s.under g with keepGoing := some true } := by
  simp only [under, Generation.goingOn, Bool.or_true]

theorem plan_goingOn {scene : Scene} {g : Generation} {plan : Plan}
    (h : (Settings.gather scene g).bind Settings.plan = .ok plan) :
    (Settings.gather scene g.goingOn).bind Settings.plan =
      .ok { plan with keepGoing := true } := by
  have hgather : ∀ g', Settings.gather scene g' =
      (Settings.find scene g'.options.config).map fun s => s.under g' := fun _ => rfl
  rw [hgather] at h ⊢
  change ((Settings.find scene g.options.config).map _).bind _ = _
  cases hfind : Settings.find scene g.options.config with
  | error f =>
    rw [hfind] at h
    cases h
  | ok s =>
    rw [hfind] at h
    have hplan : (s.under g).plan = .ok plan := h
    change (s.under g.goingOn).plan = _
    rw [Settings.under_goingOn, Settings.plan_keepGoing, hplan]
    rfl

namespace Ready

variable {scene : Scene} {g : Generation} {plan : Plan} {address : Address}

theorem goingOn (h : Ready scene g plan address) :
    Ready scene g.goingOn { plan with keepGoing := true } address :=
  ⟨plan_goingOn h.planned, h.root, h.writable⟩

/-- What is prepared is told by a run over the files. -/
theorem prepare_eq (h : Ready scene g plan address) :
    prepare scene g =
      match survey plan.keepGoing (Survey.start plan.dialect) 0
        (sources scene.volume plan.root address) with
      | .ok (s, count) => .ok (plan, s, count, address)
      | .error e => .error (.badSource e) := by
  have hplan := h.planned
  cases hgather : Settings.gather scene g with
  | error f =>
    rw [hgather] at hplan
    cases hplan
  | ok settings =>
    rw [hgather] at hplan
    have hplan' : settings.plan = .ok plan := hplan
    simp only [prepare, hgather, bind, Except.bind, hplan', look, h.root]
    cases survey plan.keepGoing (Survey.start plan.dialect) 0
      (sources scene.volume plan.root address) <;> rfl

/-- A file that cannot be taken makes a command fail that does not go on. -/
theorem generate_of_error (h : Ready scene g plan address) {e : Go.ScanError}
    (hrun : survey plan.keepGoing (Survey.start plan.dialect) 0
      (sources scene.volume plan.root address) = .error e) :
    generate scene g = { failure := some (.badSource e), volume := scene.volume } := by
  rw [generate, h.prepare_eq, hrun]

/-- Otherwise the exit code tells whether there were errors. -/
theorem exitCode_of_ok (h : Ready scene g plan address) {s : Survey} {count : Nat}
    (hrun : survey plan.keepGoing (Survey.start plan.dialect) 0
      (sources scene.volume plan.root address) = .ok (s, count)) :
    (generate scene g).exitCode =
      if s.diagnostics.any fun d => d.severity == .error then 1 else 0 := by
  obtain ⟨v, hv⟩ := h.writable (plan.format.document s)
  rw [generate, h.prepare_eq, hrun]
  cases hstdout : g.stdout <;> simp [hv, Outcome.exitCode]

/-- **One command fails just where the other one ends with errors.** -/
theorem fails_iff (h : Ready scene g plan address) (hstops : plan.keepGoing = false) :
    (generate scene g).exitCode = 2 ∧ (generate scene g).volume = scene.volume ↔
      (generate scene g.goingOn).exitCode = 1 := by
  obtain ⟨s, count, hrun, htook⟩ := survey_took (Survey.start plan.dialect) 0
    (sources scene.volume plan.root address)
  have herrors := htook.errors
  rw [h.goingOn.exitCode_of_ok hrun]
  cases hfound : (sources scene.volume plan.root address).filterMap SourceFile.error? with
  | nil =>
    rw [hfound] at herrors
    have hnone : (s.diagnostics.any fun d => d.severity == .error) = false := by
      rw [← Bool.not_eq_true, any_error_eq_true_iff, herrors]
      simp [errorsIn, Survey.diagnostics, Survey.start]
    have hall := List.filterMap_eq_nil_iff.1 hfound
    have hrun' := (survey_eq_of_forall hall false _ _).trans hrun
    rw [← hstops] at hrun'
    rw [h.exitCode_of_ok hrun', hnone]
    simp
  | cons e es =>
    rw [hfound] at herrors
    have hsome : (s.diagnostics.any fun d => d.severity == .error) = true := by
      rw [any_error_eq_true_iff, herrors]
      simp
    have hrun' := (survey_eq_error_iff (Survey.start plan.dialect) 0 _ e).2
      (by rw [hfound, List.head?_cons])
    rw [← hstops] at hrun'
    rw [h.generate_of_error hrun', hsome]
    simp [Outcome.exitCode]

end Ready

/-- **A file that cannot be taken has no effect but its report.**  A run goes on from the survey
with the report added, so it finds the groups and the schema, and comes to the documents, of a run
over the files that can be taken, also where the files of the two languages come in another order;
and its errors are one for each of the other files, in their order.  Where nothing else can go
wrong, a command that stops fails and writes nothing just where one that goes on ends with errors.
-/
theorem keepGoing_only_reports :
    (∀ (s : Survey) (f : SourceFile) (e : Go.ScanError), s.addFile f.1 f.2 = .error e →
      (s.record e).registry = s.registry ∧ (s.record e).recovery.schema = s.recovery.schema ∧
      (s.record e).diagnostics = s.diagnostics ++ [e.toDiagnostic] ∧
      ∀ n files, survey true s n (f :: files) = survey true (s.record e) n files) ∧
    (∀ (good files : List SourceFile) (s : Survey) (n : Nat), Interleaves good files →
      ∃ s₁ n₁ s₂ n₂, survey true s n files = .ok (s₁, n₁) ∧ survey false s n good = .ok (s₂, n₂) ∧
        s₁.registry = s₂.registry ∧ s₁.recovery.schema = s₂.recovery.schema ∧
        (∀ format : DocumentFormat, format.document s₁ = format.document s₂) ∧
        errorsIn s₁.diagnostics = errorsIn s.diagnostics ++
          (files.filterMap SourceFile.error?).map Go.ScanError.toDiagnostic) ∧
    ∀ (scene : Scene) (g : Generation) (plan : Plan) (address : Address),
      Ready scene g plan address → plan.keepGoing = false →
        ((generate scene g).exitCode = 2 ∧ (generate scene g).volume = scene.volume ↔
          (generate scene g.goingOn).exitCode = 1) := by
  refine ⟨fun s f e hadd => ⟨rfl, rfl, rfl, fun n files => ?_⟩, fun good files s n h => ?_,
    fun _ _ _ _ hready hstops => hready.fails_iff hstops⟩
  · simp only [survey, hadd, if_true]
  · obtain ⟨s₁, n₁, s₂, n₂, hrun₁, hrun₂, hregistry, hschema, herrors⟩ :=
      survey_eq_of_interleaves h s n
    exact ⟨s₁, n₁, s₂, n₂, hrun₁, hrun₂, hregistry, hschema,
      fun format => format.document_congr hregistry hschema, herrors⟩

/-- A Go file whose bytes are no text. -/
def noText : SourceFile := ("b.go", [0xff])

/-- A Go file with a group. -/
def letters : SourceFile := ("a.go", "package p\n\n// @ai D\nconst A = 1\n".toUTF8.toList)

/-- Another one. -/
def numbers : SourceFile := ("d.go", "package p\n\n// @ai E\nvar b = 2\n".toUTF8.toList)

/-- A schema with a table. -/
def oneTable : SourceFile := ("c.sql", "CREATE TABLE t (a int);\n".toUTF8.toList)

/-- Files of both languages, of which one cannot be taken. -/
def mixed : List SourceFile := [letters, noText, oneTable, numbers]

/-- A project with these files. -/
def mixedScene : Scene := ⟨⟨mixed.map fun f => ([f.1], .file f.2)⟩, []⟩

theorem ready_mixedScene :
    Ready mixedScene {} ⟨".", "docs", .markdown, default, false⟩ [] := by
  refine ⟨by rfl, by rfl, fun document => ⟨⟨mixedScene.volume.entries ++ [(["docs"], .directory),
    (["docs", "knowledge_root.md"], .file document.toUTF8.toList)]⟩, ?_⟩⟩
  rfl

/-- The files of the project, those in Go first. -/
theorem sources_mixedScene :
    sources mixedScene.volume "." [] = [letters, noText, numbers, oneTable] := by
  have hbelow : mixedScene.volume.filesBelow [] = mixed.map fun f => ([f.1], f.2) := by
    rw [Volume.filesBelow, List.mergeSort_of_pairwise] <;> decide +kernel
  rw [sources, sourcesOf, sourcesOf, hbelow]
  decide +kernel

theorem keepGoing_only_reports_mixed :
    (∀ s : Survey, (s.record (.invalidUtf8 "b.go")).registry = s.registry ∧
      survey true s 0 [noText, numbers] = survey true (s.record (.invalidUtf8 "b.go")) 0 [numbers]) ∧
    (∃ s₁ n₁ s₂ n₂, survey true (.start .postgreSql) 0 mixed = .ok (s₁, n₁) ∧
      survey false (.start .postgreSql) 0 [oneTable, letters, numbers] = .ok (s₂, n₂) ∧
      s₁.registry.groups.map Group.name = ["A D", "b E"] ∧ s₁.catalog.names = ["t"] ∧
      s₁.registry = s₂.registry ∧
      (∀ format : DocumentFormat, format.document s₁ = format.document s₂) ∧
      errorsIn s₁.diagnostics = [(Go.ScanError.invalidUtf8 "b.go").toDiagnostic]) ∧
    (generate mixedScene {}).exitCode = 2 ∧
    (generate mixedScene {}).volume = mixedScene.volume ∧
    (generate mixedScene ({} : Generation).goingOn).exitCode = 1 := by
  obtain ⟨hrecord, hsurvey, hfails⟩ := keepGoing_only_reports
  have hstops : generate mixedScene {} =
      { failure := some (.badSource (.invalidUtf8 "b.go")), volume := mixedScene.volume } :=
    ready_mixedScene.generate_of_error <| (survey_eq_error_iff _ 0 _ _).2 <| by
      rw [sources_mixedScene]
      decide +kernel
  have hvolume : (generate mixedScene {}).volume = mixedScene.volume := by rw [hstops]
  have hcode : (generate mixedScene {}).exitCode = 2 := by rw [hstops]; rfl
  refine ⟨fun s => ?_, ?_, hcode, hvolume,
    (hfails _ _ _ _ ready_mixedScene rfl).1 ⟨hcode, hvolume⟩⟩
  · have herror : s.addFile noText.1 noText.2 = .error (.invalidUtf8 "b.go") :=
      (Survey.addFile_eq_error_iff s noText _).2 (by rfl)
    obtain ⟨hregistry, -, -, hgoesOn⟩ := hrecord s noText _ herror
    exact ⟨hregistry, hgoesOn 0 [numbers]⟩
  · have horders : Interleaves [oneTable, letters, numbers] mixed := by
      intro kind
      cases kind <;> decide +kernel
    have hfound : (survey true (.start .postgreSql) 0 mixed).toOption.map (fun r =>
        (r.1.registry.groups.map Group.name, r.1.catalog.names)) =
          some (["A D", "b E"], ["t"]) := by decide +kernel
    have herrors : mixed.filterMap SourceFile.error? = [.invalidUtf8 "b.go"] := by decide +kernel
    obtain ⟨s₁, n₁, s₂, n₂, hrun₁, hrun₂, hregistry, -, hdocument, hreported⟩ :=
      hsurvey _ _ (.start .postgreSql) 0 horders
    rw [hrun₁] at hfound
    obtain ⟨hgroups, hnames⟩ := Prod.mk.inj (Option.some.inj hfound)
    rw [herrors] at hreported
    exact ⟨s₁, n₁, s₂, n₂, hrun₁, hrun₂, hgroups, hnames, hregistry, hdocument, hreported⟩

end Command

end Codebook
