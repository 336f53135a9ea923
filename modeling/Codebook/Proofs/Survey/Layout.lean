import Codebook.Proofs.Document.LineFeeds
import Codebook.Proofs.Go.Origin
import Codebook.Proofs.Sql.Letters
import Codebook.Proofs.Sql.OneLine
import Codebook.Proofs.Survey.Rescan

/-!
# When the layout of a document is told by what it counts

Headings and tags are written as they are.  The name of a table is made of characters of its
statement, which is on one line.  The name of a group is a word, a space and its description, and a
tag that has a line feed has it from there.  So the layout of the document of a survey is told by
the numbers of groups, members, tables and columns alone, if and only if no description goes over
several lines.  One that does is what a comment in slashes and stars says.

What is here: `Survey.Reached.newline_not_mem_names`, for tables; `newline_mem_tag`, for the tags of
a group; and `lineFeeds_markdown_iff`.
-/

set_option autoImplicit false

namespace Codebook.Survey.Reached

open Document

variable {s : Survey} {files : List SourceFile} {g : Group}

/-! ## Tables -/

/-- The name of a table is on one line, since each file keeps it so. -/
theorem newline_not_mem_names (h : Reached s files) :
    ∀ name ∈ s.catalog.names, '\n' ∉ name.toList := by
  induction h with
  | start d => simp [Survey.start, catalog]
  | @go s s' files path bytes n h hadd ih =>
    obtain ⟨gs, -, rfl, -⟩ := addGo_eq_ok_iff.1 hadd
    exact ih
  | @sql s files path bytes h ih =>
    rw [catalog, addSql, Recovery.bytes, Recovery.text, Recovery.schema_statements]
    refine Schema.forall_names_applyAll ih fun reading hreading table htable hmem => ?_
    obtain ⟨x, hx, hread⟩ := List.mem_filterMap.1 hreading
    obtain ⟨statement, hstatement, rfl⟩ := List.mem_map.1 hx
    have hsub := Sql.subset_of_read (Sql.Statement.read_eq_ok hread) htable
    exact Sql.newline_not_mem_of_mem_split hstatement (hsub hmem)
  | record e h ih => exact ih

/-! ## Groups -/

/-- Each sighting of a group is made of a marked declaration that says what the group says. -/
theorem exists_origins (h : Reached s files) (hg : g ∈ s.registry.groups) :
    ∃ first later, g = first.ofSightings later ∧ ∀ k ∈ first :: later,
      k.description = g.description ∧ ∃ f ∈ files, ∃ forest, Go.readFile f.1 f.2 = .ok forest ∧
        ∃ o : Go.Origin forest, o.Makes k := by
  obtain ⟨first, later, hsighted, hmade, hsame⟩ := h.exists_sightings hg
  refine ⟨first, later, hmade, fun k hk => ⟨hsame k hk, exists_origin_of_scanned k ?_⟩⟩
  exact (List.mem_filter.1 (hsighted ▸ hk)).1

/-- A line feed in a tag is one of the description. -/
theorem newline_mem_tag (h : Reached s files) (hg : g ∈ s.registry.groups) {t : String}
    (ht : t ∈ g.tags) (hline : '\n' ∈ t.toList) : '\n' ∈ g.description.toList := by
  obtain ⟨first, later, hmade, horigins⟩ := h.exists_origins hg
  rw [hmade, Group.mem_tags_ofSightings] at ht
  obtain ⟨k, hk, ht⟩ := ht
  obtain ⟨hdescription, f, -, forest, hread, o, ho⟩ := horigins k hk
  rw [← hdescription]
  exact ho.newline_mem_tag (Go.wordsAreNames_readFile hread) ht hline

/-- **A description that goes over several lines is what a comment in slashes and stars says.** -/
theorem exists_opening (h : Reached s files) (hg : g ∈ s.registry.groups)
    (hline : '\n' ∈ g.description.toList) :
    ∃ f ∈ files, ∃ forest, Go.readFile f.1 f.2 = .ok forest ∧ ∃ o : Go.Origin forest,
      Go.description? o.comment = some g.description ∧
        ∃ more, o.comment.text.toList = '/' :: '*' :: more := by
  obtain ⟨first, later, -, horigins⟩ := h.exists_origins hg
  obtain ⟨hdescription, f, hf, forest, hread, o, ho⟩ := horigins first List.mem_cons_self
  rw [← hdescription] at hline ⊢
  exact ⟨f, hf, forest, hread, o, ho.description_eq,
    Go.Origin.opening_of_newline (Go.isMatched_of_readFile hread) ho hline⟩

/-- The line feeds of the name are those of the description. -/
theorem lineFeeds_name (h : Reached s files) (hg : g ∈ s.registry.groups) :
    lineFeeds g.name = lineFeeds g.description := by
  obtain ⟨base, hcalled⟩ := h.exists_calledAfter hg
  have hbase : lineFeeds base = 0 :=
    lineFeeds_eq_zero_iff.2 fun hmem => absurd (hcalled.unbroken _ hmem) (by decide)
  have hspace : lineFeeds " " = 0 := by decide
  rw [hcalled.name_eq, lineFeeds_append, lineFeeds_append, hbase, hspace]
  omega

theorem headFeeds_eq (h : Reached s files) (hg : g ∈ s.registry.groups) :
    headFeeds g = lineFeeds g.description + (g.tags.toList.map lineFeeds).sum := by
  rw [headFeeds, h.lineFeeds_name hg]

/-- What a group is called by is on one line if the description is. -/
theorem headFeeds_eq_zero_iff (h : Reached s files) (hg : g ∈ s.registry.groups) :
    headFeeds g = 0 ↔ '\n' ∉ g.description.toList := by
  rw [h.headFeeds_eq hg, Nat.add_eq_zero_iff, lineFeeds_eq_zero_iff,
    List.sum_eq_zero_iff_forall_eq_nat]
  refine and_iff_left_of_imp fun hline n hn => ?_
  obtain ⟨t, ht, rfl⟩ := List.mem_map.1 hn
  exact lineFeeds_eq_zero_iff.2 fun hmem => hline (h.newline_mem_tag hg ht hmem)

end Codebook.Survey.Reached

namespace Codebook.Survey

open Document

/-- **When the layout of a document is told by what it counts.**  Of the document of a survey, the
line feeds are those of its layout, and those of the descriptions and tags of its groups.  There are
no others than those of the layout if and only if no description goes over several lines; and one
that does is what a comment in slashes and stars says.  No name of a table has a line feed. -/
theorem lineFeeds_markdown_iff {s : Survey} {files : List SourceFile} (h : Reached s files) :
    lineFeeds s.markdown = layoutLines s.registry s.catalog +
      (s.registry.groups.map fun g =>
        lineFeeds g.description + (g.tags.toList.map lineFeeds).sum).sum ∧
    (lineFeeds s.markdown = layoutLines s.registry s.catalog ↔
      ∀ g ∈ s.registry.groups, '\n' ∉ g.description.toList) ∧
    (∀ g ∈ s.registry.groups, '\n' ∈ g.description.toList →
      ∃ f ∈ files, ∃ forest, Go.readFile f.1 f.2 = .ok forest ∧ ∃ o : Go.Origin forest,
        Go.description? o.comment = some g.description ∧
          ∃ more, o.comment.text.toList = '/' :: '*' :: more) ∧
    ∀ name ∈ s.catalog.names, '\n' ∉ name.toList := by
  have hcount : lineFeeds s.markdown =
      layoutLines s.registry s.catalog + (s.registry.groups.map headFeeds).sum := by
    have htables : (s.catalog.tables.map fun t => lineFeeds t.name).sum = 0 := by
      rw [List.sum_eq_zero_iff_forall_eq_nat]
      intro n hn
      obtain ⟨t, ht, rfl⟩ := List.mem_map.1 hn
      exact lineFeeds_eq_zero_iff.2 (h.newline_not_mem_names _ (List.mem_map_of_mem ht))
    rw [Survey.markdown, lineFeeds_markdown, htables, Nat.add_zero]
  refine ⟨?_, ?_, fun g hg hline => h.exists_opening hg hline, h.newline_not_mem_names⟩
  · rw [hcount, List.map_congr_left fun g hg => h.headFeeds_eq hg]
  · rw [hcount, Nat.add_eq_left, List.sum_eq_zero_iff_forall_eq_nat, List.forall_mem_map]
    exact forall₂_congr fun g hg => h.headFeeds_eq_zero_iff hg

/-- A file with a note of two lines. -/
def twoLineNote : SourceFile :=
  ("a.go", "package p\n\n/* @ai a\nb */\nconst A = 1\n".toUTF8.toList)

/-- The group of that file. -/
def twoLineGroup : Group :=
  { name := "A a\nb", description := "a\nb", package := "p", file := "a.go", kind := .const
    members := [⟨"A", .literal "1", "a\nb"⟩], tags := .ofList ["a", "a a\nb"], category := .other }

theorem scan_twoLineNote : Go.scan twoLineNote.1 twoLineNote.2 = .ok [twoLineGroup] := by
  decide +kernel

/-- A schema with one table. -/
def oneTable : List UInt8 := "CREATE TABLE t (a int);\n".toUTF8.toList

theorem lineFeeds_markdown_iff_twoLineNote :
    ∃ s, Reached s [twoLineNote] ∧ s.registry.groups = [twoLineGroup] ∧ s.catalog.names = ["t"] ∧
      lineFeeds s.markdown = layoutLines s.registry s.catalog +
        (s.registry.groups.map fun g =>
          lineFeeds g.description + (g.tags.toList.map lineFeeds).sum).sum ∧
      (lineFeeds s.markdown = layoutLines s.registry s.catalog ↔
        ∀ g ∈ s.registry.groups, '\n' ∉ g.description.toList) ∧
      (∃ f ∈ [twoLineNote], ∃ forest, Go.readFile f.1 f.2 = .ok forest ∧ ∃ o : Go.Origin forest,
        Go.description? o.comment = some twoLineGroup.description ∧
          ∃ more, o.comment.text.toList = '/' :: '*' :: more) ∧
      ∀ name ∈ s.catalog.names, '\n' ∉ name.toList := by
  obtain ⟨s, hs, hregistry, hrecovery⟩ := (Reached.start .postgreSql).exists_taken scan_twoLineNote
  have hgroups : (s.addSql "t.sql" oneTable).registry.groups = [twoLineGroup] := by
    rw [addSql, hregistry]
    decide +kernel
  have hnames : (s.addSql "t.sql" oneTable).catalog.names = ["t"] := by
    have htable : ((start .postgreSql).recovery.bytes "t.sql" oneTable).schema.catalog.names =
        ["t"] := by decide +kernel
    rw [addSql, catalog, hrecovery]
    exact htable
  have hreached := hs.sql "t.sql" oneTable
  obtain ⟨hcount, hiff, horigin, hlines⟩ := lineFeeds_markdown_iff hreached
  exact ⟨_, hreached, hgroups, hnames, hcount, hiff,
    horigin twoLineGroup (by rw [hgroups]; exact List.mem_singleton_self _) (by decide), hlines⟩

/-- **The layout of a document may have more lines than it counts.** -/
theorem exists_lineFeeds_ne :
    ∃ s, Reached s [twoLineNote] ∧ lineFeeds s.markdown ≠ layoutLines s.registry s.catalog := by
  obtain ⟨s, hs, hregistry, hrecovery⟩ := (Reached.start .postgreSql).exists_taken scan_twoLineNote
  refine ⟨s, hs, ?_⟩
  rw [Survey.markdown, catalog, hregistry, hrecovery]
  decide +kernel

end Codebook.Survey
