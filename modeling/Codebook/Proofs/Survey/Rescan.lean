import Codebook.Proofs.Enumeration.ByName
import Codebook.Proofs.Go.Origin
import Codebook.Proofs.Go.RoundTrip
import Codebook.Proofs.Survey.Files

/-!
# Taking a file again

Merging is not idempotent: a sighting with a description of its own is written below what is there,
and so it is each time.  Scanned groups never come to that, because their names tell their
descriptions.  So all that a sighting can add is there once it has been merged, and a Go file that
has been taken at any time adds nothing when it is taken again.

What is here: `Registry.insert_again`, sightings that are told by their names; `Survey.Reached`, the
surveys that some files and reports lead to; and `Survey.taken_again`.
-/

set_option autoImplicit false

namespace Codebook

open Text

/-! ## Sightings that add nothing -/

namespace Group

/-- A sighting of which all is there adds nothing. -/
theorem merge_eq_self {g k : Group} (hdescription : k.description = g.description)
    (hmembers : ∀ m ∈ k.members, m.name ∈ g.members.map Member.name)
    (htags : ∀ t ∈ k.tags, t ∈ g.tags) : g.merge k = g := by
  have hjoin : joinDescription g.description k.description = g.description := by
    rw [joinDescription_eq, if_pos (.inr hdescription)]
  rw [merge, hjoin, foldl_addMember_of_subset hmembers, TagSet.union_eq_left htags]

/-- Sightings with one description make a group with that description. -/
theorem description_ofSightings {first : Group} {later : List Group}
    (h : ∀ k ∈ later, k.description = first.description) :
    (first.ofSightings later).description = first.description := by
  rw [ofSightings]
  induction later with
  | nil => rfl
  | cons k later ih =>
    rw [List.foldl_cons, if_pos (.inr (h k List.mem_cons_self))]
    exact ih fun x hx => h x (List.mem_cons_of_mem _ hx)

/-- A group that sightings with one description make is not changed by any of them. -/
theorem merge_ofSightings {first k : Group} {later : List Group}
    (h : ∀ x ∈ first :: later, x.description = first.description) (hk : k ∈ first :: later) :
    (first.ofSightings later).merge k = first.ofSightings later := by
  have hfirst := description_ofSightings fun x hx => h x (List.mem_cons_of_mem _ hx)
  refine merge_eq_self ((h k hk).trans hfirst.symm) (fun m hm => ?_) fun t ht => ?_
  · exact (mem_names_ofSightings first later m.name).2 ⟨k, hk, List.mem_map_of_mem hm⟩
  · exact (mem_tags_ofSightings first later t).2 ⟨k, hk, ht⟩

end Group

namespace Registry

theorem insert_eq_self {r : Registry} {g old : Group} (hget : r.get? g.name = some old)
    (hmerge : old.merge g = old) : r.insert g = r := by
  have hsame : insertByKey Group.name (·.merge g) g r.groups = r.groups :=
    insertByKey_eq_self hget hmerge
  rw [insert, insertInto_eq, hsame]

theorem insertAll_eq_self {r : Registry} {gs : List Group} (h : ∀ g ∈ gs, r.insert g = r) :
    r.insertAll gs = r := by
  induction gs with
  | nil => rfl
  | cons g gs ih =>
    rw [insertAll_cons, h g List.mem_cons_self]
    exact ih fun x hx => h x (List.mem_cons_of_mem _ hx)

/-- **Sightings that are told by their names add nothing a second time.** -/
theorem insert_again {gs : List Group}
    (h : ∀ g ∈ gs, ∀ k ∈ gs, g.name = k.name → g.description = k.description) {k : Group}
    (hk : k ∈ gs) : (insertAll {} gs).insert k = insertAll {} gs := by
  have hsighted : k ∈ sightings k.name gs := List.mem_filter.2 ⟨hk, by simp⟩
  cases hs : sightings k.name gs with
  | nil => simp [hs] at hsighted
  | cons first later =>
    have hsame {x : Group} (hx : x ∈ first :: later) : x ∈ gs ∧ x.name = k.name := by
      rw [← hs] at hx
      simpa [sightings] using hx
    have hget := (get?_insertAll_eq_some_iff gs k.name _).2 ⟨first, later, hs, rfl⟩
    refine insert_eq_self hget (Group.merge_ofSightings (fun x hx => ?_) (hs ▸ hsighted))
    obtain ⟨hx, hname⟩ := hsame hx
    obtain ⟨hfirst, hname'⟩ := hsame List.mem_cons_self
    exact h x hx first hfirst (hname.trans hname'.symm)

end Registry

/-! ## Surveys -/

/-- The groups of a file that is scanned as a Go file. -/
def SourceFile.scanned (f : SourceFile) : List Group :=
  match Go.scan f.1 f.2 with
  | .ok groups => groups
  | .error _ => []

theorem SourceFile.mem_scanned {f : SourceFile} {g : Group} :
    g ∈ f.scanned ↔ ∃ gs, Go.scan f.1 f.2 = .ok gs ∧ g ∈ gs := by
  rw [scanned]
  split
  · rename_i heq
    simp [heq]
  · rename_i heq
    simp [heq]

namespace Survey

/-- A survey that files and reports have led to, and the Go files that it has taken on the way. -/
inductive Reached : Survey → List SourceFile → Prop
  /-- A survey of nothing yet. -/
  | start (d : Sql.Dialect) : Reached (start d) []
  /-- One more Go file. -/
  | go {s s' : Survey} {files : List SourceFile} {path : String} {bytes : List UInt8} {n : Nat}
    (h : Reached s files) (hadd : s.addGo path bytes = .ok (s', n)) :
    Reached s' (files ++ [(path, bytes)])
  /-- One more SQL file. -/
  | sql {s : Survey} {files : List SourceFile} (path : String) (bytes : List UInt8)
    (h : Reached s files) : Reached (s.addSql path bytes) files
  /-- One more report. -/
  | record {s : Survey} {files : List SourceFile} (e : Go.ScanError) (h : Reached s files) :
    Reached (s.record e) files

theorem addGo_eq_ok_iff {s s' : Survey} {path : String} {bytes : List UInt8} {n : Nat} :
    s.addGo path bytes = .ok (s', n) ↔ ∃ gs, Go.scan path bytes = .ok gs ∧
      s' = { s with registry := s.registry.insertAll gs } ∧ n = gs.length := by
  rw [addGo]
  split
  · rename_i heq
    simp [heq, eq_comm]
  · rename_i heq
    simp [heq]

namespace Reached

variable {s : Survey} {files : List SourceFile}

/-- All Go files that have been taken can be scanned. -/
theorem exists_scan (h : Reached s files) : ∀ f ∈ files, ∃ gs, Go.scan f.1 f.2 = .ok gs := by
  induction h with
  | start d => simp
  | go h hadd ih =>
    obtain ⟨gs, hscan, -⟩ := addGo_eq_ok_iff.1 hadd
    intro f hf
    rcases List.mem_append.1 hf with hf | hf
    · exact ih f hf
    · obtain rfl := List.mem_singleton.1 hf
      exact ⟨gs, hscan⟩
  | sql path bytes h ih => exact ih
  | record e h ih => exact ih

/-- **The groups come from the Go files that have been taken.** -/
theorem registry_eq (h : Reached s files) :
    s.registry = Registry.insertAll {} (files.flatMap SourceFile.scanned) := by
  induction h with
  | start d => rfl
  | @go s s' files path bytes n h hadd ih =>
    obtain ⟨gs, hscan, rfl, -⟩ := addGo_eq_ok_iff.1 hadd
    have hscanned : SourceFile.scanned (path, bytes) = gs := by simp [SourceFile.scanned, hscan]
    rw [List.flatMap_append, List.flatMap_singleton, hscanned, Registry.insertAll_append, ← ih]
  | sql path bytes h ih => exact ih
  | record e h ih => exact ih

/-- A Go file that can be scanned leads on, and leaves the tables as they are. -/
theorem exists_taken (h : Reached s files) {f : SourceFile} {gs : List Group}
    (hscan : Go.scan f.1 f.2 = .ok gs) :
    ∃ s', Reached s' (files ++ [f]) ∧ s'.registry = s.registry.insertAll gs ∧
      s'.recovery = s.recovery :=
  ⟨_, h.go (addGo_eq_ok_iff.2 ⟨gs, hscan, rfl, rfl⟩), rfl, rfl⟩

/-- A file of any language leads on. -/
theorem addFile {s' : Survey} {path : String} {bytes : List UInt8} {known : Bool}
    (h : Reached s files) (hadd : s.addFile path bytes = .ok (s', known)) :
    ∃ more, Reached s' (files ++ more) := by
  rw [Survey.addFile] at hadd
  split at hadd
  · cases hgo : s.addGo path bytes with
    | error e => simp [hgo, Except.map] at hadd
    | ok r =>
      obtain ⟨t, n⟩ := r
      obtain ⟨rfl, -⟩ : t = s' ∧ true = known := by simpa [hgo, Except.map] using hadd
      exact ⟨[(path, bytes)], h.go hgo⟩
  · obtain ⟨rfl, -⟩ := Prod.mk.inj (Except.ok.inj hadd)
    exact ⟨[], by simpa using h.sql path bytes⟩
  · obtain ⟨rfl, -⟩ := Prod.mk.inj (Except.ok.inj hadd)
    exact ⟨[], by simpa using h⟩

end Reached

/-- Every run over files goes from one survey that is reached to another. -/
theorem Reached.survey {s s' : Survey} {before files : List SourceFile} {keepGoing : Bool}
    {n m : Nat} (h : Reached s before) (hrun : Command.survey keepGoing s n files = .ok (s', m)) :
    ∃ more, Reached s' (before ++ more) := by
  induction files generalizing s before n with
  | nil =>
    obtain ⟨rfl, -⟩ := Prod.mk.inj (Except.ok.inj hrun)
    exact ⟨[], by simpa using h⟩
  | cons f files ih =>
    rw [Command.survey] at hrun
    split at hrun
    · rename_i hadd
      obtain ⟨taken, htaken⟩ := h.addFile hadd
      obtain ⟨more, hmore⟩ := ih htaken hrun
      exact ⟨taken ++ more, by rwa [← List.append_assoc]⟩
    · split at hrun
      · exact ih (h.record _) hrun
      · cases hrun

/-- Every group of some files is made of a marked declaration in one of them. -/
theorem exists_origin_of_scanned {files : List SourceFile} :
    ∀ g ∈ files.flatMap SourceFile.scanned, ∃ f ∈ files, ∃ forest,
      Go.readFile f.1 f.2 = .ok forest ∧ ∃ o : Go.Origin forest, o.Makes g := by
  intro g hg
  obtain ⟨f, hf, hg⟩ := List.mem_flatMap.1 hg
  obtain ⟨gs, hscan, hg⟩ := SourceFile.mem_scanned.1 hg
  exact ⟨f, hf, Go.exists_origin_of_scan hscan g hg⟩

/-- The groups of some files are called after bases without blanks and their descriptions. -/
theorem exists_calledAfter_of_scanned {files : List SourceFile} :
    ∀ g ∈ files.flatMap SourceFile.scanned, ∃ base, g.CalledAfter base := by
  intro g hg
  obtain ⟨f, -, forest, hread, o, ho⟩ := exists_origin_of_scanned g hg
  exact ⟨_, ho.calledAfter (Go.wordsAreNames_readFile hread)⟩

/-- The groups of some files that have one name have one description. -/
theorem description_eq_of_scanned {files : List SourceFile} {g k : Group}
    (hg : g ∈ files.flatMap SourceFile.scanned) (hk : k ∈ files.flatMap SourceFile.scanned)
    (hname : g.name = k.name) : g.description = k.description := by
  obtain ⟨base, hg⟩ := exists_calledAfter_of_scanned g hg
  obtain ⟨base', hk⟩ := exists_calledAfter_of_scanned k hk
  exact hg.description_eq hk hname

namespace Reached

variable {s : Survey} {files : List SourceFile} {g : Group}

/-- A group that is held is what its sightings make, and they all have its description. -/
theorem exists_sightings (h : Reached s files) (hg : g ∈ s.registry.groups) :
    ∃ first later, (files.flatMap SourceFile.scanned).filter (·.name == g.name) = first :: later ∧
      g = first.ofSightings later ∧ ∀ k ∈ first :: later, k.description = g.description := by
  rw [h.registry_eq, Registry.mem_groups_insertAll_iff] at hg
  obtain ⟨first, later, hsighted, hg⟩ := hg
  have hsame : ∀ k ∈ first :: later, k.description = first.description := by
    have hmem {k : Group} (hk : k ∈ first :: later) :
        k ∈ files.flatMap SourceFile.scanned ∧ k.name = g.name := by
      rw [← hsighted] at hk
      simpa [Registry.sightings] using hk
    intro k hk
    obtain ⟨hfirst, hname⟩ := hmem List.mem_cons_self
    exact description_eq_of_scanned (hmem hk).1 hfirst ((hmem hk).2.trans hname.symm)
  have hdescription : g.description = first.description := by
    rw [hg]
    exact Group.description_ofSightings fun k hk => hsame k (List.mem_cons_of_mem _ hk)
  exact ⟨first, later, hsighted, hg, fun k hk => (hsame k hk).trans hdescription.symm⟩

/-- A group that is held is called like its first sighting. -/
theorem exists_calledAfter (h : Reached s files) (hg : g ∈ s.registry.groups) :
    ∃ base, g.CalledAfter base := by
  obtain ⟨first, later, hsighted, hmade, hsame⟩ := h.exists_sightings hg
  have hfirst : first ∈ files.flatMap SourceFile.scanned :=
    (List.mem_filter.1 (hsighted ▸ List.mem_cons_self)).1
  obtain ⟨base, hcalled⟩ := exists_calledAfter_of_scanned first hfirst
  have hname : g.name = first.name := by rw [hmade]; rfl
  have hcategory : g.category = first.category := by rw [hmade]; rfl
  refine ⟨base, hcalled.unbroken, ?_, ?_⟩
  · rw [hname, ← hsame first List.mem_cons_self]
    exact hcalled.name_eq
  · rw [hcategory, hname]
    exact hcalled.category_eq

/-- A group of a file that has been taken adds nothing. -/
theorem insert_eq_self (h : Reached s files) {f : SourceFile} (hf : f ∈ files)
    (hg : g ∈ f.scanned) : s.registry.insert g = s.registry := by
  rw [h.registry_eq]
  refine Registry.insert_again (fun g hg k hk => description_eq_of_scanned hg hk) ?_
  exact List.mem_flatMap.2 ⟨f, hf, hg⟩

end Reached

/-- **What has been taken is taken again without a trace.**  The groups that are held are those that
have been sighted in the files that have been taken.  Each is called after a base without blanks
and, behind one space, its description; its category is what that name tells; and it is what the
sightings of its name make, each of which has the same description.  And a Go file that has been
taken at any time leaves everything as it is when it is taken again. -/
theorem taken_again {s : Survey} {files : List SourceFile} (h : Reached s files) :
    s.registry.groups.map Group.name =
      ((files.flatMap SourceFile.scanned).map Group.name).eraseDups ∧
    (∀ g ∈ s.registry.groups,
      (∃ base : String, (∀ c ∈ base.toList, isBlank c = false) ∧
        g.name = base ++ " " ++ g.description) ∧
      g.category = Category.infer g.name.toList ∧
      ∃ first later,
        (files.flatMap SourceFile.scanned).filter (·.name == g.name) = first :: later ∧
        g = first.ofSightings later ∧ ∀ k ∈ first :: later, k.description = g.description) ∧
    ∀ f ∈ files, ∃ n, s.addGo f.1 f.2 = .ok (s, n) := by
  refine ⟨?_, ?_, ?_⟩
  · rw [h.registry_eq]
    exact Registry.names_insertAll _
  · intro g hg
    obtain ⟨base, hcalled⟩ := h.exists_calledAfter hg
    exact ⟨⟨base, hcalled.unbroken, hcalled.name_eq⟩, hcalled.category_eq, h.exists_sightings hg⟩
  · intro f hf
    obtain ⟨gs, hscan⟩ := h.exists_scan f hf
    have hsame : s.registry.insertAll gs = s.registry :=
      Registry.insertAll_eq_self fun g hg =>
        h.insert_eq_self hf (SourceFile.mem_scanned.2 ⟨gs, hscan, hg⟩)
    exact ⟨gs.length, addGo_eq_ok_iff.2 ⟨gs, hscan, by rw [hsame], rfl⟩⟩

/-- The file of a shade of red. -/
def redShade : Go.Enumeration where
  before := [⟨"What can be seen".toList, by decide⟩]
  isUnmarked := by decide
  description := ⟨"shade".toList, by decide⟩
  first := { docs := [], name := ⟨"ColorRed".toList, by decide⟩, value := none, comment := none }
  more := []

/-- The file of another shade, whose group has the same name. -/
def blueShade : Go.Enumeration :=
  { redShade with
    first := { redShade.first with name := ⟨"ColorBlue".toList, by decide⟩ } }

/-- Two files of one group, with an SQL file and a report after them.  The first one adds nothing
when it comes again. -/
theorem taken_again_shades :
    ∃ s, Reached s [("red.go", redShade.bytes), ("blue.go", blueShade.bytes)] ∧
      s.registry.groups.map Group.name = ["Color shade"] ∧
      (∀ g ∈ s.registry.groups, g.category = Category.infer g.name.toList) ∧
      ∃ n, s.addGo "red.go" redShade.bytes = .ok (s, n) := by
  obtain ⟨s, hs, hadd⟩ : ∃ s, s = { start .postgreSql with
      registry := Registry.insertAll {} [redShade.group "red.go"] } ∧
      (start .postgreSql).addGo "red.go" redShade.bytes = .ok (s, 1) :=
    ⟨_, rfl, addGo_eq_ok_iff.2 ⟨_, redShade.scan_bytes "red.go", rfl, rfl⟩⟩
  obtain ⟨t, ht, hadd'⟩ : ∃ t, t = { s with
      registry := s.registry.insertAll [blueShade.group "blue.go"] } ∧
      s.addGo "blue.go" blueShade.bytes = .ok (t, 1) :=
    ⟨_, rfl, addGo_eq_ok_iff.2 ⟨_, blueShade.scan_bytes "blue.go", rfl, rfl⟩⟩
  have hreached := ((Reached.start .postgreSql).go hadd).go hadd'
  have hlast := (hreached.sql "a.sql" []).record (.noTree "c.go")
  obtain ⟨-, hgroups, hagain⟩ := taken_again hlast
  refine ⟨_, hlast, ?_, fun g hg => (hgroups g hg).2.1, hagain _ List.mem_cons_self⟩
  rw [ht, hs]
  decide

end Survey

end Codebook
