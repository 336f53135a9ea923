import Codebook.Enumeration.Registry
import Codebook.Proofs.Enumeration.Merge
import Codebook.Proofs.Keyed

/-!
# The registry is a merge by name

What a registry holds under a name depends on the sightings of that name alone, in the order in
which they came; and the names stand in the order in which they were first met.  Both are said
exactly, for all that is ever put into a registry, and from both it follows that the order of the
sightings matters for the order of what is held but not for which names, members and tags there are.

What is here: `get?_insertAll_eq_some_iff`, what is held under a name; `names_insertAll`, which
names there are; `mem_groups_insertAll_iff`, which groups; and `Registry.merged_by_name`.
-/

set_option autoImplicit false

namespace Codebook.Registry

/-- The names of the groups, in order of discovery. -/
def names (r : Registry) : List String := r.groups.map Group.name

/-- The sightings of a name. -/
def sightings (name : String) (gs : List Group) : List Group := gs.filter (·.name == name)

/-! ## One sighting -/

/-- A sighting is inserted by its name. -/
theorem insertInto_eq (g : Group) (groups : List Group) :
    insertInto g groups = insertByKey Group.name (·.merge g) g groups := by
  induction groups with
  | nil => rfl
  | cons old groups ih => rw [insertInto, insertByKey, ih]

/-- What is held under a name after one more sighting of it. -/
def sight (old : Option Group) (g : Group) : Option Group :=
  match old with
  | some old => some (old.merge g)
  | none => some g

/-- A sighting changes what is held under its name and nothing else. -/
theorem get?_insert (r : Registry) (g : Group) (name : String) :
    (r.insert g).get? name = if g.name = name then sight (r.get? name) g else r.get? name := by
  have hmerge : ∀ old : Group, old.name = g.name → (old.merge g).name = g.name := fun _ h => h
  rw [get?, insert, insertInto_eq, find?_insertByKey hmerge, get?]
  split
  · cases r.groups.find? (·.name == name) <;> rfl
  · rfl

theorem names_insert_of_mem {r : Registry} {g : Group} (h : g.name ∈ r.names) :
    (r.insert g).names = r.names := by
  rw [names, insert, insertInto_eq]
  exact map_insertByKey_of_mem (fun _ h => h) h

/-- A new name comes last. -/
theorem names_insert_of_not_mem {r : Registry} {g : Group} (h : g.name ∉ r.names) :
    (r.insert g).names = r.names ++ [g.name] := by
  rw [names, insert, insertInto_eq]
  exact map_insertByKey_of_not_mem h

theorem nodup_names_insert {r : Registry} (h : r.names.Nodup) (g : Group) :
    (r.insert g).names.Nodup := by
  rw [names, insert, insertInto_eq]
  exact nodup_map_insertByKey (fun _ h => h) h

/-! ## Many sightings -/

@[simp] theorem insertAll_cons (r : Registry) (g : Group) (gs : List Group) :
    r.insertAll (g :: gs) = (r.insert g).insertAll gs := rfl

theorem nodup_names_insertAll {r : Registry} (h : r.names.Nodup) (gs : List Group) :
    (r.insertAll gs).names.Nodup := by
  induction gs generalizing r with
  | nil => exact h
  | cons g gs ih => exact ih (nodup_names_insert h g)

/-- The groups that some sightings make have distinct names. -/
theorem nodup_names_insertAll_empty (gs : List Group) : (insertAll {} gs).names.Nodup :=
  nodup_names_insertAll (r := {}) List.nodup_nil gs

/-- What is held under a name comes from what was held there, and from the sightings of that name
alone. -/
theorem get?_insertAll_foldl (r : Registry) (gs : List Group) (name : String) :
    (r.insertAll gs).get? name = (sightings name gs).foldl sight (r.get? name) := by
  induction gs generalizing r with
  | nil => rfl
  | cons g gs ih =>
    rw [insertAll_cons, ih, get?_insert, sightings, sightings]
    by_cases h : g.name = name
    · rw [if_pos h, List.filter_cons_of_pos (by simpa using h), List.foldl_cons]
    · rw [if_neg h, List.filter_cons_of_neg (by simpa using h)]

theorem foldl_sight_some (first : Group) (later : List Group) :
    later.foldl sight (some first) = some (first.ofSightings later) := by
  rw [← Group.foldl_merge]
  induction later generalizing first with
  | nil => rfl
  | cons g later ih => exact ih (first.merge g)

/-- **What is held under a name is what the sightings of that name make.** -/
theorem get?_insertAll_eq_some_iff (gs : List Group) (name : String) (g : Group) :
    (insertAll {} gs).get? name = some g ↔
      ∃ first later, sightings name gs = first :: later ∧ g = first.ofSightings later := by
  have hnone : ({} : Registry).get? name = none := rfl
  rw [get?_insertAll_foldl, hnone]
  cases sightings name gs with
  | nil => simp
  | cons first later =>
    have hfold : (first :: later).foldl sight none = later.foldl sight (some first) := rfl
    rw [hfold, foldl_sight_some, Option.some.injEq]
    refine ⟨fun h => ⟨first, later, rfl, h.symm⟩, ?_⟩
    rintro ⟨_, _, hsighted, rfl⟩
    obtain ⟨rfl, rfl⟩ := List.cons.inj hsighted
    rfl

/-- The names stand in the order in which they were first met. -/
theorem names_insertAll_eraseDups {r : Registry} (h : r.names.eraseDups = r.names)
    (gs : List Group) : (r.insertAll gs).names = (r.names ++ gs.map Group.name).eraseDups := by
  induction gs generalizing r with
  | nil => rw [List.map_nil, List.append_nil, h]; rfl
  | cons g gs ih =>
    rw [insertAll_cons, List.map_cons]
    by_cases hmem : g.name ∈ r.names
    · have hnames := names_insert_of_mem hmem
      rw [ih (by rw [hnames, h]), hnames, List.eraseDups_append, List.eraseDups_append]
      simp [List.removeAll, hmem]
    · have hnames := names_insert_of_not_mem hmem
      have hnew : (r.names ++ [g.name]).eraseDups = r.names ++ [g.name] := by
        rw [List.eraseDups_append, h]
        simp [List.removeAll, hmem, List.eraseDups_cons]
      rw [ih (by rw [hnames, hnew]), hnames, List.append_assoc, List.singleton_append]

theorem names_insertAll (gs : List Group) :
    (insertAll {} gs).names = (gs.map Group.name).eraseDups :=
  names_insertAll_eraseDups rfl gs

/-- Where names are distinct, the groups are what is found under their names. -/
theorem mem_groups_iff {r : Registry} (hr : r.names.Nodup) (g : Group) :
    g ∈ r.groups ↔ r.get? g.name = some g := mem_iff_find?_eq_some hr g

/-- The groups of a registry are those that the sightings of some name make. -/
theorem mem_groups_insertAll_iff (gs : List Group) (g : Group) :
    g ∈ (insertAll {} gs).groups ↔
      ∃ first later, sightings g.name gs = first :: later ∧ g = first.ofSightings later := by
  rw [mem_groups_iff (nodup_names_insertAll_empty gs), get?_insertAll_eq_some_iff]

/-- **The registry is a merge by name.**  Of each name there is one group, in the order in which the
names were first met, and it is what the sightings of the name make: package, file, kind and
category of the first, its members and behind them the first ones of each new name, the tags of all,
and the descriptions one below the other.  In whatever order the sightings come, there are the same
names, and under each of them the same names of members and the same tags. -/
theorem merged_by_name (gs : List Group) :
    ((insertAll {} gs).groups.map Group.name).Nodup ∧
      (insertAll {} gs).groups.map Group.name = (gs.map Group.name).eraseDups ∧
      (∀ g ∈ (insertAll {} gs).groups, ∃ first later,
        gs.filter (·.name == g.name) = first :: later ∧ g = first.ofSightings later) ∧
      ∀ hs : List Group, gs.Perm hs →
        (∀ name, name ∈ (insertAll {} gs).groups.map Group.name ↔
          name ∈ (insertAll {} hs).groups.map Group.name) ∧
        ∀ g ∈ (insertAll {} gs).groups, ∀ h ∈ (insertAll {} hs).groups, g.name = h.name →
          (∀ name, name ∈ g.members.map Member.name ↔ name ∈ h.members.map Member.name) ∧
            g.tags = h.tags := by
  refine ⟨nodup_names_insertAll_empty gs, names_insertAll gs,
    fun g hg => (mem_groups_insertAll_iff gs g).1 hg, fun hs hperm => ⟨fun name => ?_, ?_⟩⟩
  · have hnames : ∀ ks, name ∈ (insertAll {} ks).groups.map Group.name ↔ name ∈ ks.map Group.name :=
      fun ks => by rw [← names, names_insertAll, List.mem_eraseDups]
    rw [hnames, hnames, (hperm.map Group.name).mem_iff]
  · intro g hg h hh hname
    obtain ⟨first, later, hsighted, rfl⟩ := (mem_groups_insertAll_iff gs g).1 hg
    obtain ⟨first', later', hsighted', rfl⟩ := (mem_groups_insertAll_iff hs h).1 hh
    have hsame : (first :: later).Perm (first' :: later') := by
      rw [← hsighted, ← hsighted', ← hname]
      exact hperm.filter _
    refine ⟨fun name => ?_, TagSet.ext_mem fun t => ?_⟩
    · rw [Group.mem_names_ofSightings, Group.mem_names_ofSightings]
      simp only [hsame.mem_iff]
    · rw [Group.mem_tags_ofSightings, Group.mem_tags_ofSightings]
      simp only [hsame.mem_iff]

/-- A sighting with a member that is declared twice. -/
def reds : Group :=
  { name := "Color", description := "first", package := "p", file := "a.go", kind := .const
    members := [⟨"Red", .absent, ""⟩, ⟨"Red", .literal "2", ""⟩]
    tags := .ofList ["red"], category := .other }

/-- A group of another name. -/
def sizes : Group :=
  { name := "Size", description := "", package := "p", file := "a.go", kind := .const
    members := [⟨"Small", .absent, ""⟩], category := .other }

/-- A later sighting of the first name, with a description of its own. -/
def blues : Group :=
  { name := "Color", description := "second", package := "q", file := "b.go", kind := .var
    members := [⟨"Blue", .absent, ""⟩, ⟨"Red", .absent, ""⟩, ⟨"Blue", .literal "3", ""⟩]
    tags := .ofList ["red", "blue"], category := .other }

/-- The sightings in two orders: what came first differs, and which names and tags there are does
not. -/
theorem merged_by_name_colors :
    (insertAll {} [reds, sizes, blues]).groups.map Group.name = ["Color", "Size"] ∧
      ∃ g ∈ (insertAll {} [reds, sizes, blues]).groups,
        g.description = "first\nsecond" ∧ g.file = "a.go" ∧
          g.members = reds.members ++ [⟨"Blue", .absent, ""⟩] ∧
        ∃ h ∈ (insertAll {} [blues, sizes, reds]).groups,
          h.description = "second\nfirst" ∧ h.file = "b.go" ∧
          (∀ name, name ∈ g.members.map Member.name ↔ name ∈ h.members.map Member.name) ∧
          g.tags = h.tags := by
  obtain ⟨-, hnames, hmade, horder⟩ := merged_by_name [reds, sizes, blues]
  obtain ⟨-, -, hmade', -⟩ := merged_by_name [blues, sizes, reds]
  obtain ⟨g, hg, hgname⟩ : ∃ g ∈ (insertAll {} [reds, sizes, blues]).groups, g.name = "Color" := by
    decide
  obtain ⟨h, hh, hhname⟩ : ∃ h ∈ (insertAll {} [blues, sizes, reds]).groups, h.name = "Color" := by
    decide
  obtain ⟨hmembers, htags⟩ := (horder [blues, sizes, reds] (by decide)).2 g hg h hh
    (hgname.trans hhname.symm)
  obtain ⟨first, later, hsighted, hg'⟩ := hmade g hg
  obtain ⟨first', later', hsighted', hh'⟩ := hmade' h hh
  rw [hgname] at hsighted
  rw [hhname] at hsighted'
  have hcolors : reds = first ∧ [blues] = later := List.cons.inj (Eq.trans rfl hsighted)
  have hcolors' : blues = first' ∧ [reds] = later' := List.cons.inj (Eq.trans rfl hsighted')
  obtain ⟨rfl, rfl⟩ := hcolors
  obtain ⟨rfl, rfl⟩ := hcolors'
  subst hg' hh'
  exact ⟨hnames.trans (by decide), _, hg, by decide, rfl, by decide, _, hh, by decide, rfl,
    hmembers, htags⟩

end Codebook.Registry
