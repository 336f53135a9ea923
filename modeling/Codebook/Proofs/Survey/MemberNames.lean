import Codebook.Proofs.Survey.Rescan

/-!
# When the members of a group have distinct names

A later sighting of a group adds only members with new names.  The first sighting is taken as it
is, with all that its declaration declares; and a declaration may give one name twice, as it does
with the blank name `_`.  So the names of a group are distinct if and only if those of its first
sighting are, and if they are not, a name leads to the first of the members that have it.

What is here: `nodup_names_ofSightings` and `member?_ofSightings`, which say this of sightings;
`distinct_names_iff`, which says it of registries and of surveys; and
`exists_names_not_distinct`, a file that declares the blank name twice.
-/

set_option autoImplicit false

namespace Codebook

/-! ## Sightings -/

namespace Group

/-- Members that are added leave the names distinct, or not, as they were. -/
theorem nodup_names_foldl_addMember (old new : List Member) :
    ((new.foldl addMember old).map Member.name).Nodup ↔ (old.map Member.name).Nodup := by
  induction new generalizing old with
  | nil => rfl
  | cons m new ih =>
    rw [List.foldl_cons, ih]
    by_cases hm : m.name ∈ old.map Member.name
    · rw [addMember_of_mem hm]
    · rw [addMember_of_not_mem hm, List.map_append, List.map_singleton, List.nodup_append]
      refine ⟨fun h => h.1, fun h => ⟨h, by simp, fun name hname other hother heq => hm ?_⟩⟩
      obtain rfl := List.mem_singleton.1 hother
      exact heq ▸ hname

/-- What is found under a name among members that are added is the first that has ever come. -/
theorem find?_foldl_addMember (old new : List Member) (name : String) :
    (new.foldl addMember old).find? (·.name == name) = (old ++ new).find? (·.name == name) := by
  induction new generalizing old with
  | nil => rw [List.foldl_nil, List.append_nil]
  | cons m new ih =>
    rw [List.foldl_cons, ih]
    by_cases hm : m.name ∈ old.map Member.name
    · rw [addMember_of_mem hm, List.find?_append, List.find?_append, List.find?_cons]
      by_cases hname : m.name = name
      · -- the name is there already, so nothing that follows is looked at
        have hfound : (old.find? (·.name == name)).isSome = true := by
          obtain ⟨x, hx, hxname⟩ := List.mem_map.1 hm
          exact List.find?_isSome.2 ⟨x, hx, beq_iff_eq.2 (hxname.trans hname)⟩
        obtain ⟨x, hx⟩ := Option.isSome_iff_exists.1 hfound
        rw [hx, Option.some_or, Option.some_or]
      · rw [beq_eq_false_iff_ne.2 hname]
    · rw [addMember_of_not_mem hm, List.append_assoc, List.singleton_append]

theorem members_ofSightings (first : Group) (later : List Group) :
    (first.ofSightings later).members =
      (later.flatMap Group.members).foldl addMember first.members :=
  (foldl_addMember _ _).symm

/-- **The names of a group are distinct if and only if those of its first sighting are.** -/
theorem nodup_names_ofSightings (first : Group) (later : List Group) :
    ((first.ofSightings later).members.map Member.name).Nodup ↔
      (first.members.map Member.name).Nodup := by
  rw [members_ofSightings, nodup_names_foldl_addMember]

/-- **A name leads to the first member that has been sighted with it.** -/
theorem member?_ofSightings (first : Group) (later : List Group) (name : String) :
    (first.ofSightings later).member? name =
      ((first :: later).flatMap Group.members).find? (·.name == name) := by
  rw [member?, members_ofSightings, find?_foldl_addMember, List.flatMap_cons]

/-- Where names are distinct, every member is found under its name. -/
theorem member?_eq_some {g : Group} (h : (g.members.map Member.name).Nodup) {m : Member}
    (hm : m ∈ g.members) : g.member? m.name = some m := (mem_iff_find?_eq_some h m).1 hm

/-- What is known of the names of the members of a group with some sightings. -/
structure NamedBy (g first : Group) (later : List Group) : Prop where
  /-- They are distinct if those of the first sighting are, and only then. -/
  distinct_iff : (g.members.map Member.name).Nodup ↔ (first.members.map Member.name).Nodup
  /-- A name leads to the first member that has been sighted with it. -/
  member?_eq : ∀ name,
    g.member? name = ((first :: later).flatMap Group.members).find? (·.name == name)
  /-- Where they are distinct, every member is found under its name. -/
  found : (g.members.map Member.name).Nodup → ∀ m ∈ g.members, g.member? m.name = some m

theorem namedBy_ofSightings (first : Group) (later : List Group) :
    (first.ofSightings later).NamedBy first later where
  distinct_iff := nodup_names_ofSightings first later
  member?_eq := member?_ofSightings first later
  found h _ := member?_eq_some h

end Group

/-! ## Registries and surveys -/

namespace Survey

/-- **When the members of a group have distinct names.**  Whatever is put into a registry, a group
has distinct names if and only if its first sighting has; a name leads to the first member that has
been sighted with it, so that where names are distinct every member is reached.  In a survey, the
names of the first sighting are those that one declaration of a file declares. -/
theorem distinct_names_iff (gs : List Group) {s : Survey} {files : List SourceFile}
    (h : Reached s files) :
    (∀ g ∈ (Registry.insertAll {} gs).groups,
      ∃ first later, gs.filter (·.name == g.name) = first :: later ∧ g.NamedBy first later) ∧
    ∀ g ∈ s.registry.groups,
      ∃ first later,
        (files.flatMap SourceFile.scanned).filter (·.name == g.name) = first :: later ∧
        g.NamedBy first later ∧
        ∃ f ∈ files, ∃ forest, Go.readFile f.1 f.2 = .ok forest ∧
          ∃ o : Go.Origin forest, o.Makes first ∧ first.members.map Member.name = o.names := by
  constructor
  · intro g hg
    obtain ⟨first, later, hsighted, rfl⟩ := (Registry.mem_groups_insertAll_iff gs g).1 hg
    exact ⟨first, later, hsighted, Group.namedBy_ofSightings first later⟩
  · intro g hg
    obtain ⟨first, later, hsighted, rfl, -⟩ := h.exists_sightings hg
    have hfirst : first ∈ files.flatMap SourceFile.scanned :=
      (List.mem_filter.1 (hsighted ▸ List.mem_cons_self)).1
    obtain ⟨f, hf, forest, hread, o, ho⟩ := exists_origin_of_scanned first hfirst
    exact ⟨first, later, hsighted, Group.namedBy_ofSightings first later, f, hf, forest, hread, o,
      ho, ho.names_eq⟩

/-- A file that declares the blank name twice. -/
def blankTwice : SourceFile :=
  ("a.go", "package p\n\n// @ai D\nconst (\n_ = 1\n_ = 2\n)\n".toUTF8.toList)

/-- The group of that file. -/
def blankGroup : Group :=
  { name := "_ D", description := "D", package := "p", file := "a.go", kind := .const
    members := [⟨"_", .literal "1", "D"⟩, ⟨"_", .literal "2", "D"⟩]
    tags := .ofList ["_", "_ ", "d"], category := .other }

theorem scan_blankTwice : Go.scan blankTwice.1 blankTwice.2 = .ok [blankGroup] := by
  decide +kernel

theorem distinct_names_iff_blankTwice :
    (blankGroup ∈ (Registry.insertAll {} [blankGroup]).groups ∧
      ∃ first later, [blankGroup].filter (·.name == blankGroup.name) = first :: later ∧
        blankGroup.NamedBy first later) ∧
    ∃ s, Reached s [blankTwice, blankTwice] ∧ blankGroup ∈ s.registry.groups ∧
      ∃ first later,
        ([blankTwice, blankTwice].flatMap SourceFile.scanned).filter (·.name == blankGroup.name) =
          first :: later ∧
        blankGroup.NamedBy first later ∧
        ∃ f ∈ [blankTwice, blankTwice], ∃ forest, Go.readFile f.1 f.2 = .ok forest ∧
          ∃ o : Go.Origin forest, o.Makes first ∧ first.members.map Member.name = o.names := by
  obtain ⟨s, hs, hregistry, -⟩ := (Reached.start .postgreSql).exists_taken scan_blankTwice
  obtain ⟨t, ht, hagain, -⟩ := hs.exists_taken scan_blankTwice
  obtain ⟨hinserted, hreached⟩ := distinct_names_iff [blankGroup] ht
  have honce : blankGroup ∈ (Registry.insertAll {} [blankGroup]).groups := by decide +kernel
  have hmem : blankGroup ∈ t.registry.groups := by
    rw [hagain, hregistry]
    decide +kernel
  exact ⟨⟨honce, hinserted blankGroup honce⟩, t, ht, hmem, hreached blankGroup hmem⟩

/-- **Names in a group need not be distinct**, and then there is a member that is not reached. -/
theorem exists_names_not_distinct :
    ∃ s, Reached s [blankTwice] ∧ ∃ g ∈ s.registry.groups,
      ¬ (g.members.map Member.name).Nodup ∧ ∃ m ∈ g.members, g.member? m.name ≠ some m := by
  obtain ⟨s, hs, hregistry, -⟩ := (Reached.start .postgreSql).exists_taken scan_blankTwice
  refine ⟨s, hs, blankGroup, ?_, by decide, ⟨"_", .literal "2", "D"⟩, by decide, by decide⟩
  rw [hregistry]
  decide +kernel

end Survey

end Codebook
