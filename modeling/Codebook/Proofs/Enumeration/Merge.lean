import Codebook.Enumeration.Group

/-!
# What merging makes of a group

Sightings of a group are merged into the first one, one after another.  This file says at once what
they come to: the members of the first sighting and behind them those with new names, all tags, and
the descriptions one below the other.

What is here: `TagSet.ext_mem`, that a set of tags is told by its elements; `newMembers`, what some
members add to others; `Group.ofSightings`, the group that some sightings make; and `foldl_merge`,
that merging makes it.
-/

set_option autoImplicit false

namespace Codebook

/-! ## Sets of tags -/

namespace TagSet

@[simp] theorem not_mem_empty (t : String) : t ∉ TagSet.empty := List.not_mem_nil

@[simp] theorem mem_ofList (ts : List String) (t : String) : t ∈ ofList ts ↔ t ∈ ts := by
  simp [ofList]

theorem nodup_toList (s : TagSet) : s.toList.Nodup := by
  refine s.ascending.imp ?_
  intro t u hlt heq
  exact String.lt_irrefl u (heq ▸ hlt)

/-- **A set of tags is told by its elements.** -/
theorem ext_mem {s t : TagSet} (h : ∀ u, u ∈ s ↔ u ∈ t) : s = t := by
  have hlist : s.toList = t.toList :=
    List.Perm.eq_of_pairwise
      (fun a b _ _ hab hba => absurd (String.lt_trans hab hba) (String.lt_irrefl a))
      s.ascending t.ascending
      ((List.perm_ext_iff_of_nodup s.nodup_toList t.nodup_toList).2 h)
  obtain ⟨us, hus⟩ := s
  obtain ⟨vs, hvs⟩ := t
  obtain rfl : us = vs := hlist
  rfl

/-- A set that holds all tags of another one is their union. -/
theorem union_eq_left {s t : TagSet} (h : ∀ u ∈ t, u ∈ s) : s.union t = s := by
  refine ext_mem fun u => ?_
  rw [mem_union]
  exact ⟨fun hu => hu.elim id (h u), .inl⟩

end TagSet

/-! ## Members -/

/-- What some members add to others: those with new names, and of one name the first. -/
def newMembers (old new : List Member) : List Member :=
  (new.filter fun m => m.name ∉ old.map Member.name).eraseDupsBy fun m n => m.name == n.name

namespace Group

theorem addMember_of_mem {members : List Member} {m : Member}
    (h : m.name ∈ members.map Member.name) : addMember members m = members := by
  rw [addMember, if_pos]
  simpa using h

theorem addMember_of_not_mem {members : List Member} {m : Member}
    (h : m.name ∉ members.map Member.name) : addMember members m = members ++ [m] := by
  rw [addMember, if_neg]
  simpa using h

/-- Members that are added one after another add what is new. -/
theorem foldl_addMember (old new : List Member) :
    new.foldl addMember old = old ++ newMembers old new := by
  induction new generalizing old with
  | nil => simp [newMembers]
  | cons m new ih =>
    rw [List.foldl_cons]
    by_cases hm : m.name ∈ old.map Member.name
    · rw [addMember_of_mem hm, ih, newMembers, newMembers,
        List.filter_cons_of_neg (by simpa using hm)]
    · have hnew : newMembers old (m :: new) = m :: newMembers (old ++ [m]) new := by
        rw [newMembers, List.filter_cons_of_pos (by simpa using hm), List.eraseDupsBy_cons,
          List.filter_filter, newMembers]
        congr 2
        refine List.filter_congr fun x _ => ?_
        by_cases hx : x.name = m.name <;> simp [hx]
      rw [addMember_of_not_mem hm, ih, hnew, List.append_assoc, List.singleton_append]

/-- Members whose names are all there add nothing. -/
theorem foldl_addMember_of_subset {old new : List Member}
    (h : ∀ m ∈ new, m.name ∈ old.map Member.name) : new.foldl addMember old = old := by
  have hnone : (new.filter fun m => m.name ∉ old.map Member.name) = [] :=
    List.filter_eq_nil_iff.2 fun m hm => by simpa using h m hm
  rw [foldl_addMember, newMembers, hnone]
  exact List.append_nil old

/-- The names that are there after some members have been added. -/
theorem mem_names_foldl_addMember (old new : List Member) (name : String) :
    name ∈ (new.foldl addMember old).map Member.name ↔
      name ∈ old.map Member.name ∨ name ∈ new.map Member.name := by
  induction new generalizing old with
  | nil => simp
  | cons m new ih =>
    rw [List.foldl_cons, ih]
    by_cases hm : m.name ∈ old.map Member.name
    · rw [addMember_of_mem hm, List.map_cons, List.mem_cons]
      refine ⟨fun h => h.imp_right .inr, fun h => h.elim .inl fun h => h.elim (fun e => ?_) .inr⟩
      exact .inl (e ▸ hm)
    · rw [addMember_of_not_mem hm]
      simp [or_assoc]

/-! ## Sightings -/

/-- The group that some sightings of it make.  It is the first one, with the members that the later
ones add, the tags of all, and below its description each later one that is not empty and not what
has been written so far. -/
def ofSightings (first : Group) (later : List Group) : Group :=
  { first with
    description := later.foldl
      (fun text s => if s.description = "" ∨ s.description = text then text
        else text ++ "\n" ++ s.description)
      first.description
    members := first.members ++ newMembers first.members (later.flatMap Group.members)
    tags := TagSet.ofList ((first :: later).flatMap fun s => s.tags.toList) }

theorem joinDescription_eq (old new : String) :
    joinDescription old new = if new = "" ∨ new = old then old else old ++ "\n" ++ new := by
  simp [joinDescription]

/-- What sightings that are merged into a group leave of it, and what they change. -/
theorem foldl_merge_eq (first : Group) (later : List Group) :
    later.foldl merge first =
      { first with
        description := later.foldl (fun text s => joinDescription text s.description)
          first.description
        members := (later.flatMap Group.members).foldl addMember first.members
        tags := later.foldl (fun tags s => tags.union s.tags) first.tags } := by
  induction later generalizing first with
  | nil => rfl
  | cons s later ih =>
    rw [List.foldl_cons, ih, merge]
    simp

theorem mem_foldl_union (tags : TagSet) (later : List Group) (t : String) :
    t ∈ later.foldl (fun tags s => tags.union s.tags) tags ↔
      t ∈ tags ∨ ∃ s ∈ later, t ∈ s.tags := by
  induction later generalizing tags with
  | nil => simp
  | cons s later ih => simp [ih, or_assoc]

/-- **Merging sightings one after another makes the group of the sightings.** -/
theorem foldl_merge (first : Group) (later : List Group) :
    later.foldl merge first = first.ofSightings later := by
  have htags : later.foldl (fun tags s => tags.union s.tags) first.tags =
      TagSet.ofList ((first :: later).flatMap fun s => s.tags.toList) := by
    refine TagSet.ext_mem fun t => ?_
    have hcons : (∃ s ∈ first :: later, t ∈ s.tags) ↔ t ∈ first.tags ∨ ∃ s ∈ later, t ∈ s.tags := by
      simp
    rw [mem_foldl_union, ← hcons, TagSet.mem_ofList, List.mem_flatMap]
    rfl
  rw [foldl_merge_eq, foldl_addMember, htags, ofSightings]
  simp only [joinDescription_eq]

/-- The names of the members are those of all sightings. -/
theorem mem_names_ofSightings (first : Group) (later : List Group) (name : String) :
    name ∈ (first.ofSightings later).members.map Member.name ↔
      ∃ s ∈ first :: later, name ∈ s.members.map Member.name := by
  have hmembers : (first.ofSightings later).members =
      (later.flatMap Group.members).foldl addMember first.members :=
    (foldl_addMember _ _).symm
  rw [hmembers, mem_names_foldl_addMember, List.map_flatMap]
  simp

/-- The tags are those of all sightings. -/
theorem mem_tags_ofSightings (first : Group) (later : List Group) (t : String) :
    t ∈ (first.ofSightings later).tags ↔ ∃ s ∈ first :: later, t ∈ s.tags := by
  rw [ofSightings, TagSet.mem_ofList, List.mem_flatMap]
  rfl

end Group

end Codebook
