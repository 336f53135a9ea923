import Codebook.Proofs.Survey.MemberNames

/-!
# The tags of a group are those of its sightings

Tags are generated for each sighting of a group by itself, and merging unites them.  They are not
generated again from what has been merged, so it is to be shown that nothing is missing: each tag is
that of the name and the description, which all sightings of a group in a survey have in common, or
that of one member, which stands in some sighting.  The other way round there may be more tags than
the merged group gives by itself, since a member that is sighted again leaves its tags but not its
comment.

What is here: `mem_tagList_iff`, that tags are told member by member; `mem_tagList_ofSightings`,
which sighting has a tag of what sightings make; and `tags_united`.
-/

set_option autoImplicit false

namespace Codebook

open Text

/-! ## Tags, member by member -/

/-- The tags of a member: the words of its name and the keywords of its comment. -/
def Member.tagList (m : Member) : List String := nameTags m.name ++ keywords m.comment.toList

namespace Group

/-- The tags of a group that are not those of its members. -/
def ownTagList (g : Group) : List String := nameTags g.name ++ keywords g.description.toList

/-- **The tags of a group are its own and those of each of its members.** -/
theorem mem_tagList_iff (g : Group) (t : String) :
    t ∈ g.tagList ↔ t ∈ g.ownTagList ∨ ∃ m ∈ g.members, t ∈ m.tagList := by
  simp only [tagList, ownTagList, Member.tagList, List.mem_append, List.mem_flatMap]
  constructor
  · rintro (((h | ⟨m, hm, h⟩) | h) | ⟨m, hm, h⟩)
    · exact .inl (.inl h)
    · exact .inr ⟨m, hm, .inl h⟩
    · exact .inl (.inr h)
    · exact .inr ⟨m, hm, .inr h⟩
  · rintro ((h | h) | ⟨m, hm, h | h⟩)
    · exact .inl (.inl (.inl h))
    · exact .inl (.inr h)
    · exact .inl (.inl (.inr ⟨m, hm, h⟩))
    · exact .inr ⟨m, hm, h⟩

/-! ## Tags of sightings -/

/-- What is added to some members is one of what comes. -/
theorem mem_of_mem_foldl_addMember {old new : List Member} {m : Member}
    (h : m ∈ new.foldl addMember old) : m ∈ old ∨ m ∈ new := by
  induction new generalizing old with
  | nil => exact .inl h
  | cons x new ih =>
    rw [List.foldl_cons] at h
    rcases ih h with h | h
    · by_cases hx : x.name ∈ old.map Member.name
      · rw [addMember_of_mem hx] at h
        exact .inl h
      · rw [addMember_of_not_mem hx, List.mem_append, List.mem_singleton] at h
        refine h.imp_right ?_
        rintro rfl
        exact List.mem_cons_self
    · exact .inr (List.mem_cons_of_mem x h)

/-- Each member of a group stands in one of its sightings. -/
theorem exists_of_mem_members_ofSightings {first : Group} {later : List Group} {m : Member}
    (h : m ∈ (first.ofSightings later).members) : ∃ k ∈ first :: later, m ∈ k.members := by
  rw [members_ofSightings] at h
  rcases mem_of_mem_foldl_addMember h with h | h
  · exact ⟨first, List.mem_cons_self, h⟩
  · obtain ⟨k, hk, h⟩ := List.mem_flatMap.1 h
    exact ⟨k, List.mem_cons_of_mem _ hk, h⟩

/-- A tag of what sightings make is one of a sighting, if the first one says what they all say. -/
theorem mem_tagList_ofSightings {first : Group} {later : List Group} {t : String}
    (hdescription : (first.ofSightings later).description = first.description)
    (h : t ∈ (first.ofSightings later).tagList) : ∃ k ∈ first :: later, t ∈ k.tagList := by
  rcases (mem_tagList_iff _ t).1 h with hown | ⟨m, hm, ht⟩
  · have hfirst : (first.ofSightings later).ownTagList = first.ownTagList := by
      rw [ownTagList, hdescription]
      rfl
    exact ⟨first, List.mem_cons_self, (mem_tagList_iff _ t).2 (.inl (hfirst ▸ hown))⟩
  · obtain ⟨k, hk, hmem⟩ := exists_of_mem_members_ofSightings hm
    exact ⟨k, hk, (mem_tagList_iff _ t).2 (.inr ⟨m, hmem, ht⟩)⟩

end Group

/-! ## Surveys -/

namespace Survey

/-- **The tags of a group are those of its sightings, and they cover it.**  Every tag that is
generated from a group as it stands is among its tags; and its tags are exactly those that are
generated from the sightings of its name in the files that have been taken. -/
theorem tags_united {s : Survey} {files : List SourceFile} (h : Reached s files) :
    ∀ g ∈ s.registry.groups, (∀ t ∈ g.generateTags, t ∈ g.tags) ∧
      ∀ t, t ∈ g.tags ↔
        ∃ k ∈ files.flatMap SourceFile.scanned, k.name = g.name ∧ t ∈ k.generateTags := by
  intro g hg
  obtain ⟨first, later, hsighted, hmade, hsame⟩ := h.exists_sightings hg
  have hsighting (k : Group) : k ∈ first :: later ↔
      k ∈ files.flatMap SourceFile.scanned ∧ k.name = g.name := by
    rw [← hsighted, List.mem_filter, beq_iff_eq]
  have htags : ∀ k ∈ first :: later, k.tags = k.generateTags := by
    intro k hk
    obtain ⟨f, -, forest, -, o, ho⟩ := exists_origin_of_scanned k ((hsighting k).1 hk).1
    exact ho.tags_eq
  have hunion (t : String) : t ∈ g.tags ↔ ∃ k ∈ first :: later, t ∈ k.generateTags := by
    rw [hmade, Group.mem_tags_ofSightings]
    exact exists_congr fun k => and_congr_right fun hk => by rw [htags k hk]
  constructor
  · intro t ht
    have hdescription : (first.ofSightings later).description = first.description := by
      rw [← hmade]
      exact (hsame first List.mem_cons_self).symm
    rw [Group.mem_generateTags, hmade] at ht
    obtain ⟨k, hk, ht⟩ := Group.mem_tagList_ofSightings hdescription ht
    exact (hunion t).2 ⟨k, hk, (Group.mem_generateTags k t).2 ht⟩
  · intro t
    rw [hunion]
    refine exists_congr fun k => ?_
    rw [hsighting, and_assoc]

/-- The file of a shade of red that is sighted again, with a comment. -/
def redShadeAgain : Go.Enumeration :=
  { redShade with
    first := { redShade.first with comment := some ⟨"like blood".toList, by decide⟩ } }

/-- The comment on a member that is sighted again is not taken, but its keywords are. -/
theorem tags_united_again :
    ∃ s, Reached s [("red.go", redShade.bytes), ("again.go", redShadeAgain.bytes)] ∧
      ∃ g ∈ s.registry.groups, g.members = [⟨"ColorRed", .absent, "shade"⟩] ∧
        "blood" ∈ g.tags ∧ "blood" ∉ g.generateTags ∧ (∀ t ∈ g.generateTags, t ∈ g.tags) ∧
        ∃ k ∈ [("red.go", redShade.bytes), ("again.go", redShadeAgain.bytes)].flatMap
          SourceFile.scanned, k.name = g.name ∧ "blood" ∈ k.generateTags := by
  obtain ⟨s, hs, hregistry, -⟩ :=
    (Reached.start .postgreSql).exists_taken (f := ("red.go", redShade.bytes))
      (redShade.scan_bytes "red.go")
  obtain ⟨t, ht, hagain, -⟩ := hs.exists_taken (f := ("again.go", redShadeAgain.bytes))
    (redShadeAgain.scan_bytes "again.go")
  obtain ⟨g, hg⟩ : ∃ g, g = (redShade.group "red.go").merge (redShadeAgain.group "again.go") :=
    ⟨_, rfl⟩
  have hmem : g ∈ t.registry.groups := by
    rw [hagain, hregistry, hg]
    decide +kernel
  have hblood : "blood" ∈ g.tags ∧ "blood" ∉ g.generateTags := by
    rw [hg]
    show _ ∈ TagSet.toList _ ∧ _ ∉ TagSet.toList _
    decide +kernel
  obtain ⟨hcovered, hunited⟩ := tags_united ht g hmem
  refine ⟨t, ht, g, hmem, ?_, hblood.1, hblood.2, hcovered, (hunited "blood").1 hblood.1⟩
  rw [hg]
  decide +kernel

end Survey

end Codebook
