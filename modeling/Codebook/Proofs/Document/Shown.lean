import Codebook.Proofs.Document.Rows
import Codebook.Proofs.Text.Returned

/-!
# What the Markdown document shows of a value

A value stands in one cell of a table, where its line ends have become spaces.  The document shows
nothing else of it, and merging does not look at values.  So it does not matter in which form the
line ends of a value are written.

What is here: `Member.shown` and `Group.shown`, with values as they are shown; `shown_insertAll`,
that merging leaves them so; and `markdown_shown`.
-/

set_option autoImplicit false

namespace Codebook

/-! ## Flattened texts -/

namespace Document

variable {cs : List Char}

theorem flatten_cons {c : Char} (hfeed : c ≠ '\n') (hreturn : c ≠ '\r') (cs : List Char) :
    flatten (c :: cs) = c :: flatten cs := by
  rw [flatten]
  · exact fun _ hc => absurd hc hreturn
  · exact hfeed
  · exact hreturn

/-- What has no line ends stays as it is. -/
theorem flatten_of_not_mem (hfeed : '\n' ∉ cs) (hreturn : '\r' ∉ cs) : flatten cs = cs := by
  induction cs with
  | nil => rfl
  | cons c cs ih =>
    rw [List.mem_cons, not_or] at hfeed hreturn
    rw [flatten_cons (Ne.symm hfeed.1) (Ne.symm hreturn.1), ih hfeed.2 hreturn.2]

theorem flatten_flatten (cs : List Char) : flatten (flatten cs) = flatten cs :=
  flatten_of_not_mem (not_mem_flatten cs).1 (not_mem_flatten cs).2

/-- A carriage return and a line feed become one space, as a line feed alone does. -/
theorem flatten_returned (h : '\r' ∉ cs) : flatten (Text.returned cs) = flatten cs := by
  induction cs with
  | nil => rfl
  | cons c cs ih =>
    rw [List.mem_cons, not_or] at h
    by_cases hc : c = '\n'
    · rw [hc, Text.returned_newline, flatten, flatten, ih h.2]
    · rw [Text.returned_cons hc, flatten_cons hc (Ne.symm h.1), flatten_cons hc (Ne.symm h.1),
        ih h.2]

theorem cell_flatten (s : String) : cell (String.ofList (flatten s.toList)) = cell s := by
  rw [cell, cell, String.toList_ofList, flatten_flatten]

end Document

/-! ## Groups -/

/-- A value as it is shown. -/
def Value.shown (v : Value) : Value :=
  .literal (String.ofList (Document.flatten v.display.toList))

/-- A member with its value as it is shown. -/
def Member.shown (m : Member) : Member := { m with value := m.value.shown }

namespace Group

/-- A group with the values of its members as they are shown. -/
def shown (g : Group) : Group := { g with members := g.members.map Member.shown }

theorem map_shown_addMember (members : List Member) (m : Member) :
    (addMember members m).map Member.shown = addMember (members.map Member.shown) m.shown := by
  have hname : (fun x : Member => x.name == m.shown.name) ∘ Member.shown =
      fun x => x.name == m.name := rfl
  rw [addMember, addMember, List.any_map, hname]
  split
  · rfl
  · rw [List.map_append, List.map_singleton]

theorem map_shown_foldl_addMember (members new : List Member) :
    (new.foldl addMember members).map Member.shown =
      (new.map Member.shown).foldl addMember (members.map Member.shown) := by
  induction new generalizing members with
  | nil => rfl
  | cons m new ih => rw [List.foldl_cons, ih, map_shown_addMember, List.map_cons, List.foldl_cons]

/-- **Merging does not look at values.** -/
theorem shown_merge (g other : Group) : (g.merge other).shown = g.shown.merge other.shown := by
  simp only [merge, shown, map_shown_foldl_addMember]

end Group

namespace Registry

/-- A registry with all values as they are shown. -/
def shown (r : Registry) : Registry := ⟨r.groups.map Group.shown⟩

theorem map_shown_insertInto (g : Group) (groups : List Group) :
    (insertInto g groups).map Group.shown = insertInto g.shown (groups.map Group.shown) := by
  induction groups with
  | nil => rfl
  | cons old groups ih =>
    have hname (g : Group) : g.shown.name = g.name := rfl
    rw [insertInto, List.map_cons, insertInto, hname, hname]
    split
    · rw [List.map_cons, Group.shown_merge]
    · rw [List.map_cons, ih]

/-- **What has been merged is shown as it would be from what is shown.** -/
theorem shown_insertAll (r : Registry) (gs : List Group) :
    (r.insertAll gs).shown = r.shown.insertAll (gs.map Group.shown) := by
  induction gs generalizing r with
  | nil => rfl
  | cons g gs ih =>
    have hinsert : (r.insert g).shown = r.shown.insert g.shown :=
      congrArg Registry.mk (map_shown_insertInto g r.groups)
    rw [List.map_cons, insertAll, insertAll, List.foldl_cons, List.foldl_cons, ← hinsert]
    exact ih (r.insert g)

end Registry

namespace Document

theorem memberRow_shown (m : Member) : memberRow m.shown = memberRow m := by
  rw [memberRow, memberRow, row, row, Member.shown, Value.shown, Value.display, cell_flatten]

theorem group_shown (g : Group) : group g.shown = group g := by
  have hrows : g.shown.members.map memberRow = g.members.map memberRow := by
    rw [Group.shown, List.map_map]
    exact List.map_congr_left fun m _ => memberRow_shown m
  rw [group, group, hrows]
  rfl

/-- **The document shows nothing else of the values.** -/
theorem markdown_shown (r : Registry) (c : Catalog) : markdown r.shown c = markdown r c := by
  have hgroups : r.shown.groups.map group = r.groups.map group := by
    rw [Registry.shown, List.map_map]
    exact List.map_congr_left fun g _ => group_shown g
  have hempty : r.shown.isEmpty = r.isEmpty := List.isEmpty_map
  rw [markdown, markdown, hgroups, hempty]

end Document

end Codebook
