/-!
# Sets of tags

The tags of an enumeration are a set, listed in ascending order.
-/

set_option autoImplicit false

namespace Codebook

/-- A finite set of tags. -/
structure TagSet where
  /-- The tags. -/
  toList : List String := []
  /-- They ascend. -/
  ascending : toList.Pairwise (· < ·) := by simp

namespace TagSet

instance : DecidableEq TagSet := fun s t =>
  if h : s.toList = t.toList then
    isTrue (by cases s; cases t; cases h; rfl)
  else isFalse fun heq => h (by rw [heq])

instance : Membership String TagSet := ⟨fun s t => t ∈ s.toList⟩

/-- The set without tags. -/
def empty : TagSet := {}

/-- Puts a tag into its place of an ascending list. -/
def insertSorted (t : String) : List String → List String
  | [] => [t]
  | u :: us => if t < u then t :: u :: us else if t = u then u :: us else u :: insertSorted t us

theorem mem_insertSorted (t u : String) (us : List String) :
    u ∈ insertSorted t us ↔ u = t ∨ u ∈ us := by
  induction us with
  | nil => simp [insertSorted]
  | cons v vs ih =>
    rw [insertSorted]
    split
    · simp
    · split
      · rename_i h
        subst h
        simp
      · simp only [List.mem_cons, ih]
        exact or_left_comm

theorem pairwise_insertSorted (t : String) {us : List String} (h : us.Pairwise (· < ·)) :
    (insertSorted t us).Pairwise (· < ·) := by
  induction us with
  | nil => simp [insertSorted]
  | cons v vs ih =>
    obtain ⟨hv, hvs⟩ := List.pairwise_cons.1 h
    rw [insertSorted]
    split
    · rename_i hlt
      refine List.pairwise_cons.2 ⟨fun u hu => ?_, h⟩
      rcases List.mem_cons.1 hu with rfl | hu
      · exact hlt
      · exact String.lt_trans hlt (hv u hu)
    · split
      · exact h
      · rename_i hge hne
        refine List.pairwise_cons.2 ⟨fun u hu => ?_, ih hvs⟩
        rcases (mem_insertSorted t u vs).1 hu with rfl | hu
        · exact Std.lt_of_le_of_ne hge fun heq => hne heq.symm
        · exact hv u hu

/-- The set with one more tag. -/
def insert (s : TagSet) (t : String) : TagSet :=
  ⟨insertSorted t s.toList, pairwise_insertSorted t s.ascending⟩

/-- The set with some more tags. -/
def insertAll (s : TagSet) (ts : List String) : TagSet := ts.foldl insert s

/-- The set of the tags of a list. -/
def ofList (ts : List String) : TagSet := empty.insertAll ts

/-- The union of two sets. -/
def union (s t : TagSet) : TagSet := s.insertAll t.toList

/-- Whether there are no tags. -/
def isEmpty (s : TagSet) : Bool := s.toList.isEmpty

@[simp] theorem mem_insert (s : TagSet) (t u : String) : u ∈ s.insert t ↔ u = t ∨ u ∈ s :=
  mem_insertSorted t u s.toList

@[simp] theorem mem_insertAll (s : TagSet) (ts : List String) (u : String) :
    u ∈ s.insertAll ts ↔ u ∈ s ∨ u ∈ ts := by
  induction ts generalizing s with
  | nil => simp [insertAll]
  | cons t ts ih =>
    have h : s.insertAll (t :: ts) = (s.insert t).insertAll ts := rfl
    rw [h, ih, mem_insert, List.mem_cons]
    exact ⟨fun h => by rcases h with (h | h) | h <;> simp [h],
      fun h => by rcases h with h | h | h <;> simp [h]⟩

@[simp] theorem mem_union (s t : TagSet) (u : String) : u ∈ s.union t ↔ u ∈ s ∨ u ∈ t :=
  mem_insertAll s t.toList u

end TagSet

end Codebook
