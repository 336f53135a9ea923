import Codebook.Proofs.Go.MarkedGroup
import Codebook.Proofs.Go.TreeTokens

/-!
# What a scanned group is called

A group is called after a word of its declaration, and after its description.  A word has no blank,
so the first space of the name tells where the description starts: groups of one name have one
description.

What is here: `Group.CalledAfter`, and that it tells the description; and `isName_baseOf`, that the
base is a word.
-/

set_option autoImplicit false

namespace Codebook

open Text

/-! ## Names with a base -/

/-- A group is called after a base without blanks and, behind one space, after its description; and
its category is what this name tells. -/
structure Group.CalledAfter (g : Group) (base : String) : Prop where
  /-- The base has no blanks. -/
  unbroken : ∀ c ∈ base.toList, isBlank c = false
  /-- The name. -/
  name_eq : g.name = base ++ " " ++ g.description
  /-- The category. -/
  category_eq : g.category = Category.infer g.name.toList

/-- The first space of a text tells what is before it and what is behind it. -/
theorem append_space_inj {as bs cs ds : List Char} (has : ' ' ∉ as) (hbs : ' ' ∉ bs)
    (h : as ++ ' ' :: cs = bs ++ ' ' :: ds) : as = bs ∧ cs = ds := by
  rcases List.append_eq_append_iff.1 h with ⟨mid, rfl, heq⟩ | ⟨mid, rfl, heq⟩ <;>
    cases mid with
    | nil => simpa [eq_comm] using heq
    | cons x mid =>
      obtain rfl : ' ' = x := by simpa using (List.cons.inj heq).1
      simp at has hbs

/-- **Groups of one name have one description.** -/
theorem Group.CalledAfter.description_eq {g h : Group} {base base' : String}
    (hg : g.CalledAfter base) (hh : h.CalledAfter base') (hname : g.name = h.name) :
    g.description = h.description := by
  have hspace {base : String} (hbase : ∀ c ∈ base.toList, isBlank c = false) :
      ' ' ∉ base.toList := fun hmem => absurd (hbase ' ' hmem) (by decide)
  rw [hg.name_eq, hh.name_eq, String.ext_iff] at hname
  have hlists : base.toList ++ ' ' :: g.description.toList =
      base'.toList ++ ' ' :: h.description.toList := by simpa using hname
  exact String.toList_inj.1
    (append_space_inj (hspace hg.unbroken) (hspace hh.unbroken) hlists).2

namespace Go

/-! ## The base -/

theorem IsName.of_prefix {cs ds : List Char} (h : IsName cs) (hds : ds <+: cs) (hne : ds ≠ []) :
    IsName ds := by
  obtain ⟨rest, rfl⟩ := hds
  obtain ⟨d, ds, rfl⟩ := List.exists_cons_of_ne_nil hne
  exact ⟨h.1, fun x hx => h.2 x (List.mem_append_left _ hx)⟩

/-- The base of a name is a name. -/
theorem IsName.baseName {cs : List Char} (h : IsName cs) : IsName (baseName cs) := by
  rw [Codebook.baseName]
  split
  · exact h
  · rename_i c before heq
    have hsuffix : c :: before <:+ cs.reverse := by
      rw [← heq]
      exact (List.drop_suffix _ _).trans (List.dropWhile_suffix _)
    refine h.of_prefix ?_ (by simp)
    simpa using List.reverse_prefix.2 hsuffix

section

variable {s : Spec} {specs : List Spec} {forest parts : List Tree} {outer : List (List Tree)}

theorem isName_of_wordOf? {t : Tree} {text : String} (h : WordsAreNames forest) (ht : t ∈ forest)
    (hword : wordOf? t = some text) : IsName text.toList := by
  cases t with
  | node label parts => cases hword
  | leaf token =>
    rw [wordOf?] at hword
    split at hword
    · rename_i hkind
      obtain rfl := Option.some.inj hword
      exact h token (Tree.mem_forestTokens.2 ⟨_, ht, by simp⟩) (by simpa using hkind)
    · cases hword

theorem isName_of_mem_names (h : WordsAreNames s.parts) :
    ∀ name ∈ s.names, IsName name.toList := by
  intro name hname
  obtain ⟨t, ht, hword⟩ := List.mem_filterMap.1 hname
  exact isName_of_wordOf? h ht hword

theorem isName_of_typeName? (h : WordsAreNames s.parts) :
    ∀ name ∈ s.typeName?, IsName name.toList := by
  intro name hname
  obtain ⟨t, ht, hword⟩ := List.exists_of_findSome?_eq_some hname
  split at hword
  · exact isName_of_wordOf? (h.children ht) (List.mem_singleton_self _) hword
  · cases hword

/-- The base is the name of a type, or the base of a name, or a word that stands for neither. -/
theorem baseOf_cases (specs : List Spec) :
    (∃ s ∈ specs, ∃ name ∈ s.typeName?, baseOf specs = name) ∨
      (∃ s ∈ specs, ∃ name ∈ s.names,
        baseOf specs = String.ofList (Codebook.baseName name.toList)) ∨
      baseOf specs = "Unknown" := by
  cases specs with
  | nil => exact .inr (.inr rfl)
  | cons s specs =>
    cases specs with
    | nil =>
      cases htype : s.typeName? with
      | some name => exact .inl ⟨s, by simp, name, htype, by simp [baseOf, htype]⟩
      | none =>
        cases hnames : s.names with
        | nil => exact .inr (.inr (by simp [baseOf, htype, hnames]))
        | cons name names =>
          exact .inr (.inl ⟨s, by simp, name, by simp [hnames], by simp [baseOf, htype, hnames]⟩)
    | cons t specs =>
      cases hnames : s.names with
      | nil => exact .inr (.inr (by simp [baseOf, hnames]))
      | cons name names =>
        exact .inr (.inl ⟨s, by simp, name, by simp [hnames], by simp [baseOf, hnames]⟩)

/-- **The base of the name of a group is a name.** -/
theorem isName_baseOf (h : ∀ s ∈ specs, WordsAreNames s.parts) : IsName (baseOf specs).toList := by
  rcases baseOf_cases specs with ⟨s, hs, name, hname, hbase⟩ | ⟨s, hs, name, hname, hbase⟩ | hbase
  · rw [hbase]
    exact isName_of_typeName? (h s hs) name hname
  · rw [hbase, String.toList_ofList]
    exact (isName_of_mem_names (h s hs) name hname).baseName
  · rw [hbase]
    decide

/-! ## Specifications -/

theorem tree_mem_of_mem_locations {l : Location} (h : l ∈ locations forest) : l.tree ∈ forest := by
  have hmap := map_tree_locationsFrom [] forest
  exact hmap ▸ List.mem_map_of_mem h

theorem wordsAreNames_of_mem_specsAmong (h : WordsAreNames forest) :
    ∀ s ∈ specsAmong outer forest, WordsAreNames s.parts := by
  intro s hs
  obtain ⟨l, hl, heq⟩ := List.mem_filterMap.1 hs
  split at heq
  · rename_i htree
    obtain rfl := Option.some.inj heq
    exact h.children (htree ▸ tree_mem_of_mem_locations hl)
  · cases heq

theorem wordsAreNames_of_mem_specsOf {outer : List Tree} (h : WordsAreNames parts) :
    ∀ s ∈ specsOf outer parts, WordsAreNames s.parts := by
  intro s hs
  obtain ⟨l, hl, hs⟩ := List.mem_flatMap.1 hs
  split at hs
  · rename_i htree
    exact wordsAreNames_of_mem_specsAmong (h.children (htree ▸ tree_mem_of_mem_locations hl)) s hs
  · rename_i htree
    obtain rfl := List.mem_singleton.1 hs
    exact h.children (htree ▸ tree_mem_of_mem_locations hl)
  · simp at hs

theorem wordsAreNames_of_declaration? {t : Tree} {kind : DeclarationKind} (h : WordsAreNames forest)
    (ht : t ∈ forest) (hdeclaration : declaration? t = some (kind, parts)) :
    WordsAreNames parts := by
  unfold declaration? at hdeclaration
  split at hdeclaration
  · obtain ⟨-, rfl⟩ := Prod.mk.inj (Option.some.inj hdeclaration)
    exact h.children ht
  · obtain ⟨-, rfl⟩ := Prod.mk.inj (Option.some.inj hdeclaration)
    exact h.children ht
  · cases hdeclaration

end

end Go

end Codebook
