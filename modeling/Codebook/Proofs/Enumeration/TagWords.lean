import Codebook.Enumeration.Tags
import Codebook.Proofs.Enumeration.Merge
import Codebook.Proofs.Text.Ascii
import Codebook.Proofs.Text.Blank

/-!
# What tags are made of

A tag is a word of a name or a keyword, in lower case.  Keywords stand between blanks and have none
of their own, but a name is cut at capital letters only.  So a tag goes over several lines if and
only if a name does; and lower case makes no line ends.

What is here: `flatten_camelWords`, that the words of a name are all of it; `newline_mem_lowercase`;
and `newline_mem_name_of_mem_tagList`, where the line end of a tag comes from.
-/

set_option autoImplicit false

namespace Codebook

open Text

/-! ## Lower case -/

namespace Text

/-- A run of capital letters has images behind the controls of ASCII. -/
theorem image_of_mem_lowerRuns : ∀ r ∈ lowerRuns, (0x20 : Int) < r.first + r.shift := by
  decide +kernel

/-- Only a line end has one in its lower case. -/
theorem newline_mem_lowerOf {c : Char} (h : '\n' ∈ lowerOf c) : c = '\n' := by
  rw [lowerOf] at h
  split at h
  · rename_i hc
    have hall : ∀ n < 128, '\n' = (Char.ofNat n).toLower → Char.ofNat n = '\n' := by decide
    exact forall_of_lt_128 (p := fun c => '\n' = c.toLower → c = '\n') hall hc
      (List.mem_singleton.1 h)
  · split at h
    · simp at h
    · split at h
      · rename_i r hr
        have hcontains : r.contains c = true :=
          List.find?_some (p := fun r : CaseRun => r.contains c) hr
        have hfirst : r.first ≤ c.toNat := by
          simp only [CaseRun.contains, Bool.and_eq_true, decide_eq_true_eq] at hcontains
          exact hcontains.1.1
        have himage := image_of_mem_lowerRuns r (List.mem_of_find?_eq_some hr)
        exact absurd (List.mem_singleton.1 h).symm (ofNat_ne_newline (by omega))
      · exact (List.mem_singleton.1 h).symm

theorem newline_mem_lowercaseAfter {before cs : List Char} (h : '\n' ∈ lowercaseAfter before cs) :
    '\n' ∈ cs := by
  induction cs generalizing before with
  | nil => cases h
  | cons c cs ih =>
    rw [lowercaseAfter, List.mem_append] at h
    rcases h with h | h
    · split at h
      · split at h <;> simp at h
      · rw [newline_mem_lowerOf h]
        exact List.mem_cons_self
    · exact List.mem_cons_of_mem c (ih h)

/-- Lower case makes no line ends. -/
theorem newline_mem_lowercase {cs : List Char} (h : '\n' ∈ lowercase cs) : '\n' ∈ cs :=
  newline_mem_lowercaseAfter h

end Text

/-! ## Words of a name -/

theorem flatten_camelWordsFrom (current cs : List Char) :
    (camelWordsFrom current cs).flatten = current.reverse ++ cs := by
  induction cs generalizing current with
  | nil => cases current <;> simp [camelWordsFrom]
  | cons c cs ih =>
    rw [camelWordsFrom]
    split <;> simp [ih]

/-- The words of a name are all of it. -/
theorem flatten_camelWords (name : List Char) : (camelWords name).flatten = name :=
  flatten_camelWordsFrom [] name

theorem newline_mem_of_mem_nameTags {name t : String} (ht : t ∈ nameTags name)
    (h : '\n' ∈ t.toList) : '\n' ∈ name.toList := by
  obtain ⟨w, hw, rfl⟩ := List.mem_map.1 ht
  rw [String.toList_ofList] at h
  rw [← flatten_camelWords name.toList]
  exact List.mem_flatten.2 ⟨w, hw, newline_mem_lowercase h⟩

/-! ## Keywords -/

/-- Keywords have no blanks. -/
theorem isBlank_of_mem_keywords {text : List Char} {t : String} (ht : t ∈ keywords text) :
    ∀ c ∈ t.toList, isBlank c = false := by
  obtain ⟨w, hw, rfl⟩ := List.mem_map.1 (List.mem_filter.1 ht).1
  intro c hc
  rw [String.toList_ofList] at hc
  exact (of_mem_words hw c (mem_of_mem_trimWhile hc)).2

/-! ## Tags -/

namespace Group

/-- **The line end of a tag is one of a name.** -/
theorem newline_mem_name_of_mem_tagList {g : Group} {t : String} (ht : t ∈ g.tagList)
    (h : '\n' ∈ t.toList) : '\n' ∈ g.name.toList ∨ ∃ m ∈ g.members, '\n' ∈ m.name.toList := by
  have hkeyword {text : List Char} (ht : t ∈ keywords text) : False :=
    absurd (isBlank_of_mem_keywords ht '\n' h) (by decide)
  rw [tagList, List.mem_append, List.mem_append, List.mem_append] at ht
  rcases ht with ((ht | ht) | ht) | ht
  · exact .inl (newline_mem_of_mem_nameTags ht h)
  · obtain ⟨m, hm, ht⟩ := List.mem_flatMap.1 ht
    exact .inr ⟨m, hm, newline_mem_of_mem_nameTags ht h⟩
  · exact (hkeyword ht).elim
  · obtain ⟨m, -, ht⟩ := List.mem_flatMap.1 ht
    exact (hkeyword ht).elim

theorem mem_generateTags (g : Group) (t : String) : t ∈ g.generateTags ↔ t ∈ g.tagList :=
  TagSet.mem_ofList _ _

end Group

end Codebook
