import Codebook.Proofs.Enumeration.TagWords
import Codebook.Proofs.Go.GroupName
import Codebook.Proofs.Go.Scanning

/-!
# Where a group of a file comes from

Every group of a file is made of one declaration, and of the first comment above it that is marked.
Its members are what the declaration declares, one for each name; its description is what the
comment says; and its tags are generated from these.

A comment to the end of a line says one line.  So a description goes over several lines only if it
is said in slashes and stars; and so does a tag, since the name of the group is the one text behind
a tag that is no word.

What is here: `Token.IsMatched.comment_cases`, how comments start; `Origin`, a declaration with the
comment that marks it, `Origin.Makes`, what is made of it, and `exists_origin_of_scan`, that every
group is; `Origin.opening_of_newline`, which comments say several lines; and
`Origin.Makes.newline_mem_tag`.
-/

set_option autoImplicit false

namespace Codebook

open Text

namespace Text

theorem mem_of_mem_removeFirst {needle cs : List Char} {c : Char} (h : c ∈ removeFirst needle cs) :
    c ∈ cs := by
  rw [removeFirst] at h
  split at h
  · rename_i heq
    rw [eq_of_breakAtText heq]
    simp only [List.mem_append] at h ⊢
    exact h.imp_left .inl
  · exact h

end Text

namespace Go

/-! ## Comments of a source -/

/-- **A comment is one line behind two slashes, or starts with a slash and a star.** -/
theorem Token.IsMatched.comment_cases {t : Token} (h : t.IsMatched) (hkind : t.kind = .comment) :
    (∃ line, t.text.toList = '/' :: '/' :: line ∧ '\n' ∉ line) ∨
      ∃ more, t.text.toList = '/' :: '*' :: more := by
  obtain ⟨cs, rest, hmatch, htext⟩ := h
  rw [hkind] at hmatch
  obtain ⟨taken, -, hcs⟩ := exists_taken_of_matchToken hmatch
  rw [text_eq hcs htext]
  rcases comment_cases_of_matchToken hmatch hcs with ⟨line, rfl, hline⟩ | ⟨inside, rfl⟩
  · exact .inl ⟨line, rfl, hline⟩
  · exact .inr ⟨_, rfl⟩

/-! ## Descriptions -/

/-- A comment to the end of a line says one line. -/
theorem newline_not_mem_description {c : Token} {line : List Char} {description : String}
    (hc : c.text.toList = '/' :: '/' :: line) (hline : '\n' ∉ line)
    (h : description? c = some description) : '\n' ∉ description.toList := by
  have hlines : ∃ cs, commentLines c.text.toList = [trimRight cs] ∧ ∀ x ∈ cs, x ∈ line := by
    rw [hc]
    cases line with
    | nil => exact ⟨[], rfl, fun x hx => hx⟩
    | cons x line =>
      by_cases hx : x = ' '
      · subst hx
        exact ⟨line, rfl, fun y hy => List.mem_cons_of_mem _ hy⟩
      · refine ⟨x :: line, ?_, fun y hy => hy⟩
        rw [commentLines]
        intro rest heq
        exact hx (List.cons.inj heq).1
  obtain ⟨cs, hlines, hcs⟩ := hlines
  rw [description?, hlines, joinWith] at h
  split at h
  · obtain rfl := Option.some.inj h
    rw [String.toList_ofList]
    intro hmem
    exact hline (hcs _ (mem_of_mem_trimRight
      (mem_of_mem_removeFirst (mem_of_mem_trimWhile hmem))))
  · cases h

theorem comment?_eq_some {t : Tree} {c : Token} (h : t.comment? = some c) :
    t = .leaf c ∧ c.isComment = true := by
  cases t with
  | node label parts => cases h
  | leaf token =>
    rw [Tree.comment?] at h
    split at h
    · rename_i hcomment
      obtain rfl := Option.some.inj h
      exact ⟨rfl, hcomment⟩
    · cases h

/-- A comment above a row is a comment before it, and has nothing before it on the row where it
starts. -/
theorem exists_append_of_mem_commentsAbove {row : Nat} {before : List Tree} {c : Token}
    (h : c ∈ commentsAbove row before) : ∃ later earlier, before = later ++ .leaf c :: earlier ∧
      c.isComment = true ∧ ∀ t ∈ earlier.head?, t.endRow ≠ c.row := by
  induction before generalizing row with
  | nil => cases h
  | cons t before ih =>
    rw [commentsAbove] at h
    split at h
    · cases h
    · rename_i d hd
      split at h
      · rename_i hrows
        rcases List.mem_append.1 h with h | h
        · obtain ⟨later, earlier, rfl, hearlier⟩ := ih h
          exact ⟨t :: later, earlier, rfl, hearlier⟩
        · obtain rfl := List.mem_singleton.1 h
          obtain ⟨rfl, hcomment⟩ := comment?_eq_some hd
          refine ⟨[], before, rfl, hcomment, fun t ht heq => ?_⟩
          rw [Option.mem_def.1 ht] at hrows
          simp [heq] at hrows
      · cases h

theorem of_mem_commentsAbove {row : Nat} {before : List Tree} {c : Token}
    (h : c ∈ commentsAbove row before) : .leaf c ∈ before ∧ c.isComment = true := by
  obtain ⟨later, earlier, rfl, hcomment, -⟩ := exists_append_of_mem_commentsAbove h
  exact ⟨by simp, hcomment⟩

/-- The comments above a tree of a file are tokens of the file. -/
theorem of_mem_above {forest : List Tree} {l : Location} {c : Token} (hl : l ∈ locations forest)
    (h : c ∈ l.above) : c ∈ Tree.forestTokens forest ∧ c.isComment = true := by
  obtain ⟨hmem, hcomment⟩ := of_mem_commentsAbove h
  have hforest := siblings_of_mem_locationsFrom hl
  refine ⟨Tree.mem_forestTokens.2 ⟨.leaf c, ?_, by simp⟩, hcomment⟩
  rw [List.reverse_nil, List.nil_append] at hforest
  rw [← hforest]
  exact List.mem_append_left _ (List.mem_reverse.2 (List.mem_of_mem_filter hmem))

/-! ## Origins -/

@[simp] theorem names_membersOf (comment : String) (names : List String) (values : List Value) :
    (membersOf comment names values).map Member.name = names := by
  induction names generalizing values with
  | nil => cases values <;> rfl
  | cons name names ih => cases values <;> simp [membersOf, ih]

/-- A specification declares one member for each of its names. -/
@[simp] theorem Spec.names_members (s : Spec) (description : String) :
    (s.members description).map Member.name = s.names := names_membersOf _ _ _

/-- A marked declaration of a file. -/
structure Origin (forest : List Tree) where
  /-- The declaration in its place. -/
  place : Location
  /-- The comment that marks it. -/
  comment : Token
  /-- Its parts. -/
  parts : List Tree
  /-- It is in the file. -/
  mem_locations : place ∈ locations forest
  /-- The comment stands above it. -/
  mem_above : comment ∈ place.above
  /-- It declares constants or variables. -/
  declares : (declaration? place.tree).map Prod.snd = some parts

namespace Origin

variable {forest : List Tree}

/-- The specifications of the declaration. -/
def specs (o : Origin forest) : List Spec := specsOf o.place.after o.parts

/-- The names that are declared. -/
def names (o : Origin forest) : List String := o.specs.flatMap Spec.names

/-- A group is made of a marked declaration. -/
structure Makes (o : Origin forest) (g : Group) : Prop where
  /-- The description is what the comment says. -/
  description_eq : description? o.comment = some g.description
  /-- The members are what is declared. -/
  members_eq : g.members = o.specs.flatMap fun s => s.members g.description
  /-- The group is called after its base and its description. -/
  name_eq : g.name = baseOf o.specs ++ " " ++ g.description
  /-- The category is what the name tells. -/
  category_eq : g.category = Category.infer g.name.toList
  /-- The tags are generated. -/
  tags_eq : g.tags = g.generateTags

/-- **A group has one member for each name that is declared.** -/
theorem Makes.names_eq {o : Origin forest} {g : Group} (h : o.Makes g) :
    g.members.map Member.name = o.names := by
  rw [h.members_eq, List.map_flatMap, names]
  simp

theorem wordsAreNames (o : Origin forest) (h : WordsAreNames forest) : WordsAreNames o.parts := by
  obtain ⟨⟨kind, parts⟩, hdeclaration, heq⟩ := Option.map_eq_some_iff.1 o.declares
  obtain rfl : parts = o.parts := heq
  exact wordsAreNames_of_declaration? h (tree_mem_of_mem_locations o.mem_locations) hdeclaration

/-- What is declared are names. -/
theorem isName_of_mem_names (o : Origin forest) (h : WordsAreNames forest) :
    ∀ name ∈ o.names, IsName name.toList := by
  intro name hname
  obtain ⟨s, hs, hname⟩ := List.mem_flatMap.1 hname
  exact Go.isName_of_mem_names (wordsAreNames_of_mem_specsOf (o.wordsAreNames h) s hs) name hname

theorem isName_baseOf (o : Origin forest) (h : WordsAreNames forest) :
    IsName (baseOf o.specs).toList :=
  Go.isName_baseOf (wordsAreNames_of_mem_specsOf (o.wordsAreNames h))

/-- **A group of a file is called after a base without blanks and its description.** -/
theorem Makes.calledAfter {o : Origin forest} {g : Group} (h : o.Makes g)
    (hforest : WordsAreNames forest) : g.CalledAfter (baseOf o.specs) :=
  ⟨(o.isName_baseOf hforest).isBlank_eq_false, h.name_eq, h.category_eq⟩

end Origin

theorem IsName.newline_not_mem {cs : List Char} (h : IsName cs) : '\n' ∉ cs :=
  fun hmem => absurd (h.isBlank_eq_false _ hmem) (by decide)

/-- Every group of a file is made of the first marked comment above a declaration. -/
theorem exists_origin_first {path : String} {forest : List Tree} {g : Group}
    (h : g ∈ groupsOf path forest) :
    ∃ o : Origin forest, o.Makes g ∧ ∃ before after, o.place.above = before ++ o.comment :: after ∧
      ∀ c ∈ before, description? c = none := by
  obtain ⟨l, hl, hg⟩ := List.mem_filterMap.1 h
  obtain ⟨⟨kind, parts⟩, hdeclaration, hg⟩ := Option.bind_eq_some_iff.1 hg
  obtain ⟨description, hdescription, hg⟩ := Option.bind_eq_some_iff.1 hg
  obtain ⟨before, c, after, habove, hdescription, hbefore⟩ :=
    List.findSome?_eq_some_iff.1 hdescription
  have hc : c ∈ l.above := by simp [habove]
  rw [groupOf] at hg
  split at hg
  · cases hg
  · rename_i hmembers
    obtain rfl := Option.some.inj hg
    have htags (g : Group) (tags : TagSet) :
        g.generateTags = ({ g with tags := tags } : Group).generateTags := by
      simp only [Group.generateTags, Group.tagList]
    exact ⟨⟨l, c, parts, hl, hc, by rw [hdeclaration]; rfl⟩,
      ⟨hdescription, hmembers.symm, rfl, rfl, htags _ _⟩, before, after, habove, hbefore⟩

/-- **Every group of a file has an origin.** -/
theorem exists_origin {path : String} {forest : List Tree} {g : Group}
    (h : g ∈ groupsOf path forest) : ∃ o : Origin forest, o.Makes g :=
  (exists_origin_first h).imp fun _ => And.left

/-- The groups of a file are those of the trees that are read. -/
theorem exists_readFile_of_scan {path : String} {bytes : List UInt8} {gs : List Group}
    (h : scan path bytes = .ok gs) :
    ∃ forest, readFile path bytes = .ok forest ∧ groupsOf path forest = gs := by
  rw [scan] at h
  cases hread : readFile path bytes with
  | error e => simp [hread, Except.map] at h
  | ok forest => exact ⟨forest, rfl, by simpa [hread, Except.map] using h⟩

theorem exists_origin_of_scan {path : String} {bytes : List UInt8} {gs : List Group}
    (h : scan path bytes = .ok gs) :
    ∀ g ∈ gs, ∃ forest, readFile path bytes = .ok forest ∧ ∃ o : Origin forest, o.Makes g := by
  intro g hg
  obtain ⟨forest, hread, rfl⟩ := exists_readFile_of_scan h
  exact ⟨forest, hread, exists_origin hg⟩

/-! ## Line ends -/

section

variable {forest : List Tree} {o : Origin forest} {g : Group}

/-- **A description that goes over several lines is said in slashes and stars.** -/
theorem Origin.opening_of_newline (hforest : ∀ t ∈ Tree.forestTokens forest, t.IsMatched)
    (h : o.Makes g) (hline : '\n' ∈ g.description.toList) :
    ∃ more, o.comment.text.toList = '/' :: '*' :: more := by
  obtain ⟨hmem, hcomment⟩ := of_mem_above o.mem_locations o.mem_above
  have hkind : o.comment.kind = .comment := by simpa [Token.isComment] using hcomment
  rcases (hforest _ hmem).comment_cases hkind with ⟨line, htext, hnot⟩ | hopening
  · exact absurd hline (newline_not_mem_description htext hnot h.description_eq)
  · exact hopening

/-- The line ends of a name are those of the description. -/
theorem Origin.Makes.newline_mem_name (hforest : WordsAreNames forest) (h : o.Makes g)
    (hline : '\n' ∈ g.name.toList) : '\n' ∈ g.description.toList := by
  rw [h.name_eq, String.toList_append, String.toList_append, List.mem_append, List.mem_append]
    at hline
  rcases hline with (hline | hline) | hline
  · exact absurd hline (o.isName_baseOf hforest).newline_not_mem
  · exact absurd hline (by decide)
  · exact hline

/-- **The line ends of a tag are those of the description.** -/
theorem Origin.Makes.newline_mem_tag (hforest : WordsAreNames forest) (h : o.Makes g) {t : String}
    (ht : t ∈ g.tags) (hline : '\n' ∈ t.toList) : '\n' ∈ g.description.toList := by
  rw [h.tags_eq, Group.mem_generateTags] at ht
  rcases Group.newline_mem_name_of_mem_tagList ht hline with hname | ⟨m, hm, hname⟩
  · exact h.newline_mem_name hforest hname
  · have hmem : m.name ∈ o.names := h.names_eq ▸ List.mem_map_of_mem hm
    exact absurd hname (o.isName_of_mem_names hforest _ hmem).newline_not_mem

end

end Go

end Codebook
