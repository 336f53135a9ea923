import Codebook.Proofs.Go.Alike
import Codebook.Proofs.Go.Aside
import Codebook.Proofs.Go.MarkedLine

/-!
# Groups that show the same

A group is made of words, of what comments say, and of the texts of values.  So if all tokens of a
file are changed to tokens that show the same, the groups change at most in their values, and these
show the same in a table.

What is here: `shown_valueOf_map` and `map_shown_members_map`, values and members of changed tokens;
`map_shown_groupsOf_map`, the groups of a file; and `exists_scan_addReturns`, those of a file with
carriage returns before its line feeds.
-/

set_option autoImplicit false

namespace Codebook

open Text

namespace Document

/-- A single point is shown as it is, and nothing else is shown as one. -/
theorem flatten_eq_point_iff {cs : List Char} : flatten cs = ['.'] ↔ cs = ['.'] := by
  refine ⟨fun h => ?_, ?_⟩
  swap
  · rintro rfl
    rfl
  have hnil {cs : List Char} (h : flatten cs = []) : cs = [] := by
    unfold flatten at h
    split at h <;> simp_all
  unfold flatten at h
  split at h
  case h_5 c cs _ _ _ =>
    obtain ⟨rfl, hrest⟩ := List.cons.inj h
    rw [hnil hrest]
  all_goals simp at h

end Document

namespace Group

/-- The tags of a group do not come from its values. -/
theorem generateTags_of_shown_eq {g g' : Group} (h : g'.shown = g.shown) :
    g'.generateTags = g.generateTags := by
  have hshown (g : Group) : g.shown.generateTags = g.generateTags := by
    simp only [generateTags, tagList, shown, List.flatMap_map, Member.shown]
  rw [← hshown, h, hshown]

end Group

namespace Go

/-! ## Values and descriptions -/

/-- What a comment says about a group is told by its lines. -/
theorem description?_of_lines_eq {c d : Token}
    (h : commentLines d.text.toList = commentLines c.text.toList) :
    description? d = description? c := by
  have hmarked : containsText marker d.text.toList = containsText marker c.text.toList := by
    rw [Bool.eq_iff_iff, ← exists_marked_commentLines_iff, ← exists_marked_commentLines_iff, h]
  rw [description?, description?, hmarked, h]

/-- Members show the same if their values do. -/
theorem map_shown_membersOf (comment : String) (names : List String) {values values' : List Value}
    (h : values'.map Value.shown = values.map Value.shown) :
    (membersOf comment names values').map Member.shown =
      (membersOf comment names values).map Member.shown := by
  induction names generalizing values values' with
  | nil => rfl
  | cons name names ih =>
    cases values with
    | nil =>
      obtain rfl := List.map_eq_nil_iff.1 h
      rfl
    | cons v values =>
      obtain ⟨v', values', rfl, hv, hvalues⟩ := List.map_eq_cons_iff.1 h
      rw [membersOf, membersOf, List.map_cons, List.map_cons, ih hvalues, Member.shown,
        Member.shown, hv]

section

variable {φ : Token → Token} (hφ : ∀ t, Token.Alike t (φ t))

include hφ

theorem keeps_of_alike : Token.Keeps φ := ⟨fun t => (hφ t).kind_eq, fun t => (hφ t).text_eq⟩

theorem shifts_of_alike : Token.Shifts φ 0 :=
  ⟨fun t => (hφ t).kind_eq, fun t => (hφ t).row_eq, fun t => (hφ t).endRow_eq⟩

/-- **The value of tokens that show the same shows the same.** -/
theorem shown_valueOf_map {ts : List Token} (hts : ∀ t ∈ ts, t.isComment = false) :
    (valueOf (ts.map φ)).shown = (valueOf ts).shown := by
  have hkind (t : Token) : (φ t).kind = t.kind := (hφ t).kind_eq
  have hflatten {t : Token} (ht : t ∈ ts) :
      Document.flatten (φ t).text.toList = Document.flatten t.text.toList :=
    (hφ t).flatten_eq fun hcomment => by
      have hnot := hts t ht
      rw [Token.isComment, hcomment] at hnot
      cases hnot
  rcases ts with _ | ⟨t, _ | ⟨dot, _ | ⟨u, _ | ⟨v, rest⟩⟩⟩⟩
  case nil | cons.cons.nil | cons.cons.cons.cons => rfl
  case cons.nil =>
    have ht := hflatten (List.mem_singleton_self t)
    rw [List.map_singleton, valueOf, valueOf, hkind]
    split
    · rw [Value.shown, Value.shown, Value.display, Value.display, ht]
    · split
      · rw [Value.shown, Value.shown, Value.display, Value.display, ht]
      · rfl
  case cons.cons.cons.nil =>
    have hdot : ((φ dot).text == ".") = (dot.text == ".") := by
      have hpoint (x : Token) : x.text = "." ↔ Document.flatten x.text.toList = ['.'] := by
        rw [Document.flatten_eq_point_iff, ← String.toList_inj]
        rfl
      rw [Bool.eq_iff_iff, beq_iff_eq, beq_iff_eq, hpoint, hpoint, hflatten (by simp)]
    simp only [List.map_cons, List.map_nil, valueOf, hkind, hdot]
    by_cases ht : t.kind = .word
    · by_cases hu : u.kind = .word
      · rw [(hφ t).text_eq (.inl ht), (hφ u).text_eq (.inl hu)]
      · simp [hu]
    · simp [ht]

/-! ## Specifications -/

omit hφ in
/-- The comments of a specification are comments. -/
theorem isComment_of_mem_comments {outer parts : List Tree} {s : Spec}
    (hs : s ∈ specsOf outer parts) : ∀ c ∈ s.comments, c.isComment = true := by
  obtain ⟨d, hd, hs⟩ := List.mem_flatMap.1 hs
  obtain ⟨levels, l, hl, -, habove, hbeside⟩ := exists_within_of_mem_specsAt hd hs
  rw [Spec.comments, List.forall_mem_append, habove, hbeside]
  exact ⟨fun c hc => (of_mem_commentsAbove hc).2,
    fun c hc => (beside_eq_some (Option.mem_toList.1 hc)).1⟩

/-- **A specification of tokens that show the same declares members that show the same.** -/
theorem map_shown_members_map {s : Spec} (hs : ∀ c ∈ s.comments, c.isComment = true)
    (description : String) :
    ((s.map φ).members description).map Member.shown =
      (s.members description).map Member.shown := by
  have hcomment : (s.map φ).comment description = s.comment description :=
    Spec.comment_map (fun c hc => (hφ c).lines_eq (by simpa [Token.isComment] using hs c hc)) _
  have hvalues : (s.map φ).values.map Value.shown = s.values.map Value.shown :=
    Spec.map_values_map Value.shown (fun t => (hφ t).kind_eq) (fun _ => shown_valueOf_map hφ) s
  rw [Spec.members, Spec.members, hcomment, Spec.names_map (keeps_of_alike hφ),
    map_shown_membersOf _ _ hvalues]

/-! ## Groups -/

theorem map_shown_groupOf_map (specs : List Spec)
    (hspecs : ∀ s ∈ specs, ∀ c ∈ s.comments, c.isComment = true) (package path : String)
    (kind : DeclarationKind) (description : String) :
    (groupOf package path kind description (specs.map (Spec.map φ))).map Group.shown =
      (groupOf package path kind description specs).map Group.shown := by
  have hmembers : ((specs.map (Spec.map φ)).flatMap (·.members description)).map Member.shown =
      (specs.flatMap (·.members description)).map Member.shown := by
    rw [List.flatMap_map, List.map_flatMap, List.map_flatMap]
    exact List.flatMap_congr fun s hs => map_shown_members_map hφ (hspecs s hs) description
  rw [groupOf, groupOf, baseOf_map (keeps_of_alike hφ)]
  cases hold : specs.flatMap (·.members description) with
  | nil =>
    rw [hold] at hmembers
    rw [List.map_eq_nil_iff.1 hmembers]
  | cons m members =>
    rw [hold, List.map_cons] at hmembers
    obtain ⟨m', members', hnew, hm, hrest⟩ := List.map_eq_cons_iff.1 hmembers
    simp only [hnew, Option.map_some, Group.shown, List.map_cons, hm, hrest]
    congr 2
    exact Group.generateTags_of_shown_eq (by simp only [Group.shown, List.map_cons, hm, hrest])

/-- **A declaration of tokens that show the same has a group that shows the same.** -/
theorem map_shown_groupAt_map {forest : List Tree} (hforest : ∀ t ∈ forest, t.isFilled = true)
    {l : Location} (hl : l ∈ locations forest) (package path : String) :
    (groupAt package path (l.map φ)).map Group.shown =
      (groupAt package path l).map Group.shown := by
  have hshifts := shifts_of_alike hφ
  obtain ⟨htree, hbefore⟩ := isFilled_of_mem_locations hforest hl
  have hmap : declaration? (l.map φ).tree =
      (declaration? l.tree).map fun d => (d.1, d.2.map (Tree.map φ)) := declaration?_map φ l.tree
  cases hdeclaration : declaration? l.tree with
  | none =>
    rw [hdeclaration] at hmap
    rw [groupAt_of_none hmap, groupAt_of_none hdeclaration]
  | some d =>
    obtain ⟨kind, parts⟩ := d
    obtain ⟨label, hnode⟩ := exists_node_of_declaration? hdeclaration
    have hparts : ∀ t ∈ parts, t.isFilled = true := by
      rw [hnode] at htree
      exact (Tree.isFilled_node.1 htree).2
    have habove : ((l.above.map φ).findSome? description?) = l.above.findSome? description? := by
      rw [← List.head?_filterMap, ← List.head?_filterMap, List.filterMap_map]
      refine congrArg List.head? (List.filterMap_congr fun c hc => ?_)
      have hcomment : c.kind = .comment := by
        simpa [Token.isComment] using (of_mem_above hl hc).2
      exact description?_of_lines_eq ((hφ c).lines_eq hcomment)
    have hspecs : specsOf (l.map φ).after (parts.map (Tree.map φ)) =
        (specsOf l.after parts).map (Spec.map φ) := specsOf_map hshifts hparts l.after
    rw [hdeclaration] at hmap
    rw [groupAt_of_some hmap, groupAt_of_some hdeclaration,
      Location.above_map hshifts htree hbefore, habove, hspecs]
    cases l.above.findSome? description? with
    | none => rfl
    | some description =>
      have hgroup := map_shown_groupOf_map hφ (specsOf l.after parts)
        (fun s hs => isComment_of_mem_comments hs) package path kind description
      simp only [Option.bind_some, ← Option.toList_map, hgroup]

theorem packageOf_map (forest : List Tree) :
    packageOf (forest.map (Tree.map φ)) = packageOf forest := by
  rw [packageOf_eq_clause, packageOf_eq_clause, findSome?_clause?_map]
  cases forest.findSome? clause? with
  | none => rfl
  | some parts =>
    simp only [Option.map_some, Option.getD_some, filterMap_wordOf?_map (keeps_of_alike hφ)]

/-- **Trees of tokens that show the same have groups that show the same.** -/
theorem map_shown_groupsOf_map {forest : List Tree} (hforest : ∀ t ∈ forest, t.isFilled = true)
    (path : String) : (groupsOf path (forest.map (Tree.map φ))).map Group.shown =
      (groupsOf path forest).map Group.shown := by
  rw [groupsOf_eq, groupsOf_eq, packageOf_map hφ, locations_map, List.flatMap_map,
    List.map_flatMap, List.map_flatMap]
  exact List.flatMap_congr fun l hl => map_shown_groupAt_map hφ hforest hl _ path

end

/-! ## Files -/

/-- The tokens of a file, if it has any. -/
def tokensOf (bytes : List UInt8) : List Token :=
  ((Utf8.decode? bytes).bind fun source => (Token.scan source).toOption).getD []

/-- The runes and the strings in quotes of a file are each on one line. -/
def QuotesOnOneLine (bytes : List UInt8) : Prop :=
  ∀ t ∈ tokensOf bytes, IsQuoted t.kind t.text.toList → '\n' ∉ t.text.toList

instance (bytes : List UInt8) : Decidable (QuotesOnOneLine bytes) :=
  inferInstanceAs (Decidable (∀ t ∈ tokensOf bytes, _))

/-- **A file with carriage returns before its line feeds has groups that show the same.** -/
theorem exists_scan_addReturns {path : String} {bytes : List UInt8} {gs : List Group}
    (hreturn : 0x0D ∉ bytes) (hquotes : QuotesOnOneLine bytes) (h : scan path bytes = .ok gs) :
    ∃ gs', scan path (addReturns (fun _ => true) bytes) = .ok gs' ∧
      gs'.map Group.shown = gs.map Group.shown := by
  obtain ⟨forest, hread, rfl⟩ := exists_readFile_of_scan h
  obtain ⟨source, ts, hsource, hscan, hgives⟩ := readFile_eq_ok_iff.1 hread
  have htokens : tokensOf bytes = ts := by
    rw [tokensOf, hsource, Option.bind_some, hscan]
    rfl
  obtain ⟨φ, hφ, hscan'⟩ := exists_alike_of_scan hscan (return_not_mem_of_decode? hsource hreturn)
    (htokens ▸ hquotes)
  have hsource' : Utf8.decode? (addReturns (fun _ => true) bytes) = some (returned source) := by
    rw [decode?_addReturns, hsource]
    rfl
  have hgives' := hgives.map_keeps (keeps_of_alike hφ) (by decide)
  have hread' : readFile path (addReturns (fun _ => true) bytes) =
      .ok (forest.map (Tree.map φ)) := readFile_eq_ok_iff.2 ⟨_, _, hsource', hscan', hgives'⟩
  refine ⟨_, ?_, map_shown_groupsOf_map hφ (hgives.isFilled (by decide) _ rfl) path⟩
  rw [scan, hread']
  rfl

end Go

end Codebook
