import Codebook.Proofs.Go.Attribution
import Codebook.Proofs.Go.Lowered

/-!
# A comment by itself

A comment between two blank lines is above no declaration and beside none: it ends two rows above
what follows, and starts two rows below what is before it.  So the groups of a file are the same
with it and without.

What is here: `IsAside`, a comment that stands by itself between the trees of a file; and
`IsAside.groupsOf_eq`, that the groups of the file are the same with it and without.
-/

set_option autoImplicit false

namespace Codebook.Go

/-- A comment that is put between the trees of a file, in the place of a blank row, where those
below that are moved down by two rows. -/
structure IsAside (row : Nat) (front : List Tree) (c : Token) (back : List Tree)
    (φ : Token → Token) : Prop where
  /-- The trees below are moved down by two rows. -/
  lowers : Token.Lowers φ 2
  /-- It is a comment. -/
  isComment : c.isComment = true
  /-- It is on the row below the blank one. -/
  row_eq : c.row = row + 1
  /-- It ends there. -/
  endRow_eq : c.endRow = row + 1
  /-- The trees before it end above the row. -/
  above : ∀ t ∈ Tree.forestTokens front, t.endRow < row
  /-- The trees behind it start below the row. -/
  below : ∀ t ∈ back, t.isNamed = true → row < t.row
  /-- No node is empty. -/
  isFilled : ∀ t ∈ front ++ back, t.isFilled = true

section

variable {row : Nat} {front back : List Tree} {c : Token} {φ : Token → Token}

/-! ## Places -/

/-- A location, if the trees are followed by others. -/
def Location.followedBy (more : List Tree) (l : Location) : Location :=
  { l with after := l.after ++ more }

theorem locationsFrom_append (before forest more : List Tree) :
    locationsFrom before (forest ++ more) =
      (locationsFrom before forest).map (Location.followedBy more) ++
        locationsFrom (forest.reverse ++ before) more := by
  induction forest generalizing before with
  | nil => rfl
  | cons t forest ih =>
    rw [List.cons_append, locationsFrom, locationsFrom, ih, List.map_cons, List.reverse_cons,
      List.append_assoc]
    rfl

theorem Tree.endRow_le {t : Tree} (h : ∀ x ∈ t.tokens, x.endRow ≤ row) : t.endRow ≤ row := by
  rw [endRow]
  split
  · rename_i last hlast
    exact h last (List.mem_of_getLast? hlast)
  · exact Nat.zero_le row

/-- Comments that end higher up are not above a row. -/
theorem commentsAbove_eq_nil {before : List Tree}
    (h : ∀ t ∈ before, ∀ x ∈ t.tokens, x.endRow + 1 < row) : commentsAbove row before = [] := by
  cases before with
  | nil => rfl
  | cons t before =>
    cases t with
    | node label parts => rfl
    | leaf x =>
      have hx : x.endRow + 1 ≠ row := Nat.ne_of_lt (h _ List.mem_cons_self x List.mem_cons_self)
      rw [commentsAbove, Tree.comment?]
      cases x.isComment <;> simp [hx]

theorem declaration?_map (φ : Token → Token) (t : Tree) :
    declaration? (t.map φ) =
      (declaration? t).map fun d => (d.1, d.2.map (Tree.map φ)) := by
  cases t with
  | leaf t => rfl
  | node label parts => cases label <;> simp [declaration?]

/-- The parts of a package clause. -/
def clause? : Tree → Option (List Tree)
  | .node .package parts => some parts
  | _ => none

theorem clause?_map (φ : Token → Token) (t : Tree) :
    clause? (t.map φ) = (clause? t).map (List.map (Tree.map φ)) := by
  cases t with
  | leaf t => rfl
  | node label parts => cases label <;> simp [clause?]

theorem findSome?_clause?_map (φ : Token → Token) (forest : List Tree) :
    (forest.map (Tree.map φ)).findSome? clause? =
      (forest.findSome? clause?).map (List.map (Tree.map φ)) := by
  have hclause : clause? ∘ Tree.map φ = Option.map (List.map (Tree.map φ)) ∘ clause? :=
    funext fun t => clause?_map φ t
  rw [List.map_findSome?, ← hclause, List.findSome?_map]

theorem packageOf_eq_clause (forest : List Tree) :
    packageOf forest =
      ((((forest.findSome? clause?).getD []).filterMap wordOf?)[1]?).getD "" := rfl

section

variable {l : Location} {package path : String}

theorem groupAt_of_none (h : declaration? l.tree = none) : groupAt package path l = [] := by
  rw [groupAt, h]
  rfl

theorem groupAt_of_some {d : DeclarationKind × List Tree} (h : declaration? l.tree = some d) :
    groupAt package path l = ((l.above.findSome? description?).bind fun text =>
      groupOf package path d.1 text (specsOf l.after d.2)).toList := by
  rw [groupAt, h]
  rfl

end

/-! ## Above the comment -/

/-- What follows all trees has no say in what is beside a row. -/
def SameBeside (row : Nat) (outer outer' : List Tree) : Prop :=
  ∀ r ≤ row, ∀ levels, beside r (levels ++ [outer]) = beside r (levels ++ [outer'])

theorem specsAmong_congr {outer outer' : List Tree} (h : SameBeside row outer outer')
    {forest : List Tree} (hforest : ∀ t ∈ Tree.forestTokens forest, t.endRow ≤ row)
    (levels : List (List Tree)) :
    specsAmong (levels ++ [outer]) forest = specsAmong (levels ++ [outer']) forest := by
  rw [specsAmong, specsAmong]
  refine List.filterMap_congr fun l hl => ?_
  have hrow : l.tree.endRow ≤ row := by
    refine Tree.endRow_le fun t ht => hforest t ?_
    exact (Within.tokens_sublist_of_mem hl).subset ht
  obtain ⟨before, tree, after⟩ := l
  cases tree with
  | leaf t => rfl
  | node label parts =>
    cases label with
    | spec =>
      have hbeside := h _ hrow (after :: levels)
      exact congrArg (fun c => some (Spec.mk parts _ c)) hbeside
    | _ => rfl

theorem specsOf_congr {outer outer' : List Tree} (h : SameBeside row outer outer')
    {parts : List Tree} (hparts : ∀ t ∈ Tree.forestTokens parts, t.endRow ≤ row) :
    specsOf outer parts = specsOf outer' parts := by
  rw [specsOf, specsOf]
  refine List.flatMap_congr fun l hl => ?_
  have htokens : ∀ t ∈ l.tree.tokens, t.endRow ≤ row :=
    fun t ht => hparts t ((Within.tokens_sublist_of_mem hl).subset ht)
  have hrow := Tree.endRow_le htokens
  obtain ⟨before, tree, after⟩ := l
  cases tree with
  | leaf t => rfl
  | node label parts =>
    cases label with
    | spec => exact congrArg (fun c => [Spec.mk parts _ c]) (h _ hrow [after])
    | varList => exact specsAmong_congr h htokens [after]
    | _ => rfl

namespace IsAside

variable (h : IsAside row front c back φ)

include h

/-- The comment is not beside what is above it. -/
theorem sameBeside (after : List Tree) :
    SameBeside row (after ++ back) (after ++ .leaf c :: back.map (Tree.map φ)) := by
  intro r hr levels
  have hlast : beside r [after ++ back] =
      beside r [after ++ .leaf c :: back.map (Tree.map φ)] := by
    have hnamed : (Tree.leaf c).isNamed = true := h.isComment
    have hfar {t : Tree} (ht : r < t.row) : (t.comment?.filter fun c => c.row == r) = none := by
      cases t with
      | node label parts => rfl
      | leaf x =>
        have hx : (x.row == r) = false := beq_eq_false_iff_ne.2 (Nat.ne_of_gt ht)
        rw [Tree.comment?]
        cases x.isComment <;> simp [Option.filter, hx]
    have hc : r < (Tree.leaf c).row := by
      show r < c.row
      rw [h.row_eq]
      omega
    simp only [beside, List.find?_append, List.find?_cons_of_pos hnamed]
    cases after.find? Tree.isNamed with
    | some t => rfl
    | none =>
      simp only [Option.none_or, hfar hc]
      cases hfind : back.find? Tree.isNamed with
      | none => rfl
      | some t =>
        have ht := h.below t (List.mem_of_find?_eq_some hfind) (List.find?_some hfind)
        exact hfar (Nat.lt_of_le_of_lt hr ht)
  induction levels with
  | nil => exact hlast
  | cons level levels ih =>
    rw [List.cons_append, List.cons_append, beside, beside, ih]

/-- The groups of the trees before the comment. -/
theorem flatMap_front (package path : String) :
    ((locations front).map (Location.followedBy (.leaf c :: back.map (Tree.map φ)))).flatMap
        (groupAt package path) =
      ((locations front).map (Location.followedBy back)).flatMap (groupAt package path) := by
  rw [List.flatMap_map, List.flatMap_map]
  refine List.flatMap_congr fun l hl => ?_
  have htokens : ∀ t ∈ l.tree.tokens, t.endRow ≤ row := fun t ht =>
    Nat.le_of_lt (h.above t ((Within.tokens_sublist_of_mem hl).subset ht))
  have hsame (more : List Tree) : (l.followedBy more).tree = l.tree := rfl
  cases hdeclaration : declaration? l.tree with
  | none =>
    rw [groupAt_of_none ((hsame _).symm ▸ hdeclaration),
      groupAt_of_none ((hsame _).symm ▸ hdeclaration)]
  | some d =>
    obtain ⟨label, hnode⟩ := exists_node_of_declaration? hdeclaration
    rw [hnode] at htokens
    rw [groupAt_of_some ((hsame _).symm ▸ hdeclaration),
      groupAt_of_some ((hsame _).symm ▸ hdeclaration)]
    exact congrArg (fun specs => Option.toList (l.above.findSome? description? |>.bind fun text =>
      groupOf package path d.1 text specs)) (specsOf_congr (h.sameBeside l.after) htokens).symm

/-! ## Below the comment -/

/-- The comments above a tree behind the comment. -/
theorem above_map {before after : List Tree} {t : Tree}
    (hback : back = before.reverse ++ t :: after) (hnamed : t.isNamed = true) :
    (Location.mk (before.map (Tree.map φ) ++ .leaf c :: front.reverse) (t.map φ)
        (after.map (Tree.map φ))).above =
      (Location.mk (before ++ front.reverse) t after).above.map φ := by
  have hmem {x : Tree} (hx : x ∈ before ∨ x = t) : x ∈ back := by
    rw [hback]
    rcases hx with hx | rfl <;> simp [*]
  have hfilled {x : Tree} (hx : x ∈ before ∨ x = t) : x.isFilled = true :=
    h.isFilled x (List.mem_append_right _ (hmem hx))
  have hline : (Tree.leaf c).isLineEnd = false := Token.isLineEnd_of_isComment h.isComment
  rw [Location.above, Location.above, Tree.row_map h.lowers.shifts (hfilled (.inr rfl)),
    List.filter_append, List.filter_append, withoutLineEnds_map h.lowers.shifts,
    List.filter_cons_of_pos (by simp [hline])]
  refine commentsAbove_append_map h.lowers.shifts (P := (row < ·)) ?_ ?_ ?_
    (h.below t (hmem (.inr rfl)) hnamed)
  · exact fun x hx => hfilled (.inl (List.mem_filter.1 hx).1)
  · intro x hx hcomment
    refine h.below x (hmem (.inl (List.mem_filter.1 hx).1)) ?_
    obtain ⟨c, rfl, hc⟩ := Tree.eq_leaf_of_isComment hcomment
    exact hc
  · intro r hr
    have htokens : ∀ x ∈ front.reverse.filter fun t => !t.isLineEnd,
        ∀ y ∈ x.tokens, y.endRow < row := fun x hx y hy =>
      h.above y (Tree.mem_forestTokens.2 ⟨x, List.mem_reverse.1 (List.mem_filter.1 hx).1, hy⟩)
    generalize front.reverse.filter (fun t => !t.isLineEnd) = above at htokens
    have hnone : commentsAbove r above = [] :=
      commentsAbove_eq_nil fun x hx y hy => Nat.lt_of_le_of_lt (htokens x hx y hy) hr
    have hfar : above.head?.any (·.endRow == r) = false := by
      cases above with
      | nil => rfl
      | cons x above =>
        have hx : x.endRow ≤ row := Tree.endRow_le fun y hy =>
          Nat.le_of_lt (htokens x List.mem_cons_self y hy)
        exact beq_eq_false_iff_ne.2 (Nat.ne_of_lt (Nat.lt_of_le_of_lt hx hr))
    have hc : c.endRow + 1 ≠ r + 2 := by rw [h.endRow_eq]; omega
    have hc' : (Tree.leaf c).endRow ≠ r + 2 := by rw [Tree.endRow_leaf, h.endRow_eq]; omega
    constructor
    · rw [hnone, commentsAbove, Tree.comment?, if_pos h.isComment]
      exact if_neg fun hand => hc hand.1
    · rw [hfar]
      exact beq_eq_false_iff_ne.2 hc'

/-- The group of a declaration behind the comment. -/
theorem groupAt_map {before after : List Tree} {t : Tree}
    (hback : back = before.reverse ++ t :: after) (package path : String) :
    groupAt package path ⟨before.map (Tree.map φ) ++ .leaf c :: front.reverse, t.map φ,
        after.map (Tree.map φ)⟩ =
      groupAt package path ⟨before ++ front.reverse, t, after⟩ := by
  have hmoves := h.lowers.toMoves
  cases hdeclaration : declaration? t with
  | none =>
    have hmoved : declaration? (t.map φ) = none := by rw [declaration?_map, hdeclaration]; rfl
    exact (groupAt_of_none hmoved).trans (groupAt_of_none hdeclaration).symm
  | some d =>
    obtain ⟨kind, parts⟩ := d
    obtain ⟨label, rfl⟩ := exists_node_of_declaration? hdeclaration
    have hmem : Tree.node label parts ∈ front ++ back := by rw [hback]; simp
    have hparts := (Tree.isFilled_node.1 (h.isFilled _ hmem)).2
    have hmoved : declaration? ((Tree.node label parts).map φ) =
        some (kind, parts.map (Tree.map φ)) := by rw [declaration?_map, hdeclaration]; rfl
    have hsame : description? ∘ φ = description? := funext (description?_map hmoves)
    refine (groupAt_of_some hmoved).trans (Eq.trans ?_ (groupAt_of_some hdeclaration).symm)
    simp only [h.above_map hback rfl, List.findSome?_map, hsame, specsOf_map h.lowers.shifts hparts,
      groupOf_map hmoves]

/-- The groups of the trees behind the comment. -/
theorem flatMap_back (package path : String) :
    (locationsFrom (.leaf c :: front.reverse) (back.map (Tree.map φ))).flatMap
        (groupAt package path) =
      (locationsFrom front.reverse back).flatMap (groupAt package path) := by
  have hfrom (before after : List Tree) (hback : back = before.reverse ++ after) :
      (locationsFrom (before.map (Tree.map φ) ++ .leaf c :: front.reverse)
          (after.map (Tree.map φ))).flatMap (groupAt package path) =
        (locationsFrom (before ++ front.reverse) after).flatMap (groupAt package path) := by
    induction after generalizing before with
    | nil => rfl
    | cons t after ih =>
      have hmore := ih (t :: before) (by rw [hback, List.reverse_cons, List.append_assoc]; rfl)
      rw [List.map_cons, locationsFrom, locationsFrom, List.flatMap_cons, List.flatMap_cons,
        h.groupAt_map hback]
      exact congrArg (_ ++ ·) hmore
  exact hfrom [] back rfl

theorem packageOf_eq :
    packageOf (front ++ .leaf c :: back.map (Tree.map φ)) = packageOf (front ++ back) := by
  have hback : (Tree.leaf c :: back.map (Tree.map φ)).findSome? clause? =
      (back.findSome? clause?).map (List.map (Tree.map φ)) := findSome?_clause?_map φ back
  rw [packageOf_eq_clause, packageOf_eq_clause, List.findSome?_append, List.findSome?_append, hback]
  cases front.findSome? clause? with
  | some parts => rfl
  | none =>
    rw [Option.none_or, Option.none_or]
    cases back.findSome? clause? with
    | none => rfl
    | some parts =>
      simp only [Option.map_some, Option.getD_some, filterMap_wordOf?_map h.lowers.keeps]

/-- **A comment by itself leaves the groups of a file as they are.** -/
theorem groupsOf_eq (path : String) :
    groupsOf path (front ++ .leaf c :: back.map (Tree.map φ)) = groupsOf path (front ++ back) := by
  rw [Go.groupsOf_eq, Go.groupsOf_eq, h.packageOf_eq]
  generalize packageOf (front ++ back) = package
  rw [locations, locations, locationsFrom_append, locationsFrom_append, List.flatMap_append,
    List.flatMap_append, locationsFrom, List.flatMap_cons, groupAt_leaf, List.nil_append,
    List.append_nil, h.flatMap_back]
  exact congrArg (· ++ _) (h.flatMap_front package path)

end IsAside

end

end Codebook.Go
