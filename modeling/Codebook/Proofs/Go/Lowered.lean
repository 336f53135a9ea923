import Codebook.Proofs.Go.Filled
import Codebook.Proofs.Go.MarkedGroup
import Codebook.Proofs.Go.Origin
import Codebook.Proofs.Go.Places
import Codebook.Proofs.Go.Within

/-!
# Groups further down

Which comment belongs to which tree is told by differences of rows only.  So trees that all stand so
many rows further down have the same comments, and declare the same.

What is here: `Token.Lowers`, tokens moved down, and `Token.Shifts`, tokens so many rows further
down that may have other texts; `Location.above_map` and `beside_map`, the comments of trees further
down; and `specsOf_map` and `Spec.members_map`, that these declare the same.
-/

set_option autoImplicit false

namespace Codebook.Go

/-! ## Rows -/

/-- A change of tokens that moves them so many rows down. -/
structure Token.Lowers (φ : Token → Token) (k : Nat) : Prop extends Token.Moves φ where
  /-- They start so many rows further down. -/
  row_eq : ∀ t, (φ t).row = t.row + k
  /-- And so do they end. -/
  endRow_eq : ∀ t, (φ t).endRow = t.endRow + k

/-- A change of tokens to ones of the same sort that are so many rows further down. -/
structure Token.Shifts (φ : Token → Token) (k : Nat) : Prop where
  /-- The sort stays. -/
  kind_eq : ∀ t, (φ t).kind = t.kind
  /-- They start so many rows further down. -/
  row_eq : ∀ t, (φ t).row = t.row + k
  /-- And so do they end. -/
  endRow_eq : ∀ t, (φ t).endRow = t.endRow + k

section

variable {φ : Token → Token} {k : Nat}

theorem Token.Lowers.shifts (h : Token.Lowers φ k) : Token.Shifts φ k :=
  ⟨h.kind_eq, h.row_eq, h.endRow_eq⟩

variable (hφ : Token.Shifts φ k)

include hφ

namespace Tree

theorem row_map {t : Tree} (h : t.isFilled = true) : (t.map φ).row = t.row + k := by
  obtain ⟨x, xs, heq⟩ := List.exists_cons_of_ne_nil (tokens_ne_nil h)
  rw [row, row, tokens_map, heq]
  exact hφ.row_eq x

theorem endRow_map {t : Tree} (h : t.isFilled = true) : (t.map φ).endRow = t.endRow + k := by
  have hlast := List.getLast?_eq_some_getLast (tokens_ne_nil h)
  rw [endRow, endRow, tokens_map, List.getLast?_map, hlast]
  exact hφ.endRow_eq _

end Tree

/-! ## Comments -/

/-- The comments above a row are those above the row further down, if so are the comments of what is
before. -/
theorem commentsAbove_append_map {P : Nat → Prop} {before tail tail' : List Tree}
    (hfilled : ∀ t ∈ before, t.isFilled = true) (hrows : ∀ t ∈ before, t.isComment = true → P t.row)
    (htail : ∀ row, P row → commentsAbove (row + k) tail' = (commentsAbove row tail).map φ ∧
      tail'.head?.any (·.endRow == row + k) = tail.head?.any (·.endRow == row))
    {row : Nat} (hrow : P row) :
    commentsAbove (row + k) (before.map (Tree.map φ) ++ tail') =
      (commentsAbove row (before ++ tail)).map φ := by
  induction before generalizing row with
  | nil => exact (htail row hrow).1
  | cons t before ih =>
    rw [List.forall_mem_cons] at hfilled
    rw [List.map_cons, List.cons_append, List.cons_append, commentsAbove, commentsAbove,
      Tree.comment?_map hφ.kind_eq]
    cases hcomment : t.comment? with
    | none => rfl
    | some c =>
      obtain ⟨rfl, -⟩ := comment?_eq_some hcomment
      have hc : P c.row :=
        hrows (.leaf c) List.mem_cons_self (by rw [Tree.isComment, hcomment]; rfl)
      have hhead : (before.map (Tree.map φ) ++ tail').head?.any (·.endRow == c.row + k) =
          (before ++ tail).head?.any (·.endRow == c.row) := by
        cases before with
        | nil => exact (htail c.row hc).2
        | cons x before =>
          have hx := hfilled.2 x List.mem_cons_self
          simp [Tree.endRow_map hφ hx]
      have habove := ih hfilled.2 (fun t ht => hrows t (List.mem_cons_of_mem _ ht)) hc
      have hiff : c.endRow + k + 1 = row + k ↔ c.endRow + 1 = row := by omega
      simp only [Option.map_some, hφ.endRow_eq, hφ.row_eq, hhead, habove, hiff]
      split
      · rw [List.map_append, List.map_singleton]
      · rfl

/-- The comments above a row are those above the row further down. -/
theorem commentsAbove_map {before : List Tree} (h : ∀ t ∈ before, t.isFilled = true) (row : Nat) :
    commentsAbove (row + k) (before.map (Tree.map φ)) = (commentsAbove row before).map φ := by
  have happend : commentsAbove (row + k) (before.map (Tree.map φ) ++ []) =
      (commentsAbove row (before ++ [])).map φ :=
    commentsAbove_append_map hφ (P := fun _ => True) h (fun _ _ _ => trivial)
      (fun _ _ => ⟨rfl, rfl⟩) trivial
  rwa [List.append_nil, List.append_nil] at happend

/-- The comment beside a row is that beside the row further down. -/
theorem beside_map (row : Nat) (levels : List (List Tree)) :
    beside (row + k) (levels.map (List.map (Tree.map φ))) = (beside row levels).map φ := by
  induction levels with
  | nil => rfl
  | cons level levels ih =>
    have hnamed : Tree.isNamed ∘ Tree.map φ = Tree.isNamed :=
      funext fun t => Tree.isNamed_map hφ.kind_eq t
    rw [List.map_cons, beside, beside, List.find?_map, hnamed]
    cases level.find? Tree.isNamed with
    | none => exact ih
    | some t =>
      simp only [Option.map_some, Tree.comment?_map hφ.kind_eq]
      cases t.comment? with
      | none => rfl
      | some c => simp [Option.filter, hφ.row_eq]

end

/-- A tree among its siblings, with all tokens changed. -/
def Location.map (φ : Token → Token) (l : Location) : Location :=
  ⟨l.before.map (Tree.map φ), l.tree.map φ, l.after.map (Tree.map φ)⟩

theorem locationsFrom_map (φ : Token → Token) (before forest : List Tree) :
    locationsFrom (before.map (Tree.map φ)) (forest.map (Tree.map φ)) =
      (locationsFrom before forest).map (Location.map φ) := by
  induction forest generalizing before with
  | nil => rfl
  | cons t forest ih =>
    rw [List.map_cons, locationsFrom, locationsFrom, List.map_cons, ← ih (t :: before)]
    rfl

theorem locations_map (φ : Token → Token) (forest : List Tree) :
    locations (forest.map (Tree.map φ)) = (locations forest).map (Location.map φ) :=
  locationsFrom_map φ [] forest

theorem isFilled_of_mem_locations {forest : List Tree} (h : ∀ t ∈ forest, t.isFilled = true)
    {l : Location} (hl : l ∈ locations forest) :
    l.tree.isFilled = true ∧ ∀ t ∈ l.before, t.isFilled = true := by
  rw [← mem_locations_iff.1 hl] at h
  exact ⟨h _ (by simp), fun t ht => h t (by simp [ht])⟩

/-- A specification with its tokens changed. -/
def Spec.map (φ : Token → Token) (s : Spec) : Spec :=
  ⟨s.parts.map (Tree.map φ), s.above.map φ, s.beside.map φ⟩

section

variable {φ : Token → Token} {k : Nat} (hφ : Token.Shifts φ k)

include hφ

theorem withoutLineEnds_map (trees : List Tree) :
    (trees.map (Tree.map φ)).filter (fun t => !t.isLineEnd) =
      (trees.filter fun t => !t.isLineEnd).map (Tree.map φ) := by
  have hsame : (fun t : Tree => !t.isLineEnd) ∘ Tree.map φ = fun t => !t.isLineEnd :=
    funext fun t => congrArg Bool.not (Tree.isLineEnd_map hφ.kind_eq t)
  rw [List.filter_map, hsame]

/-- The comments of a tree further down. -/
theorem Location.above_map {l : Location} (htree : l.tree.isFilled = true)
    (hbefore : ∀ t ∈ l.before, t.isFilled = true) : (l.map φ).above = l.above.map φ := by
  rw [above, above, Location.map]
  simp only [Tree.row_map hφ htree, withoutLineEnds_map hφ]
  exact commentsAbove_map hφ (fun t ht => hbefore t (List.mem_filter.1 ht).1) _

/-! ## Specifications -/

/-- A specification at a place further down. -/
theorem specAt_map {l : Location} (htree : l.tree.isFilled = true)
    (hbefore : ∀ t ∈ l.before, t.isFilled = true) (parts : List Tree) (outer : List (List Tree)) :
    Spec.mk (Tree.mapAll φ parts) (l.map φ).above
        (beside (l.tree.map φ).endRow
          (l.after.map (Tree.map φ) :: outer.map (List.map (Tree.map φ)))) =
      (Spec.mk parts l.above (beside l.tree.endRow (l.after :: outer))).map φ := by
  rw [Location.above_map hφ htree hbefore, Tree.endRow_map hφ htree, ← List.map_cons,
    beside_map hφ, Tree.mapAll_eq]
  rfl

theorem specsAmong_map {forest : List Tree} (h : ∀ t ∈ forest, t.isFilled = true)
    (outer : List (List Tree)) :
    specsAmong (outer.map (List.map (Tree.map φ))) (forest.map (Tree.map φ)) =
      (specsAmong outer forest).map (Spec.map φ) := by
  rw [specsAmong, specsAmong, locations_map, List.filterMap_map, List.map_filterMap]
  refine List.filterMap_congr fun l hl => ?_
  obtain ⟨htree, hbefore⟩ := isFilled_of_mem_locations h hl
  obtain ⟨before, tree, after⟩ := l
  cases tree with
  | leaf t => rfl
  | node label parts =>
    cases label with
    | spec => exact congrArg some (specAt_map hφ htree hbefore parts outer)
    | _ => rfl

theorem specsOf_map {parts : List Tree} (h : ∀ t ∈ parts, t.isFilled = true) (outer : List Tree) :
    specsOf (outer.map (Tree.map φ)) (parts.map (Tree.map φ)) =
      (specsOf outer parts).map (Spec.map φ) := by
  rw [specsOf, specsOf, locations_map, List.flatMap_map, List.map_flatMap]
  refine List.flatMap_congr fun l hl => ?_
  obtain ⟨htree, hbefore⟩ := isFilled_of_mem_locations h hl
  obtain ⟨before, tree, after⟩ := l
  cases tree with
  | leaf t => rfl
  | node label parts =>
    cases label with
    | spec => exact congrArg (fun s => [s]) (specAt_map hφ htree hbefore parts [outer])
    | varList =>
      have hinner := specsAmong_map hφ (Tree.isFilled_node.1 htree).2 [after, outer]
      rw [← Tree.mapAll_eq] at hinner
      exact hinner
    | _ => rfl

end

/-! ## What is declared -/

section

variable {φ : Token → Token} (hφ : Token.Keeps φ)

include hφ

theorem wordOf?_map (t : Tree) : wordOf? (t.map φ) = wordOf? t := by
  cases t with
  | node label parts => rfl
  | leaf t =>
    rw [Tree.map_leaf, wordOf?, wordOf?, hφ.kind_eq]
    by_cases hkind : t.kind = .word
    · rw [hφ.text_eq t (.inl hkind)]
    · rw [beq_eq_false_iff_ne.2 hkind]
      rfl

theorem filterMap_wordOf?_map (parts : List Tree) :
    (parts.map (Tree.map φ)).filterMap wordOf? = parts.filterMap wordOf? := by
  rw [List.filterMap_map]
  exact List.filterMap_congr fun t _ => wordOf?_map hφ t

namespace Spec

theorem names_map (s : Spec) : (s.map φ).names = s.names := filterMap_wordOf?_map hφ s.parts

theorem typeName?_map (s : Spec) : (s.map φ).typeName? = s.typeName? := by
  rw [typeName?, typeName?, map, List.findSome?_map]
  refine congrArg (fun f => s.parts.findSome? f) (funext fun t => ?_)
  cases t with
  | leaf t => rfl
  | node label parts =>
    match label, parts with
    | .type, [t] => exact wordOf?_map hφ t
    | .type, [] | .type, _ :: _ :: _ => rfl
    | .package, _ | .consts, _ | .vars, _ | .varList, _ | .spec, _ | .value, _ | .item, _ => rfl

end Spec

theorem baseOf_map (specs : List Spec) : baseOf (specs.map (Spec.map φ)) = baseOf specs := by
  match specs with
  | [] => rfl
  | [s] => simp [baseOf, Spec.names_map hφ, Spec.typeName?_map hφ]
  | s :: _ :: _ => simp [baseOf, Spec.names_map hφ]

end

section

variable {φ : Token → Token}

/-- Comments of which each says the same say the same together. -/
theorem commentText_map {cs : List Token}
    (h : ∀ c ∈ cs, commentLines (φ c).text.toList = commentLines c.text.toList) :
    commentText (cs.map φ) = commentText cs := by
  rw [commentText, commentText, List.flatMap_map, List.flatMap_congr h]

namespace Spec

/-- The comments that belong to a specification. -/
def comments (s : Spec) : List Token := s.above ++ s.beside.toList

theorem comment_map {s : Spec}
    (h : ∀ c ∈ s.comments, commentLines (φ c).text.toList = commentLines c.text.toList)
    (description : String) : (s.map φ).comment description = s.comment description := by
  obtain ⟨parts, above, beside⟩ := s
  rw [comments, List.forall_mem_append] at h
  cases beside with
  | some c =>
    have hbeside : commentText ([c].map φ) = commentText [c] := commentText_map h.2
    exact hbeside
  | none =>
    cases above with
    | nil => rfl
    | cons c cs =>
      have habove : commentText ((c :: cs).map φ) = commentText (c :: cs) := commentText_map h.1
      exact habove

/-- What is made of the values is the same if it is the same for the tokens of each. -/
theorem map_values_map {α : Type} (F : Value → α) (hkind : ∀ t, (φ t).kind = t.kind)
    (hvalue : ∀ ts : List Token, (∀ t ∈ ts, t.isComment = false) →
      F (valueOf (ts.map φ)) = F (valueOf ts)) (s : Spec) :
    (s.map φ).values.map F = s.values.map F := by
  rw [values, values, map, List.filterMap_map, List.map_filterMap, List.map_filterMap]
  refine List.filterMap_congr fun t _ => ?_
  cases t with
  | leaf t => rfl
  | node label parts =>
    cases label with
    | value =>
      have hsame : (fun t : Token => !t.isComment) ∘ φ = fun t => !t.isComment :=
        funext fun t => congrArg Bool.not (t.isComment_map hkind)
      refine congrArg some ?_
      rw [Tree.forestTokens_mapAll, List.filter_map, hsame]
      exact hvalue _ fun t ht => by simpa using (List.mem_filter.1 ht).2
    | _ => rfl

end Spec

end

section

variable {φ : Token → Token} (hφ : Token.Moves φ)

include hφ

theorem valueOf_map (ts : List Token) : valueOf (ts.map φ) = valueOf ts := by
  match ts with
  | [] => rfl
  | [t] => simp only [List.map_cons, List.map_nil, valueOf, hφ.kind_eq, hφ.text_eq]
  | [t, u] => rfl
  | [t, u, v] => simp only [List.map_cons, List.map_nil, valueOf, hφ.kind_eq, hφ.text_eq]
  | _ :: _ :: _ :: _ :: _ => rfl

theorem description?_map (c : Token) : description? (φ c) = description? c := by
  simp only [description?, hφ.text_eq]

/-- **Further down the same is declared.** -/
theorem Spec.members_map (s : Spec) (description : String) :
    (s.map φ).members description = s.members description := by
  have hvalues : (s.map φ).values = s.values := by
    simpa using Spec.map_values_map id hφ.kind_eq (fun ts _ => valueOf_map hφ ts) s
  rw [members, members, comment_map fun c _ => by rw [hφ.text_eq], names_map hφ.keeps, hvalues]

theorem groupOf_map (package file : String) (kind : DeclarationKind) (description : String)
    (specs : List Spec) : groupOf package file kind description (specs.map (Spec.map φ)) =
      groupOf package file kind description specs := by
  simp only [groupOf, List.flatMap_map, Spec.members_map hφ, baseOf_map hφ.keeps]

end

end Codebook.Go
