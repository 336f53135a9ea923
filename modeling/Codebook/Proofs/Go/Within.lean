import Codebook.Proofs.Go.Scanning

/-!
# Trees within trees

A tree stands among its siblings, and these within a tree that has siblings of its own.  Since no
token of a file occurs twice, there is one place only where a token stands.

What is here: `mem_locations_iff`, what a location is; `Within`, a tree at any depth with what
follows the trees that hold it; and `Within.unique`, that a token has one place.
-/

set_option autoImplicit false

namespace Codebook.Go

/-! ## Siblings -/

theorem mem_locationsFrom (before pre : List Tree) (t : Tree) (after : List Tree) :
    ⟨pre.reverse ++ before, t, after⟩ ∈ locationsFrom before (pre ++ t :: after) := by
  induction pre generalizing before with
  | nil => exact List.mem_cons_self
  | cons x pre ih =>
    rw [List.reverse_cons, List.append_assoc]
    exact List.mem_cons_of_mem _ (ih (x :: before))

/-- **A location of some trees is a way to split them at one.** -/
theorem mem_locations_iff {forest : List Tree} {l : Location} :
    l ∈ locations forest ↔ l.before.reverse ++ l.tree :: l.after = forest := by
  constructor
  · exact siblings_of_mem_locationsFrom
  · rintro rfl
    have hmem := mem_locationsFrom [] l.before.reverse l.tree l.after
    rwa [List.reverse_reverse, List.append_nil] at hmem

theorem exists_append_of_mem_locationsFrom {before forest : List Tree} {l : Location}
    (h : l ∈ locationsFrom before forest) : ∃ mid, forest = mid ++ l.tree :: l.after := by
  induction forest generalizing before with
  | nil => cases h
  | cons t ts ih =>
    rcases List.mem_cons.1 h with rfl | h
    · exact ⟨[], rfl⟩
    · obtain ⟨mid, hmid⟩ := ih h
      exact ⟨t :: mid, congrArg (t :: ·) hmid⟩

/-- Each location follows those before it. -/
theorem pairwise_locations (forest : List Tree) :
    (locations forest).Pairwise fun l l' => ∃ mid, l.after = mid ++ l'.tree :: l'.after := by
  have hfrom (before : List Tree) : (locationsFrom before forest).Pairwise
      fun l l' => ∃ mid, l.after = mid ++ l'.tree :: l'.after := by
    induction forest generalizing before with
    | nil => exact .nil
    | cons t ts ih =>
      exact .cons (fun l hl => exists_append_of_mem_locationsFrom hl) (ih (t :: before))
  exact hfrom []

/-- Where no token occurs twice, siblings have none in common. -/
theorem eq_of_mem_tokens {forest : List Tree} (hnodup : (Tree.forestTokens forest).Nodup)
    {l l' : Location} (hl : l ∈ locations forest) (hl' : l' ∈ locations forest) {c : Token}
    (hc : c ∈ l.tree.tokens) (hc' : c ∈ l'.tree.tokens) : l = l' := by
  have hsame {x y : Location} (hx : x ∈ locations forest) (hcx : c ∈ x.tree.tokens)
      (hcy : c ∈ y.tree.tokens) {mid : List Tree}
      (hbefore : y.before.reverse = x.before.reverse ++ mid)
      (hrest : x.tree :: x.after = mid ++ y.tree :: y.after) : x = y := by
    cases mid with
    | nil =>
      obtain ⟨htree, hafter⟩ := List.cons.inj hrest
      have hbefore := List.reverse_inj.1 (hbefore.trans (List.append_nil _))
      cases x
      cases y
      simp_all only
    | cons t mid =>
      have hafter : x.after = mid ++ y.tree :: y.after := (List.cons.inj hrest).2
      rw [← mem_locations_iff.1 hx, hafter] at hnodup
      simp only [Tree.forestTokens_append, Tree.forestTokens_cons] at hnodup
      have htwice : c ∈ Tree.forestTokens mid ++
          (y.tree.tokens ++ Tree.forestTokens y.after) :=
        List.mem_append_right _ (List.mem_append_left _ hcy)
      exact absurd rfl ((List.nodup_append.1 (List.nodup_append.1 hnodup).2.1).2.2 c hcx c htwice)
  rcases List.append_eq_append_iff.1
    ((mem_locations_iff.1 hl).trans (mem_locations_iff.1 hl').symm) with
    ⟨mid, hbefore, hrest⟩ | ⟨mid, hbefore, hrest⟩
  · exact hsame hl hc hc' hbefore hrest
  · exact (hsame hl' hc' hc hbefore hrest).symm

/-! ## Trees at any depth -/

/-- A location at any depth of some trees.  The levels are what follows the tree that holds it, what
follows the tree that holds that one, and so on, and behind these what follows all of the trees. -/
inductive Within : List (List Tree) → List Tree → List (List Tree) → Location → Prop where
  /-- It is one of the trees. -/
  | here {outer : List (List Tree)} {forest : List Tree} {l : Location} (h : l ∈ locations forest) :
      Within outer forest outer l
  /-- It is a part of one of the trees. -/
  | inside {outer levels : List (List Tree)} {forest parts : List Tree} {d l : Location}
      {label : Label} (hd : d ∈ locations forest) (htree : d.tree = .node label parts)
      (h : Within (d.after :: outer) parts levels l) : Within outer forest levels l

namespace Within

variable {outer levels levels' : List (List Tree)} {forest : List Tree} {l l' : Location}

theorem tokens_sublist_of_mem {l : Location} (h : l ∈ locations forest) :
    l.tree.tokens.Sublist (Tree.forestTokens forest) := by
  rw [← mem_locations_iff.1 h, Tree.forestTokens_append, Tree.forestTokens_cons]
  exact (List.sublist_append_left _ _).trans (List.sublist_append_right _ _)

/-- The tokens of a tree and of its siblings stand in their order. -/
theorem sublist (h : Within outer forest levels l) :
    (Tree.forestTokens (l.before.reverse ++ l.tree :: l.after)).Sublist
      (Tree.forestTokens forest) := by
  induction h with
  | here h =>
    simp only [mem_locations_iff.1 h, List.Sublist.refl]
  | inside hd htree h ih =>
    have hparts := tokens_sublist_of_mem hd
    rw [htree, Tree.tokens_node] at hparts
    exact ih.trans hparts

theorem mem_forestTokens (h : Within outer forest levels l) {c : Token} (hc : c ∈ l.tree.tokens) :
    c ∈ Tree.forestTokens forest := by
  refine h.sublist.subset ?_
  rw [Tree.forestTokens_append, Tree.forestTokens_cons]
  exact List.mem_append_right _ (List.mem_append_left _ hc)

/-- The siblings of a tree stand where it stands. -/
theorem sibling (h : Within outer forest levels l)
    (hl' : l' ∈ locations (l.before.reverse ++ l.tree :: l.after)) :
    Within outer forest levels l' := by
  induction h with
  | here h => rw [mem_locations_iff.1 h] at hl'; exact .here hl'
  | inside hd htree h ih => exact .inside hd htree (ih hl')

/-- **A token stands at one place.** -/
theorem unique {c : Token} (hnodup : (Tree.forestTokens forest).Nodup)
    (h : Within outer forest levels l) (h' : Within outer forest levels' l')
    (hl : l.tree = .leaf c) (hl' : l'.tree = .leaf c) : levels = levels' ∧ l = l' := by
  have hc : c ∈ l.tree.tokens := by simp [hl]
  have hc' : c ∈ l'.tree.tokens := by simp [hl']
  induction h with
  | here h =>
    cases h' with
    | here h' => exact ⟨rfl, eq_of_mem_tokens hnodup h h' hc hc'⟩
    | @inside _ _ _ parts d _ label hd htree h' =>
      -- the tree that holds the token is no token
      have hmem : c ∈ d.tree.tokens := by
        rw [htree]
        exact h'.mem_forestTokens hc'
      obtain rfl := eq_of_mem_tokens hnodup h hd hc hmem
      cases htree.symm.trans hl
  | @inside outer _ forest parts d _ label hd htree h ih =>
    have hmem : c ∈ d.tree.tokens := by
      rw [htree]
      exact h.mem_forestTokens hc
    cases h' with
    | here h' =>
      obtain rfl := eq_of_mem_tokens hnodup h' hd hc' hmem
      cases htree.symm.trans hl'
    | @inside _ _ _ parts' d' _ label' hd' htree' h' =>
      have hmem' : c ∈ d'.tree.tokens := by
        rw [htree']
        exact h'.mem_forestTokens hc'
      obtain rfl := eq_of_mem_tokens hnodup hd hd' hmem hmem'
      obtain ⟨-, rfl⟩ := Tree.node.inj (htree.symm.trans htree')
      have hparts := tokens_sublist_of_mem hd
      rw [htree, Tree.tokens_node] at hparts
      exact ih (hnodup.sublist hparts) h' hl hc

end Within

end Codebook.Go
