import Codebook.Proofs.Go.TopLevel

/-!
# No node is empty

What is marked as a node takes a token that is no comment; so each node has a token, and starts and
ends on the rows of tokens.

What is here: `Tree.isFilled`, that no node of a tree is empty; `Form.isFilling`, the check of
forms; and `Gives.isFilled`, that the trees of a file are filled.
-/

set_option autoImplicit false

namespace Codebook.Go

open Form

/-! ## Filled trees -/

namespace Tree

mutual

/-- Whether no node of a tree is without tokens. -/
def isFilled : Tree → Bool
  | leaf _ => true
  | node _ parts => !(forestTokens parts).isEmpty && areFilled parts

/-- Whether no node of some trees is without tokens. -/
def areFilled : List Tree → Bool
  | [] => true
  | t :: ts => isFilled t && areFilled ts

end

theorem areFilled_iff {ts : List Tree} : areFilled ts = true ↔ ∀ t ∈ ts, t.isFilled = true := by
  induction ts with
  | nil => simp [areFilled]
  | cons t ts ih => rw [areFilled, Bool.and_eq_true, ih, List.forall_mem_cons]

theorem isFilled_node {label : Label} {parts : List Tree} : (node label parts).isFilled = true ↔
    forestTokens parts ≠ [] ∧ ∀ t ∈ parts, t.isFilled = true := by
  rw [isFilled, Bool.and_eq_true, areFilled_iff, Bool.not_eq_true', List.isEmpty_eq_false_iff]

/-- A filled tree has a token. -/
theorem tokens_ne_nil {t : Tree} (h : t.isFilled = true) : t.tokens ≠ [] := by
  cases t with
  | leaf t => exact List.cons_ne_nil _ _
  | node label parts => exact (isFilled_node.1 h).1

theorem isFilled_of_isComment {t : Tree} (h : t.isComment = true) : t.isFilled = true := by
  cases t with
  | leaf t => rfl
  | node label parts => cases h

end Tree

/-! ## Forms that fill nodes -/

/-- Whether each node that a form marks takes something. -/
def Form.isFilling : Form Rule → Bool
  | .seq a b | .alt a b => a.isFilling && b.isFilling
  | .many a | .ahead a | .notAhead a => a.isFilling
  | .node _ a => a.isFilling && !a.mayIdle
  | _ => true

/-- **All rules fill their nodes.** -/
theorem Rule.isFilling_form (r : Rule) : r.form.isFilling = true := by
  revert r; decide +kernel

section

variable {f : Form Rule} {ts : List Token} {trees : List Tree} {o : Option Found}

/-- What is marked is filled if it has a token that is no comment. -/
theorem isFilled_of_mem_mark (label : Label) (hfilled : ∀ t ∈ trees, t.isFilled = true)
    (htoken : HasToken trees) : ∀ t ∈ Tree.mark label trees, t.isFilled = true := by
  refine List.forall_mem_append.2 ⟨fun t ht => hfilled t (List.takeWhile_subset _ ht), ?_⟩
  rw [List.forall_mem_singleton, Tree.isFilled_node]
  refine ⟨?_, fun t ht => hfilled t (List.dropWhile_subset _ ht)⟩
  obtain ⟨t, ht, hcomment⟩ := htoken
  obtain ⟨x, hx, ht⟩ := Tree.mem_forestTokens.1 ht
  rw [← List.takeWhile_append_dropWhile (p := Tree.isComment) (l := trees)] at hx
  rcases List.mem_append.1 hx with hx | hx
  · obtain ⟨c, rfl, hc⟩ := Tree.eq_leaf_of_isComment (List.mem_takeWhile_imp hx)
    obtain rfl := List.mem_singleton.1 ht
    rw [hcomment] at hc
    cases hc
  · exact List.ne_nil_of_mem (Tree.mem_forestTokens.2 ⟨x, hx, ht⟩)

/-- **The trees of a file are filled.** -/
theorem Gives.isFilled (h : Gives f ts o) (hf : f.isFilling = true) :
    ∀ r, o = some r → ∀ t ∈ r.1, t.isFilled = true := by
  have hcheck : IsCheck fun f => f.isFilling = true :=
    ⟨fun {r} _ => r.isFilling_form, Bool.and_eq_true_iff.1, Bool.and_eq_true_iff.1, id⟩
  refine h.forall_found hcheck (P := fun _ r => ∀ t ∈ r.1, t.isFilled = true)
    (fun ts t ht => nomatch ht) (fun ha hb => List.forall_mem_append.2 ⟨ha, hb⟩)
    (fun _ => forall_mem_take (fun t => Tree.isFilled_of_isComment) fun _ _ => rfl)
    (forall_mem_take (fun t => Tree.isFilled_of_isComment) fun _ _ => rfl)
    (fun _ t ht => Tree.isFilled_of_isComment (isComment_of_mem_skip true _ t ht)) ?_ hf
  intro label a ts r hnode hgives hpart
  obtain ⟨hfa, hidle⟩ := Bool.and_eq_true_iff.1 hnode
  exact isFilled_of_mem_mark label (hpart hfa) (hgives.hasToken (by simpa using hidle) r rfl)

end

end Codebook.Go
