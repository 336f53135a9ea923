import Codebook.Proofs.Go.Origin
import Codebook.Proofs.Go.Siblings
import Codebook.Proofs.Go.Within

/-!
# No comment belongs to two declarations

A comment beside a specification starts on the row on which the specification ends.  So whatever
stands before the comment, be it the specification, a tree that holds it, or punctuation in between,
ends on that row, too; and a comment above something has nothing before it on the row where it
starts.  Since a comment has one place only, it cannot be both.  Nor is it beside two
specifications, because the first of them has the second one before the comment.

What is here: `Within.exists_behind`, what stands before a comment beside something;
`Within.not_mem_above`, that such a comment is above nothing; `Near` and `pairwise_flatMap`, for
what is beside the specifications at some places; and `comment_of_one_declaration`.
-/

set_option autoImplicit false

namespace Codebook.Go

/-! ## Comments beside something -/

theorem beside_eq_some {row : Nat} {levels : List (List Tree)} {c : Token}
    (h : beside row levels = some c) : c.isComment = true ∧ c.row = row := by
  induction levels with
  | nil => cases h
  | cons level levels ih =>
    rw [beside] at h
    split at h
    · obtain ⟨hcomment, hrow⟩ := Option.filter_eq_some_iff.1 h
      exact ⟨(comment?_eq_some hcomment).2, beq_iff_eq.1 hrow⟩
    · exact ih h

/-- What is beside something is behind punctuation that follows it, or beside what holds it. -/
theorem beside_cons_eq_some {row : Nat} {level : List Tree} {levels : List (List Tree)} {c : Token}
    (h : beside row (level :: levels) = some c) :
    (∃ us after, level = us ++ .leaf c :: after ∧ ∀ u ∈ us, u.isNamed = false) ∨
      (∀ u ∈ level, u.isNamed = false) ∧ beside row levels = some c := by
  rw [beside] at h
  split at h
  · rename_i t hfind
    obtain ⟨-, us, after, heq, hus⟩ := List.find?_eq_some_iff_append.1 hfind
    obtain ⟨rfl, -⟩ := comment?_eq_some (Option.filter_eq_some_iff.1 h).1
    exact .inl ⟨us, after, heq, by simpa using hus⟩
  · rename_i hfind
    exact .inr ⟨by simpa using hfind, h⟩

/-- A comment stands behind a tree, with nothing but punctuation in between. -/
structure Location.Behind (k : Location) (c : Token) (a : Tree) : Prop where
  /-- The comment is at the place. -/
  tree_eq : k.tree = .leaf c
  /-- The tree is before it. -/
  before_eq : ∃ us rest, k.before = us ++ a :: rest ∧ ∀ u ∈ us, u.isNamed = false

theorem exists_behind_of_after {forest : List Tree} {l : Location} (hl : l ∈ locations forest)
    {us after : List Tree} {c : Token} (hafter : l.after = us ++ .leaf c :: after)
    (hus : ∀ u ∈ us, u.isNamed = false) : ∃ k ∈ locations forest, k.Behind c l.tree := by
  refine ⟨⟨us.reverse ++ l.tree :: l.before, .leaf c, after⟩, ?_, rfl, us.reverse, l.before, rfl,
    fun u hu => hus u (List.mem_reverse.1 hu)⟩
  rw [mem_locations_iff, ← mem_locations_iff.1 hl, hafter]
  simp

/-- **A comment beside a tree is right behind it, or right behind a tree that holds it.** -/
theorem Within.exists_behind {outer levels : List (List Tree)} {forest : List Tree} {l : Location}
    {row : Nat} {c : Token} (h : Within outer forest levels l)
    (hnode : ∃ label parts, l.tree = .node label parts)
    (hbeside : beside row (l.after :: levels) = some c) :
    (∃ levels' k label parts, Within outer forest levels' k ∧ k.Behind c (.node label parts) ∧
      l.tree.tokens.Sublist (Tree.forestTokens parts)) ∨ beside row outer = some c := by
  -- one level: the comment follows a node of some trees, or it is beside what holds them
  have hlevel {outer : List (List Tree)} {forest parts : List Tree} {label : Label} {d : Location}
      (hd : d ∈ locations forest) (htree : d.tree = .node label parts)
      (hsub : l.tree.tokens.Sublist (Tree.forestTokens parts))
      (hbeside : beside row (d.after :: outer) = some c) :
      (∃ levels' k label parts, Within outer forest levels' k ∧ k.Behind c (.node label parts) ∧
        l.tree.tokens.Sublist (Tree.forestTokens parts)) ∨ beside row outer = some c := by
    refine (beside_cons_eq_some hbeside).imp ?_ And.right
    rintro ⟨us, after, hafter, hus⟩
    obtain ⟨k, hk, hbehind⟩ := exists_behind_of_after hd hafter hus
    exact ⟨outer, k, label, parts, .here hk, htree ▸ hbehind, hsub⟩
  induction h with
  | here h =>
    obtain ⟨label, parts, htree⟩ := hnode
    exact hlevel h htree (by rw [htree]; exact .refl _) hbeside
  | @inside outer levels forest parts d l label hd htree h ih =>
    rcases ih hnode hbeside hlevel with ⟨levels', k, label', parts', hk, hbehind, hsub⟩ | houter
    · exact .inl ⟨levels', k, label', parts', .inside hd htree hk, hbehind, hsub⟩
    · refine hlevel hd htree ?_ houter
      have htokens := h.sublist
      rw [Tree.forestTokens_append, Tree.forestTokens_cons] at htokens
      exact ((List.sublist_append_left _ _).trans (List.sublist_append_right _ _)).trans htokens

/-! ## The rows of what stands before a comment -/

theorem Tree.endRow_of_getLast? {t : Tree} {last : Token} (h : t.tokens.getLast? = some last) :
    t.endRow = last.endRow := by
  rw [Tree.endRow, h]

theorem Tree.endRow_of_nil {t : Tree} (h : t.tokens = []) : t.endRow = 0 := by
  rw [Tree.endRow, h]
  rfl

/-- A tree ends at or above what follows it. -/
theorem endRow_le_row {t : Tree} {more : List Token} (h : Token.Ordered (t.tokens ++ more))
    {c : Token} (hc : c ∈ more) : t.endRow ≤ c.row := by
  cases hlast : t.tokens.getLast? with
  | none =>
    rw [Tree.endRow_of_nil (List.getLast?_eq_none_iff.1 hlast)]
    exact Nat.zero_le _
  | some last =>
    rw [Tree.endRow_of_getLast? hlast]
    exact h.endRow_le (List.mem_of_getLast? hlast) hc

/-- A tree ends at or above the end of what holds it. -/
theorem endRow_le_endRow {t a : Tree} (h : Token.Ordered a.tokens)
    (hsub : t.tokens.Sublist a.tokens) : t.endRow ≤ a.endRow := by
  cases hlast : t.tokens.getLast? with
  | none =>
    rw [Tree.endRow_of_nil (List.getLast?_eq_none_iff.1 hlast)]
    exact Nat.zero_le _
  | some x =>
    have hx : x ∈ a.tokens := hsub.subset (List.mem_of_getLast? hlast)
    obtain ⟨pre, last, heq⟩ : ∃ pre last, a.tokens = pre ++ [last] :=
      ⟨_, _, (List.dropLast_concat_getLast (List.ne_nil_of_mem hx)).symm⟩
    have hend : a.endRow = last.endRow := Tree.endRow_of_getLast? (by simp [heq])
    rw [Tree.endRow_of_getLast? hlast, hend]
    rw [heq] at h hx
    rcases List.mem_append.1 hx with hx | hx
    · exact Nat.le_trans (h.endRow_le hx (List.mem_singleton_self last))
        (h.row_le_endRow last (by simp))
    · obtain rfl := List.mem_singleton.1 hx
      exact Nat.le_refl _

/-- **What stands before a comment beside a tree ends on the row of the comment.** -/
theorem Location.Behind.endRow_eq {k : Location} {c : Token} {t a : Tree} (h : k.Behind c a)
    (hordered : Token.Ordered (Tree.forestTokens (k.before.reverse ++ k.tree :: k.after)))
    (hsub : t.tokens.Sublist a.tokens) (hrow : c.row = t.endRow) :
    ∃ us rest, k.before = us ++ a :: rest ∧ ∀ p ∈ us ++ [a], p.endRow = c.row := by
  obtain ⟨us, rest, hbefore, hus⟩ := h.before_eq
  refine ⟨us, rest, hbefore, fun p hp => ?_⟩
  have htokens : (Tree.forestTokens (a :: (us.reverse ++ [.leaf c]))).Sublist
      (Tree.forestTokens (k.before.reverse ++ k.tree :: k.after)) := by
    rw [hbefore, h.tree_eq]
    simp only [List.reverse_append, List.reverse_cons, Tree.forestTokens_append,
      Tree.forestTokens_cons, Tree.forestTokens_nil, List.append_nil, List.append_assoc]
    refine .trans ?_ (List.sublist_append_right _ _)
    exact (List.Sublist.refl _).append
      ((List.Sublist.refl _).append (List.sublist_append_left _ _))
  replace hordered := hordered.sublist htokens
  rw [Tree.forestTokens_cons] at hordered
  have hinner : t.endRow ≤ a.endRow :=
    endRow_le_endRow (hordered.sublist (List.sublist_append_left _ _)) hsub
  have hc : c ∈ Tree.forestTokens (us.reverse ++ [Tree.leaf c]) := by simp
  rcases List.mem_append.1 hp with hp | hp
  · obtain ⟨x, rfl⟩ : ∃ x, p = .leaf x := by
      cases p with
      | leaf x => exact ⟨x, rfl⟩
      | node label parts => cases hus _ hp
    have hx : x ∈ Tree.forestTokens us.reverse :=
      Tree.mem_forestTokens.2 ⟨.leaf x, List.mem_reverse.2 hp, by simp⟩
    have hafter : a.endRow ≤ x.row := endRow_le_row hordered (by simp [hx])
    have hown : x.row ≤ x.endRow := hordered.row_le_endRow x (by simp [hx])
    have hbefore : x.endRow ≤ c.row := by
      have hright := hordered.sublist (List.sublist_append_right _ _)
      rw [Tree.forestTokens_append] at hright
      exact hright.endRow_le hx (by simp)
    rw [Tree.endRow_leaf]
    omega
  · obtain rfl := List.mem_singleton.1 hp
    have := endRow_le_row hordered hc
    omega

/-! ## Comments above something -/

/-- A comment above a tree has nothing before it on the row where it starts. -/
theorem exists_append_of_mem_above {m : Location} {c : Token} (h : c ∈ m.above) :
    ∃ later earlier, m.before = later ++ .leaf c :: earlier ∧
      ∀ t ∈ (withoutLineEnds earlier).head?, t.endRow ≠ c.row := by
  obtain ⟨later, earlier, hfilter, -, hearlier⟩ := exists_append_of_mem_commentsAbove h
  obtain ⟨xs, ys, hbefore, -, hys⟩ := List.filter_eq_append_iff.1 hfilter
  obtain ⟨zs, ws, rfl, -, -, rfl⟩ := List.filter_eq_cons_iff.1 hys
  exact ⟨xs ++ zs, ws, by rw [hbefore, List.append_assoc], hearlier⟩

/-- **A comment beside a part of a file is above nothing in it.** -/
theorem Within.not_mem_above {forest : List Tree}
    (hordered : Token.Ordered (Tree.forestTokens forest))
    {levels levels' : List (List Tree)} {l m : Location} {c : Token}
    (hl : Within [] forest levels l) (hnode : ∃ label parts, l.tree = .node label parts)
    (hbeside : beside l.tree.endRow (l.after :: levels) = some c)
    (hm : Within [] forest levels' m) : c ∉ m.above := by
  intro habove
  obtain ⟨later, earlier, hbefore, hearlier⟩ := exists_append_of_mem_above habove
  -- the place of the comment among the siblings of the tree that it is above
  have hplace : Within [] forest levels'
      ⟨earlier, .leaf c, later.reverse ++ m.tree :: m.after⟩ := by
    refine hm.sibling (mem_locations_iff.2 ?_)
    rw [hbefore]
    simp
  rcases hl.exists_behind hnode hbeside with ⟨levels'', k, label, parts, hk, hbehind, hsub⟩ | hnone
  · obtain ⟨-, rfl⟩ := hk.unique hordered.nodup hplace hbehind.tree_eq rfl
    obtain ⟨us, rest, hsplit, hrows⟩ := hbehind.endRow_eq (hordered.sublist hk.sublist) hsub
      (beside_eq_some hbeside).2
    -- the nearest sibling that is no line end is punctuation, or the node
    obtain ⟨p, hp, hmem⟩ : ∃ p, (withoutLineEnds earlier).head? = some p ∧
        p ∈ us ++ [.node label parts] := by
      have hkeep : withoutLineEnds earlier =
          withoutLineEnds us ++ .node label parts :: withoutLineEnds rest := by
        rw [show earlier = us ++ .node label parts :: rest from hsplit, withoutLineEnds,
          List.filter_append]
        rfl
      rw [hkeep]
      cases hus : withoutLineEnds us with
      | nil => exact ⟨_, rfl, by simp⟩
      | cons u us' =>
        have hmem : u ∈ withoutLineEnds us := by simp [hus]
        exact ⟨u, rfl, List.mem_append_left _ (List.mem_filter.1 hmem).1⟩
    exact hearlier p hp (hrows p hmem)
  · cases hnone

/-! ## The specifications of a file -/

/-- The specifications of the declarations of a file. -/
def specsIn (forest : List Tree) : List Spec :=
  (locations forest).flatMap fun d =>
    match declaration? d.tree with
    | some (_, parts) => specsOf d.after parts
    | none => []

theorem exists_node_of_declaration? {t : Tree} {kind : DeclarationKind} {parts : List Tree}
    (h : declaration? t = some (kind, parts)) : ∃ label, t = .node label parts := by
  unfold declaration? at h
  split at h <;> cases h
  · exact ⟨.consts, rfl⟩
  · exact ⟨.vars, rfl⟩

theorem exists_of_mem_specsAmong {outer : List (List Tree)} {forest : List Tree} {s : Spec}
    (h : s ∈ specsAmong outer forest) : ∃ l ∈ locations forest,
      l.tree = .node .spec s.parts ∧ s.above = l.above ∧
        s.beside = beside l.tree.endRow (l.after :: outer) := by
  obtain ⟨l, hl, hs⟩ := List.mem_filterMap.1 h
  split at hs
  · rename_i parts htree
    obtain rfl := Option.some.inj hs
    exact ⟨l, hl, htree, rfl, rfl⟩
  · cases hs

theorem exists_within_of_mem_specsAt {outer : List Tree} {forest : List Tree} {d : Location}
    (hd : d ∈ locations forest) {s : Spec} (h : s ∈ specsAt outer d) :
    ∃ levels l, Within [outer] forest levels l ∧ l.tree = .node .spec s.parts ∧
      s.above = l.above ∧ s.beside = beside l.tree.endRow (l.after :: levels) := by
  unfold specsAt at h
  split at h
  · rename_i inner htree
    obtain ⟨l, hl, hs⟩ := exists_of_mem_specsAmong h
    exact ⟨_, l, .inside hd htree (.here hl), hs⟩
  · rename_i inner htree
    obtain rfl := List.mem_singleton.1 h
    exact ⟨_, d, .here hd, htree, rfl, rfl⟩
  · cases h

/-- **A specification of a file has its place in it.** -/
theorem exists_within_of_mem_specsIn {forest : List Tree} {s : Spec} (h : s ∈ specsIn forest) :
    ∃ levels l, Within [] forest levels l ∧ l.tree = .node .spec s.parts ∧
      s.above = l.above ∧ s.beside = beside l.tree.endRow (l.after :: levels) := by
  obtain ⟨d, hd, hs⟩ := List.mem_flatMap.1 h
  split at hs
  · rename_i kind parts hdeclaration
    obtain ⟨label, htree⟩ := exists_node_of_declaration? hdeclaration
    obtain ⟨x, hx, hs⟩ := List.mem_flatMap.1 (show s ∈ (locations parts).flatMap (specsAt d.after)
      from hs)
    obtain ⟨levels, l, hl, hspec⟩ := exists_within_of_mem_specsAt hx hs
    exact ⟨levels, l, .inside hd htree hl, hspec⟩
  · cases hs

/-! ## One comment for each -/

theorem mem_of_beside {row : Nat} {levels : List (List Tree)} {c : Token}
    (h : beside row levels = some c) : c ∈ Tree.forestTokens levels.flatten := by
  induction levels with
  | nil => cases h
  | cons level levels ih =>
    rw [List.flatten_cons, Tree.forestTokens_append]
    rcases beside_cons_eq_some h with ⟨us, after, rfl, -⟩ | ⟨-, h⟩
    · exact List.mem_append_left _ (by simp)
    · exact List.mem_append_right _ (ih h)

/-- A comment beside something comes before any node that follows that. -/
theorem mem_of_beside_node {row : Nat} {mid more parts : List Tree} {label : Label}
    {levels : List (List Tree)} {c : Token}
    (h : beside row ((mid ++ .node label parts :: more) :: levels) = some c) :
    c ∈ Tree.forestTokens mid := by
  rw [beside, List.find?_append] at h
  cases hfind : mid.find? Tree.isNamed with
  | none =>
    rw [hfind, List.find?_cons_of_pos (by rfl)] at h
    cases h
  | some t =>
    rw [hfind] at h
    obtain ⟨rfl, -⟩ := comment?_eq_some (Option.filter_eq_some_iff.1 h).1
    exact Tree.mem_forestTokens.2 ⟨_, List.mem_of_find?_eq_some hfind, by simp⟩

/-- Specifications of some trees, where the levels are what follows the trees. -/
structure OneEach (outer : List (List Tree)) (forest : List Tree) (specs : List Spec) : Prop where
  /-- What is beside one of them is among the trees, or beside all of them. -/
  near : ∀ s ∈ specs, ∀ c ∈ s.beside,
    c ∈ Tree.forestTokens forest ∨ ∃ row, beside row outer = some c
  /-- No two of them have the same comment beside them. -/
  apart : specs.Pairwise fun s s' => ∀ c ∈ s.beside, c ∉ s'.beside

namespace OneEach

variable {outer : List (List Tree)} {forest : List Tree}

theorem nil : OneEach outer forest [] := ⟨by simp, .nil⟩

theorem singleton {s : Spec} (h : ∃ row, s.beside = beside row outer) :
    OneEach outer forest [s] := by
  obtain ⟨row, hrow⟩ := h
  refine ⟨fun x hx c hc => ?_, List.pairwise_singleton _ _⟩
  obtain rfl := List.mem_singleton.1 hx
  exact .inr ⟨row, hrow ▸ hc⟩

/-- **Specifications of different trees have different comments beside them.**  Of two trees the
second one stands before the comments of its own specifications, and behind those of the first. -/
theorem flatMap {f : Location → List Spec}
    (hnodup : (Tree.forestTokens forest ++ Tree.forestTokens outer.flatten).Nodup)
    (hnode : ∀ l ∈ locations forest, f l ≠ [] → ∃ label parts, l.tree = .node label parts)
    (hf : ∀ l ∈ locations forest, OneEach (l.after :: outer) [l.tree] (f l)) :
    OneEach outer forest ((locations forest).flatMap f) := by
  have hnear {l : Location} (hl : l ∈ locations forest) {s : Spec} (hs : s ∈ f l) {c : Token}
      (hc : c ∈ s.beside) : c ∈ l.tree.tokens ∨ ∃ row, beside row (l.after :: outer) = some c := by
    simpa using (hf l hl).near s hs c hc
  constructor
  · intro s hs c hc
    obtain ⟨l, hl, hs⟩ := List.mem_flatMap.1 hs
    rw [← mem_locations_iff.1 hl, Tree.forestTokens_append, Tree.forestTokens_cons]
    rcases hnear hl hs hc with hc | ⟨row, hrow⟩
    · simp [hc]
    · rcases beside_cons_eq_some hrow with ⟨us, after, hafter, -⟩ | ⟨-, hrow⟩
      · simp [hafter]
      · exact .inr ⟨row, hrow⟩
  · refine List.pairwise_flatMap.2 ⟨fun l hl => (hf l hl).apart, ?_⟩
    refine (pairwise_locations forest).imp_of_mem fun {l l'} hl hl' hafter => ?_
    obtain ⟨mid, hmid⟩ := hafter
    intro s hs s' hs' c hc hc'
    -- the first comment stands before the second tree, the second one does not
    have hfirst : c ∈ l.tree.tokens ++ Tree.forestTokens mid := by
      obtain ⟨label, parts, htree⟩ := hnode l' hl' (List.ne_nil_of_mem hs')
      rcases hnear hl hs hc with hc | ⟨row, hrow⟩
      · exact List.mem_append_left _ hc
      · rw [hmid, htree] at hrow
        exact List.mem_append_right _ (mem_of_beside_node hrow)
    have hsecond : c ∈ l'.tree.tokens ++ Tree.forestTokens (l'.after ++ outer.flatten) := by
      rw [Tree.forestTokens_append]
      rcases hnear hl' hs' hc' with hc | ⟨row, hrow⟩
      · exact List.mem_append_left _ hc
      · have hmem := mem_of_beside hrow
        rw [List.flatten_cons, Tree.forestTokens_append] at hmem
        exact List.mem_append_right _ hmem
    rw [← mem_locations_iff.1 hl, hmid] at hnodup
    simp only [Tree.forestTokens_append, Tree.forestTokens_cons, List.append_assoc]
      at hnodup hsecond
    have hright := (List.nodup_append.1 hnodup).2.1
    rw [← List.append_assoc] at hright
    exact (List.nodup_append.1 hright).2.2 c hfirst c hsecond rfl

/-- The specifications among some trees. -/
theorem specsAmong (hnodup : (Tree.forestTokens forest ++ Tree.forestTokens outer.flatten).Nodup) :
    OneEach outer forest (Go.specsAmong outer forest) := by
  rw [Go.specsAmong, List.filterMap_eq_flatMap_toList]
  refine flatMap hnodup (fun l _ hne => ?_) fun l _ => ?_
  · cases htree : l.tree with
    | node label parts => exact ⟨label, parts, rfl⟩
    | leaf t => simp [htree] at hne
  · split
    · exact singleton ⟨l.tree.endRow, rfl⟩
    · exact nil

/-- The specifications of a declaration. -/
theorem specsOf {outer parts : List Tree}
    (hnodup : (Tree.forestTokens parts ++ Tree.forestTokens outer).Nodup) :
    OneEach [outer] parts (Go.specsOf outer parts) := by
  refine flatMap (f := specsAt outer) (by simpa using hnodup) (fun d _ hne => ?_) fun d hd => ?_
  · cases htree : d.tree with
    | node label parts => exact ⟨label, parts, rfl⟩
    | leaf t => simp [specsAt, htree] at hne
  · unfold specsAt
    split
    · rename_i inner htree
      rw [htree]
      have hsub : (Tree.forestTokens inner ++ Tree.forestTokens (d.after ++ outer)).Sublist
          (Tree.forestTokens parts ++ Tree.forestTokens outer) := by
        rw [← mem_locations_iff.1 hd, htree]
        simp only [Tree.forestTokens_append, Tree.forestTokens_cons, Tree.tokens_node,
          List.append_assoc]
        exact List.sublist_append_right _ _
      have hinner : OneEach [d.after, outer] inner (Go.specsAmong [d.after, outer] inner) :=
        specsAmong (by simpa using hnodup.sublist hsub)
      obtain ⟨hnear, hapart⟩ := hinner
      exact ⟨by simpa using hnear, hapart⟩
    · exact singleton ⟨d.tree.endRow, rfl⟩
    · exact nil

end OneEach

/-- **The specifications of a file have different comments beside them.** -/
theorem pairwise_specsIn {forest : List Tree} (hnodup : (Tree.forestTokens forest).Nodup) :
    (specsIn forest).Pairwise fun s s' => ∀ c ∈ s.beside, c ∉ s'.beside := by
  suffices h : OneEach [] forest (specsIn forest) from h.apart
  refine OneEach.flatMap (by simpa using hnodup) (fun d _ hne => ?_) fun d hd => ?_
  · cases htree : d.tree with
    | node label parts => exact ⟨label, parts, rfl⟩
    | leaf t => simp [declaration?, htree] at hne
  · split
    · rename_i kind parts hdeclaration
      obtain ⟨label, htree⟩ := exists_node_of_declaration? hdeclaration
      have hsub : (Tree.forestTokens parts ++ Tree.forestTokens d.after).Sublist
          (Tree.forestTokens forest) := by
        rw [← mem_locations_iff.1 hd, htree]
        simp only [Tree.forestTokens_append, Tree.forestTokens_cons, Tree.tokens_node]
        exact List.sublist_append_right _ _
      obtain ⟨hnear, hapart⟩ := OneEach.specsOf (hnodup.sublist hsub)
      rw [htree]
      exact ⟨by simpa using hnear, hapart⟩
    · exact .nil

/-! ## The comments of a file -/

/-- **No comment belongs to two declarations.**  In a file that can be read, a comment beside a
specification, however deep that stands, is above no tree of the file, be it a specification, a
declaration or anything else.  The specifications that are scanned are among these; and no two of
them have the same comment beside them. -/
theorem comment_of_one_declaration {path : String} {bytes : List UInt8} {forest : List Tree}
    (h : readFile path bytes = .ok forest) :
    (∀ levels l parts c, Within [] forest levels l → l.tree = .node .spec parts →
      beside l.tree.endRow (l.after :: levels) = some c →
      ∀ levels' m, Within [] forest levels' m → c ∉ m.above) ∧
    (∀ s ∈ specsIn forest, ∀ c ∈ s.beside,
      (∀ d ∈ locations forest, c ∉ d.above) ∧ ∀ s' ∈ specsIn forest, c ∉ s'.above) ∧
    (specsIn forest).Pairwise fun s s' => ∀ c ∈ s.beside, c ∉ s'.beside := by
  have hordered := ordered_of_readFile h
  refine ⟨fun levels l parts c hl htree hbeside levels' m hm =>
    hl.not_mem_above hordered ⟨_, _, htree⟩ hbeside hm, fun s hs c hc => ?_,
    pairwise_specsIn hordered.nodup⟩
  obtain ⟨levels, l, hl, htree, -, hbeside⟩ := exists_within_of_mem_specsIn hs
  have hnot {levels' : List (List Tree)} {m : Location} (hm : Within [] forest levels' m) :
      c ∉ m.above := hl.not_mem_above hordered ⟨_, _, htree⟩ (hbeside ▸ hc) hm
  refine ⟨fun d hd => hnot (.here hd), fun s' hs' => ?_⟩
  obtain ⟨levels', m, hm, -, habove, -⟩ := exists_within_of_mem_specsIn hs'
  exact habove ▸ hnot hm

/-- A file with a comment that starts beside one constant and ends above another one. -/
def longNote : List UInt8 :=
  "package p\n\n// @ai a\nconst (\n\tA = 1 /* b\n\tc */\n\tB = 2\n)\n".toUTF8.toList

theorem comment_of_one_declaration_longNote :
    ∃ forest, readFile "a.go" longNote = .ok forest ∧ ∃ s ∈ specsIn forest, s.names = ["A"] ∧
      ∃ c ∈ s.beside, c.text = "/* b\n\tc */" ∧ c.endRow = c.row + 1 ∧
        (∀ d ∈ locations forest, c ∉ d.above) ∧ ∀ s' ∈ specsIn forest, c ∉ s'.above := by
  have hfile : (readFile "a.go" longNote).toOption.map (fun forest =>
      (specsIn forest).map fun s => (s.names, s.beside.map fun c => (c.text, c.row, c.endRow))) =
      some [(["A"], some ("/* b\n\tc */", 4, 5)), (["B"], none)] := by decide +kernel
  cases hread : readFile "a.go" longNote with
  | error e => rw [hread] at hfile; cases hfile
  | ok forest =>
    rw [hread] at hfile
    have hspecs : (specsIn forest).map (fun s =>
        (s.names, s.beside.map fun c => (c.text, c.row, c.endRow))) = _ := Option.some.inj hfile
    obtain ⟨s, hs, hspec⟩ : ∃ s ∈ specsIn forest,
        (s.names, s.beside.map fun c => (c.text, c.row, c.endRow)) =
          (["A"], some ("/* b\n\tc */", 4, 5)) := by
      rw [← List.mem_map, hspecs]
      exact List.mem_cons_self
    obtain ⟨hnames, hbeside⟩ := Prod.mk.inj hspec
    obtain ⟨c, hc, hplace⟩ := Option.map_eq_some_iff.1 hbeside
    obtain ⟨htext, hrows⟩ := Prod.mk.inj hplace
    obtain ⟨hrow, hendRow⟩ := Prod.mk.inj hrows
    obtain ⟨-, hone, -⟩ := comment_of_one_declaration hread
    exact ⟨forest, rfl, s, hs, hnames, c, hc, htext, by rw [hendRow, hrow], hone s hs c hc⟩

end Codebook.Go
