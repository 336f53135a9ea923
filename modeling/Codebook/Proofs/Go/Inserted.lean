import Codebook.Proofs.Go.Seam
import Codebook.Proofs.Go.TopLevel

/-!
# Comments put between the declarations of a file

A file is declarations and statements one after another.  Where none of them lies on both sides of
the end of a line, comments and line ends may be put there: what is read from the file is what has
been read from it, with the comments in between.

What is here: `Parted`, that nothing lies on both sides; `Inserted`, what becomes of what has been
read; and `Gives.inserted`, that this becomes of a file.
-/

set_option autoImplicit false

namespace Codebook.Go

open Form

/-- No tree has something that counts on both sides. -/
def Parted (p Q : List Token) (trees : List Tree) : Prop :=
  ∀ x ∈ trees, ∀ a ∈ x.tokens, ∀ b ∈ x.tokens, a.Counts → b.Counts → a ∈ p → b ∉ Q

theorem Parted.mono {p p' Q : List Token} {trees more : List Tree} (h : Parted p Q trees)
    (hp : p' ⊆ p) (hmore : more ⊆ trees) : Parted p' Q more :=
  fun x hx a ha b hb hac hbc hap => h x (hmore hx) a ha b hb hac hbc (hp hap)

/-- Everything of these trees is among some tokens. -/
def LiesIn (ts : List Token) (trees : List Tree) : Prop := ∀ t ∈ Tree.forestTokens trees, t ∈ ts

theorem LiesIn.append {ts : List Token} {trees more : List Tree} (h : LiesIn ts trees)
    (hmore : LiesIn ts more) : LiesIn ts (trees ++ more) := by
  rw [LiesIn, Tree.forestTokens_append]
  exact List.forall_mem_append.2 ⟨h, hmore⟩

theorem commentLeaves_map {φ : Token → Token} (h : Token.Moves φ) (ts : List Token) :
    commentLeaves (ts.map φ) = (commentLeaves ts).map (Tree.map φ) := by
  have hsame : Token.isComment ∘ φ = Token.isComment := funext (Token.isComment_map h.kind_eq)
  rw [commentLeaves, commentLeaves, List.filter_map, hsame, List.map_map, List.map_map]
  rfl

theorem liesIn_commentLeaves (ts : List Token) : LiesIn ts (commentLeaves ts) := by
  intro t ht
  obtain ⟨x, hx, ht⟩ := Tree.mem_forestTokens.1 ht
  obtain ⟨c, hc, rfl⟩ := List.mem_map.1 hx
  obtain rfl := List.mem_singleton.1 ht
  exact (List.mem_filter.1 hc).1

/-- What becomes of what has been read from `p` and `Q` if `X` is put between them, and `Q` is
moved. -/
inductive Inserted (Q X : List Token) (φ : Token → Token) (p : List Token) :
    Option Found → Option Found → Prop where
  /-- It still does not fit. -/
  | none : Inserted Q X φ p none none
  /-- What has been read stays, since it is before the seam. -/
  | stays {trees : List Tree} {p' : List Token} (hp : p' <:+ p) (htrees : LiesIn p trees) :
      Inserted Q X φ p (some (trees, p' ++ Q)) (some (trees, p' ++ (X ++ Q.map φ)))
  /-- What has been read before the seam stays, and what has been read behind it is moved. -/
  | crosses {front back : List Tree} {rest : List Token} (hfront : LiesIn p front)
      (hback : LiesIn Q back) (hrest : rest ⊆ Q) :
      Inserted Q X φ p (some (front ++ back, rest))
        (some (front ++ (commentLeaves X ++ back.map (Tree.map φ)), rest.map φ))

/-- A form takes what is put between two lines for what it is. -/
def Form.Inserts (Q X : List Token) (φ : Token → Token) (p : List Token) (f : Form Rule) : Prop :=
  ∀ o, Gives f (p ++ Q) o → (∀ r, o = some r → Parted p Q r.1) →
    ∃ o', Gives f (p ++ (X ++ Q.map φ)) o' ∧ Inserted Q X φ p o o'

/-- A form does so where it fits. -/
def Form.InsertsIfFits (Q X : List Token) (φ : Token → Token) (p : List Token) (f : Form Rule) :
    Prop :=
  ∀ r, Gives f (p ++ Q) (some r) → Parted p Q r.1 →
    ∃ o', Gives f (p ++ (X ++ Q.map φ)) o' ∧ Inserted Q X φ p (some r) o'

section

variable {Q X p p' rest : List Token} {φ : Token → Token} {o o' : Option Found} {a b f : Form Rule}
  {trees front back : List Tree}

/-- What is left of a form that ends before the seam. -/
theorem Gives.liesIn (h : Gives f (p ++ Q) (some (trees, p' ++ Q))) : LiesIn p trees := by
  have hsublist := h.sublist
  rw [← List.append_assoc, List.append_sublist_append_right] at hsublist
  exact fun t ht => hsublist.subset (List.mem_append_left _ ht)

namespace Inserted

theorem isSome_eq (h : Inserted Q X φ p o o') : o'.isSome = o.isSome := by
  cases h <;> rfl

/-- What is read further on, behind some trees. -/
theorem behind (h : Inserted Q X φ p' o o') (hp' : p' <:+ p) (htrees : LiesIn p trees) :
    Inserted Q X φ p (o.map (Found.behind trees)) (o'.map (Found.behind trees)) := by
  have hmore {more : List Tree} (h : LiesIn p' more) : LiesIn p (trees ++ more) :=
    htrees.append fun t ht => hp'.subset (h t ht)
  cases h with
  | none => exact .none
  | stays hp h => exact .stays (hp.trans hp') (hmore h)
  | crosses hfront hback hrest =>
    simp only [Option.map_some, Found.behind, ← List.append_assoc trees]
    exact .crosses (hmore hfront) hback hrest

/-- What is read further on, behind what has been read on both sides. -/
theorem further (hfront : LiesIn p front) (hback : LiesIn Q back) (hrest : rest ⊆ Q)
    (h : Gives f rest o) :
    Inserted Q X φ p (o.map (Found.behind (front ++ back)))
      ((o.map (Found.map φ)).map
        (Found.behind (front ++ (commentLeaves X ++ back.map (Tree.map φ))))) := by
  cases o with
  | none => exact .none
  | some r =>
    obtain ⟨more, left⟩ := r
    have hsubset := h.sublist.subset
    have hmore : LiesIn Q more := fun t ht => hrest (hsubset (List.mem_append_left _ ht))
    have hleft : left ⊆ Q := fun t ht => hrest (hsubset (List.mem_append_right _ ht))
    simp only [Option.map_some, Found.behind, Found.map, List.append_assoc, ← List.map_append]
    exact .crosses hfront (hback.append hmore) hleft

end Inserted

/-! ## One declaration -/

theorem Form.Inserts.alt (ha : a.Inserts Q X φ p) (hb : b.Inserts Q X φ p) :
    (Form.alt a b).Inserts Q X φ p := by
  intro o h hparted
  cases h with
  | altSome h =>
    obtain ⟨o', ho', hinserted⟩ := ha _ h hparted
    obtain ⟨r, rfl⟩ := Option.isSome_iff_exists.1 hinserted.isSome_eq
    exact ⟨_, .altSome ho', hinserted⟩
  | altNone hnone h =>
    obtain ⟨o', ho', hinserted⟩ := ha _ hnone fun r hr => nomatch hr
    cases hinserted
    obtain ⟨o'', ho'', hinserted⟩ := hb _ h hparted
    exact ⟨o'', .altNone ho' ho'', hinserted⟩

theorem Form.Inserts.ifFits (h : f.Inserts Q X φ p) : f.InsertsIfFits Q X φ p :=
  fun r hr hparted => h _ hr (by rintro r ⟨⟩; exact hparted)

theorem Form.inserts_empty : Form.empty.Inserts Q X φ p := by
  intro o h _
  cases h
  exact ⟨_, .empty _, .stays (List.suffix_refl p) fun t ht => nomatch ht⟩

theorem Form.Inserts.rule {r : Rule} (h : r.form.Inserts Q X φ p) :
    (Form.rule r).Inserts Q X φ p := by
  intro o ho hparted
  cases ho with
  | rule ho =>
    obtain ⟨o', ho', hinserted⟩ := h o ho hparted
    exact ⟨o', .rule ho', hinserted⟩

/-- Every form gives something. -/
theorem Form.exists_gives (hf : f.isShallow = true) (ts : List Token) : ∃ o, Gives f ts o :=
  ⟨_, gives_readWith hf (Nat.le_refl _)⟩

/-- A declaration that ends behind the seam lies on both sides of it. -/
theorem not_parted_of_crosses (h : Gives f (p ++ Q) (some (trees, rest))) (hf : f.isMarked = true)
    (hp : ¬ IsTrivia p) (hrest : rest.length < Q.length)
    (hcounts : ∃ t ∈ Tree.forestTokens trees, t ∈ Q ∧ t.Counts) : ¬ Parted p Q trees := by
  intro hparted
  obtain ⟨lead, x, more, rfl, hlead, hx⟩ := (isTrivia_or_exists p).resolve_left hp
  -- the first token of the declaration is taken, since less is left than what is behind the seam
  obtain ⟨taken, heq, hkept⟩ := h.took _ rfl
  have hmem : x ∈ withoutBreaks (Tree.forestTokens trees) := by
    rw [hkept]
    rcases List.append_eq_append_iff.1 heq with ⟨front, rfl, -⟩ | ⟨front, -, rfl⟩
    · exact List.mem_filter.2 ⟨by simp, by simp [hx.notLineEnd]⟩
    · simp only [List.length_append] at hrest
      omega
  obtain ⟨node, hnode, -, hall⟩ := (h.isMarked hf _ rfl).exists_tree
  obtain ⟨t, ht, htQ, htcounts⟩ := hcounts
  exact hparted node hnode x (hall x (List.mem_filter.1 hmem).1 hx) t (hall t ht htcounts) hx
    htcounts (by simp) htQ

/-- The end of a statement is on its line. -/
theorem length_le_of_terminator (hp : EndsLine p)
    (h : Gives .terminator (p ++ Q) (some (trees, rest))) : Q.length ≤ rest.length := by
  obtain ⟨comments, t, more, -, hskip⟩ := hp.exists_skip
  generalize hgiven : some (trees, rest) = given at h
  cases h
  rw [take, hskip] at hgiven
  dsimp only at hgiven
  split at hgiven
  · obtain ⟨-, rfl⟩ := Prod.mk.inj (Option.some.inj hgiven)
    simp
  · cases hgiven

theorem exists_of_many (h : Gives (.many a) rest o) : ∃ r, o = some r := by
  generalize hf : Form.many a = f at h
  induction h with
  | manyNone | manyIdle => exact ⟨_, rfl⟩
  | manySome ha hrest hmore iha ihmore =>
    obtain ⟨r, rfl⟩ := ihmore hf
    exact ⟨_, rfl⟩
  | _ => cases hf

variable (hφ : Token.Moves φ) (hX : IsTrivia X)

include hφ hX

/-- Behind comments and line ends a form takes what is put there together with them. -/
theorem Form.inserts_of_isTrivia (hp : IsTrivia p) (hleads : f.leads = true)
    (hidle : f.mayIdle = false) (hshallow : f.isShallow = true) : f.Inserts Q X φ p := by
  intro o h _
  obtain ⟨given, hgiven⟩ := f.exists_gives hshallow Q
  obtain ⟨o₁, ho₁, hled⟩ := hgiven.led hp hleads
  obtain rfl := h.unique ho₁
  obtain ⟨o', ho', hled'⟩ := (hgiven.map hφ).led (isTrivia_append.2 ⟨hp, hX⟩) hleads
  rw [List.append_assoc] at ho'
  refine ⟨o', ho', ?_⟩
  cases given with
  | none => cases hled; cases hled'; exact .none
  | some r =>
    obtain ⟨trees, rest⟩ := r
    have hshort : rest.length < Q.length := hgiven.length_lt hidle (trees, rest) rfl
    have hsubset := hgiven.sublist.subset
    rcases hled.some_cases with ⟨-, rfl, -⟩ | ⟨-, -, rfl⟩
    · exact absurd hshort (Nat.lt_irrefl _)
    rcases hled'.some_cases with ⟨-, hrest, -⟩ | ⟨-, -, rfl⟩
    · have hlength : rest.length = Q.length := by simpa using congrArg List.length hrest
      exact absurd hshort (by omega)
    rw [commentLeaves_append, List.append_assoc]
    exact .crosses (liesIn_commentLeaves p) (fun t ht => hsubset (List.mem_append_left _ ht))
      fun t ht => hsubset (List.mem_append_right _ ht)

/-- What a declaration gives that does not lie on both sides. -/
theorem Form.inserts_declaration (hf : f.isMarked = true) (hsettled : f.settled = true)
    (hp : EndsLine p) (hcounts : ¬ IsTrivia p) : f.Inserts Q X φ p := by
  intro o h hparted
  obtain ⟨o', ho', hagree⟩ := h.agree hφ hX hsettled hp
  refine ⟨o', ho', ?_⟩
  cases hagree with
  | none => exact .none
  | stays hp' => exact .stays hp' h.liesIn
  | crosses hrest hmore =>
    exact absurd (hparted _ rfl) (not_parted_of_crosses h hf hcounts hrest hmore)

/-- A declaration and the end of it. -/
theorem Form.inserts_seq (hf : a.isMarked = true) (hsettled : (Form.seq a b).settled = true)
    (hstop : a.endsInStop = false) (hp : EndsLine p) (hcounts : ¬ IsTrivia p)
    (hends : ∀ p trees rest, EndsLine p → Gives b (p ++ Q) (some (trees, rest)) →
      Q.length ≤ rest.length) : (Form.seq a b).Inserts Q X φ p := by
  intro o h hparted
  simp only [Form.settled, Bool.and_eq_true] at hsettled
  obtain ⟨⟨hsettled, hsettled'⟩, -⟩ := hsettled
  cases h with
  | seqNone h =>
    obtain ⟨o', ho', hagree⟩ := h.agree hφ hX hsettled hp
    cases hagree
    exact ⟨_, .seqNone ho', .none⟩
  | @seqSome _ _ _ rest trees o ha hb =>
    obtain ⟨o', ho', hagree⟩ := ha.agree hφ hX hsettled hp
    cases hagree with
    | crosses hrest hmore =>
      refine ⟨_, ho'.seqSome (hb.map hφ), ?_⟩
      cases o with
      | none => exact .none
      | some r =>
        have htrees : Parted p Q trees :=
          (hparted _ rfl).mono (List.Subset.refl p) (List.subset_append_left _ _)
        exact absurd htrees (not_parted_of_crosses ha hf hcounts hrest hmore)
    | @stays _ p' hp' hend =>
      have hline := hp.of_suffix hp' (hend.resolve_right (by simp [hstop]))
      obtain ⟨o'', ho'', hagree⟩ := hb.agree hφ hX hsettled' hline
      refine ⟨_, ho'.seqSome ho'', ?_⟩
      cases hagree with
      | none => exact .none
      | stays hp'' =>
        exact (Inserted.stays (p := p') hp'' hb.liesIn).behind hp' ha.liesIn
      | crosses hrest => exact absurd hrest (Nat.not_lt.2 (hends _ _ _ hline hb))

/-! ## The whole file -/

theorem Form.inserts_topItem (hp : IsLines p) : (Form.rule Rule.topItem).Inserts Q X φ p := by
  by_cases hcounts : IsTrivia p
  · exact inserts_of_isTrivia hφ hX hcounts (by decide) (by decide) (by decide)
  have hline : EndsLine p := hp.resolve_left (by rintro rfl; exact hcounts isTrivia_nil)
  refine .rule (.alt ?_ (.alt ?_ ?_))
  · exact inserts_seq hφ hX (by decide) (by decide) (by decide) hline hcounts
      fun _ _ _ => length_le_of_terminator
  · refine inserts_seq hφ hX (by decide) (by decide) (by decide) hline hcounts ?_
    intro p trees rest hp h
    generalize hgiven : some (trees, rest) = given at h
    cases h with
    | altSome h => exact length_le_of_terminator hp (hgiven ▸ h)
    | altNone _ h =>
      cases h with
      | @ahead _ _ o h =>
        obtain ⟨_, -, heq⟩ := Option.map_eq_some_iff.1 hgiven.symm
        obtain ⟨-, rfl⟩ := Prod.mk.inj heq
        simp
  · exact inserts_seq hφ hX (by decide) (by decide) (by decide) hline hcounts
      fun _ _ _ => length_le_of_terminator

theorem Form.inserts_optDeclaration (hp : IsLines p) :
    (opt (rule Rule.topDeclaration)).Inserts Q X φ p := by
  refine .alt ?_ inserts_empty
  by_cases hcounts : IsTrivia p
  · exact inserts_of_isTrivia hφ hX hcounts (by decide) (by decide) (by decide)
  · refine inserts_declaration hφ hX (by decide) (by decide) (hp.resolve_left ?_) hcounts
    rintro rfl
    exact hcounts isTrivia_nil

/-- All items of a file, one after another. -/
theorem Form.inserts_items (hp : IsLines p) : (many (rule Rule.topItem)).Inserts Q X φ p := by
  intro o h
  generalize hf : many (rule Rule.topItem) = f at h
  generalize hts : p ++ Q = ts at h
  induction h generalizing p with
  | @manyNone a ts h ih =>
    cases hf
    subst hts
    obtain ⟨o', ho', hinserted⟩ := inserts_topItem hφ hX hp _ h fun r hr => nomatch hr
    cases hinserted
    exact fun _ => ⟨_, .manyNone ho', .stays (List.suffix_refl p) fun t ht => nomatch ht⟩
  | @manyIdle a ts rest trees h hrest ih =>
    cases hf
    exact absurd (h.length_lt (by decide) _ rfl) hrest
  | @manySome a ts rest trees o ha hrest hmore iha ihmore =>
    cases hf
    subst hts
    intro hparted
    obtain ⟨r, rfl⟩ := exists_of_many hmore
    have hall : Parted p Q (trees ++ r.1) := hparted _ rfl
    obtain ⟨o', ho', hinserted⟩ := inserts_topItem hφ hX hp _ ha <| by
      rintro r ⟨⟩
      exact hall.mono (List.Subset.refl p) (List.subset_append_left _ _)
    generalize hgiven : some (trees, rest) = given at hinserted
    cases hinserted with
    | none => cases hgiven
    | @stays trees' p' hp' htrees =>
      obtain ⟨rfl, rfl⟩ := Prod.mk.inj (Option.some.inj hgiven)
      simp only [List.length_append] at hrest
      obtain ⟨o'', ho'', hinserted⟩ := ihmore (hp.of_suffix hp') rfl rfl <| by
        rintro r ⟨⟩
        exact hall.mono hp'.subset (List.subset_append_right _ _)
      refine ⟨_, ho'.manySome ?_ ho'', hinserted.behind hp' htrees⟩
      simp only [List.length_append]
      omega
    | crosses hfront hback hsubset =>
      obtain ⟨rfl, rfl⟩ := Prod.mk.inj (Option.some.inj hgiven)
      refine ⟨_, ho'.manySome ?_ (hmore.map hφ), .further hfront hback hsubset hmore⟩
      simp only [List.length_append, List.length_map] at hrest ⊢
      omega
  | _ => cases hf

/-- The end of the text is where it was. -/
theorem Form.inserts_finish : Form.finish.Inserts Q X φ p := by
  have hfinish {ts : List Token} (h : IsTrivia ts) :
      Gives .finish ts (some (commentLeaves ts, [])) := by
    have hgives := Gives.finish ts
    rwa [skip_of_isTrivia h, if_pos rfl] at hgives
  have hnot {ts : List Token} (h : ¬ IsTrivia ts) : Gives .finish ts none := by
    have hgives := Gives.finish ts
    rwa [if_neg (mt (skip_eq_nil_iff ts).1 h)] at hgives
  intro o h _
  by_cases htrivia : IsTrivia (p ++ Q)
  · obtain rfl := h.unique (hfinish htrivia)
    obtain ⟨hp, hQ⟩ := isTrivia_append.1 htrivia
    refine ⟨_, hfinish (isTrivia_append.2 ⟨hp, isTrivia_append.2 ⟨hX, (isTrivia_map hφ).2 hQ⟩⟩), ?_⟩
    simp only [commentLeaves_append, commentLeaves_map hφ]
    exact .crosses (liesIn_commentLeaves p) (liesIn_commentLeaves Q) (List.nil_subset Q)
  · obtain rfl := h.unique (hnot htrivia)
    refine ⟨_, hnot fun hall => htrivia ?_, .none⟩
    obtain ⟨hp, hall⟩ := isTrivia_append.1 hall
    exact isTrivia_append.2 ⟨hp, (isTrivia_map hφ).1 (isTrivia_append.1 hall).2⟩

omit hX in
/-- One thing after another, where both fit. -/
theorem Form.InsertsIfFits.seq (ha : a.InsertsIfFits Q X φ p)
    (hb : ∀ p', p' <:+ p → b.InsertsIfFits Q X φ p') : (Form.seq a b).InsertsIfFits Q X φ p := by
  intro r h hparted
  generalize hgiven : some r = given at h
  cases h with
  | seqNone => cases hgiven
  | @seqSome _ _ _ rest trees o h hmore =>
    obtain ⟨r, rfl, rfl⟩ := Option.map_eq_some_iff.1 hgiven.symm
    obtain ⟨o', ho', hinserted⟩ := ha _ h
      (hparted.mono (List.Subset.refl p) (List.subset_append_left _ _))
    generalize hread : some (trees, rest) = read at hinserted
    cases hinserted with
    | none => cases hread
    | @stays _ p' hp' htrees =>
      obtain ⟨rfl, rfl⟩ := Prod.mk.inj (Option.some.inj hread)
      obtain ⟨o'', ho'', hinserted⟩ := hb p' hp' _ hmore
        (hparted.mono hp'.subset (List.subset_append_right _ _))
      exact ⟨_, ho'.seqSome ho'', hinserted.behind hp' htrees⟩
    | crosses hfront hback hsubset =>
      obtain ⟨rfl, rfl⟩ := Prod.mk.inj (Option.some.inj hread)
      exact ⟨_, ho'.seqSome (hmore.map hφ), .further hfront hback hsubset hmore⟩

/-- **What is put between the declarations of a file comes between its trees.** -/
theorem Gives.inserted {forest : List Tree} (hp : IsLines p)
    (h : Gives Rule.topLevel (p ++ Q) (some (forest, rest))) (hparted : Parted p Q forest) :
    ∃ front back, forest = front ++ back ∧ LiesIn p front ∧ LiesIn Q back ∧
      Gives Rule.topLevel (p ++ (X ++ Q.map φ))
        (some (front ++ (commentLeaves X ++ back.map (Tree.map φ)), [])) := by
  have hall : Rule.topLevel.InsertsIfFits Q X φ p :=
    .seq hφ (inserts_items hφ hX hp).ifFits fun p' hp' =>
      .seq hφ (inserts_optDeclaration hφ hX (hp.of_suffix hp')).ifFits
        fun p'' _ => (inserts_finish hφ hX).ifFits
  obtain ⟨o', ho', hinserted⟩ := hall _ h hparted
  generalize hread : some (forest, rest) = read at hinserted
  cases hinserted with
  | none => cases hread
  | @stays _ p' hp' htrees =>
    obtain ⟨rfl, rfl⟩ := Prod.mk.inj (Option.some.inj hread)
    have hrest := ho'.rest_eq_nil
    simp only [List.append_eq_nil_iff, List.map_eq_nil_iff] at hrest
    obtain ⟨rfl, rfl, rfl⟩ := hrest
    refine ⟨forest, [], (List.append_nil _).symm, htrees, fun _ ht => (nomatch ht), ?_⟩
    rw [show forest ++ (commentLeaves [] ++ [].map (Tree.map φ)) = forest from List.append_nil _]
    exact ho'
  | crosses hfront hback hsubset =>
    obtain ⟨rfl, rfl⟩ := Prod.mk.inj (Option.some.inj hread)
    obtain rfl := h.rest_eq_nil
    exact ⟨_, _, rfl, hfront, hback, ho'⟩

end

end Codebook.Go
