import Codebook.Proofs.Go.Leading

/-!
# What is put between two lines

Where a statement may end, the reader looks at the next line end only; elsewhere it passes over
comments and line ends alike.  So comments and line ends may be put between two lines of a file: a
form that does not read beyond the first one does not see them, and one that reads on passes over
them.  There is one exception, and the forms are checked for it: a form that asks for a line end,
or for none, must not be read right behind the end of a statement, where such a line end may come
first.

What is here: `Form.settled`, the check, and `Rule.settled_form`, that all rules pass it; `Agree`,
what a form gives with and without what is put there; and `Gives.agree`, that it does.
-/

set_option autoImplicit false

namespace Codebook.Go

open Form

/-! ## Forms that are settled -/

/-- Rules that may end right behind the end of a statement. -/
def Rule.endsInStop : Rule → Bool
  | .topItem | .statements _ => true
  | _ => false

/-- Whether a form may end right behind the end of a statement. -/
def Form.endsInStop : Form Rule → Bool
  | .terminator => true
  | .rule r => r.endsInStop
  | .seq a b => b.endsInStop || (a.endsInStop && b.mayIdle)
  | .alt a b => a.endsInStop || b.endsInStop
  | .many a | .node _ a => a.endsInStop
  | _ => false

/-- Whether a form that starts on a line does not see what is put between that line and the next.
Behind the end of a statement has to come what passes over comments and line ends; and the end of
the text may only be looked for. -/
def Form.settled : Form Rule → Bool
  | .seq a b => a.settled && b.settled && (!a.endsInStop || b.leads)
  | .alt a b => a.settled && b.settled
  | .many a => a.settled && (!a.endsInStop || a.leads)
  | .ahead .finish => true
  | .node _ a | .ahead a | .notAhead a => a.settled
  | .finish => false
  | _ => true

theorem Rule.endsInStop_of_form (r : Rule) : r.form.endsInStop = true → r.endsInStop = true := by
  revert r; decide +kernel

/-- **No rule sees what is put between two lines.** -/
theorem Rule.settled_form (r : Rule) : r.form.settled = true := by
  revert r; decide +kernel

/-- These tokens are up to the end of a line. -/
def EndsLine (ts : List Token) : Prop := ∃ t, ts.getLast? = some t ∧ t.isLineEnd = true

theorem EndsLine.ne_nil {ts : List Token} (h : EndsLine ts) : ts ≠ [] := by
  rintro rfl
  obtain ⟨t, ht, -⟩ := h
  cases ht

theorem EndsLine.of_suffix {ts us : List Token} (h : EndsLine ts) (hsuffix : us <:+ ts)
    (hne : us ≠ []) : EndsLine us := by
  obtain ⟨t, ht, hline⟩ := h
  obtain ⟨pre, rfl⟩ := hsuffix
  cases hlast : us.getLast? with
  | none => exact absurd (List.getLast?_eq_none_iff.1 hlast) hne
  | some x =>
    rw [List.getLast?_append, hlast, Option.some_or] at ht
    exact ⟨t, hlast.trans ht, hline⟩

/-- These tokens are nothing, or up to the end of a line. -/
def IsLines (ts : List Token) : Prop := ts = [] ∨ EndsLine ts

theorem IsLines.of_suffix {p p' : List Token} (hp : IsLines p) (hp' : p' <:+ p) : IsLines p' := by
  by_cases hne : p' = []
  · exact .inl hne
  · refine .inr ((hp.resolve_left ?_).of_suffix hp' hne)
    rintro rfl
    exact hne (List.suffix_nil.1 hp')

/-- A line has a token that is no comment, and the first of these is looked at. -/
theorem EndsLine.exists_skip {p : List Token} (hp : EndsLine p) :
    ∃ comments t more, p = comments ++ t :: more ∧
      ∀ ts, skip false (p ++ ts) = (commentLeaves comments, t :: (more ++ ts)) := by
  induction p with
  | nil => exact absurd rfl hp.ne_nil
  | cons x p ih =>
    cases hx : x.isComment with
    | false =>
      refine ⟨[], x, p, rfl, fun ts => ?_⟩
      rw [List.cons_append, skip, hx]
      simp [commentLeaves]
    | true =>
      have hne : p ≠ [] := by
        rintro rfl
        obtain ⟨t, ht, hline⟩ := hp
        obtain rfl : x = t := Option.some.inj ht
        rw [Token.isLineEnd_of_isComment hx] at hline
        cases hline
      obtain ⟨comments, t, more, rfl, hskip⟩ := ih (hp.of_suffix (List.suffix_cons x p) hne)
      refine ⟨x :: comments, t, more, rfl, fun ts => ?_⟩
      rw [List.cons_append, skip, hx, hskip ts]
      simp [commentLeaves, hx]

/-- What a form gives where there is something between two lines, told from what it gives without.
The tokens up to the seam are `p`, and `Q` are those behind it; between them is put `X`, and those
behind it are moved. -/
inductive Agree (Q X : List Token) (φ : Token → Token) (p : List Token) (stop : Bool) :
    Option Found → Option Found → Prop where
  /-- It does not fit. -/
  | none : Agree Q X φ p stop none none
  /-- It ends before the seam, or at it if that may be. -/
  | stays {trees : List Tree} {p' : List Token} (hp : p' <:+ p) (hend : p' ≠ [] ∨ stop = true) :
      Agree Q X φ p stop (some (trees, p' ++ Q)) (some (trees, p' ++ (X ++ Q.map φ)))
  /-- It ends behind the seam, and has taken a token that counts there. -/
  | crosses {trees trees' : List Tree} {rest : List Token} (hrest : rest.length < Q.length)
      (hcounts : ∃ t ∈ Tree.forestTokens trees, t ∈ Q ∧ t.Counts) :
      Agree Q X φ p stop (some (trees, rest)) (some (trees', rest.map φ))

section

variable {Q X p p' : List Token} {φ : Token → Token} {stop stop' : Bool} {o o' : Option Found}
  {f : Form Rule}

namespace Agree

theorem isSome_eq (h : Agree Q X φ p stop o o') : o'.isSome = o.isSome := by
  cases h <;> rfl

theorem mono (h : Agree Q X φ p stop o o') (hstop : stop = true → stop' = true) :
    Agree Q X φ p stop' o o' := by
  cases h with
  | none => exact .none
  | stays hp hend => exact .stays hp (hend.imp_right hstop)
  | crosses hrest hcounts => exact .crosses hrest hcounts

/-- What is given further on, behind some trees. -/
theorem behind (h : Agree Q X φ p' stop o o') (hp' : p' <:+ p) (trees : List Tree) :
    Agree Q X φ p stop (o.map (Found.behind trees)) (o'.map (Found.behind trees)) := by
  cases h with
  | none => exact .none
  | stays hp hend => exact .stays (hp.trans hp') hend
  | crosses hrest hcounts =>
    obtain ⟨t, ht, hcounts⟩ := hcounts
    exact .crosses hrest ⟨t, by simp [ht], hcounts⟩

/-- What is given from the line itself. -/
theorem look (h : o'.isSome = o.isSome) (hp : p ≠ []) :
    Agree Q X φ p stop (o.map fun _ => ([], p ++ Q))
      (o'.map fun _ => ([], p ++ (X ++ Q.map φ))) := by
  match o, o', h with
  | Option.none, Option.none, _ => exact .none
  | some _, some _, _ => exact .stays (List.suffix_refl p) (.inl hp)

/-- What is given further on, behind what has been taken behind the seam. -/
theorem further {rest : List Token} {trees trees' : List Tree} (hrest : rest.length < Q.length)
    (hcounts : ∃ t ∈ Tree.forestTokens trees, t ∈ Q ∧ t.Counts) (h : Gives f rest o) :
    Agree Q X φ p stop (o.map (Found.behind trees))
      ((o.map (Found.map φ)).map (Found.behind trees')) := by
  cases o with
  | none => exact .none
  | some r =>
    obtain ⟨t, ht, hcounts⟩ := hcounts
    exact .crosses (Nat.lt_of_le_of_lt h.length_le hrest) ⟨t, by simp [ht], hcounts⟩

theorem marked (h : Agree Q X φ p stop o o') (label : Label) :
    Agree Q X φ p stop (o.map (Found.marked label)) (o'.map (Found.marked label)) := by
  cases h with
  | none => exact .none
  | stays hp hend => exact .stays hp hend
  | crosses hrest hcounts => exact .crosses hrest (by simpa using hcounts)

end Agree

/-- What is given behind the seam is given there still. -/
theorem Led.agree (hφ : Token.Moves φ) (h : Gives f Q o)
    (hled : Led X (Q.map φ) (o.map (Found.map φ)) o') (hstop : f.mayIdle = true → stop = true) :
    Agree Q X φ p stop o o' := by
  cases o with
  | none => cases hled; exact .none
  | some r =>
    obtain ⟨trees, rest⟩ := r
    rcases hled.some_cases with ⟨htrees, hrest, rfl⟩ | ⟨hrest, hcounts, rfl⟩
    · obtain rfl := List.map_eq_nil_iff.1 htrees
      obtain rfl : rest = Q :=
        (h.sublist).eq_of_length (by simpa using congrArg List.length hrest)
      have hidle : f.mayIdle = true := by
        by_contra hnot
        exact Nat.lt_irrefl _ (h.length_lt (Bool.eq_false_iff.2 hnot) _ rfl)
      show Agree rest X φ p stop (some ([], [] ++ rest)) (some ([], [] ++ (X ++ rest.map φ)))
      exact .stays List.nil_suffix (.inr (hstop hidle))
    · rw [List.length_map, List.length_map] at hrest
      obtain ⟨x, hx, -, hxcounts⟩ := hcounts
      rw [Tree.forestTokens_map, List.mem_map] at hx
      obtain ⟨t, ht, rfl⟩ := hx
      have hcounts : t.Counts :=
        ⟨t.isComment_map hφ.kind_eq ▸ hxcounts.notComment,
          t.isLineEnd_map hφ.kind_eq ▸ hxcounts.notLineEnd⟩
      exact .crosses hrest ⟨t, ht, h.sublist.subset (List.mem_append_left _ ht), hcounts⟩

/-- Behind the seam a form that passes over what is put there gives the same. -/
theorem Gives.agree_seam (p : List Token) (stop : Bool) (hφ : Token.Moves φ) (hX : IsTrivia X)
    (h : Gives f Q o) (hf : f.leads = true) (hstop : f.mayIdle = true → stop = true) :
    ∃ o', Gives f (X ++ Q.map φ) o' ∧ Agree Q X φ p stop o o' := by
  obtain ⟨o', ho', hled⟩ := (h.map hφ).led hX hf
  exact ⟨o', ho', hled.agree hφ h hstop⟩

theorem Form.settled_ahead {a : Form Rule} (h : (Form.ahead a).settled = true) :
    a = .finish ∨ a.settled = true := by
  cases a <;> simp_all [Form.settled]

section

variable (hφ : Token.Moves φ) (hX : IsTrivia X)

include hφ hX

/-- One token is taken before the seam, or behind it. -/
theorem agree_take (hp : EndsLine p) (t : Terminal) :
    Agree Q X φ p stop (take true t.fits (p ++ Q)) (take true t.fits (p ++ (X ++ Q.map φ))) := by
  rcases isTrivia_or_exists p with hp | ⟨lead, x, more, rfl, hlead, hx⟩
  · rw [take_append_of_isTrivia hp, take_append_of_isTrivia hp, take_append_of_isTrivia hX,
      take_map hφ.kind_eq true (hφ.fits_eq t)]
    cases htake : take true t.fits Q with
    | none => exact .none
    | some r =>
      obtain ⟨x, hx, hcounts⟩ := exists_counts_of_take htake
      exact .crosses (length_lt_of_take htake) ⟨x, by simp [hx], hcounts⟩
  · have hmore : more <:+ lead ++ x :: more := ⟨lead ++ [x], by simp⟩
    have hne : more ≠ [] := by
      rintro rfl
      obtain ⟨y, hy, hline⟩ := hp
      obtain rfl : x = y := by simpa using hy
      rw [hx.notLineEnd] at hline
      cases hline
    simp only [List.append_assoc, List.cons_append, take_trivia hlead hx]
    split
    · exact .stays hmore (.inl hne)
    · exact .none

/-- Whether the text ends is seen from the first line on. -/
theorem isSome_finish :
    (if (skip true (p ++ (X ++ Q.map φ))).2 = [] then
      some ((skip true (p ++ (X ++ Q.map φ))).1, ([] : List Token)) else none).isSome =
    (if (skip true (p ++ Q)).2 = [] then
      some ((skip true (p ++ Q)).1, ([] : List Token)) else none).isSome := by
  have hsame : (skip true (p ++ (X ++ Q.map φ))).2 = [] ↔ (skip true (p ++ Q)).2 = [] := by
    simp only [skip_eq_nil_iff, isTrivia_append, isTrivia_map hφ, hX, true_and]
  simp only [hsame]
  split <;> rfl

/-- What is read on from where a part has ended agrees, if it agrees where that is before the seam.
Right at the seam it has to pass over what is put there. -/
theorem Agree.exists_onward (hp : EndsLine p) {trees : List Tree} {rest : List Token}
    (h : Agree Q X φ p stop (some (trees, rest)) o') (hmore : Gives f rest o)
    (hagain : ∀ p', EndsLine p' → p' ++ Q = rest →
      ∃ o'', Gives f (p' ++ (X ++ Q.map φ)) o'' ∧ Agree Q X φ p' stop' o o'')
    (hleads : stop = true → f.leads = true)
    (hidle : stop = true → f.mayIdle = true → stop' = true) :
    ∃ trees' rest' o'', o' = some (trees', rest') ∧ Gives f rest' o'' ∧
      (rest.length < (p ++ Q).length → rest'.length < (p ++ (X ++ Q.map φ)).length) ∧
      Agree Q X φ p stop' (o.map (Found.behind trees)) (o''.map (Found.behind trees')) := by
  cases h with
  | @crosses _ trees' _ hrest hcounts =>
    refine ⟨trees', _, _, rfl, hmore.map hφ, fun _ => ?_, .further hrest hcounts hmore⟩
    simp only [List.length_append, List.length_map]
    omega
  | @stays _ p' hp' hend =>
    have hshorter (hlt : (p' ++ Q).length < (p ++ Q).length) :
        (p' ++ (X ++ Q.map φ)).length < (p ++ (X ++ Q.map φ)).length := by
      simp only [List.length_append] at hlt ⊢
      omega
    by_cases hne : p' = []
    · subst hne
      have hstop : stop = true := hend.resolve_left fun h => h rfl
      obtain ⟨o'', ho'', hagree⟩ := hmore.agree_seam [] stop' hφ hX (hleads hstop) (hidle hstop)
      exact ⟨_, _, _, rfl, ho'', hshorter, hagree.behind hp' trees⟩
    · obtain ⟨o'', ho'', hagree⟩ := hagain p' (hp.of_suffix hp' hne) rfl
      exact ⟨_, _, _, rfl, ho'', hshorter, hagree.behind hp' trees⟩

end

/-- **What is put between two lines is not seen.**  A form that is read from the first one on gives
the same if it ends there; and if it does not, it goes on behind what is put there. -/
theorem Gives.agree (hφ : Token.Moves φ) (hX : IsTrivia X) (h : Gives f (p ++ Q) o)
    (hf : f.settled = true) (hp : EndsLine p) :
    ∃ o', Gives f (p ++ (X ++ Q.map φ)) o' ∧ Agree Q X φ p f.endsInStop o o' := by
  generalize hts : p ++ Q = ts at h
  induction h generalizing p with
  | empty ts =>
    subst hts
    exact ⟨_, .empty _, .stays (List.suffix_refl p) (.inl hp.ne_nil)⟩
  | token t ts =>
    subst hts
    exact ⟨_, .token t _, agree_take hφ hX hp t⟩
  | @rule r ts o h ih =>
    obtain ⟨o', ho', hagree⟩ := ih r.settled_form hp hts
    exact ⟨o', .rule ho', hagree.mono r.endsInStop_of_form⟩
  | @seqNone a b ts h ih =>
    simp only [Form.settled, Bool.and_eq_true] at hf
    obtain ⟨o', ho', hagree⟩ := ih hf.1.1 hp hts
    cases hagree
    exact ⟨_, .seqNone ho', .none⟩
  | @seqSome a b ts rest trees o ha hb iha ihb =>
    simp only [Form.settled, Bool.and_eq_true] at hf
    obtain ⟨⟨hfa, hfb⟩, hleads⟩ := hf
    obtain ⟨o', ho', hagree⟩ := iha hfa hp hts
    have hagain (p' : List Token) (hp' : EndsLine p') (hrest : p' ++ Q = rest) :
        ∃ o'', Gives b (p' ++ (X ++ Q.map φ)) o'' ∧
          Agree Q X φ p' (Form.seq a b).endsInStop o o'' := by
      obtain ⟨o'', ho'', hagree⟩ := ihb hfb hp' hrest
      exact ⟨o'', ho'', hagree.mono fun hstop => by simp [Form.endsInStop, hstop]⟩
    obtain ⟨trees', rest', o'', rfl, ho'', -, hagree⟩ :=
      Agree.exists_onward hφ hX hp hagree hb hagain (fun hstop => by simpa [hstop] using hleads)
      fun hstop hidle => by simp [Form.endsInStop, hstop, hidle]
    exact ⟨_, ho'.seqSome ho'', hagree⟩
  | @altSome a b ts r h ih =>
    simp only [Form.settled, Bool.and_eq_true] at hf
    obtain ⟨o', ho', hagree⟩ := ih hf.1 hp hts
    obtain ⟨r', rfl⟩ := Option.isSome_iff_exists.1 hagree.isSome_eq
    exact ⟨_, .altSome ho', hagree.mono fun hstop => by simp [Form.endsInStop, hstop]⟩
  | @altNone a b ts o ha hb iha ihb =>
    simp only [Form.settled, Bool.and_eq_true] at hf
    obtain ⟨o', ho', hagree⟩ := iha hf.1 hp hts
    cases hagree
    obtain ⟨o'', ho'', hagree⟩ := ihb hf.2 hp hts
    exact ⟨o'', .altNone ho' ho'', hagree.mono fun hstop => by simp [Form.endsInStop, hstop]⟩
  | manyNone h ih =>
    simp only [Form.settled, Bool.and_eq_true] at hf
    obtain ⟨o', ho', hagree⟩ := ih hf.1 hp hts
    cases hagree
    subst hts
    exact ⟨_, .manyNone ho', .stays (List.suffix_refl p) (.inl hp.ne_nil)⟩
  | manyIdle h hrest ih =>
    simp only [Form.settled, Bool.and_eq_true] at hf
    obtain ⟨o', ho', hagree⟩ := ih hf.1 hp hts
    subst hts
    cases hagree with
    | crosses hshort => simp only [List.length_append] at hrest; omega
    | stays hp' =>
      simp only [List.length_append] at hrest
      refine ⟨_, ho'.manyIdle ?_, .stays (List.suffix_refl p) (.inl hp.ne_nil)⟩
      simp only [List.length_append]
      omega
  | @manySome a ts rest trees o ha hrest hmore iha ihmore =>
    obtain ⟨hfa, hleads⟩ := Bool.and_eq_true_iff.1 (show (a.settled && _) = true from hf)
    obtain ⟨o', ho', hagree⟩ := iha hfa hp hts
    subst hts
    obtain ⟨trees', rest', o'', rfl, ho'', hshorter, hagree⟩ :=
      Agree.exists_onward hφ hX hp hagree hmore (fun p' => ihmore hf)
        (fun hstop => by simpa [hstop, Form.leads] using hleads) fun hstop _ => hstop
    exact ⟨_, ho'.manySome (hshorter hrest) ho'', hagree⟩
  | @node label a ts o h ih =>
    obtain ⟨o', ho', hagree⟩ := ih hf hp hts
    exact ⟨_, .node ho', hagree.marked label⟩
  | sameLine ts =>
    subst hts
    obtain ⟨comments, t, more, -, hskip⟩ := hp.exists_skip
    have hsame (ts : List Token) : lineEndsHere (p ++ ts) = t.isLineEnd := by
      rw [lineEndsHere, hskip]
      rfl
    refine ⟨_, .sameLine _, ?_⟩
    rw [hsame, hsame]
    cases t.isLineEnd with
    | true => exact .none
    | false => exact .stays (List.suffix_refl p) (.inl hp.ne_nil)
  | @ahead a ts o h ih =>
    subst hts
    rcases Form.settled_ahead hf with rfl | hf
    · obtain rfl := h.unique (.finish _)
      exact ⟨_, .ahead (.finish _), .look (isSome_finish hφ hX) hp.ne_nil⟩
    · obtain ⟨o', ho', hagree⟩ := ih hf hp rfl
      exact ⟨_, .ahead ho', .look hagree.isSome_eq hp.ne_nil⟩
  | @notAhead a ts o h ih =>
    obtain ⟨o', ho', hagree⟩ := ih hf hp hts
    subst hts
    refine ⟨_, .notAhead ho', ?_⟩
    rw [hagree.isSome_eq]
    cases o.isSome with
    | true => exact .none
    | false => exact .stays (List.suffix_refl p) (.inl hp.ne_nil)
  | terminator ts =>
    subst hts
    obtain ⟨comments, t, more, heq, hskip⟩ := hp.exists_skip
    refine ⟨_, .terminator _, ?_⟩
    rw [take, take, hskip, hskip]
    dsimp only
    split
    · exact .stays ⟨comments ++ [t], by simp [heq]⟩ (.inr rfl)
    · exact .none
  | finish ts => cases hf

end

end Codebook.Go
