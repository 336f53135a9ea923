import Codebook.Proofs.Go.Places
import Mathlib.Tactic.ByContra

/-!
# Comments and line ends before a form

Where a line end does not count, the reader passes over comments and line ends alike.  So most forms
pass over what is put before them, and give the comments of it before what they take.  A form does
not if it asks for a line end, or for none, before it takes its first token.

What is here: `skip` and `take` behind comments and line ends; `Form.leads`, which forms pass over
them; and `Gives.led`, what such a form gives.
-/

set_option autoImplicit false

namespace Codebook.Go

open Form

/-! ## Passing over comments and line ends -/

section

variable {lead ts rest : List Token} {trees : List Tree} {p : Token → Bool}

theorem skip_append_of_isTrivia (hlead : IsTrivia lead) (ts : List Token) :
    skip true (lead ++ ts) = Found.behind (commentLeaves lead) (skip true ts) := by
  induction lead with
  | nil => rfl
  | cons x lead ih =>
    have hskip := ih fun y hy => hlead y (List.mem_cons_of_mem _ hy)
    rw [List.cons_append, skip, hskip]
    rcases hlead x List.mem_cons_self with hx | hx
    · simp [hx, commentLeaves, Found.behind]
    · simp [Token.isComment_of_isLineEnd hx, hx, commentLeaves]

theorem take_append_of_isTrivia (hlead : IsTrivia lead) (p : Token → Bool) (ts : List Token) :
    take true p (lead ++ ts) = (take true p ts).map (Found.behind (commentLeaves lead)) := by
  rw [take, take, skip_append_of_isTrivia hlead]
  cases hskip : skip true ts with
  | mk comments left =>
    cases left with
    | nil => rfl
    | cons t rest =>
      simp only [Found.behind]
      cases p t <;> simp [Found.behind]

theorem isTrivia_append {a b : List Token} : IsTrivia (a ++ b) ↔ IsTrivia a ∧ IsTrivia b :=
  List.forall_mem_append

theorem isTrivia_map {φ : Token → Token} (h : Token.Moves φ) {ts : List Token} :
    IsTrivia (ts.map φ) ↔ IsTrivia ts := by
  simp only [IsTrivia, List.forall_mem_map, Token.isComment_map h.kind_eq,
    Token.isLineEnd_map h.kind_eq]

theorem commentLeaves_append (a b : List Token) :
    commentLeaves (a ++ b) = commentLeaves a ++ commentLeaves b := by
  rw [commentLeaves, List.filter_append, List.map_append]
  rfl

/-- Tokens are all passed over, or there is one that counts. -/
theorem isTrivia_or_exists (ts : List Token) : IsTrivia ts ∨
    ∃ lead t rest, ts = lead ++ t :: rest ∧ IsTrivia lead ∧ t.Counts := by
  induction ts with
  | nil => exact .inl isTrivia_nil
  | cons t ts ih =>
    by_cases ht : t.isComment = true ∨ t.isLineEnd = true
    · refine ih.imp (fun h => List.forall_mem_cons.2 ⟨ht, h⟩) ?_
      rintro ⟨lead, x, rest, rfl, hlead, hx⟩
      exact ⟨t :: lead, x, rest, rfl, List.forall_mem_cons.2 ⟨ht, hlead⟩, hx⟩
    · rw [not_or, Bool.not_eq_true, Bool.not_eq_true] at ht
      exact .inr ⟨[], t, ts, rfl, isTrivia_nil, ⟨ht.1, ht.2⟩⟩

theorem skip_of_isTrivia (hlead : IsTrivia lead) : skip true lead = (commentLeaves lead, []) := by
  have h := skip_append_of_isTrivia hlead []
  rw [List.append_nil] at h
  rw [h]
  exact Prod.ext (List.append_nil _) rfl

/-- All is passed over if it is comments and line ends. -/
theorem skip_eq_nil_iff (ts : List Token) : (skip true ts).2 = [] ↔ IsTrivia ts := by
  constructor
  · intro h
    rcases isTrivia_or_exists ts with hts | ⟨lead, t, rest, rfl, hlead, ht⟩
    · exact hts
    · rw [skip_trivia hlead ht] at h
      cases h
  · intro h
    rw [skip_of_isTrivia h]

/-- Among what is taken is a token that counts. -/
theorem exists_counts_of_take (h : take true p ts = some (trees, rest)) :
    ∃ t ∈ Tree.forestTokens trees, t ∈ ts ∧ t.Counts := by
  rcases isTrivia_or_exists ts with hts | ⟨lead, t, more, rfl, hlead, ht⟩
  · rw [take, skip_of_isTrivia hts] at h
    cases h
  · rw [take_trivia hlead ht] at h
    split at h
    · obtain ⟨rfl, -⟩ := Prod.mk.inj (Option.some.inj h)
      exact ⟨t, by simp, by simp, ht⟩
    · cases h

end

/-! ## What is put before a form -/

/-- Rules that pass over what is put before them. -/
def Rule.leads : Rule → Bool
  | .result _ => false
  | _ => true

/-- Whether a form passes over comments and line ends that are put before it, and puts the comments
before what it takes. -/
def Form.leads : Form Rule → Bool
  | .empty | .token _ => true
  | .rule r => r.leads
  | .seq a b => a.leads && (!a.mayIdle || b.leads)
  | .alt a b => a.leads && b.leads
  | .many a | .ahead a | .notAhead a => a.leads
  | .node _ a => a.leads && !a.mayIdle
  | .sameLine | .terminator | .finish => false

theorem Rule.leads_form (r : Rule) : r.leads = true → r.form.leads = true := by
  revert r; decide +kernel

/-- What becomes of what a form gives if comments and line ends are put before it. -/
inductive Led (lead ts : List Token) : Option Found → Option Found → Prop where
  /-- It still does not fit. -/
  | none : Led lead ts none none
  /-- It takes nothing, and still does. -/
  | idle : Led lead ts (some ([], ts)) (some ([], lead ++ ts))
  /-- It takes something, and the comments as well. -/
  | takes {trees : List Tree} {rest : List Token} (hrest : rest.length < ts.length)
      (hcounts : ∃ t ∈ Tree.forestTokens trees, t ∈ ts ∧ t.Counts) :
      Led lead ts (some (trees, rest)) (some (commentLeaves lead ++ trees, rest))

section

variable {lead ts rest : List Token} {trees : List Tree} {o o' : Option Found} {f : Form Rule}

theorem Led.isSome_eq (h : Led lead ts o o') : o'.isSome = o.isSome := by
  cases h <;> rfl

/-- What is given is nothing, or there is something that counts. -/
theorem Led.some_cases (h : Led lead ts (some (trees, rest)) o') :
    (trees = [] ∧ rest = ts ∧ o' = some ([], lead ++ ts)) ∨
      rest.length < ts.length ∧ (∃ t ∈ Tree.forestTokens trees, t ∈ ts ∧ t.Counts) ∧
        o' = some (commentLeaves lead ++ trees, rest) := by
  cases h with
  | idle => exact .inl ⟨rfl, rfl, rfl⟩
  | takes hrest hcounts => exact .inr ⟨hrest, hcounts, rfl⟩

theorem mark_commentLeaves_append (label : Label) (lead : List Token) (trees : List Tree) :
    Tree.mark label (commentLeaves lead ++ trees) =
      commentLeaves lead ++ Tree.mark label trees := by
  have hall : ∀ t ∈ commentLeaves lead, Tree.isComment t = true := by
    intro t ht
    obtain ⟨c, hc, rfl⟩ := List.mem_map.1 ht
    rw [Tree.isComment, Tree.comment?, if_pos (List.mem_filter.1 hc).2]
    rfl
  rw [Tree.mark, List.takeWhile_append_of_pos hall, List.dropWhile_append_of_pos hall,
    List.append_assoc]
  rfl

namespace Led

/-- What is given further on, behind what takes nothing. -/
theorem behindNothing (h : Led lead ts o o') :
    Led lead ts (o.map (Found.behind [])) (o'.map (Found.behind [])) := by
  cases h with
  | none => exact .none
  | idle => exact .idle
  | takes hrest hcounts => exact .takes hrest hcounts

/-- What is given further on, behind what takes something. -/
theorem further (hrest : rest.length < ts.length)
    (hcounts : ∃ t ∈ Tree.forestTokens trees, t ∈ ts ∧ t.Counts) (h : Gives f rest o) :
    Led lead ts (o.map (Found.behind trees))
      (o.map (Found.behind (commentLeaves lead ++ trees))) := by
  cases o with
  | none => exact .none
  | some r =>
    obtain ⟨t, ht, hts, hcounts⟩ := hcounts
    simp only [Option.map_some, Found.behind, List.append_assoc]
    exact .takes (Nat.lt_of_le_of_lt h.length_le hrest) ⟨t, by simp [ht], hts, hcounts⟩

/-- A node starts behind the comments, since it takes something. -/
theorem marked (h : Led lead ts o o') (hgives : Gives f ts o) (hf : f.mayIdle = false)
    (label : Label) : Led lead ts (o.map (Found.marked label)) (o'.map (Found.marked label)) := by
  cases h with
  | none => exact .none
  | idle => exact absurd (hgives.length_lt hf _ rfl) (Nat.lt_irrefl _)
  | takes hrest hcounts =>
    simp only [Option.map_some, Found.marked, mark_commentLeaves_append]
    exact .takes hrest (by simpa using hcounts)

/-- What looks ahead takes nothing. -/
theorem look (h : o'.isSome = o.isSome) :
    Led lead ts (o.map fun _ => ([], ts)) (o'.map fun _ => ([], lead ++ ts)) := by
  match o, o', h with
  | Option.none, Option.none, _ => exact .none
  | some _, some _, _ => exact .idle

end Led

/-- **Comments and line ends before a form are passed over.** -/
theorem Gives.led (hlead : IsTrivia lead) (h : Gives f ts o) (hf : f.leads = true) :
    ∃ o', Gives f (lead ++ ts) o' ∧ Led lead ts o o' := by
  induction h with
  | empty ts => exact ⟨_, .empty _, .idle⟩
  | token t ts =>
    refine ⟨_, .token t _, ?_⟩
    rw [take_append_of_isTrivia hlead]
    cases htake : take true t.fits ts with
    | none => exact .none
    | some r => exact .takes (length_lt_of_take htake) (exists_counts_of_take htake)
  | @rule r ts o h ih =>
    obtain ⟨o', ho', hled⟩ := ih (r.leads_form hf)
    exact ⟨o', .rule ho', hled⟩
  | seqNone h ih =>
    obtain ⟨o', ho', hled⟩ := ih (Bool.and_eq_true_iff.1 hf).1
    cases hled
    exact ⟨_, .seqNone ho', .none⟩
  | @seqSome a b ts rest trees o ha hb iha ihb =>
    obtain ⟨hleads, hrest⟩ := Bool.and_eq_true_iff.1 hf
    obtain ⟨o', ho', hled⟩ := iha hleads
    cases hled with
    | idle =>
      -- only what may take nothing takes nothing
      have hidle : a.mayIdle = true := by
        by_contra hnot
        exact Nat.lt_irrefl _ (ha.length_lt (Bool.eq_false_iff.2 hnot) _ rfl)
      obtain ⟨o'', ho'', hled⟩ := ihb (by simpa [hidle] using hrest)
      exact ⟨_, ho'.seqSome ho'', hled.behindNothing⟩
    | takes hshorter hcounts => exact ⟨_, ho'.seqSome hb, .further hshorter hcounts hb⟩
  | altSome h ih =>
    obtain ⟨o', ho', hled⟩ := ih (Bool.and_eq_true_iff.1 hf).1
    obtain ⟨r, rfl⟩ := Option.isSome_iff_exists.1 hled.isSome_eq
    exact ⟨_, .altSome ho', hled⟩
  | altNone ha hb iha ihb =>
    obtain ⟨hleft, hright⟩ := Bool.and_eq_true_iff.1 hf
    obtain ⟨o', ho', hled⟩ := iha hleft
    cases hled
    obtain ⟨o'', ho'', hled⟩ := ihb hright
    exact ⟨o'', .altNone ho' ho'', hled⟩
  | manyNone h ih =>
    obtain ⟨o', ho', hled⟩ := ih hf
    cases hled
    exact ⟨_, .manyNone ho', .idle⟩
  | manyIdle h hrest ih =>
    obtain ⟨o', ho', hled⟩ := ih hf
    cases hled with
    | idle => exact ⟨_, .manyIdle ho' (Nat.lt_irrefl _), .idle⟩
    | takes hshorter => exact absurd hshorter hrest
  | @manySome a ts rest trees o ha hrest hmore iha ihmore =>
    obtain ⟨o', ho', hled⟩ := iha hf
    cases hled with
    | idle => exact absurd hrest (Nat.lt_irrefl _)
    | takes hshorter hcounts =>
      have hless : rest.length < (lead ++ ts).length := by rw [List.length_append]; omega
      exact ⟨_, ho'.manySome hless hmore, .further hshorter hcounts hmore⟩
  | @node label a ts o h ih =>
    obtain ⟨hleads, hidle⟩ := Bool.and_eq_true_iff.1 hf
    obtain ⟨o', ho', hled⟩ := ih hleads
    exact ⟨_, .node ho', hled.marked h (by simpa using hidle) label⟩
  | sameLine ts => cases hf
  | ahead h ih =>
    obtain ⟨o', ho', hled⟩ := ih hf
    exact ⟨_, .ahead ho', .look hled.isSome_eq⟩
  | notAhead h ih =>
    obtain ⟨o', ho', hled⟩ := ih hf
    refine ⟨_, .notAhead ho', ?_⟩
    cases hled with
    | none => exact .idle
    | idle => exact .none
    | takes => exact .none
  | terminator ts => cases hf
  | finish ts => cases hf

end

end Codebook.Go
