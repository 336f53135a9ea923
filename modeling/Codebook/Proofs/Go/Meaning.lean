import Codebook.Proofs.Go.Outlook

/-!
# What a form means

The reader goes only so deep, and stops with nothing where it may go no deeper.  `Gives` says what
a form gives without a depth, and so a proof about it follows the constructors of forms alone.  What
a form gives is read by going deep enough.

What is here: `Gives`; `Gives.readWith`, that it is read; `Gives.unique`; `Gives.forall_found`, what
is shown of all that is found by showing it of what is taken and of what is marked; and
`Gives.sublist`, that no tokens are made and their order is kept.
-/

set_option autoImplicit false

namespace Codebook.Go

open Form

/-! ## The tokens of trees -/

namespace Tree

@[simp] theorem forestTokens_nil : forestTokens [] = [] := rfl

@[simp] theorem forestTokens_cons (t : Tree) (ts : List Tree) :
    forestTokens (t :: ts) = t.tokens ++ forestTokens ts := rfl

@[simp] theorem forestTokens_append (ts us : List Tree) :
    forestTokens (ts ++ us) = forestTokens ts ++ forestTokens us := by
  induction ts with
  | nil => rfl
  | cons t ts ih => simp [ih]

@[simp] theorem tokens_leaf (t : Token) : (leaf t).tokens = [t] := rfl

@[simp] theorem tokens_node (label : Label) (ts : List Tree) :
    (node label ts).tokens = forestTokens ts := rfl

/-- Marking leaves the tokens. -/
@[simp] theorem forestTokens_mark (label : Label) (ts : List Tree) :
    forestTokens (mark label ts) = forestTokens ts := by
  rw [mark, forestTokens_append, forestTokens_cons, tokens_node, forestTokens_nil, List.append_nil,
    ← forestTokens_append, List.takeWhile_append_dropWhile]

theorem mem_forestTokens {forest : List Tree} {t : Token} :
    t ∈ forestTokens forest ↔ ∃ x ∈ forest, t ∈ x.tokens := by
  induction forest with
  | nil => simp
  | cons x forest ih => simp [ih]

end Tree

/-! ## The meaning of forms -/

/-- What has been read: trees, and the tokens that are left. -/
abbrev Found := List Tree × List Token

/-- What is found behind some trees. -/
def Found.behind (trees : List Tree) (r : Found) : Found := (trees ++ r.1, r.2)

/-- What is found, marked as a node. -/
def Found.marked (label : Label) (r : Found) : Found := (Tree.mark label r.1, r.2)

/-- Whether a line end comes before the next token. -/
def lineEndsHere (ts : List Token) : Bool := (skip false ts).2.head?.any Token.isLineEnd

/-- A form gives this on some tokens. -/
inductive Gives : Form Rule → List Token → Option Found → Prop where
  | empty (ts : List Token) : Gives .empty ts (some ([], ts))
  | token (t : Terminal) (ts : List Token) : Gives (.token t) ts (take true t.fits ts)
  | rule {r : Rule} {ts : List Token} {o : Option Found} (h : Gives r.form ts o) :
      Gives (.rule r) ts o
  | seqNone {a b : Form Rule} {ts : List Token} (h : Gives a ts none) : Gives (.seq a b) ts none
  | seqSome {a b : Form Rule} {ts rest : List Token} {trees : List Tree} {o : Option Found}
      (ha : Gives a ts (some (trees, rest))) (hb : Gives b rest o) :
      Gives (.seq a b) ts (o.map (Found.behind trees))
  | altSome {a b : Form Rule} {ts : List Token} {r : Found} (h : Gives a ts (some r)) :
      Gives (.alt a b) ts (some r)
  | altNone {a b : Form Rule} {ts : List Token} {o : Option Found} (ha : Gives a ts none)
      (hb : Gives b ts o) : Gives (.alt a b) ts o
  | manyNone {a : Form Rule} {ts : List Token} (h : Gives a ts none) :
      Gives (.many a) ts (some ([], ts))
  | manyIdle {a : Form Rule} {ts rest : List Token} {trees : List Tree}
      (h : Gives a ts (some (trees, rest))) (hrest : ¬ rest.length < ts.length) :
      Gives (.many a) ts (some ([], ts))
  | manySome {a : Form Rule} {ts rest : List Token} {trees : List Tree} {o : Option Found}
      (ha : Gives a ts (some (trees, rest))) (hrest : rest.length < ts.length)
      (hmore : Gives (.many a) rest o) : Gives (.many a) ts (o.map (Found.behind trees))
  | node {label : Label} {a : Form Rule} {ts : List Token} {o : Option Found} (h : Gives a ts o) :
      Gives (.node label a) ts (o.map (Found.marked label))
  | sameLine (ts : List Token) :
      Gives .sameLine ts (if lineEndsHere ts then none else some ([], ts))
  | ahead {a : Form Rule} {ts : List Token} {o : Option Found} (h : Gives a ts o) :
      Gives (.ahead a) ts (o.map fun _ => ([], ts))
  | notAhead {a : Form Rule} {ts : List Token} {o : Option Found} (h : Gives a ts o) :
      Gives (.notAhead a) ts (if o.isSome then none else some ([], ts))
  | terminator (ts : List Token) : Gives .terminator ts (take false endsStatement ts)
  | finish (ts : List Token) :
      Gives .finish ts (if (skip true ts).2 = [] then some ((skip true ts).1, []) else none)

section

variable {a b f : Form Rule} {ts rest : List Token} {trees : List Tree} {o o' : Option Found}

/-! ## One step of the reader -/

theorem readWith_seq (n : Nat) (a b : Form Rule) (ts : List Token) :
    readWith Rule.form (n + 1) (.seq a b) ts =
      (readWith Rule.form n a ts).bind fun r =>
        (readWith Rule.form n b r.2).map (Found.behind r.1) := by
  rw [readWith]
  cases readWith Rule.form n a ts with
  | none => rfl
  | some r => cases h : readWith Rule.form n b r.2 <;> simp [h, Found.behind]

theorem readWith_alt (n : Nat) (a b : Form Rule) (ts : List Token) :
    readWith Rule.form (n + 1) (.alt a b) ts =
      (readWith Rule.form n a ts).or (readWith Rule.form n b ts) := by
  rw [readWith]
  cases readWith Rule.form n a ts <;> rfl

theorem readWith_many (n : Nat) (a : Form Rule) (ts : List Token) :
    readWith Rule.form (n + 1) (.many a) ts =
      match readWith Rule.form n a ts with
      | none => some ([], ts)
      | some r =>
        if r.2.length < ts.length then
          (readWith Rule.form n (.many a) r.2).map (Found.behind r.1)
        else some ([], ts) := by
  rw [readWith]
  cases readWith Rule.form n a ts with
  | none => rfl
  | some r =>
    dsimp only
    split
    · cases readWith Rule.form n (.many a) r.2 <;> rfl
    · rfl

theorem readWith_node (n : Nat) (label : Label) (a : Form Rule) (ts : List Token) :
    readWith Rule.form (n + 1) (.node label a) ts =
      (readWith Rule.form n a ts).map (Found.marked label) := by
  rw [readWith]
  cases readWith Rule.form n a ts <;> rfl

theorem readWith_sameLine (n : Nat) (ts : List Token) :
    readWith Rule.form (n + 1) .sameLine ts =
      if lineEndsHere ts then none else some ([], ts) := by
  rw [readWith, lineEndsHere]
  cases (skip false ts).2 <;> rfl

theorem readWith_notAhead (n : Nat) (a : Form Rule) (ts : List Token) :
    readWith Rule.form (n + 1) (.notAhead a) ts =
      if (readWith Rule.form n a ts).isSome then none else some ([], ts) := by
  rw [readWith]
  cases readWith Rule.form n a ts <;> rfl

theorem readWith_finish (n : Nat) (ts : List Token) :
    readWith Rule.form (n + 1) .finish ts =
      if (skip true ts).2 = [] then some ((skip true ts).1, []) else none := by
  rw [readWith]
  split
  · rename_i heq
    simp [heq]
  · rename_i heq
    simp [heq]

/-! ## The meaning is read -/

/-- **What a form gives is read by going deep enough.** -/
theorem Gives.readWith (h : Gives f ts o) :
    ∃ n, ∀ m, n ≤ m → Form.readWith Rule.form m f ts = o := by
  -- one level above where two parts have been read
  have hstep {n k : Nat} {f : Form Rule} {ts : List Token} {o : Option Found}
      (h : ∀ m, n ≤ m → k ≤ m → Form.readWith Rule.form (m + 1) f ts = o) :
      ∃ n, ∀ m, n ≤ m → Form.readWith Rule.form m f ts = o :=
    ⟨n + k + 1, fun
      | 0, hm => absurd hm (by omega)
      | m + 1, hm => h m (by omega) (by omega)⟩
  induction h with
  | empty ts => exact hstep (n := 0) (k := 0) fun _ _ _ => rfl
  | token t ts => exact hstep (n := 0) (k := 0) fun _ _ _ => rfl
  | rule h ih =>
    obtain ⟨n, hn⟩ := ih
    exact hstep (k := 0) fun m hm _ => hn m hm
  | seqNone h ih =>
    obtain ⟨n, hn⟩ := ih
    exact hstep (k := 0) fun m hm _ => by rw [readWith_seq, hn m hm]; rfl
  | seqSome ha hb iha ihb =>
    obtain ⟨n, hn⟩ := iha
    obtain ⟨k, hk⟩ := ihb
    exact hstep fun m hm hm' => by rw [readWith_seq, hn m hm, Option.bind_some, hk m hm']
  | altSome h ih =>
    obtain ⟨n, hn⟩ := ih
    exact hstep (k := 0) fun m hm _ => by rw [readWith_alt, hn m hm]; rfl
  | altNone ha hb iha ihb =>
    obtain ⟨n, hn⟩ := iha
    obtain ⟨k, hk⟩ := ihb
    exact hstep fun m hm hm' => by rw [readWith_alt, hn m hm, hk m hm']; rfl
  | manyNone h ih =>
    obtain ⟨n, hn⟩ := ih
    exact hstep (k := 0) fun m hm _ => by rw [readWith_many, hn m hm]
  | manyIdle h hrest ih =>
    obtain ⟨n, hn⟩ := ih
    exact hstep (k := 0) fun m hm _ => by rw [readWith_many, hn m hm]; exact if_neg hrest
  | manySome ha hrest hmore iha ihmore =>
    obtain ⟨n, hn⟩ := iha
    obtain ⟨k, hk⟩ := ihmore
    exact hstep fun m hm hm' => by
      rw [readWith_many, hn m hm]
      dsimp only
      rw [if_pos hrest, hk m hm']
  | node h ih =>
    obtain ⟨n, hn⟩ := ih
    exact hstep (k := 0) fun m hm _ => by rw [readWith_node, hn m hm]
  | sameLine ts => exact hstep (n := 0) (k := 0) fun m _ _ => readWith_sameLine m ts
  | ahead h ih =>
    obtain ⟨n, hn⟩ := ih
    exact hstep (k := 0) fun m hm _ => by rw [Form.readWith, hn m hm]
  | notAhead h ih =>
    obtain ⟨n, hn⟩ := ih
    exact hstep (k := 0) fun m hm _ => by rw [readWith_notAhead, hn m hm]
  | terminator ts => exact hstep (n := 0) (k := 0) fun _ _ _ => rfl
  | finish ts => exact hstep (n := 0) (k := 0) fun m _ _ => readWith_finish m ts

/-- **A form gives one thing.** -/
theorem Gives.unique (h : Gives f ts o) (h' : Gives f ts o') : o = o' := by
  obtain ⟨n, hn⟩ := h.readWith
  obtain ⟨k, hk⟩ := h'.readWith
  exact (hn (n + k) (Nat.le_add_right n k)).symm.trans (hk (n + k) (Nat.le_add_left k n))

end

/-! ## What is found -/

/-- A check of forms that what a form checks is checked of its parts; what is marked apart. -/
structure IsCheck (check : Form Rule → Prop) : Prop where
  rule : ∀ {r}, check (.rule r) → check r.form
  seq : ∀ {a b}, check (.seq a b) → check a ∧ check b
  alt : ∀ {a b}, check (.alt a b) → check a ∧ check b
  many : ∀ {a}, check (.many a) → check a

/-- A check that everything passes. -/
theorem isCheck_true : IsCheck fun _ => True := ⟨by simp, by simp, by simp, by simp⟩

/-- **What holds of all that is taken, and of what is marked, holds of all that is found.** -/
theorem Gives.forall_found {check : Form Rule → Prop} {P : List Token → Found → Prop}
    (hcheck : IsCheck check) (hnothing : ∀ ts, P ts ([], ts))
    (hbehind : ∀ {ts rest trees r}, P ts (trees, rest) → P rest r → P ts (r.behind trees))
    (htake : ∀ {t ts r}, check (.token t) → take true t.fits ts = some r → P ts r)
    (hstop : ∀ {ts r}, take false endsStatement ts = some r → P ts r)
    (hskip : ∀ {ts}, (skip true ts).2 = [] → P ts ((skip true ts).1, []))
    (hnode : ∀ {label a ts r}, check (.node label a) → Gives a ts (some r) →
      (check a → P ts r) → P ts (r.marked label))
    {f : Form Rule} {ts : List Token} {o : Option Found} (h : Gives f ts o) (hf : check f) :
    ∀ r, o = some r → P ts r := by
  have hmore {ts rest : List Token} {trees : List Tree} {o : Option Found}
      (ha : P ts (trees, rest)) (hb : ∀ r, o = some r → P rest r) :
      ∀ r, o.map (Found.behind trees) = some r → P ts r := by
    intro r hr
    obtain ⟨r, rfl, rfl⟩ := Option.map_eq_some_iff.1 hr
    exact hbehind ha (hb r rfl)
  have hnone {ts : List Token} : ∀ r, some ([], ts) = some r → P ts r := by
    rintro r ⟨⟩
    exact hnothing ts
  induction h with
  | empty ts => exact hnone
  | token t ts => exact fun r hr => htake hf hr
  | rule h ih => exact ih (hcheck.rule hf)
  | seqNone h ih => exact fun r hr => nomatch hr
  | seqSome ha hb iha ihb =>
    obtain ⟨hfa, hfb⟩ := hcheck.seq hf
    exact hmore (iha hfa _ rfl) (ihb hfb)
  | altSome h ih => exact ih (hcheck.alt hf).1
  | altNone ha hb iha ihb => exact ihb (hcheck.alt hf).2
  | manyNone h ih => exact hnone
  | manyIdle h hrest ih => exact hnone
  | manySome ha hrest hmany iha ihmany =>
    exact hmore (iha (hcheck.many hf) _ rfl) (ihmany hf)
  | node h ih =>
    intro r hr
    obtain ⟨r, rfl, rfl⟩ := Option.map_eq_some_iff.1 hr
    exact hnode hf h fun ha => ih ha r rfl
  | sameLine ts =>
    split
    · exact fun r hr => nomatch hr
    · exact hnone
  | ahead h ih =>
    intro r hr
    obtain ⟨_, rfl, rfl⟩ := Option.map_eq_some_iff.1 hr
    exact hnothing _
  | notAhead h ih =>
    split
    · exact fun r hr => nomatch hr
    · exact hnone
  | terminator ts => exact fun r hr => hstop hr
  | finish ts =>
    split
    · rename_i hleft
      rintro r ⟨⟩
      exact hskip hleft
    · exact fun r hr => nomatch hr

/-! ## What is taken -/

section

variable {lineEnds : Bool} {p : Token → Bool} {f : Form Rule} {ts rest : List Token}
  {trees : List Tree}

/-- What is passed over, and what is left, is what there was without some line ends. -/
theorem skip_sublist (lineEnds : Bool) (ts : List Token) :
    (Tree.forestTokens (skip lineEnds ts).1 ++ (skip lineEnds ts).2).Sublist ts := by
  induction ts with
  | nil => exact .slnil
  | cons t ts ih =>
    rw [skip]
    split
    · exact ih.cons_cons t
    · split
      · exact ih.cons t
      · exact .refl _

/-- What is taken is what is passed over and the token behind it. -/
theorem exists_skip_of_take {r : Found} (h : take lineEnds p ts = some r) :
    ∃ comments t, skip lineEnds ts = (comments, t :: r.2) ∧ p t = true ∧
      r.1 = comments ++ [.leaf t] := by
  rw [take] at h
  split at h
  · rename_i comments t left hskip
    split at h
    · rename_i hp
      obtain rfl := Option.some.inj h
      exact ⟨comments, t, hskip, hp, rfl⟩
    · cases h
  · cases h

theorem take_sublist {r : Found} (h : take lineEnds p ts = some r) :
    (Tree.forestTokens r.1 ++ r.2).Sublist ts := by
  obtain ⟨comments, t, hskip, -, htrees⟩ := exists_skip_of_take h
  have hsublist := skip_sublist lineEnds ts
  rw [hskip] at hsublist
  simpa [htrees] using hsublist

theorem length_skip_le (lineEnds : Bool) (ts : List Token) :
    (skip lineEnds ts).2.length ≤ ts.length :=
  ((List.sublist_append_right _ _).trans (skip_sublist lineEnds ts)).length_le

theorem length_lt_of_take {r : Found} (h : take lineEnds p ts = some r) :
    r.2.length < ts.length := by
  obtain ⟨comments, t, hskip, -, -⟩ := exists_skip_of_take h
  have hlength := length_skip_le lineEnds ts
  rwa [hskip] at hlength

/-- **Reading takes tokens off the front.**  Those of the trees, and behind them those that are
left, are the tokens that there were, in their order, without some that have been dropped. -/
theorem Gives.sublist (h : Gives f ts (some (trees, rest))) :
    (Tree.forestTokens trees ++ rest).Sublist ts := by
  refine h.forall_found (P := fun ts r => (Tree.forestTokens r.1 ++ r.2).Sublist ts) isCheck_true
    .refl (fun ha hb => ?_) (fun _ => take_sublist) take_sublist (fun {ts} hleft => ?_)
    (fun _ _ hpart => ?_) trivial _ rfl
  · rw [Found.behind, Tree.forestTokens_append, List.append_assoc]
    exact (hb.append_left _).trans ha
  · have hskip := skip_sublist true ts
    rwa [hleft] at hskip
  · rw [Found.marked, Tree.forestTokens_mark]
    exact hpart trivial

theorem Gives.length_le (h : Gives f ts (some (trees, rest))) : rest.length ≤ ts.length :=
  ((List.sublist_append_right _ _).trans h.sublist).length_le

end

end Codebook.Go
