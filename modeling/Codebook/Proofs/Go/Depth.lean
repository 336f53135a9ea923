import Codebook.Proofs.Go.Meaning

/-!
# How deep the reader goes

The rules of the grammar are ranked.  A form that has taken no token yet reads rules of a lower
rank only, and with each token that is taken there is room for all ranks again.  So the depth that
the reader is given for the tokens of a file is enough, and what it reads is what the file gives.

What is here: an instance by which what can be decided of each rule can be decided of all;
`Form.mayIdle`, which forms may take nothing, and `Gives.hasToken`, that the others do not;
`Form.reach`, how deep a form goes before it takes a token; and `gives_read`, that the reader goes
deep enough.
-/

set_option autoImplicit false

namespace Codebook.Go

open Form

/-! ## All rules

There are so many rules only, and so what can be decided of each can be decided of all. -/

instance {p : Context → Prop} [DecidablePred p] : Decidable (∀ c, p c) :=
  decidable_of_iff (∀ line literal guard statement, p ⟨line, literal, guard, statement⟩)
    ⟨fun h c => h c.line c.literal c.guard c.statement, fun h _ _ _ _ => h _⟩

instance {p : Position → Prop} [DecidablePred p] : Decidable (∀ q, p q) :=
  decidable_of_iff (p .file ∧ p .block ∧ p .clause)
    ⟨fun ⟨hfile, hblock, hclause⟩ q => by cases q <;> assumption, fun h => ⟨h _, h _, h _⟩⟩

/-- The rules without parameters. -/
def Rule.plain : List Rule :=
  [topItem, topDeclaration, importSpec, values, typeDeclaration, typeSpec, typeParameters,
    typeArguments, parameters, field, interfaceElement, block, ifStatement, forStatement,
    switchStatement, selectStatement, arguments, literalValue, element]

/-- The rules that come in two ways. -/
def Rule.flagged : List (Bool → Rule) :=
  [consts, constSpec, vars, varSpec, type, simpleType, typeName, typeElement, result]

/-- The rules for statements at some position. -/
def Rule.placed : List (Position → Rule) := [statements, openStatement, closedStatement]

/-- The rules for expressions and their parts in some context. -/
def Rule.inContext : List (Context → Rule) := [expression, unary, primary, operand, suffix]

/-- The rules whose first expression has a context of its own. -/
def Rule.inContexts : List (Context → Context → Rule) := [simpleOpen, simple]

instance {p : Rule → Prop} [DecidablePred p] : Decidable (∀ r, p r) :=
  decidable_of_iff
    ((∀ r ∈ Rule.plain, p r) ∧ (∀ f ∈ Rule.flagged, ∀ b, p (f b)) ∧
      (∀ f ∈ Rule.placed, ∀ q, p (f q)) ∧ (∀ f ∈ Rule.inContext, ∀ c, p (f c)) ∧
        ∀ f ∈ Rule.inContexts, ∀ first rest, p (f first rest))
    ⟨fun ⟨hplain, hflagged, hplaced, hone, htwo⟩ r => by
      cases r with
      | consts b | constSpec b | vars b | varSpec b | type b | simpleType b | typeName b
      | typeElement b | result b => exact hflagged _ (by simp [Rule.flagged]) b
      | statements q | openStatement q | closedStatement q =>
        exact hplaced _ (by simp [Rule.placed]) q
      | expression c | unary c | primary c | operand c | suffix c =>
        exact hone _ (by simp [Rule.inContext]) c
      | simpleOpen first rest | simple first rest =>
        exact htwo _ (by simp [Rule.inContexts]) first rest
      | _ => exact hplain _ (by simp [Rule.plain]),
    fun h => ⟨fun r _ => h r, fun f _ b => h (f b), fun f _ q => h (f q), fun f _ c => h (f c),
      fun f _ first rest => h (f first rest)⟩⟩

/-! ## Forms that take nothing -/

/-- Whether a rule may take nothing. -/
def Rule.mayIdle : Rule → Bool
  | .statements _ | .result _ => true
  | _ => false

/-- Whether a form may take nothing. -/
def Form.mayIdle : Form Rule → Bool
  | .empty | .many _ | .sameLine | .ahead _ | .finish => true
  | .token _ | .terminator => false
  | .rule r => r.mayIdle
  | .seq a b => a.mayIdle && b.mayIdle
  | .alt a b => a.mayIdle || b.mayIdle
  | .node _ a => a.mayIdle
  | .notAhead .empty => false
  | .notAhead _ => true

/-- Each rule takes something, as far as the rules that it reads first do. -/
theorem Rule.mayIdle_of_form (r : Rule) : r.form.mayIdle = true → r.mayIdle = true := by
  revert r; decide +kernel

section

variable {lineEnds : Bool} {p : Token → Bool} {f : Form Rule} {ts rest : List Token}
  {o : Option Found}

/-- What comes next is no comment. -/
theorem isComment_of_skip {comments : List Tree} {t : Token}
    (h : skip lineEnds ts = (comments, t :: rest)) : t.isComment = false := by
  induction ts generalizing comments with
  | nil => cases h
  | cons x ts ih =>
    rw [skip] at h
    split at h
    · exact ih (Prod.ext rfl (Prod.mk.inj h).2)
    · rename_i hx
      split at h
      · exact ih h
      · obtain ⟨rfl, -⟩ := List.cons.inj (Prod.mk.inj h).2
        exact Bool.eq_false_iff.2 hx

/-- Some token of these trees is no comment. -/
def HasToken (trees : List Tree) : Prop := ∃ t ∈ Tree.forestTokens trees, t.isComment = false

theorem hasToken_take {r : Found} (h : take lineEnds p ts = some r) : HasToken r.1 := by
  obtain ⟨comments, t, hskip, -, htrees⟩ := exists_skip_of_take h
  exact ⟨t, by simp [htrees], isComment_of_skip hskip⟩

/-- **What takes something takes a token that is no comment.** -/
theorem Gives.hasToken (h : Gives f ts o) (hf : f.mayIdle = false) :
    ∀ r, o = some r → HasToken r.1 := by
  induction h with
  | empty ts => cases hf
  | token t ts => exact fun r hr => hasToken_take hr
  | @rule r ts o h ih =>
    refine ih (Bool.eq_false_iff.2 fun htrue => ?_)
    exact Bool.false_ne_true (hf.symm.trans (r.mayIdle_of_form htrue))
  | seqNone h ih => exact fun r hr => absurd hr.symm (Option.some_ne_none r)
  | @seqSome a b ts rest trees o ha hb iha ihb =>
    intro r hr
    obtain ⟨r, rfl, rfl⟩ := Option.map_eq_some_iff.1 hr
    rcases Bool.and_eq_false_iff.1 hf with hf | hf
    · obtain ⟨t, ht, hcomment⟩ := iha hf _ rfl
      exact ⟨t, by simp [Found.behind, ht], hcomment⟩
    · obtain ⟨t, ht, hcomment⟩ := ihb hf r rfl
      exact ⟨t, by simp [Found.behind, ht], hcomment⟩
  | altSome h ih => exact ih (Bool.or_eq_false_iff.1 hf).1
  | altNone ha hb iha ihb => exact ihb (Bool.or_eq_false_iff.1 hf).2
  | manyNone h ih => cases hf
  | manyIdle h hrest ih => cases hf
  | manySome ha hrest hmore iha ihmore => cases hf
  | node h ih =>
    intro r hr
    obtain ⟨r, rfl, rfl⟩ := Option.map_eq_some_iff.1 hr
    obtain ⟨t, ht, hcomment⟩ := ih hf r rfl
    exact ⟨t, by rwa [Found.marked, Tree.forestTokens_mark], hcomment⟩
  | sameLine ts => cases hf
  | ahead h ih => cases hf
  | @notAhead a ts o h ih =>
    -- only where nothing is asked for may it be known that something is there
    cases a with
    | empty =>
      obtain rfl := h.unique (.empty ts)
      exact fun r hr => absurd hr.symm (Option.some_ne_none r)
    | _ => cases hf
  | terminator ts => exact fun r hr => hasToken_take hr
  | finish ts => cases hf

/-- What takes something leaves less. -/
theorem Gives.length_lt (h : Gives f ts o) (hf : f.mayIdle = false) :
    ∀ r, o = some r → r.2.length < ts.length := by
  rintro r rfl
  obtain ⟨t, ht, -⟩ := h.hasToken hf r rfl
  have hpos := List.length_pos_of_mem ht
  have hle := h.sublist.length_le
  rw [List.length_append] at hle
  omega

end

/-! ## The depth of the reader -/

/-- The rank of a rule.  A rule reads rules of a lower rank before it takes its first token. -/
def Rule.rank : Rule → Nat
  | .typeName _ => 8
  | .field => 16
  | .simpleType _ | .suffix _ => 20
  | .type _ => 24
  | .typeElement _ | .result _ => 28
  | .interfaceElement => 32
  | .operand _ => 36
  | .primary _ => 40
  | .unary _ => 44
  | .expression _ => 48
  | .values | .element | .simpleOpen _ _ => 52
  | .simple _ _ => 56
  | .openStatement _ => 64
  | .closedStatement _ => 72
  | .topItem | .statements _ => 80
  | _ => 12

/-- How deep a form goes before it takes a token. -/
def Form.reach : Form Rule → Nat
  | .rule r => r.rank + 1
  | .seq a b => max a.reach (if a.mayIdle then b.reach else 0) + 1
  | .alt a b => max a.reach b.reach + 1
  | .many a | .node _ a | .ahead a | .notAhead a => a.reach + 1
  | _ => 1

/-- The depth that each token gives room for. -/
def levels : Nat := 256

/-- No part of a form goes deeper than there is room for. -/
def Form.isShallow : Form Rule → Bool
  | .seq a b => a.isShallow && b.isShallow && b.reach ≤ levels
  | .alt a b => a.isShallow && b.isShallow
  | .many a | .node _ a | .ahead a | .notAhead a => a.isShallow
  | _ => true

/-- **The rules are ranked.** -/
theorem Rule.reach_form_le (r : Rule) : r.form.reach ≤ r.rank ∧ r.form.isShallow = true := by
  revert r; decide +kernel

/-- There is room for a form to be read from some tokens. -/
def HasRoom (n : Nat) (f : Form Rule) (ts : List Token) : Prop := f.reach + levels * ts.length ≤ n

theorem HasRoom.pos {n : Nat} {f : Form Rule} {ts : List Token} (h : HasRoom n f ts) : 0 < n := by
  refine Nat.lt_of_lt_of_le ?_ (Nat.le_trans (Nat.le_add_right _ _) h)
  cases f <;> exact Nat.succ_pos _

/-- **As deep as there is room, the reader reads what a form gives.** -/
theorem gives_readWith {n : Nat} {f : Form Rule} {ts : List Token} (hf : f.isShallow = true)
    (hn : HasRoom n f ts) : Gives f ts (readWith Rule.form n f ts) := by
  induction n generalizing f ts with
  | zero => exact absurd hn.pos (Nat.lt_irrefl 0)
  | succ n ih =>
    -- a part that is read from the same tokens
    have hpart {g : Form Rule} (hg : g.isShallow = true) (hreach : g.reach + 1 ≤ f.reach) :
        Gives g ts (readWith Rule.form n g ts) :=
      ih hg (by simp only [HasRoom] at hn ⊢; omega)
    cases f with
    | empty => exact .empty ts
    | token t => exact .token t ts
    | rule r =>
      obtain ⟨hreach, hshallow⟩ := r.reach_form_le
      exact .rule (hpart hshallow (Nat.succ_le_succ hreach))
    | seq a b =>
      simp only [isShallow, Bool.and_eq_true, decide_eq_true_eq] at hf
      obtain ⟨⟨ha, hb⟩, hsmall⟩ := hf
      have hfirst := hpart ha (Nat.succ_le_succ (Nat.le_max_left _ _))
      rw [readWith_seq]
      cases hread : readWith Rule.form n a ts with
      | none => exact .seqNone (hread ▸ hfirst)
      | some r =>
        rw [hread] at hfirst
        refine .seqSome hfirst (ih hb ?_)
        have hle := hfirst.length_le
        simp only [HasRoom, reach] at hn ⊢
        cases hidle : a.mayIdle with
        | true =>
          have hmul := Nat.mul_le_mul_left levels hle
          rw [hidle, if_pos rfl] at hn
          omega
        | false =>
          have hmul := Nat.mul_le_mul_left levels (Nat.succ_le_of_lt (hfirst.length_lt hidle r rfl))
          rw [Nat.succ_eq_add_one, Nat.mul_add, Nat.mul_one] at hmul
          omega
    | alt a b =>
      obtain ⟨ha, hb⟩ := Bool.and_eq_true_iff.1 hf
      have hleft := hpart ha (Nat.succ_le_succ (Nat.le_max_left _ _))
      have hright := hpart hb (Nat.succ_le_succ (Nat.le_max_right _ _))
      rw [readWith_alt]
      cases hread : readWith Rule.form n a ts with
      | none => exact .altNone (hread ▸ hleft) hright
      | some r => exact .altSome (hread ▸ hleft)
    | many a =>
      have hone := hpart (g := a) hf (Nat.le_refl _)
      rw [readWith_many]
      cases hread : readWith Rule.form n a ts with
      | none => exact .manyNone (hread ▸ hone)
      | some r =>
        rw [hread] at hone
        dsimp only
        split
        · rename_i hlength
          refine .manySome hone hlength (ih hf ?_)
          have hmul := Nat.mul_le_mul_left levels (Nat.succ_le_of_lt hlength)
          rw [Nat.succ_eq_add_one, Nat.mul_add, Nat.mul_one] at hmul
          simp only [HasRoom, levels] at hn hmul ⊢
          omega
        · rename_i hlength
          exact .manyIdle hone hlength
    | node label a =>
      rw [readWith_node]
      exact .node (hpart (g := a) hf (Nat.le_refl _))
    | sameLine =>
      rw [readWith_sameLine]
      exact .sameLine ts
    | ahead a => exact .ahead (hpart (g := a) hf (Nat.le_refl _))
    | notAhead a =>
      rw [readWith_notAhead]
      exact .notAhead (hpart (g := a) hf (Nat.le_refl _))
    | terminator => exact .terminator ts
    | finish =>
      rw [readWith_finish]
      exact .finish ts

/-- **The reader reads what a file gives.** -/
theorem gives_read (ts : List Token) :
    Gives Rule.topLevel ts (read Rule.form Rule.topLevel ts) := by
  refine gives_readWith (by decide) ?_
  have hreach : Rule.topLevel.reach ≤ 4 * levels := by decide
  simp only [HasRoom, depthFor, levels] at hreach ⊢
  omega

/-- What a file gives is read. -/
theorem read_of_gives {ts : List Token} {o : Option Found} (h : Gives Rule.topLevel ts o) :
    read Rule.form Rule.topLevel ts = o := (gives_read ts).unique h

end Codebook.Go
