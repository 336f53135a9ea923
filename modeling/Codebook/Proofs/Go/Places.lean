import Codebook.Proofs.Go.Depth
import Mathlib.Tactic.Convert

/-!
# The reader does not see places

A form looks at the sort and the text of a token, and never at where the token stands.  So if all
tokens are moved, what is read from them are the same trees with their tokens moved.  It does not
even look at all texts: the grammar asks for given words and symbols only, and takes any comment,
string or number for another.

What is here: `Token.Moves`, a change of places, and `Token.Keeps`, one of other texts as well;
`Tree.map`, the trees with their tokens changed; `Form.asksFor`, the tokens that a form asks for;
and `Gives.map` and `Gives.map_keeps`, that reading commutes with either change.
-/

set_option autoImplicit false

namespace Codebook.Go

open Form

/-! ## Moved tokens -/

/-- A change of tokens that only moves them. -/
structure Token.Moves (φ : Token → Token) : Prop where
  /-- The sort stays. -/
  kind_eq : ∀ t, (φ t).kind = t.kind
  /-- And so does the text. -/
  text_eq : ∀ t, (φ t).text = t.text

/-- A change of tokens that leaves words and symbols as they are. -/
structure Token.Keeps (φ : Token → Token) : Prop where
  /-- The sort stays. -/
  kind_eq : ∀ t, (φ t).kind = t.kind
  /-- And so does the text of a word or a symbol. -/
  text_eq : ∀ t, t.kind = .word ∨ t.kind = .symbol → (φ t).text = t.text

/-- Whether what is asked for is a sort, or a given word or symbol. -/
def Terminal.isPlain : Terminal → Bool
  | any _ => true
  | exact kind _ => kind == .word || kind == .symbol

section

variable {φ : Token → Token}

theorem Token.Moves.keeps (h : Moves φ) : Keeps φ := ⟨h.kind_eq, fun t _ => h.text_eq t⟩

theorem Token.Moves.fits_eq (h : Moves φ) (tm : Terminal) (t : Token) :
    tm.fits (φ t) = tm.fits t := by
  cases tm <;> simp only [Terminal.fits, h.kind_eq, h.text_eq]

namespace Token.Keeps

theorem fits_eq (h : Keeps φ) {tm : Terminal} (htm : tm.isPlain = true) (t : Token) :
    tm.fits (φ t) = tm.fits t := by
  cases tm with
  | any kind => simp only [Terminal.fits, h.kind_eq]
  | exact kind text =>
    rw [Terminal.isPlain, Bool.or_eq_true, beq_iff_eq, beq_iff_eq] at htm
    rw [Terminal.fits, Terminal.fits, h.kind_eq]
    by_cases hkind : t.kind = kind
    · rw [h.text_eq t (hkind ▸ htm)]
    · rw [beq_eq_false_iff_ne.2 hkind, Bool.false_and, Bool.false_and]

theorem endsStatement_eq (h : Keeps φ) (t : Token) : endsStatement (φ t) = endsStatement t := by
  rw [endsStatement, endsStatement, isLineEnd, isLineEnd, h.kind_eq]
  by_cases hkind : t.kind = .symbol
  · rw [h.text_eq t (.inr hkind)]
  · rw [beq_eq_false_iff_ne.2 hkind, Bool.false_and, Bool.false_and]

end Token.Keeps

end

/-! ## Trees of moved tokens -/

namespace Tree

mutual

/-- A tree with its tokens changed. -/
def map (φ : Token → Token) : Tree → Tree
  | leaf t => leaf (φ t)
  | node label parts => node label (mapAll φ parts)

/-- Some trees with their tokens changed. -/
def mapAll (φ : Token → Token) : List Tree → List Tree
  | [] => []
  | t :: ts => map φ t :: mapAll φ ts

end

theorem mapAll_eq (φ : Token → Token) (ts : List Tree) : mapAll φ ts = ts.map (map φ) := by
  induction ts with
  | nil => rfl
  | cons t ts ih => rw [mapAll, ih]; rfl

@[simp] theorem map_leaf (φ : Token → Token) (t : Token) : (leaf t).map φ = leaf (φ t) := rfl

@[simp] theorem map_node (φ : Token → Token) (label : Label) (parts : List Tree) :
    (node label parts).map φ = node label (parts.map (map φ)) := by
  rw [map, mapAll_eq]

mutual

theorem tokens_map (φ : Token → Token) (t : Tree) : (t.map φ).tokens = t.tokens.map φ := by
  cases t with
  | leaf t => rfl
  | node label parts => exact forestTokens_mapAll φ parts

theorem forestTokens_mapAll (φ : Token → Token) (ts : List Tree) :
    forestTokens (mapAll φ ts) = (forestTokens ts).map φ := by
  cases ts with
  | nil => rfl
  | cons t ts =>
    rw [mapAll, forestTokens_cons, forestTokens_cons, List.map_append, tokens_map φ t,
      forestTokens_mapAll φ ts]

end

theorem forestTokens_map (φ : Token → Token) (ts : List Tree) :
    forestTokens (ts.map (map φ)) = (forestTokens ts).map φ := by
  rw [← mapAll_eq, forestTokens_mapAll]

end Tree

/-! ## Sorts -/

section

variable {φ : Token → Token} (hkind : ∀ t, (φ t).kind = t.kind)

include hkind

theorem Token.isComment_map (t : Token) : (φ t).isComment = t.isComment := by
  rw [isComment, isComment, hkind]

theorem Token.isLineEnd_map (t : Token) : (φ t).isLineEnd = t.isLineEnd := by
  rw [isLineEnd, isLineEnd, hkind]

namespace Tree

theorem comment?_map (t : Tree) : (t.map φ).comment? = t.comment?.map φ := by
  cases t with
  | node label parts => rfl
  | leaf t =>
    rw [map_leaf, comment?, comment?, Token.isComment_map hkind]
    cases t.isComment <;> rfl

theorem isComment_map (t : Tree) : (t.map φ).isComment = t.isComment := by
  rw [isComment, comment?_map hkind, Option.isSome_map]
  rfl

theorem isLineEnd_map (t : Tree) : (t.map φ).isLineEnd = t.isLineEnd := by
  cases t with
  | node label parts => rfl
  | leaf t => exact t.isLineEnd_map hkind

theorem isNamed_map (t : Tree) : (t.map φ).isNamed = t.isNamed := by
  cases t with
  | node label parts => rfl
  | leaf t => exact t.isComment_map hkind

theorem mark_map (label : Label) (ts : List Tree) :
    mark label (ts.map (map φ)) = (mark label ts).map (map φ) := by
  have hsame : isComment ∘ map φ = isComment := funext fun t => isComment_map hkind t
  simp only [mark, List.takeWhile_map, List.dropWhile_map, hsame, List.map_append, List.map_cons,
    List.map_nil, map_node]

end Tree

end

/-! ## Reading moved tokens -/

/-- What is found, with its tokens changed. -/
def Found.map (φ : Token → Token) (r : Found) : Found := (r.1.map (Tree.map φ), r.2.map φ)

theorem Found.map_behind (φ : Token → Token) (trees : List Tree) (r : Found) :
    (r.behind trees).map φ = (r.map φ).behind (trees.map (Tree.map φ)) := by
  simp only [Found.map, Found.behind, List.map_append]

section

variable {φ : Token → Token} (hkind : ∀ t, (φ t).kind = t.kind)

include hkind

theorem Found.map_marked (label : Label) (r : Found) :
    (r.marked label).map φ = (r.map φ).marked label := by
  simp only [Found.map, Found.marked, Tree.mark_map hkind]

theorem skip_map (lineEnds : Bool) (ts : List Token) :
    skip lineEnds (ts.map φ) = Found.map φ (skip lineEnds ts) := by
  induction ts with
  | nil => rfl
  | cons t ts ih =>
    rw [List.map_cons, skip, skip, t.isComment_map hkind, t.isLineEnd_map hkind, ih]
    cases t.isComment with
    | true => rfl
    | false => cases t.isLineEnd && lineEnds <;> rfl

theorem take_map (lineEnds : Bool) {p : Token → Bool} (hp : ∀ t, p (φ t) = p t)
    (ts : List Token) :
    take lineEnds p (ts.map φ) = (take lineEnds p ts).map (Found.map φ) := by
  rw [take, take, skip_map hkind]
  cases hskip : skip lineEnds ts with
  | mk comments left =>
    cases left with
    | nil => rfl
    | cons t rest =>
      simp only [Found.map, List.map_cons, hp]
      cases p t <;> simp [Found.map]

theorem lineEndsHere_map (ts : List Token) : lineEndsHere (ts.map φ) = lineEndsHere ts := by
  rw [lineEndsHere, lineEndsHere, skip_map hkind]
  cases hskip : skip false ts with
  | mk comments left =>
    cases left with
    | nil => rfl
    | cons t rest => simp [Found.map, t.isLineEnd_map hkind]

end

/-! ## What forms ask for -/

/-- Whether a form asks for tokens in `A` only. -/
def Form.asksFor (A : Terminal → Bool) : Form Rule → Bool
  | .token t => A t
  | .seq a b | .alt a b => a.asksFor A && b.asksFor A
  | .many a | .node _ a | .ahead a | .notAhead a => a.asksFor A
  | _ => true

theorem Form.asksFor_true (f : Form Rule) : f.asksFor (fun _ => true) = true := by
  induction f with
  | seq a b iha ihb | alt a b iha ihb => rw [asksFor, iha, ihb]; rfl
  | many a ih | node label a ih | ahead a ih | notAhead a ih => exact ih
  | _ => rfl

/-- **The grammar asks for given words and symbols only.** -/
theorem Rule.asksFor_form (r : Rule) : r.form.asksFor Terminal.isPlain = true := by
  revert r; decide +kernel

section

variable {φ : Token → Token} {A : Terminal → Bool} {f : Form Rule} {ts : List Token}
  {o : Option Found}

/-- Changed tokens are read as changed trees, if no token that is asked for is changed to one that
is not, or the other way. -/
theorem Gives.map_of_asksFor (hrules : ∀ r : Rule, r.form.asksFor A = true) (hφ : Token.Keeps φ)
    (hfits : ∀ tm, A tm = true → ∀ t, tm.fits (φ t) = tm.fits t) (h : Gives f ts o)
    (hf : f.asksFor A = true) : Gives f (ts.map φ) (o.map (Found.map φ)) := by
  have hkind := hφ.kind_eq
  induction h with
  | empty ts => exact .empty _
  | token t ts =>
    rw [← take_map hkind true (hfits t hf)]
    exact .token t _
  | rule hr ih => exact .rule (ih (hrules _))
  | seqNone ha ih => exact .seqNone (ih (Bool.and_eq_true_iff.1 hf).1)
  | @seqSome a b ts rest trees o ha hb iha ihb =>
    have hseq := (iha (Bool.and_eq_true_iff.1 hf).1).seqSome (ihb (Bool.and_eq_true_iff.1 hf).2)
    rw [Option.map_map] at hseq ⊢
    convert hseq using 2
    exact funext fun r => Found.map_behind φ trees r
  | altSome ha ih => exact .altSome (ih (Bool.and_eq_true_iff.1 hf).1)
  | altNone ha hb iha ihb =>
    exact .altNone (iha (Bool.and_eq_true_iff.1 hf).1) (ihb (Bool.and_eq_true_iff.1 hf).2)
  | manyNone ha ih => exact .manyNone (ih hf)
  | manyIdle ha hrest ih => exact .manyIdle (ih hf) (by simpa using hrest)
  | @manySome a ts rest trees o ha hrest hmore iha ihmore =>
    have hmany := (iha hf).manySome (by simpa using hrest) (ihmore hf)
    rw [Option.map_map] at hmany ⊢
    convert hmany using 2
    exact funext fun r => Found.map_behind φ trees r
  | @node label a ts o ha ih =>
    have hnode : Gives (.node label a) (ts.map φ) _ := .node (ih hf)
    rw [Option.map_map] at hnode ⊢
    convert hnode using 2
    exact funext fun r => Found.map_marked hkind label r
  | sameLine ts =>
    have hline := Gives.sameLine (ts.map φ)
    rw [lineEndsHere_map hkind] at hline
    cases hends : lineEndsHere ts <;> rw [hends] at hline <;> exact hline
  | @ahead a ts o ha ih =>
    have hahead := Gives.ahead (ih hf)
    rw [Option.map_map] at hahead ⊢
    exact hahead
  | @notAhead a ts o ha ih =>
    have hnot := Gives.notAhead (ih hf)
    cases o <;> exact hnot
  | terminator ts =>
    rw [← take_map hkind false hφ.endsStatement_eq]
    exact .terminator _
  | finish ts =>
    have hfinish := Gives.finish (ts.map φ)
    rw [skip_map hkind] at hfinish
    cases hleft : (skip true ts).2 with
    | nil => simpa [Found.map, hleft] using hfinish
    | cons t rest => simpa [Found.map, hleft] using hfinish

/-- **Moved tokens are read as moved trees.** -/
theorem Gives.map (hφ : Token.Moves φ) (h : Gives f ts o) :
    Gives f (ts.map φ) (o.map (Found.map φ)) :=
  h.map_of_asksFor (fun r => r.form.asksFor_true) hφ.keeps (fun tm _ => hφ.fits_eq tm)
    f.asksFor_true

/-- **And so are tokens that keep their words and symbols**, by the forms of the grammar. -/
theorem Gives.map_keeps (hφ : Token.Keeps φ) (h : Gives f ts o)
    (hf : f.asksFor Terminal.isPlain = true) : Gives f (ts.map φ) (o.map (Found.map φ)) :=
  h.map_of_asksFor Rule.asksFor_form hφ (fun _ htm => hφ.fits_eq htm) hf

end

end Codebook.Go
