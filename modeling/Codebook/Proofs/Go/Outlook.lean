import Codebook.Proofs.Go.Reading

/-!
# What the next token tells about a form

Of the alternatives of a form most fail at the next token already.  Which ones do is computed:
`outcome` looks at nothing but what a form may take first.

What is here: `Outlook`, what is known about the next token; `outcome`, and that it is right; and
the outlook on a token after comments and line ends, at the end of a line, and at the end of the
text.
-/

set_option autoImplicit false

namespace Codebook.Go

open Form

/-! ## What the next token tells -/

/-- What is known about the next token. -/
structure Outlook where
  /-- What it may be. -/
  mayBe : Terminal → Bool
  /-- It may stand on the same line. -/
  maySameLine : Bool

/-- What is known about the next token of these is true. -/
structure Outlook.Holds (o : Outlook) (ts : List Token) : Prop where
  /-- It is nothing that it may not be. -/
  take_eq_none : ∀ t, o.mayBe t = false → take true t.fits ts = none
  /-- There is a line end before it, if it may not stand on the same line. -/
  sameLine_eq_none : o.maySameLine = false → ∀ n, readWith Rule.form n .sameLine ts = none

/-- What may become of a form, as far as the next token tells. -/
inductive Outcome where
  /-- It does not fit. -/
  | fails
  /-- If it fits, it takes nothing. -/
  | idle
  /-- It may do anything. -/
  | any
deriving DecidableEq, Repr

/-- What becomes of one thing after another. -/
def Outcome.andThen : Outcome → Outcome → Outcome
  | fails, _ => fails
  | idle, o => o
  | any, _ => any

/-- What becomes of the first of two things that fits. -/
def Outcome.orElse : Outcome → Outcome → Outcome
  | fails, o => o
  | idle, any => any
  | idle, _ => idle
  | any, _ => any

/-- What becomes of something that need not fit. -/
def Outcome.optional : Outcome → Outcome
  | any => any
  | _ => idle

/-- What becomes of a form, followed for so many levels. -/
def outcome (o : Outlook) : Nat → Form Rule → Outcome
  | 0, _ => .any
  | _ + 1, .empty => .idle
  | _ + 1, .token t => if o.mayBe t then .any else .fails
  | n + 1, .rule r => outcome o n r.form
  | n + 1, .seq a b => (outcome o n a).andThen (outcome o n b)
  | n + 1, .alt a b => (outcome o n a).orElse (outcome o n b)
  | n + 1, .many a => (outcome o n a).optional
  | n + 1, .node _ a => outcome o n a
  | _ + 1, .sameLine => if o.maySameLine then .idle else .fails
  | n + 1, .ahead a => if outcome o n a = .fails then .fails else .idle
  | _ + 1, .notAhead _ => .idle
  | _ + 1, .terminator => .any
  | _ + 1, .finish => .any

/-- What is said about the outcome of a form. -/
def Outcome.Holds (o : Outcome) (n : Nat) (f : Form Rule) (ts : List Token) : Prop :=
  match o with
  | fails => readWith Rule.form n f ts = none
  | idle => ∀ trees rest, readWith Rule.form n f ts = some (trees, rest) → rest = ts
  | any => True

section

variable {o : Outlook} {a b f : Form Rule} {ts rest : List Token} {trees : List Tree}

namespace Outcome

variable {n : Nat} {c d : Outcome}

theorem Holds.fails_eq (h : c.Holds n f ts) (hc : c = .fails) :
    readWith Rule.form n f ts = none := by
  subst hc
  exact h

/-- What fits and takes nothing leaves all. -/
theorem Holds.rest_eq (h : c.Holds n f ts) (hc : c ≠ .any)
    (hr : readWith Rule.form n f ts = some (trees, rest)) : rest = ts := by
  cases c with
  | fails => rw [h.fails_eq rfl] at hr; cases hr
  | idle => exact h trees rest hr
  | any => exact (hc rfl).elim

/-- Nothing wrong is said about what does not fit. -/
theorem holds_of_eq_none (c : Outcome) (h : readWith Rule.form n f ts = none) :
    c.Holds n f ts := by
  cases c with
  | fails => exact h
  | idle => intro trees rest hr; rw [h] at hr; cases hr
  | any => trivial

theorem Holds.andThen (ha : c.Holds n a ts) (hb : d.Holds n b ts) :
    (c.andThen d).Holds (n + 1) (.seq a b) ts := by
  cases hread : readWith Rule.form n a ts with
  | none =>
    refine holds_of_eq_none _ ?_
    rw [readWith]
    simp only [hread]
  | some r =>
    obtain ⟨trees, rest⟩ := r
    cases c with
    | fails => rw [ha.fails_eq rfl] at hread; cases hread
    | any => trivial
    | idle =>
      obtain rfl := ha trees rest hread
      show d.Holds (n + 1) (.seq a b) rest
      cases hmore : readWith Rule.form n b rest with
      | none =>
        refine holds_of_eq_none _ ?_
        rw [readWith]
        simp only [hread, hmore]
      | some r =>
        obtain ⟨more, rest'⟩ := r
        have hseq : readWith Rule.form (n + 1) (.seq a b) rest = some (trees ++ more, rest') := by
          rw [readWith]
          simp only [hread, hmore]
        cases d with
        | fails => rw [hb.fails_eq rfl] at hmore; cases hmore
        | any => trivial
        | idle =>
          intro all left hr
          obtain rfl : rest' = left := (Prod.mk.inj (Option.some.inj (hseq.symm.trans hr))).2
          exact hb more rest' hmore

theorem Holds.orElse (ha : c.Holds n a ts) (hb : d.Holds n b ts) :
    (c.orElse d).Holds (n + 1) (.alt a b) ts := by
  have halt : readWith Rule.form (n + 1) (.alt a b) ts =
      (readWith Rule.form n a ts).or (readWith Rule.form n b ts) := by
    rw [readWith]
    cases readWith Rule.form n a ts <;> rfl
  -- where neither may take anything, whichever fits leaves all
  have hidle : c ≠ .any → d ≠ .any → idle.Holds (n + 1) (.alt a b) ts := by
    intro hc hd trees rest hr
    rw [halt, Option.or_eq_some_iff] at hr
    rcases hr with hr | ⟨-, hr⟩
    · exact ha.rest_eq hc hr
    · exact hb.rest_eq hd hr
  cases c with
  | any => trivial
  | idle =>
    cases d with
    | any => trivial
    | fails => exact hidle (by simp) (by simp)
    | idle => exact hidle (by simp) (by simp)
  | fails =>
    cases d with
    | any => trivial
    | fails =>
      show readWith Rule.form (n + 1) (.alt a b) ts = none
      rw [halt, ha.fails_eq rfl, hb.fails_eq rfl]
      rfl
    | idle => exact hidle (by simp) (by simp)

/-- A repetition goes on only if something has been taken. -/
theorem Holds.optional (ha : c.Holds n a ts) : c.optional.Holds (n + 1) (.many a) ts := by
  have hidle : c ≠ .any → idle.Holds (n + 1) (.many a) ts := by
    intro hc trees rest hr
    rw [readWith] at hr
    split at hr
    · cases hr
      rfl
    · rename_i taken left hread
      obtain rfl := ha.rest_eq hc hread
      rw [if_neg (Nat.lt_irrefl _)] at hr
      cases hr
      rfl
  cases c with
  | any => trivial
  | fails => exact hidle (by simp)
  | idle => exact hidle (by simp)

theorem Holds.node {label : Label} (ha : c.Holds n a ts) : c.Holds (n + 1) (.node label a) ts := by
  have hnode : readWith Rule.form (n + 1) (.node label a) ts =
      (readWith Rule.form n a ts).map fun r => (Tree.mark label r.1, r.2) := by
    rw [readWith]
    cases readWith Rule.form n a ts <;> rfl
  cases c with
  | any => trivial
  | fails => exact hnode.trans (by rw [ha.fails_eq rfl]; rfl)
  | idle =>
    intro trees rest hr
    rw [hnode, Option.map_eq_some_iff] at hr
    obtain ⟨⟨taken, left⟩, hread, heq⟩ := hr
    obtain rfl : left = rest := (Prod.mk.inj heq).2
    exact ha taken left hread

end Outcome

/-- **What a form may take first decides what becomes of it.** -/
theorem outcome_holds (ho : o.Holds ts) (k : Nat) (f : Form Rule) (n : Nat) :
    (outcome o k f).Holds n f ts := by
  induction k generalizing f n with
  | zero => trivial
  | succ k ih =>
    cases n with
    | zero => exact Outcome.holds_of_eq_none _ rfl
    | succ n =>
      cases f with
      | empty =>
        intro trees rest hr
        cases hr
        rfl
      | token t =>
        rw [outcome]
        split
        · trivial
        · rename_i ht
          exact ho.take_eq_none t (Bool.eq_false_iff.2 ht)
      | rule r => exact ih r.form n
      | seq a b => exact (ih a n).andThen (ih b n)
      | alt a b => exact (ih a n).orElse (ih b n)
      | many a => exact (ih a n).optional
      | node label a => exact (ih a n).node
      | sameLine =>
        rw [outcome]
        split
        · intro trees rest hr
          rw [readWith] at hr
          split at hr
          · split at hr <;> cases hr
            rfl
          · cases hr
            rfl
        · rename_i hline
          exact ho.sameLine_eq_none (Bool.eq_false_iff.2 hline) _
      | ahead a =>
        have hahead : readWith Rule.form (n + 1) (.ahead a) ts =
            (readWith Rule.form n a ts).map fun _ => ([], ts) := rfl
        rw [outcome]
        split
        · rename_i hfails
          exact hahead.trans (by rw [(ih a n).fails_eq hfails]; rfl)
        · intro trees rest hr
          rw [hahead, Option.map_eq_some_iff] at hr
          obtain ⟨r, -, heq⟩ := hr
          exact (Prod.mk.inj heq).2.symm
      | notAhead a =>
        intro trees rest hr
        rw [readWith] at hr
        split at hr <;> cases hr
        rfl
      | terminator => trivial
      | finish => trivial

/-- A form that cannot start with the next token does not fit.  No form goes deeper than this before
it takes its first token. -/
theorem Outlook.Holds.fails {n : Nat} (ho : o.Holds ts) (h : outcome o 60 f = .fails) :
    Fails n f ts := fun m _ => (outcome_holds ho 60 f m).fails_eq h

/-- Some of the alternatives at the front cannot start with the next token. -/
def refusesFirst (o : Outlook) : Nat → Form Rule → Bool
  | k + 1, .alt a b => outcome o 60 a == .fails && refusesFirst o k b
  | _, _ => true

/-- A form without some of the alternatives at its front. -/
def withoutFirst : Nat → Form Rule → Form Rule
  | k + 1, .alt _ b => withoutFirst k b
  | _, f => f

/-- Alternatives that cannot start with the next token are passed over. -/
theorem Takes.passOver {n : Nat} {rest' : List Token} (ho : o.Holds ts) (k : Nat)
    (hrefuses : refusesFirst o k f = true) (h : Takes n (withoutFirst k f) ts trees rest') :
    Takes (n + k) f ts trees rest' := by
  induction k generalizing f with
  | zero => exact h
  | succ k ih =>
    cases f with
    | alt a b =>
      rw [refusesFirst, Bool.and_eq_true, beq_iff_eq] at hrefuses
      exact altRight (ho.fails hrefuses.1) (ih hrefuses.2 h)
    | _ => exact h.mono (Nat.le_add_right _ _)

end

/-! ## Comments and line ends before a token -/

/-- These tokens are all comments and line ends. -/
def IsTrivia (lead : List Token) : Prop :=
  ∀ t ∈ lead, t.isComment = true ∨ t.isLineEnd = true

/-- The comments among some tokens as trees. -/
def commentLeaves (lead : List Token) : List Tree := (lead.filter Token.isComment).map .leaf

section

variable {lead rest ts : List Token} {t : Token}

theorem isTrivia_nil : IsTrivia [] := fun _ h => nomatch h

/-- A token that is neither a comment nor a line end. -/
structure Token.Counts (t : Token) : Prop where
  /-- It is no comment. -/
  notComment : t.isComment = false
  /-- It is no line end. -/
  notLineEnd : t.isLineEnd = false

theorem Token.counts_of_kind {kind : TokenKind} (h : t.kind = kind)
    (hkind : kind ≠ .comment ∧ kind ≠ .lineEnd) : t.Counts := by
  constructor <;> simp [Token.isComment, Token.isLineEnd, h, hkind]

theorem Token.isComment_of_isLineEnd (h : t.isLineEnd = true) : t.isComment = false := by
  rw [Token.isLineEnd, beq_iff_eq] at h
  rw [Token.isComment, h]
  rfl

theorem Token.isLineEnd_of_isComment (h : t.isComment = true) : t.isLineEnd = false := by
  rw [Token.isComment, beq_iff_eq] at h
  rw [Token.isLineEnd, h]
  rfl

theorem skip_trivia (hlead : IsTrivia lead) (ht : t.Counts) :
    skip true (lead ++ t :: rest) = (commentLeaves lead, t :: rest) := by
  induction lead with
  | nil =>
    rw [List.nil_append, skip]
    simp [ht.notComment, ht.notLineEnd, commentLeaves]
  | cons x lead ih =>
    have hskip := ih fun y hy => hlead y (List.mem_cons_of_mem _ hy)
    rw [List.cons_append, skip, hskip]
    rcases hlead x List.mem_cons_self with hx | hx
    · simp [hx, commentLeaves]
    · cases hc : x.isComment <;> simp [hc, hx, commentLeaves]

theorem take_trivia (hlead : IsTrivia lead) (ht : t.Counts) (p : Token → Bool) :
    take true p (lead ++ t :: rest) =
      if p t = true then some (commentLeaves lead ++ [.leaf t], rest) else none := by
  rw [take, skip_trivia hlead ht]

theorem Takes.leaf {n : Nat} {tm : Terminal} (hlead : IsTrivia lead) (ht : t.Counts)
    (hfits : tm.fits t = true) :
    Takes (n + 1) (.token tm) (lead ++ t :: rest) (commentLeaves lead ++ [.leaf t]) rest :=
  token (by rw [take_trivia hlead ht, if_pos hfits])

/-- One of several keywords. -/
theorem Takes.keywords {ks : List String} (hlead : IsTrivia lead) (ht : t.kind = .word)
    (hmem : t.text ∈ ks) :
    Takes (ks.length + 1) (Form.keywords ks) (lead ++ t :: rest)
      (commentLeaves lead ++ [.leaf t]) rest := by
  have hcounts := Token.counts_of_kind ht (by decide)
  have hread (k : String) (n : Nat) (hk : k = t.text) :
      Takes (n + 1) (keyword k) (lead ++ t :: rest) (commentLeaves lead ++ [.leaf t]) rest :=
    .leaf hlead hcounts (by simp [Terminal.fits, ht, hk])
  induction ks with
  | nil => cases hmem
  | cons k ks ih =>
    cases ks with
    | nil => exact hread k 1 (List.mem_singleton.1 hmem).symm
    | cons next ks =>
      by_cases hk : k = t.text
      · exact altLeft (hread k _ hk)
      · refine altRight ?_ (ih ((List.mem_cons.1 hmem).resolve_left (Ne.symm hk)))
        refine Fails.of_succ fun m _ => ?_
        rw [keyword, readWith, take_trivia hlead hcounts, if_neg]
        simp [Terminal.fits, Ne.symm hk]

/-! ## Outlooks -/

/-- A token of a sort, of which it is known what its text may be. -/
def Outlook.of (kind : TokenKind) (possible : String → Bool) : Outlook where
  mayBe
    | .any k => kind == k
    | .exact k s => kind == k && possible s
  maySameLine := true

/-- A word that is none of some keywords. -/
def Outlook.wordBut (ks : List String) : Outlook := .of .word fun s => !ks.contains s

/-- The line ends here, and nothing more is known. -/
def Outlook.lineEnd : Outlook := ⟨fun _ => true, false⟩

/-- The text ends here. -/
def Outlook.nothing : Outlook := ⟨fun _ => false, true⟩

theorem Outlook.holds_of {kind : TokenKind} {possible : String → Bool} (hlead : IsTrivia lead)
    (ht : t.kind = kind) (hkind : kind ≠ .comment ∧ kind ≠ .lineEnd)
    (htext : possible t.text = true) : (Outlook.of kind possible).Holds (lead ++ t :: rest) := by
  subst ht
  refine ⟨fun tm htm => ?_, fun hfalse => nomatch hfalse⟩
  have hfits : tm.fits t = false := by
    cases tm with
    | any k => exact htm
    | exact k s =>
      simp only [Outlook.of, Bool.and_eq_false_iff] at htm
      simp only [Terminal.fits, Bool.and_eq_false_iff, beq_eq_false_iff_ne]
      refine htm.imp beq_eq_false_iff_ne.1 fun hs heq => ?_
      rw [heq, hs] at htext
      cases htext
  rw [take_trivia hlead (Token.counts_of_kind rfl hkind), hfits, if_neg Bool.false_ne_true]

theorem Outlook.holds_wordBut {ks : List String} (hlead : IsTrivia lead) (ht : t.kind = .word)
    (htext : t.text ∉ ks) : (Outlook.wordBut ks).Holds (lead ++ t :: rest) :=
  holds_of hlead ht (by decide) (by simpa using htext)

/-- The line ends before the next token that is no comment. -/
def AtLineEnd (ts : List Token) : Prop :=
  ∃ t rest, (skip false ts).2 = t :: rest ∧ t.isLineEnd = true

theorem Outlook.holds_lineEnd (h : AtLineEnd ts) : Outlook.lineEnd.Holds ts := by
  obtain ⟨t, rest, hskip, ht⟩ := h
  refine ⟨fun _ hfalse => (nomatch hfalse), fun _ n => ?_⟩
  cases n with
  | zero => rfl
  | succ n =>
    rw [readWith]
    simp [hskip, ht]

theorem Outlook.holds_nothing : Outlook.nothing.Holds [] :=
  ⟨fun _ _ => rfl, fun hfalse => nomatch hfalse⟩

end

end Codebook.Go
