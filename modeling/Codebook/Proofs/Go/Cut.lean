import Codebook.Proofs.Go.Lines
import Codebook.Proofs.Go.Locality
import Codebook.Proofs.Go.Seam

/-!
# A source cut between two lines

If no token goes over the end of a line, the tokens of a source are those up to there and those
behind it.  The first ones do not depend on what follows, and the others only stand further down if
there are more lines before them.

What is here: `Scanned.trans` and `Scanned.scans`, the tokens of a source from those of its parts;
`Scanned.split`, the cut; `Scanned.append_congr`, that the tokens up to it stay; and `Scanned.down`,
the tokens behind it further down.
-/

set_option autoImplicit false

namespace Codebook.Go

section

variable {p q r : Place} {cs ds rest rest' : List Char} {ts us : List Token}

/-! ## Parts of a source -/

/-- The tokens of two parts, one behind the other. -/
theorem Scanned.trans (h : Scanned p cs ts q ds) (h' : Scanned q ds us r rest) :
    Scanned p cs (ts ++ us) r rest := by
  induction h with
  | done p cs => exact h'
  | gap hc h ih => exact .gap hc (ih h')
  | token hc hmatch htaken h ih => exact .token hc hmatch htaken (ih h')

/-- **The tokens of a source are read.** -/
theorem Scanned.scans (h : Scanned p cs ts q []) : Scans p cs ts := by
  generalize hrest : ([] : List Char) = rest at h
  induction h with
  | done p cs => subst hrest; exact .nil p
  | gap hc h ih => exact .gap hc (ih hrest)
  | @token p q c cs taken left rest kind ts hc hmatch htaken h ih =>
    obtain ⟨taken', hne, htaken'⟩ := exists_taken_of_matchToken hmatch
    obtain rfl := List.append_cancel_right (htaken.symm.trans htaken')
    obtain ⟨x, taken, rfl⟩ := List.exists_cons_of_ne_nil hne
    obtain ⟨rfl, rfl⟩ := List.cons.inj htaken
    exact .cons hc hmatch (ih hrest)

/-! ## Tokens over the end of a line -/

/-- A token starts above a row, and ends on it or below. -/
structure Token.Reaches (t : Token) (row : Nat) : Prop where
  /-- It is no line end. -/
  notLineEnd : t.isLineEnd = false
  /-- It starts above the row. -/
  row_lt : t.row < row
  /-- It does not end above it. -/
  le_endRow : row ≤ t.endRow

/-- Some text is nothing, or up to the end of a line. -/
def IsText (cs : List Char) : Prop := cs = [] ∨ EndsInNewline cs

theorem EndsInNewline.of_suffix (h : EndsInNewline cs) (hsuffix : ds <:+ cs) (hne : ds ≠ []) :
    EndsInNewline ds := by
  obtain ⟨line, rfl⟩ := h
  rcases List.suffix_concat_iff.1 hsuffix with rfl | ⟨ds', rfl, -⟩
  · exact absurd rfl hne
  · exact ⟨ds', rfl⟩

theorem IsText.of_suffix (h : IsText cs) (hsuffix : ds <:+ cs) : IsText ds := by
  by_cases hne : ds = []
  · exact .inl hne
  · refine .inr ((h.resolve_left ?_).of_suffix hsuffix hne)
    rintro rfl
    exact hne (List.suffix_nil.1 hsuffix)

/-- A row is as far down as there are line ends before it. -/
theorem Place.row_foldl_after (cs : List Char) (p : Place) :
    (cs.foldl Place.after p).row = p.row + cs.count '\n' := by
  induction cs generalizing p with
  | nil => rfl
  | cons c cs ih =>
    rw [List.foldl_cons, ih, Place.after, List.count_cons]
    split
    · rename_i hc
      simp only [hc, beq_self_eq_true, if_true]
      omega
    · rename_i hc
      simp [hc]

/-- A line starts in the first column. -/
theorem EndsInNewline.foldl_after (h : EndsInNewline cs) (p : Place) :
    p.row < (cs.foldl Place.after p).row ∧ (cs.foldl Place.after p).column = 0 := by
  obtain ⟨line, rfl⟩ := h
  rw [List.foldl_append, List.foldl_cons, List.foldl_nil, Place.after, if_pos rfl]
  exact ⟨Nat.lt_succ_of_le (Place.upTo_foldl_after p line).row_le, rfl⟩

/-- The end of a line is one character. -/
theorem eq_cons_of_matchToken (h : matchToken cs = some (.lineEnd, rest)) : cs = '\n' :: rest := by
  cases fronts_of_matchToken h
  rfl

/-- A token that has the end of a line within it goes over that. -/
theorem Token.reaches_of {kind : TokenKind} (ds : List Char) (hkind : kind ≠ .lineEnd)
    (hcs : EndsInNewline cs) :
    (Token.of p kind (cs ++ ds)).Reaches (cs.foldl Place.after p).row := by
  have hend : (Token.of p kind (cs ++ ds)).endRow = ((cs ++ ds).foldl Place.after p).row := by
    rw [Token.of, if_neg hkind]
  refine ⟨beq_eq_false_iff_ne.2 hkind, (hcs.foldl_after p).1, ?_⟩
  rw [hend, List.foldl_append]
  exact (Place.upTo_foldl_after _ ds).row_le

/-- **A source is cut where no token is.** -/
theorem Scanned.split (hcs : IsText cs) (h : Scanned p (cs ++ rest) ts q []) :
    (∃ us vs, ts = us ++ vs ∧ Scanned p (cs ++ rest) us (cs.foldl Place.after p) rest ∧
      Scanned (cs.foldl Place.after p) rest vs q []) ∨
    ∃ t ∈ ts, t.Reaches (cs.foldl Place.after p).row := by
  generalize htext : cs ++ rest = text at h
  generalize hend : ([] : List Char) = last at h
  induction h generalizing cs with
  | done p text =>
    subst hend
    obtain ⟨rfl, rfl⟩ := List.append_eq_nil_iff.1 htext
    exact .inl ⟨[], [], rfl, .done p [], .done p []⟩
  | @gap p q c text last ts hc h ih =>
    subst hend
    cases cs with
    | nil =>
      subst htext
      exact .inl ⟨[], ts, rfl, .done p _, .gap hc h⟩
    | cons x cs =>
      obtain ⟨rfl, rfl⟩ := List.cons.inj htext
      exact (ih (hcs.of_suffix (List.suffix_cons _ cs)) rfl rfl).imp_left
        fun ⟨us, vs, heq, hus, hvs⟩ => ⟨us, vs, heq, .gap hc hus, hvs⟩
  | @token p q c text taken left last kind ts hc hmatch htaken h ih =>
    subst hend
    cases cs with
    | nil =>
      subst htext
      exact .inl ⟨[], _, rfl, .done p _, .token hc hmatch htaken h⟩
    | cons x cs =>
      obtain ⟨rfl, rfl⟩ := List.cons.inj htext
      have hline : EndsInNewline (x :: cs) := hcs.resolve_left (List.cons_ne_nil x cs)
      rcases List.append_eq_append_iff.1 (show x :: cs ++ rest = taken ++ left from htaken) with
        ⟨front, rfl, rfl⟩ | ⟨front, heq, rfl⟩
      · by_cases hfront : front = []
        · subst hfront
          rw [List.append_nil] at h ⊢
          exact .inl ⟨[_], ts, rfl, .token hc hmatch (by simp) (.done _ _), h⟩
        · have hmatch' : matchToken (x :: cs ++ front ++ left) = some (kind, left) := by
            rwa [List.append_assoc]
          refine .inr ⟨_, List.mem_cons_self, Token.reaches_of _ ?_ hline⟩
          rintro rfl
          obtain ⟨line, hline⟩ := hline
          have hlength := congrArg List.length (eq_cons_of_matchToken hmatch')
          have hpos := List.length_pos_iff.2 hfront
          simp only [hline, List.length_append, List.length_cons] at hlength
          omega
      · have hplace : front.foldl Place.after (taken.foldl Place.after p) =
            (x :: cs).foldl Place.after p := by
          rw [heq, List.foldl_append]
        rcases ih (hcs.of_suffix ⟨taken, heq.symm⟩) rfl rfl with ⟨us, vs, rfl, hus, hvs⟩ | hreaches
        · rw [hplace] at hus hvs
          exact .inl ⟨_ :: us, vs, rfl, .token hc hmatch htaken hus, hvs⟩
        · rw [hplace] at hreaches
          obtain ⟨t, ht, hreaches⟩ := hreaches
          exact .inr ⟨t, List.mem_cons_of_mem _ ht, hreaches⟩

/-! ## What follows -/

theorem Scanned.suffix (h : Scanned p cs ts q rest) : rest <:+ cs := by
  induction h with
  | done p cs => exact List.suffix_refl cs
  | gap hc h ih => exact ih.trans (List.suffix_cons _ _)
  | token hc hmatch htaken h ih =>
    rw [htaken]
    exact ih.trans (List.suffix_append _ _)

/-- A token that is read before some text is a part of what stands before that. -/
theorem Scanned.exists_front {taken left : List Char} {kind : TokenKind}
    (hmatch : matchToken (cs ++ rest) = some (kind, left)) (htaken : cs ++ rest = taken ++ left)
    (h : Scanned p left ts q rest) :
    ∃ front, cs = taken ++ front ∧ left = front ++ rest ∧ cs ≠ [] := by
  obtain ⟨front, rfl⟩ := h.suffix
  rw [← List.append_assoc] at htaken
  obtain rfl := List.append_cancel_right htaken
  refine ⟨front, rfl, rfl, fun hnil => ?_⟩
  obtain ⟨taken', hne, heq⟩ := exists_taken_of_matchToken hmatch
  have hlength := congrArg List.length heq
  have hpos := List.length_pos_iff.2 hne
  simp only [hnil, List.nil_append, List.length_append] at hlength
  omega

/-- **The tokens up to the end of a line stay if something else follows it**, that closes no block
comment that has not been closed. -/
theorem Scanned.append_congr (hcs : IsText cs) (h : Scanned p (cs ++ rest) ts q rest)
    (hopen : ∀ us r more, Scanned p (cs ++ rest) us r ('/' :: '*' :: (more ++ rest)) →
      '/' :: '*' :: more <:+ cs → skipBlockComment (more ++ rest) = none →
      skipBlockComment (more ++ rest') = none) : Scanned p (cs ++ rest') ts q rest' := by
  generalize htext : cs ++ rest = text at h hopen
  induction h generalizing cs with
  | done p text =>
    obtain rfl : cs = [] := List.append_left_eq_self.1 htext
    exact .done p rest'
  | @gap p q c text rest ts hc h ih =>
    cases cs with
    | nil =>
      subst htext
      have hlength := h.suffix.length_le
      exact absurd hlength (Nat.not_le.2 (Nat.lt_succ_self _))
    | cons x cs =>
      obtain ⟨rfl, rfl⟩ := List.cons.inj htext
      refine .gap hc (ih (hcs.of_suffix (List.suffix_cons _ cs)) rfl ?_)
      intro us r more hscanned hmore
      exact hopen us r more (.gap hc hscanned) (hmore.trans (List.suffix_cons _ cs))
  | @token p q c text taken left rest kind ts hc hmatch htaken h ih =>
    obtain ⟨front, rfl, rfl, hne⟩ := Scanned.exists_front (htext ▸ hmatch) (htext.trans htaken) h
    obtain ⟨x, cs, heq⟩ := List.exists_cons_of_ne_nil hne
    rw [heq] at hcs hopen htext ⊢
    obtain ⟨rfl, rfl⟩ := List.cons.inj htext
    have hline : EndsInNewline (x :: cs) := hcs.resolve_left (List.cons_ne_nil x cs)
    have hmatch' : matchToken (x :: cs ++ rest') = some (kind, front ++ rest') :=
      matchToken_append hline hmatch fun more hmore =>
      hopen [] p more (by rw [← List.cons_append, ← List.cons_append, ← hmore]; exact .done _ _)
        (hmore ▸ List.suffix_refl (x :: cs))
    refine .token hc hmatch' ?_ (ih (hcs.of_suffix ⟨taken, heq⟩) rfl ?_)
    · rw [← List.append_assoc, heq]
      rfl
    · intro us r more hscanned hmore
      exact hopen (_ :: us) r more (.token hc hmatch htaken hscanned)
        (hmore.trans ⟨taken, heq⟩)

/-- Where nothing has been read there are no tokens. -/
theorem Scanned.eq_nil (h : Scanned p cs ts q cs) : ts = [] := by
  generalize hrest : cs = rest at h
  cases h with
  | done => rfl
  | gap hc h =>
    subst hrest
    exact absurd h.suffix.length_le (Nat.not_le.2 (Nat.lt_succ_self _))
  | token hc hmatch htaken h =>
    subst hrest
    obtain ⟨taken, hne, heq⟩ := exists_taken_of_matchToken hmatch
    have hlength := h.suffix.length_le
    rw [heq, List.length_append] at hlength
    have hpos := List.length_pos_iff.2 hne
    omega

/-- Up to the end of a line the last token is that. -/
theorem Scanned.endsLine (hcs : EndsInNewline cs) (h : Scanned p (cs ++ rest) ts q rest)
    (hreaches : ∀ t ∈ ts, ¬ t.Reaches (cs.foldl Place.after p).row) : EndsLine ts := by
  generalize htext : cs ++ rest = text at h
  induction h generalizing cs with
  | done p text =>
    obtain rfl : cs = [] := List.append_left_eq_self.1 htext
    obtain ⟨line, hline⟩ := hcs
    simp at hline
  | @gap p q c text rest ts hc h ih =>
    cases cs with
    | nil =>
      obtain ⟨line, hline⟩ := hcs
      simp at hline
    | cons x cs =>
      obtain ⟨rfl, rfl⟩ := List.cons.inj htext
      refine ih (hcs.tail.resolve_left ?_) hreaches rfl
      rintro ⟨-, rfl⟩
      cases hc
  | @token p q c text taken left rest kind ts hc hmatch htaken h ih =>
    obtain ⟨front, rfl, rfl, -⟩ := Scanned.exists_front (htext ▸ hmatch) (htext.trans htaken) h
    rw [List.forall_mem_cons] at hreaches
    by_cases hfront : front = []
    · subst hfront
      obtain rfl := h.eq_nil
      rw [List.append_nil] at hcs hreaches
      refine ⟨_, rfl, beq_iff_eq.2 ?_⟩
      by_contra hkind
      have hreach := Token.reaches_of (p := p) [] hkind hcs
      rw [List.append_nil] at hreach
      exact hreaches.1 hreach
    · have hline := hcs.of_suffix (List.suffix_append taken front) hfront
      have hends := ih hline (fun t ht => by simpa [List.foldl_append] using hreaches.2 t ht) rfl
      obtain ⟨t, ht, hlast⟩ := hends
      refine ⟨t, ?_, hlast⟩
      rw [List.getLast?_cons, ht]
      rfl

/-! ## Places -/

/-- A token is told by where it stands, its sort and its text. -/
theorem Scanned.eq_of (h : Scanned p cs ts q rest) :
    ∀ t ∈ ts, t = Token.of t.place t.kind t.text.toList := by
  induction h with
  | done p cs => exact fun t ht => nomatch ht
  | gap hc h ih => exact ih
  | token hc hmatch htaken h ih =>
    refine List.forall_mem_cons.2 ⟨?_, ih⟩
    simp only [Token.of, Token.place, String.toList_ofList]

theorem Scanned.upTo (h : Scanned p cs ts q rest) : p.UpTo q := by
  induction h with
  | done p cs => exact .refl p
  | gap hc h ih => exact (Place.before_after _ _).upTo.trans ih
  | token hc hmatch htaken h ih => exact (Place.upTo_foldl_after _ _).trans ih

/-- The tokens up to a place start before it. -/
theorem Scanned.place_before (h : Scanned p cs ts q rest) : ∀ t ∈ ts, t.place.Before q := by
  induction h with
  | done p cs => exact fun t ht => nomatch ht
  | gap hc h ih => exact ih
  | @token p q c cs taken left rest kind ts hc hmatch htaken h ih =>
    refine List.forall_mem_cons.2 ⟨?_, ih⟩
    obtain ⟨taken', hne, htaken'⟩ := exists_taken_of_matchToken hmatch
    obtain rfl := List.append_cancel_right (htaken.symm.trans htaken')
    exact (p.before_foldl_after hne).trans_upTo h.upTo

/-! ## Further down -/

/-- A place so many rows further down. -/
def Place.down (k : Nat) (p : Place) : Place := ⟨p.row + k, p.column⟩

/-- A token so many rows further down. -/
def Token.down (k : Nat) (t : Token) : Token := { t with row := t.row + k, endRow := t.endRow + k }

theorem Place.after_down (k : Nat) (p : Place) (c : Char) :
    (p.down k).after c = (p.after c).down k := by
  rw [after, after]
  split
  · rw [down, down, Nat.add_right_comm]
  · rfl

theorem Place.foldl_after_down (k : Nat) (p : Place) (cs : List Char) :
    cs.foldl after (p.down k) = (cs.foldl after p).down k := by
  induction cs generalizing p with
  | nil => rfl
  | cons c cs ih => rw [List.foldl_cons, after_down, ih, List.foldl_cons]

theorem Token.of_down (k : Nat) (p : Place) (kind : TokenKind) (cs : List Char) :
    Token.of (p.down k) kind cs = (Token.of p kind cs).down k := by
  rw [Token.of, Place.foldl_after_down, Token.of, down]
  split <;> rfl

/-- **Further down a text has its tokens further down.** -/
theorem Scanned.down (h : Scanned p cs ts q rest) (k : Nat) :
    Scanned (p.down k) cs (ts.map (Token.down k)) (q.down k) rest := by
  induction h with
  | done p cs => exact .done _ cs
  | gap hc h ih =>
    rw [← Place.after_down] at ih
    exact .gap hc ih
  | token hc hmatch htaken h ih =>
    rw [← Place.foldl_after_down] at ih
    rw [List.map_cons, ← Token.of_down]
    exact .token hc hmatch htaken ih

/-! ## Blank lines -/

/-- Blanks at the front of a text. -/
theorem Scanned.blanks (hds : ∀ c ∈ ds, isGap c = true)
    (h : Scanned (ds.foldl Place.after p) cs ts q rest) : Scanned p (ds ++ cs) ts q rest := by
  induction ds generalizing p with
  | nil => exact h
  | cons c ds ih =>
    rw [List.forall_mem_cons] at hds
    exact .gap hds.1 (ih hds.2 h)

/-- Blanks are no tokens. -/
theorem Scanned.of_blanks (hds : ∀ c ∈ ds, isGap c = true) (h : Scanned p (ds ++ cs) ts q []) :
    Scanned (ds.foldl Place.after p) cs ts q [] := by
  induction ds generalizing p with
  | nil => exact h
  | cons c ds ih =>
    rw [List.forall_mem_cons] at hds
    generalize hrest : ([] : List Char) = rest at h
    rw [List.cons_append] at h
    cases h with
    | done => cases hrest
    | gap hc h => subst hrest; exact ih hds.2 h
    | token hc => rw [hds.1] at hc; cases hc

theorem Scanned.newline (h : Scanned (p.after '\n') cs ts q rest) :
    Scanned p ('\n' :: cs) (Token.of p .lineEnd ['\n'] :: ts) q rest :=
  .token (by decide) rfl rfl h

/-- What follows the end of a line. -/
theorem Scanned.of_newline (h : Scanned p ('\n' :: cs) ts q []) :
    ∃ us, ts = Token.of p .lineEnd ['\n'] :: us ∧ Scanned (p.after '\n') cs us q [] := by
  generalize hrest : ([] : List Char) = rest at h
  cases h with
  | done => cases hrest
  | gap hc => cases hc
  | @token _ _ _ _ taken left _ kind us hc hmatch htaken h =>
    subst hrest
    obtain ⟨rfl, rfl⟩ := Prod.mk.inj (Option.some.inj hmatch)
    obtain rfl : taken = ['\n'] := List.append_cancel_right htaken.symm
    exact ⟨us, rfl, h⟩

end

end Codebook.Go
