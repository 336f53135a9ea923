import Codebook.Proofs.Go.TreeTokens

/-!
# How a source is cut into tokens

A token is taken off the front of a source and is not empty.  So a source is a row of tokens with
gaps between them: every token starts at or after the place where the one before it ends.

What is here: `IsCut` and `Advances`, what matchers do to a text; `Scanned`, a source up to some
place with its tokens; and `Token.Precedes`, the order of tokens, in which no token of a file occurs
twice.
-/

set_option autoImplicit false

namespace Codebook.Go

open Codebook.Text Matcher

/-! ## What matchers do to a text -/

/-- A matcher takes something off the front. -/
def IsCut (m : Matcher) : Prop := ∀ cs rest, m cs = some rest → rest <:+ cs

/-- A matcher takes at least one character off the front. -/
def Advances (m : Matcher) : Prop :=
  ∀ cs rest, m cs = some rest → rest <:+ cs ∧ rest.length < cs.length

section

variable {a b m : Matcher} {p : Char → Bool}

theorem Advances.isCut (h : Advances m) : IsCut m := fun cs rest hrest => (h cs rest hrest).1

theorem IsCut.andThen (ha : IsCut a) (hb : IsCut b) : IsCut (a.andThen b) := by
  intro cs rest h
  obtain ⟨left, hleft, h⟩ := Option.bind_eq_some_iff.1 h
  exact (hb left rest h).trans (ha cs left hleft)

theorem IsCut.orNothing (ha : IsCut a) : IsCut (orNothing a) := by
  intro cs rest h
  obtain rfl := Option.some.inj h
  cases hleft : a cs with
  | none => exact List.suffix_refl cs
  | some left => exact ha cs left hleft

theorem Advances.andThen (ha : Advances a) (hb : IsCut b) : Advances (a.andThen b) := by
  intro cs rest h
  obtain ⟨left, hleft, h⟩ := Option.bind_eq_some_iff.1 h
  obtain ⟨hsuffix, hlength⟩ := ha cs left hleft
  have hrest := hb left rest h
  exact ⟨hrest.trans hsuffix, Nat.lt_of_le_of_lt hrest.length_le hlength⟩

theorem IsCut.andThenAdvances (ha : IsCut a) (hb : Advances b) : Advances (a.andThen b) := by
  intro cs rest h
  obtain ⟨left, hleft, h⟩ := Option.bind_eq_some_iff.1 h
  have hsuffix := ha cs left hleft
  obtain ⟨hrest, hlength⟩ := hb left rest h
  exact ⟨hrest.trans hsuffix, Nat.lt_of_lt_of_le hlength hsuffix.length_le⟩

theorem advances_one (p : Char → Bool) : Advances (one p) := by
  intro cs rest h
  cases cs with
  | nil => cases h
  | cons c cs =>
    rw [one] at h
    split at h
    · obtain rfl := Option.some.inj h
      exact ⟨List.suffix_cons c cs, Nat.lt_succ_self _⟩
    · cases h

theorem skipDigits_suffix (p : Char → Bool) (cs : List Char) : skipDigits p cs <:+ cs := by
  fun_induction skipDigits p cs with
  | case1 => exact List.suffix_refl []
  | case2 c cs _ ih => exact ih.trans ((List.suffix_cons c cs).trans (List.suffix_cons '_' _))
  | case3 => exact List.suffix_refl _
  | case4 c cs _ _ ih => exact ih.trans (List.suffix_cons c cs)
  | case5 => exact List.suffix_refl _

theorem advances_digits (p : Char → Bool) : Advances (digits p) := by
  intro cs rest h
  obtain ⟨left, hleft, rfl⟩ := Option.map_eq_some_iff.1 h
  obtain ⟨hsuffix, hlength⟩ := advances_one p cs left hleft
  have hrest := skipDigits_suffix p left
  exact ⟨hrest.trans hsuffix, Nat.lt_of_le_of_lt hrest.length_le hlength⟩

theorem advances_spacedDigits (p : Char → Bool) : Advances (spacedDigits p) :=
  (advances_one _).isCut.orNothing.andThenAdvances (advances_digits p)

/-- The longest match is that of one of the matchers. -/
theorem exists_mem_of_longest {ms : List Matcher} {cs rest : List Char}
    (h : longest ms cs = some rest) : ∃ m ∈ ms, m cs = some rest := by
  have hfold (ms : List Matcher) (best : Option (List Char))
      (h : ms.foldl (fun best m => longer best (m cs)) best = some rest) :
      best = some rest ∨ ∃ m ∈ ms, m cs = some rest := by
    induction ms generalizing best with
    | nil => exact .inl h
    | cons m ms ih =>
      rcases ih _ h with hbest | ⟨x, hx, hrest⟩
      · rcases longer_eq_or best (m cs) with heq | heq
        · exact .inl (heq.symm.trans hbest)
        · exact .inr ⟨m, List.mem_cons_self, heq.symm.trans hbest⟩
      · exact .inr ⟨x, List.mem_cons_of_mem m hx, hrest⟩
  exact (hfold ms none h).resolve_left (by simp)

theorem advances_longest {ms : List Matcher} (h : ∀ m ∈ ms, Advances m) :
    Advances (longest ms) := by
  intro cs rest hrest
  obtain ⟨m, hm, hrest⟩ := exists_mem_of_longest hrest
  exact h m hm cs rest hrest

end

/-! ## Numbers, strings and comments -/

theorem advances_integers : ∀ m ∈ integers, Advances m := by
  have hzero : Advances (char '0') := advances_one _
  simp only [integers, List.forall_mem_cons, List.not_mem_nil, false_implies, implies_true,
    and_true]
  exact ⟨hzero, (advances_one _).andThen (advances_spacedDigits _).isCut.orNothing,
    hzero.andThen ((advances_one _).andThen (advances_spacedDigits _).isCut).isCut,
    hzero.andThen ((advances_one _).isCut.orNothing.andThen (advances_spacedDigits _).isCut),
    hzero.andThen ((advances_one _).andThen (advances_spacedDigits _).isCut).isCut⟩

theorem advances_exponent (small capital : Char) : Advances (exponent small capital) :=
  (advances_one _).andThen ((advances_one _).isCut.orNothing.andThen (advances_digits _).isCut)

theorem advances_decimals : ∀ m ∈ decimals, Advances m := by
  have hexponent := (advances_exponent 'e' 'E').isCut
  have hdigits := advances_digits Char.isDigit
  have hpoint : Advances (char '.') := advances_one _
  simp only [decimals, List.forall_mem_cons, List.not_mem_nil, false_implies, implies_true,
    and_true]
  exact ⟨hdigits.andThen (hpoint.andThen (hdigits.isCut.orNothing.andThen
      hexponent.orNothing)).isCut,
    hdigits.andThen hexponent, hpoint.andThen (hdigits.andThen hexponent.orNothing).isCut⟩

theorem advances_hexFractions : ∀ m ∈ hexFractions, Advances m := by
  have hexponent := (advances_exponent 'p' 'P').isCut
  have hmantissa {mantissa : Matcher} (h : Advances mantissa) :
      Advances ((char '0').andThen ((letter 'x' 'X').andThen
        (mantissa.andThen (exponent 'p' 'P')))) :=
    (advances_one _).andThen ((advances_one _).andThen (h.andThen hexponent).isCut).isCut
  have hpoint : Advances (char '.') := advances_one _
  simp only [hexFractions, List.map_cons, List.map_nil, List.forall_mem_cons, List.not_mem_nil,
    false_implies, implies_true, and_true]
  exact ⟨hmantissa ((advances_spacedDigits _).andThen
      (hpoint.andThen (advances_digits _).isCut.orNothing).isCut),
    hmantissa (advances_spacedDigits _), hmantissa (hpoint.andThen (advances_digits _).isCut)⟩

theorem advances_number : Advances number := by
  have hreal : ∀ m ∈ integers ++ decimals ++ hexFractions, Advances m := by
    intro m hm
    rcases List.mem_append.1 hm with hm | hm
    · exact (List.mem_append.1 hm).elim (advances_integers m) (advances_decimals m)
    · exact advances_hexFractions m hm
  refine advances_longest fun m hm => ?_
  rcases List.mem_append.1 hm with hm | hm
  · exact hreal m hm
  · obtain ⟨x, hx, rfl⟩ := List.mem_map.1 hm
    have hx : Advances x := by
      rcases List.mem_cons.1 hx with rfl | hx
      · exact advances_digits _
      · exact hreal x hx
    exact hx.andThen (advances_one _).isCut

theorem isCut_exactly (p : Char → Bool) (n : Nat) : IsCut (exactly p n) := by
  induction n with
  | zero =>
    intro cs rest h
    obtain rfl := Option.some.inj h
    exact List.suffix_refl cs
  | succ n ih => exact (advances_one p).isCut.andThen ih

theorem isCut_skipString (fuel : Nat) : IsCut (skipString fuel) := by
  intro cs rest h
  -- a step further on
  have hcons {c : Char} {cs rest : List Char} (h : rest <:+ cs) : rest <:+ c :: cs :=
    h.trans (List.suffix_cons c cs)
  have hexact {n : Nat} {k : Nat} {cs rest : List Char}
      (ih : ∀ cs, skipString k cs = some rest → rest <:+ cs)
      (h : (exactly isHexDigit n cs).bind (skipString k) = some rest) : rest <:+ cs := by
    obtain ⟨left, hleft, h⟩ := Option.bind_eq_some_iff.1 h
    exact (ih left h).trans (isCut_exactly _ _ _ _ hleft)
  induction fuel generalizing cs with
  | zero => cases h
  | succ fuel ih =>
    cases cs with
    | nil => cases h
    | cons c cs =>
      unfold skipString at h
      split at h
      · obtain rfl := Option.some.inj h
        exact List.suffix_cons c _
      · split at h
        · cases h
        · split at h
          · refine hcons ?_
            split at h
            · exact hcons (hexact ih h)
            · exact hcons (hexact ih h)
            · exact hcons (hexact ih h)
            · cases h
            · exact hcons (ih _ h)
            · cases h
          · exact hcons (ih _ h)

theorem isCut_skipRawString : IsCut skipRawString := by
  intro cs rest h
  fun_induction skipRawString cs with
  | case1 => cases h
  | case2 cs =>
    obtain rfl := Option.some.inj h
    exact List.suffix_cons _ _
  | case3 => cases h
  | case4 c cs _ _ ih => exact (ih h).trans (List.suffix_cons c cs)

theorem isCut_runeEscape : IsCut runeEscape := by
  intro cs rest h
  have hcons {c : Char} {cs : List Char} (h : rest <:+ cs) : rest <:+ c :: cs :=
    h.trans (List.suffix_cons c cs)
  unfold runeEscape at h
  split at h
  · exact hcons (isCut_exactly _ _ _ _ h)
  · exact hcons (isCut_exactly _ _ _ _ h)
  · exact hcons (isCut_exactly _ _ _ _ h)
  · split at h
    · exact hcons (isCut_exactly _ _ _ _ h)
    · split at h
      · obtain rfl := Option.some.inj h
        exact List.suffix_cons _ _
      · cases h
  · cases h

theorem isCut_skipRune : IsCut skipRune := by
  intro cs rest h
  unfold skipRune at h
  split at h
  · obtain ⟨left, hleft, h⟩ := Option.bind_eq_some_iff.1 h
    exact ((advances_one _ _ _ h).1.trans (isCut_runeEscape _ _ hleft)).trans
      (List.suffix_cons _ _)
  · split at h
    · cases h
    · exact (advances_one _ _ _ h).1.trans (List.suffix_cons _ _)
  · cases h

theorem exists_skipLineComment_append (cs : List Char) :
    ∃ taken, cs = taken ++ skipLineComment cs ∧ '\n' ∉ taken := by
  induction cs with
  | nil => exact ⟨[], rfl, by simp⟩
  | cons c cs ih =>
    rw [skipLineComment]
    split
    · exact ⟨[], rfl, by simp⟩
    · rename_i hc
      obtain ⟨taken, htaken, hline⟩ := ih
      refine ⟨c :: taken, congrArg (c :: ·) htaken, ?_⟩
      rw [List.mem_cons]
      rintro (rfl | hmem)
      · exact hc (.inl rfl)
      · exact hline hmem

theorem skipLineComment_suffix (cs : List Char) : skipLineComment cs <:+ cs := by
  obtain ⟨taken, heq, -⟩ := exists_skipLineComment_append cs
  exact ⟨taken, heq.symm⟩

/-- A block comment ends where it is closed. -/
theorem exists_inside_of_skipBlockComment {cs rest : List Char}
    (h : skipBlockComment cs = some rest) : ∃ inside, cs = inside ++ ['*', '/'] ++ rest := by
  fun_induction skipBlockComment cs with
  | case1 => cases h
  | case2 cs =>
    obtain rfl := Option.some.inj h
    exact ⟨[], rfl⟩
  | case3 => cases h
  | case4 c cs _ _ ih =>
    obtain ⟨inside, rfl⟩ := ih h
    exact ⟨c :: inside, rfl⟩

theorem isCut_skipBlockComment : IsCut skipBlockComment := by
  intro cs rest h
  obtain ⟨inside, rfl⟩ := exists_inside_of_skipBlockComment h
  exact List.suffix_append _ rest

theorem advances_symbol : Advances Go.symbol := by
  intro cs rest h
  rw [Go.symbol] at h
  split at h
  · rename_i rest' hlong
    obtain rfl := Option.some.inj h
    obtain ⟨s, hs, hfront⟩ := List.exists_of_findSome?_eq_some hlong
    have hne : s.toList ≠ [] := by
      have hall : ∀ s ∈ longSymbols, s.toList ≠ [] := by decide
      exact hall s hs
    rw [(afterPrefix?_eq_some_iff ..).1 hfront]
    refine ⟨List.suffix_append _ _, ?_⟩
    rw [List.length_append]
    exact Nat.lt_add_of_pos_left (List.length_pos_iff.2 hne)
  · exact advances_one _ cs rest h

/-- **A token is taken off the front, and is not empty.** -/
theorem exists_taken_of_matchToken {cs rest : List Char} {kind : TokenKind}
    (h : matchToken cs = some (kind, rest)) : ∃ taken, taken ≠ [] ∧ cs = taken ++ rest := by
  have hmore {c : Char} {cs : List Char} (h : rest <:+ cs) :
      ∃ taken, taken ≠ [] ∧ c :: cs = taken ++ rest := by
    obtain ⟨taken, rfl⟩ := h
    exact ⟨c :: taken, List.cons_ne_nil c taken, rfl⟩
  have hadvances {m : Matcher} (hm : Advances m) (h : m cs = some rest) :
      ∃ taken, taken ≠ [] ∧ cs = taken ++ rest := by
    obtain ⟨⟨taken, rfl⟩, hlength⟩ := hm cs rest h
    refine ⟨taken, ?_, rfl⟩
    rintro rfl
    exact Nat.lt_irrefl _ hlength
  cases fronts_of_matchToken h with
  | lineEnd | slash _ => exact hmore (List.suffix_refl _)
  | lineComment more => exact hmore ((skipLineComment_suffix more).trans (List.suffix_cons _ _))
  | blockComment hskip =>
    exact hmore ((isCut_skipBlockComment _ _ hskip).trans (List.suffix_cons _ _))
  | string hskip => exact hmore (isCut_skipString _ _ _ hskip)
  | rawString hskip => exact hmore (isCut_skipRawString _ _ hskip)
  | rune hskip => exact hmore (isCut_skipRune _ _ hskip)
  | word hstarts more => exact hmore (List.dropWhile_suffix _)
  | number hnumber => exact hadvances advances_number hnumber
  | symbol hsymbol => exact hadvances advances_symbol hsymbol

/-- **A comment goes to the end of the line or is between markers.** -/
theorem comment_cases_of_matchToken {cs taken left : List Char}
    (h : matchToken cs = some (.comment, left)) (hcs : cs = taken ++ left) :
    (∃ more, taken = '/' :: '/' :: more ∧ '\n' ∉ more) ∨
      ∃ inside, taken = '/' :: '*' :: (inside ++ ['*', '/']) := by
  cases fronts_of_matchToken h with
  | lineComment rest =>
    obtain ⟨more, hmore, hline⟩ := exists_skipLineComment_append rest
    refine .inl ⟨more, List.append_cancel_right (hcs.symm.trans ?_), hline⟩
    rw [List.cons_append, List.cons_append, ← hmore]
  | blockComment hclose =>
    obtain ⟨inside, rfl⟩ := exists_inside_of_skipBlockComment hclose
    exact .inr ⟨inside, List.append_cancel_right (hcs.symm.trans rfl)⟩

/-! ## Sources -/

/-- The token that some text is from a place on. -/
def Token.of (p : Place) (kind : TokenKind) (taken : List Char) : Token :=
  ⟨kind, String.ofList taken, p.row, p.column,
    if kind = .lineEnd then p.row else (taken.foldl Place.after p).row⟩

/-- A source has these tokens from one place up to another, behind which is the rest. -/
inductive Scanned : Place → List Char → List Token → Place → List Char → Prop where
  /-- Nothing has been read. -/
  | done (p : Place) (cs : List Char) : Scanned p cs [] p cs
  /-- There is a gap at the front. -/
  | gap {p q : Place} {c : Char} {cs rest : List Char} {ts : List Token} (hc : isGap c = true)
      (h : Scanned (p.after c) cs ts q rest) : Scanned p (c :: cs) ts q rest
  /-- There is a token at the front. -/
  | token {p q : Place} {c : Char} {cs taken left rest : List Char} {kind : TokenKind}
      {ts : List Token} (hc : isGap c = false) (hmatch : matchToken (c :: cs) = some (kind, left))
      (htaken : c :: cs = taken ++ left) (h : Scanned (taken.foldl Place.after p) left ts q rest) :
      Scanned p (c :: cs) (Token.of p kind taken :: ts) q rest

/-- **A source that is read is its tokens and gaps.** -/
theorem exists_scanned_of_scanFrom {fuel : Nat} {p : Place} {cs : List Char} {ts : List Token}
    (hfuel : cs.length ≤ fuel) (h : Token.scanFrom fuel p cs = .ok ts) :
    ∃ q, Scanned p cs ts q [] := by
  induction fuel generalizing p cs ts with
  | zero =>
    obtain rfl := List.eq_nil_of_length_eq_zero (Nat.le_zero.1 hfuel)
    obtain rfl := Except.ok.inj h
    exact ⟨p, .done p []⟩
  | succ fuel ih =>
    cases cs with
    | nil =>
      obtain rfl := Except.ok.inj h
      exact ⟨p, .done p []⟩
    | cons c cs =>
      rw [Token.scanFrom] at h
      split at h
      · rename_i hc
        obtain ⟨q, hq⟩ := ih (Nat.le_of_succ_le_succ hfuel) h
        exact ⟨q, .gap hc hq⟩
      · rename_i hc
        cases hmatch : matchToken (c :: cs) with
        | none => simp [hmatch] at h
        | some r =>
          obtain ⟨kind, left⟩ := r
          obtain ⟨taken, hne, htaken⟩ := exists_taken_of_matchToken hmatch
          have htext : (c :: cs).take ((c :: cs).length - left.length) = taken := by
            rw [htaken, List.length_append, Nat.add_sub_cancel, List.take_left]
          simp only [hmatch, htext] at h
          split at h
          · cases h
          · rename_i tokens htokens
            obtain rfl := Except.ok.inj h
            have hlength : left.length ≤ fuel := by
              have htotal := congrArg List.length htaken
              have hpos := List.length_pos_iff.2 hne
              simp only [List.length_append, List.length_cons] at htotal hfuel
              omega
            obtain ⟨q, hq⟩ := ih hlength htokens
            exact ⟨q, .token (Bool.eq_false_iff.2 hc) hmatch htaken hq⟩

/-! ## The order of tokens -/

/-- A place comes before another, or is the same. -/
def Place.UpTo (p q : Place) : Prop := p.row < q.row ∨ p.row = q.row ∧ p.column ≤ q.column

/-- A place comes before another. -/
def Place.Before (p q : Place) : Prop := p.row < q.row ∨ p.row = q.row ∧ p.column < q.column

theorem Place.UpTo.refl (p : Place) : p.UpTo p := .inr ⟨rfl, Nat.le_refl _⟩

theorem Place.UpTo.trans {p q r : Place} (h : p.UpTo q) (h' : q.UpTo r) : p.UpTo r := by
  simp only [UpTo] at *
  omega

theorem Place.Before.upTo {p q : Place} (h : p.Before q) : p.UpTo q :=
  h.imp_right (And.imp_right Nat.le_of_lt)

theorem Place.Before.trans_upTo {p q r : Place} (h : p.Before q) (h' : q.UpTo r) : p.Before r := by
  simp only [UpTo, Before] at *
  omega

theorem Place.UpTo.row_le {p q : Place} (h : p.UpTo q) : p.row ≤ q.row := by
  simp only [UpTo] at h
  omega

theorem Place.before_after (p : Place) (c : Char) : p.Before (p.after c) := by
  rw [Place.after]
  split
  · exact .inl (Nat.lt_succ_self _)
  · exact .inr ⟨rfl, Nat.lt_add_of_pos_right c.utf8Size_pos⟩

theorem Place.upTo_foldl_after (p : Place) (cs : List Char) : p.UpTo (cs.foldl Place.after p) := by
  induction cs generalizing p with
  | nil => exact .refl p
  | cons c cs ih => exact (p.before_after c).upTo.trans (ih (p.after c))

/-- A text that is not empty ends at another place than it starts. -/
theorem Place.before_foldl_after (p : Place) {cs : List Char} (h : cs ≠ []) :
    p.Before (cs.foldl Place.after p) := by
  obtain ⟨c, cs, rfl⟩ := List.exists_cons_of_ne_nil h
  exact (p.before_after c).trans_upTo (Place.upTo_foldl_after (p.after c) cs)

namespace Token

/-- Where a token starts. -/
def place (t : Token) : Place := ⟨t.row, t.column⟩

/-- A token stands before another. -/
structure Precedes (a b : Token) : Prop where
  /-- It starts before the other. -/
  place_before : a.place.Before b.place
  /-- It ends on the row on which the other starts, or above. -/
  endRow_le : a.endRow ≤ b.row

theorem not_precedes_self (t : Token) : ¬ t.Precedes t := fun h =>
  h.place_before.elim (Nat.lt_irrefl _) fun h => Nat.lt_irrefl _ h.2

/-- Tokens that stand one behind the other, each of which ends at or below where it starts. -/
structure Ordered (ts : List Token) : Prop where
  /-- Each stands before those that follow. -/
  pairwise : ts.Pairwise Precedes
  /-- None ends above its first row. -/
  row_le_endRow : ∀ t ∈ ts, t.row ≤ t.endRow

namespace Ordered

variable {ts us : List Token}

theorem sublist (h : Ordered us) (hsub : ts.Sublist us) : Ordered ts :=
  ⟨h.pairwise.sublist hsub, fun t ht => h.row_le_endRow t (hsub.subset ht)⟩

/-- **No token occurs twice.** -/
theorem nodup (h : Ordered ts) : ts.Nodup := by
  refine h.pairwise.imp ?_
  rintro a b hab rfl
  exact not_precedes_self a hab

/-- A token does not end below a later one. -/
theorem endRow_le (h : Ordered (ts ++ us)) {a b : Token} (ha : a ∈ ts) (hb : b ∈ us) :
    a.endRow ≤ b.row := ((List.pairwise_append.1 h.pairwise).2.2 a ha b hb).endRow_le

end Ordered

theorem endRow_of (p : Place) (kind : TokenKind) (taken : List Char) :
    p.row ≤ (Token.of p kind taken).endRow ∧
      (Token.of p kind taken).endRow ≤ (taken.foldl Place.after p).row := by
  have hrow := (Place.upTo_foldl_after p taken).row_le
  rw [Token.of]
  split
  · exact ⟨Nat.le_refl _, hrow⟩
  · exact ⟨hrow, Nat.le_refl _⟩

end Token

/-- The tokens of a source stand at or behind its start, one behind the other. -/
theorem Scanned.ordered {p q : Place} {cs rest : List Char} {ts : List Token}
    (h : Scanned p cs ts q rest) : (∀ t ∈ ts, p.UpTo t.place) ∧ Token.Ordered ts := by
  induction h with
  | done p cs => exact ⟨by simp, by simp, by simp⟩
  | gap hc h ih =>
    exact ⟨fun t ht => (Place.before_after _ _).upTo.trans (ih.1 t ht), ih.2⟩
  | @token p q c cs taken left rest kind ts hc hmatch htaken h ih =>
    obtain ⟨hlater, hordered⟩ := ih
    obtain ⟨hstart, hend⟩ := Token.endRow_of p kind taken
    have hne : taken ≠ [] := by
      obtain ⟨x, hx, heq⟩ := exists_taken_of_matchToken hmatch
      rwa [List.append_cancel_right (htaken.symm.trans heq)]
    have hbefore := p.before_foldl_after hne
    refine ⟨List.forall_mem_cons.2 ⟨.refl p, fun t ht => hbefore.upTo.trans (hlater t ht)⟩,
      List.pairwise_cons.2 ⟨fun t ht => ⟨hbefore.trans_upTo (hlater t ht), ?_⟩,
        hordered.pairwise⟩,
      List.forall_mem_cons.2 ⟨hstart, hordered.row_le_endRow⟩⟩
    exact Nat.le_trans hend (hlater t ht).row_le

theorem ordered_of_scan {source : List Char} {ts : List Token} (h : Token.scan source = .ok ts) :
    Token.Ordered ts := by
  obtain ⟨q, hq⟩ := exists_scanned_of_scanFrom (Nat.le_refl _) h
  exact hq.ordered.2

/-- **The tokens of the trees of a file stand in order.** -/
theorem ordered_of_readFile {path : String} {bytes : List UInt8} {forest : List Tree}
    (h : readFile path bytes = .ok forest) : Token.Ordered (Tree.forestTokens forest) := by
  obtain ⟨source, ts, hscan, hsublist⟩ := exists_scan_of_readFile h
  exact (ordered_of_scan hscan).sublist hsublist

end Codebook.Go
