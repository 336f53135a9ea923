import Codebook.Proofs.Document.Shown
import Codebook.Proofs.Go.Returned

/-!
# Tokens that show the same

With carriage returns before its line feeds a text has other tokens only in so far as comments and
raw strings have the carriage returns in them.  Of a comment that does not show: what it says is
without blanks at the ends of its lines.  Of a string it does, but not in a table, where either line
end becomes a space.

What is here: `Token.Alike`, two tokens that show the same; `commentLines_block` and
`commentLines_line`, what a comment says; `Scanned.returned`, the tokens of a text with carriage
returns; and `exists_alike_of_scan`, those of a source.
-/

set_option autoImplicit false

namespace Codebook.Go

open Codebook.Text

/-! ## Comments -/

theorem cutLines_append {line : List Char} (h : '\n' ∉ line) (rest : List Char) :
    cutLines (line ++ '\n' :: rest) = line :: cutLines rest := by
  refine cutAt_append (fun c hc => beq_eq_false_iff_ne.2 ?_) (by decide) rest
  rintro rfl
  exact h hc

theorem linesOf_append {line : List Char} (h : '\n' ∉ line) (rest : List Char) :
    linesOf (line ++ '\n' :: rest) = line :: linesOf rest := by
  obtain ⟨first, more, hcut⟩ := List.exists_cons_of_ne_nil (cutAt_ne_nil (· == '\n') rest)
  rw [linesOf, linesOf, cutLines_append h, cutLines, hcut, List.getLast?_cons_cons]
  split <;> rfl

/-- The lines of a comment have no blanks at their ends, so carriage returns there do not show. -/
theorem map_trimRight_linesOf_returned (cs : List Char) :
    (linesOf (returned cs)).map trimRight = (linesOf cs).map trimRight := by
  induction cs using parts_induction '\n' with
  | last line hline => rw [returned_of_not_mem hline]
  | part line rest hline ih =>
    have htrim : trimRight (line ++ ['\r']) = trimRight line := trimRight_append_blanks (by decide)
    have hreturn : '\n' ∉ line ++ ['\r'] := by simpa using hline
    have hreturned : returned (line ++ '\n' :: rest) = line ++ ['\r'] ++ '\n' :: returned rest := by
      rw [returned_append, returned_of_not_mem hline, returned_newline, List.append_assoc]
      rfl
    rw [hreturned, linesOf_append hreturn, linesOf_append hline, List.map_cons, List.map_cons, ih,
      htrim]

/-- What is between the markers of a block comment. -/
theorem insideBlock?_eq (inside : List Char) :
    insideBlock? ('/' :: '*' :: (inside ++ ['*', '/'])) = some inside := by
  rw [insideBlock?, List.reverse_append]
  exact congrArg some (List.reverse_reverse inside)

/-- A block comment says the same with carriage returns before its line feeds. -/
theorem commentLines_block (inside : List Char) :
    commentLines (returned ('/' :: '*' :: (inside ++ ['*', '/']))) =
      commentLines ('/' :: '*' :: (inside ++ ['*', '/'])) := by
  have hreturned : returned ('/' :: '*' :: (inside ++ ['*', '/'])) =
      '/' :: '*' :: (returned inside ++ ['*', '/']) := by
    rw [returned_cons (by decide), returned_cons (by decide), returned_append]
    rfl
  have hlines (inside : List Char) : commentLines ('/' :: '*' :: (inside ++ ['*', '/'])) =
      (linesOf inside).map trimRight := by
    rw [commentLines, insideBlock?_eq] <;> simp
  rw [hreturned, hlines, hlines, map_trimRight_linesOf_returned]

/-- A comment to the end of the line says the same with a carriage return at its end. -/
theorem commentLines_line (more : List Char) :
    commentLines ('/' :: '/' :: more ++ ['\r']) = commentLines ('/' :: '/' :: more) := by
  have htrim (cs : List Char) : trimRight (cs ++ ['\r']) = trimRight cs :=
    trimRight_append_blanks (by decide)
  have hslashes {c : Char} (hc : c ≠ ' ') (cs : List Char) :
      commentLines ('/' :: '/' :: c :: cs) = [trimRight (c :: cs)] := by
    rw [commentLines]
    exact fun rest heq => hc (List.cons.inj heq).1
  cases more with
  | nil => decide
  | cons c more =>
    by_cases hc : c = ' '
    · rw [hc]
      exact congrArg ([·]) (htrim more)
    · rw [hslashes hc, ← htrim (c :: more)]
      exact hslashes hc (more ++ ['\r'])

/-! ## Words and symbols -/

theorem exists_taken_of_symbol {cs left : List Char} (h : Go.symbol cs = some left) :
    ∃ taken, cs = taken ++ left ∧ '\n' ∉ taken := by
  rw [Go.symbol] at h
  split at h
  · rename_i rest hlong
    obtain rfl := Option.some.inj h
    obtain ⟨s, hs, hfront⟩ := List.exists_of_findSome?_eq_some hlong
    have hall : ∀ s ∈ longSymbols, '\n' ∉ s.toList := by decide
    exact ⟨s.toList, (afterPrefix?_eq_some_iff ..).1 hfront, hall s hs⟩
  · cases cs with
    | nil => cases h
    | cons c cs =>
      rw [Matcher.one] at h
      split at h
      · rename_i hc
        obtain rfl := Option.some.inj h
        refine ⟨[c], rfl, fun hmem => ?_⟩
        obtain rfl := List.mem_singleton.1 hmem
        exact absurd hc (by decide)
      · cases h

/-- No word and no symbol goes over the end of a line. -/
theorem newline_not_mem_of_matchToken {cs taken left : List Char} {kind : TokenKind}
    (h : matchToken cs = some (kind, left)) (hcs : cs = taken ++ left)
    (hkind : kind = .word ∨ kind = .symbol) : '\n' ∉ taken := by
  have hsame {front : List Char} (hfront : cs = front ++ left) (hline : '\n' ∉ front) :
      '\n' ∉ taken := by rwa [List.append_cancel_right (hcs.symm.trans hfront)]
  rcases hkind with rfl | rfl
  · obtain ⟨name, hname, hfront⟩ := exists_isName_append h
    refine hsame hfront fun hmem => ?_
    exact Bool.false_ne_true ((hname.isBlank_eq_false _ hmem).symm.trans (by decide))
  · cases fronts_of_matchToken h with
    | slash hopen => exact hsame (List.singleton_append (x := '/')).symm (by decide)
    | symbol hsymbol =>
      obtain ⟨front, hfront, hline⟩ := exists_taken_of_symbol hsymbol
      exact hsame hfront hline

/-! ## Tokens -/

/-- Two tokens that show the same: they are of one sort and on the same rows, and differ at most in
the line ends within a comment or a string. -/
structure Token.Alike (t u : Token) : Prop where
  /-- They are of one sort. -/
  kind_eq : u.kind = t.kind
  /-- They start on the same row. -/
  row_eq : u.row = t.row
  /-- And they end on the same row. -/
  endRow_eq : u.endRow = t.endRow
  /-- Words and symbols have the same text. -/
  text_eq : t.kind = .word ∨ t.kind = .symbol → u.text = t.text
  /-- Comments say the same. -/
  lines_eq : t.kind = .comment → commentLines u.text.toList = commentLines t.text.toList
  /-- And whatever else it is, it is the same in a table. -/
  flatten_eq : t.kind ≠ .comment →
    Document.flatten u.text.toList = Document.flatten t.text.toList

theorem Token.Alike.refl (t : Token) : t.Alike t :=
  ⟨rfl, rfl, rfl, fun _ => rfl, fun _ => rfl, fun _ => rfl⟩

section

variable {p p' q : Place} {cs taken left : List Char} {kind : TokenKind}

theorem count_returned_append (cs : List Char) {tail : List Char}
    (htail : tail = [] ∨ tail = ['\r']) :
    (returned cs ++ tail).count '\n' = cs.count '\n' := by
  rw [List.count_append, count_returned]
  rcases htail with rfl | rfl <;> rfl

/-- What a token of a text with carriage returns shows. -/
theorem alike_of (hmatch : matchToken cs = some (kind, left)) (hcs : cs = taken ++ left)
    (hreturn : '\r' ∉ taken) {tail : List Char}
    (htail : tail = [] ∨ tail = ['\r'] ∧ ∃ more, cs = '/' :: '/' :: more) (hrow : p'.row = p.row) :
    (Token.of p kind taken).Alike (Token.of p' kind (returned taken ++ tail)) := by
  have hnone (hkind : kind ≠ .comment) : tail = [] := by
    refine htail.resolve_right ?_
    rintro ⟨-, more, rfl⟩
    exact hkind (Prod.mk.inj (Option.some.inj hmatch)).1.symm
  have hcount := count_returned_append taken (htail.imp_right And.left)
  refine ⟨rfl, hrow, ?_, fun hkind => ?_, fun hkind => ?_, fun hkind => ?_⟩
  · simp only [Token.of, Place.row_foldl_after, hcount, hrow]
  · have hline := newline_not_mem_of_matchToken hmatch hcs hkind
    have hcomment : kind ≠ .comment := by
      rintro rfl
      rcases hkind with hkind | hkind <;> cases hkind
    rw [Token.of, Token.of, returned_of_not_mem hline, hnone hcomment, List.append_nil]
  · obtain rfl : kind = .comment := hkind
    simp only [Token.of, String.toList_ofList]
    rcases comment_cases_of_matchToken hmatch hcs with ⟨more, rfl, hline⟩ | ⟨inside, rfl⟩
    · have hsame : returned ('/' :: '/' :: more) = '/' :: '/' :: more :=
        returned_of_not_mem (by simpa using hline)
      rw [hsame]
      rcases htail with rfl | ⟨rfl, -⟩
      · rw [List.append_nil]
      · exact commentLines_line more
    · have hblock : tail = [] := by
        refine htail.resolve_right ?_
        rintro ⟨-, more, rfl⟩
        simp at hcs
      rw [hblock, List.append_nil, commentLines_block]
  · simp only [Token.of, String.toList_ofList]
    rw [hnone hkind, List.append_nil, Document.flatten_returned hreturn]

/-- What is before a front character that is no carriage return is nothing. -/
theorem eq_nil_of_cons_eq_append {c : Char} (hc : c ≠ '\r') {tail rest cs' : List Char}
    (htail : tail = [] ∨ tail = ['\r']) (h : c :: rest = tail ++ cs') :
    tail = [] ∧ c :: rest = cs' := by
  rcases htail with rfl | rfl
  · exact ⟨rfl, h⟩
  · exact absurd (List.cons.inj h).1 hc

/-- The whole of a text is scanned as tokens that show the same as others. -/
def ScannedAlike (p : Place) (cs : List Char) (ts : List Token) : Prop :=
  ∃ us q, Scanned p cs us q [] ∧ List.Forall₂ Token.Alike ts us

theorem ScannedAlike.gap {c : Char} {ts : List Token} (hc : isGap c = true)
    (h : ScannedAlike (p.after c) cs ts) : ScannedAlike p (c :: cs) ts := by
  obtain ⟨us, q, hus, halike⟩ := h
  exact ⟨us, q, .gap hc hus, halike⟩

theorem ScannedAlike.token {c : Char} {t : Token} {ts : List Token} (hc : isGap c = false)
    (hmatch : matchToken (c :: cs) = some (kind, left)) (htaken : c :: cs = taken ++ left)
    (ht : t.Alike (.of p kind taken)) (h : ScannedAlike (taken.foldl Place.after p) left ts) :
    ScannedAlike p (c :: cs) (t :: ts) := by
  obtain ⟨us, q, hus, halike⟩ := h
  exact ⟨_, q, .token hc hmatch htaken hus, .cons ht halike⟩

/-- **A text with carriage returns before its line feeds has tokens that show the same**, also if
the first of the returns is no longer there. -/
theorem Scanned.returned {ts : List Token} (h : Scanned p cs ts q []) (hreturn : '\r' ∉ cs)
    (hquoted : ∀ t ∈ ts, IsQuoted t.kind t.text.toList → '\n' ∉ t.text.toList)
    {tail cs' : List Char} (htail : tail = [] ∨ tail = ['\r'])
    (hcs' : Text.returned cs = tail ++ cs') (hrow : p'.row = p.row) : ScannedAlike p' cs' ts := by
  generalize hend : ([] : List Char) = rest at h
  induction h generalizing p' tail cs' with
  | done p cs =>
    subst hend
    obtain ⟨-, rfl⟩ := List.append_eq_nil_iff.1 hcs'.symm
    exact ⟨[], p', .done p' [], .nil⟩
  | @gap p q c cs rest ts hc h ih =>
    rw [List.mem_cons, not_or] at hreturn
    have hline : c ≠ '\n' := by
      rintro rfl
      cases hc
    rw [returned_cons hline] at hcs'
    obtain ⟨rfl, rfl⟩ := eq_nil_of_cons_eq_append (Ne.symm hreturn.1) htail hcs'
    have hafter : (p'.after c).row = (p.after c).row := by
      rw [Place.after, Place.after, if_neg hline, if_neg hline, hrow]
    exact .gap hc (ih hreturn.2 hquoted (.inl rfl) rfl hafter hend)
  | @token p q c cs taken left rest kind ts hc hmatch htaken h ih =>
    have hfront : c ≠ '\r' := fun hc => hreturn (hc ▸ List.mem_cons_self)
    rw [htaken, List.mem_append, not_or] at hreturn
    rw [List.forall_mem_cons] at hquoted
    have hhead : IsQuoted kind taken → '\n' ∉ taken := by
      simpa [Token.of] using hquoted.1
    by_cases hkind : kind = .lineEnd
    · subst hkind
      obtain ⟨rfl, rfl⟩ := List.cons.inj (eq_cons_of_matchToken hmatch)
      obtain rfl : taken = ['\n'] :=
        List.append_cancel_right (htaken.symm.trans (List.singleton_append (l := cs)).symm)
      -- the line feed, from a place behind the carriage return
      have hfeed {p' : Place} (hrow : p'.row = p.row) :
          ScannedAlike p' ('\n' :: Text.returned cs) (Token.of p .lineEnd ['\n'] :: ts) :=
        .token hc rfl rfl ⟨rfl, hrow, hrow, fun _ => rfl, fun _ => rfl, fun _ => rfl⟩
          (ih hreturn.2 hquoted.2 (.inl rfl) rfl (congrArg (· + 1) hrow) hend)
      rcases htail with rfl | rfl
      · obtain rfl : '\r' :: '\n' :: Text.returned cs = cs' := hcs'
        have hrow' : (p'.after '\r').row = p.row := hrow
        exact .gap rfl (hfeed hrow')
      · obtain rfl : '\n' :: Text.returned cs = cs' := (List.cons.inj hcs').2
        exact hfeed hrow
    · have hline : c ≠ '\n' := by
        rintro rfl
        exact hkind (Prod.mk.inj (Option.some.inj hmatch)).1.symm
      obtain ⟨more, left', hmatch', hleft, hmore⟩ := matchToken_returned hmatch hkind
        fun taken' htaken' => by
          rwa [List.append_cancel_right (htaken'.symm.trans htaken)]
      have hmore' := hmore.imp_right And.left
      have hreturned : Text.returned (c :: cs) = Text.returned taken ++ more ++ left' := by
        rw [htaken, returned_append, hleft, List.append_assoc]
      have hafter : ((Text.returned taken ++ more).foldl Place.after p').row =
          (taken.foldl Place.after p).row := by
        rw [Place.row_foldl_after, Place.row_foldl_after, count_returned_append taken hmore', hrow]
      rw [returned_cons hline] at hcs' hmatch' hreturned
      obtain ⟨rfl, rfl⟩ := eq_nil_of_cons_eq_append hfront htail hcs'
      exact .token hc hmatch' hreturned (alike_of hmatch htaken hreturn.1 hmore hrow)
        (ih hreturn.2 hquoted.2 hmore' hleft hafter hend)

end

/-! ## Tokens in the place of others -/

/-- Tokens that are different may each be changed to another one. -/
theorem exists_map_of_forall₂ {R : Token → Token → Prop} (hrefl : ∀ t, R t t) {ts us : List Token}
    (h : List.Forall₂ R ts us) (hnodup : ts.Nodup) :
    ∃ φ : Token → Token, us = ts.map φ ∧ ∀ t, R t (φ t) := by
  induction h with
  | nil => exact ⟨id, rfl, hrefl⟩
  | @cons t u ts us htu h ih =>
    obtain ⟨hnot, hnodup⟩ := List.nodup_cons.1 hnodup
    obtain ⟨φ, rfl, hφ⟩ := ih hnodup
    refine ⟨Function.update φ t u, ?_, fun x => ?_⟩
    · have hsame : ts.map (Function.update φ t u) = ts.map φ := List.map_congr_left fun x hx => by
        rw [Function.update_of_ne]
        rintro rfl
        exact hnot hx
      rw [List.map_cons, Function.update_self, hsame]
    · by_cases hx : x = t
      · rw [hx, Function.update_self]
        exact htu
      · rw [Function.update_of_ne hx]
        exact hφ x

/-! ## Sources -/

theorem withoutMark_returned (source : List Char) :
    withoutMark (returned source) = returned (withoutMark source) := by
  cases source with
  | nil => rfl
  | cons c cs =>
    by_cases hmark : c = '\uFEFF'
    · subst hmark
      rw [returned_cons (by decide)]
      rfl
    · rw [withoutMark_cons hmark]
      by_cases hline : c = '\n'
      · subst hline
        exact withoutMark_cons (by decide) _
      · rw [returned_cons hline, withoutMark_cons hmark]

theorem mem_of_mem_withoutMark {source : List Char} {c : Char} (h : c ∈ withoutMark source) :
    c ∈ source := by
  unfold withoutMark at h
  split at h
  · exact List.mem_cons_of_mem _ h
  · exact h

/-- **A source with carriage returns before its line feeds has tokens that show the same.** -/
theorem exists_alike_of_scan {source : List Char} {ts : List Token} (h : Token.scan source = .ok ts)
    (hreturn : '\r' ∉ source)
    (hquoted : ∀ t ∈ ts, IsQuoted t.kind t.text.toList → '\n' ∉ t.text.toList) :
    ∃ φ, (∀ t, Token.Alike t (φ t)) ∧ Token.scan (returned source) = .ok (ts.map φ) := by
  have hnodup := (ordered_of_scan h).nodup
  rw [scan_eq] at h
  obtain ⟨q, hscanned⟩ := exists_scanned_of_scanFrom (Nat.le_refl _) h
  obtain ⟨us, q', hus, halike⟩ := hscanned.returned
    (fun hmem => hreturn (mem_of_mem_withoutMark hmem)) hquoted (.inl rfl) rfl rfl
  obtain ⟨φ, rfl, hφ⟩ := exists_map_of_forall₂ Token.Alike.refl halike hnodup
  refine ⟨φ, hφ, ?_⟩
  rw [scan_eq, withoutMark_returned]
  exact hus.scans _ (Nat.le_refl _)

end Codebook.Go
