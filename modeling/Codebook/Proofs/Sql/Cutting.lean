import Codebook.Proofs.Sql.Clause
import Codebook.Proofs.Sql.Unquoted

/-!
# Cutting at the top level

Clauses are cut at commas and tokens at blanks, both at the top level.  However quotations and
parentheses are mixed up before a cut, nothing is open after it, so what follows is walked as it
would be by itself.  The parts of a text do not depend on one another, then, and each can be told
from the walk over the whole text, or from the walk over it alone.

What is here: `Nesting.partsAt`, the parts of a walk, and `Nesting.splitOnP_marks`, which says that
they are walks themselves; `splitTopLevel_inverts_joinWith`, for commas that are cut at and put back;
and `scans_eq_marks`, which tells the tokens, the clauses and the list of a text from one walk,
though the tokens are cut out by another.
-/

set_option autoImplicit false

namespace Codebook.Sql

open Codebook.Text

/-! ## Parts of a walk -/

/-- What is cut at is in no part. -/
theorem eq_false_of_mem_splitOnP {α : Type} {q : α → Bool} {l part : List α}
    (h : part ∈ l.splitOnP q) : ∀ a ∈ part, q a = false := by
  induction l generalizing part with
  | nil =>
    rw [List.splitOnP_nil, List.mem_singleton] at h
    simp [h]
  | cons b l ih =>
    obtain ⟨first, parts, hsplit⟩ := List.exists_cons_of_ne_nil (List.splitOnP_ne_nil q l)
    rw [List.splitOnP_cons_eq_if_modifyHead, hsplit] at h
    rw [hsplit] at ih
    cases hb : q b with
    | true =>
      rw [hb, if_pos rfl, List.mem_cons] at h
      rcases h with rfl | h
      · simp
      · exact ih h
    | false =>
      rw [hb, if_neg Bool.false_ne_true, List.modifyHead_cons, List.mem_cons] at h
      rcases h with rfl | h
      · exact List.forall_mem_cons.2 ⟨hb, ih List.mem_cons_self⟩
      · exact ih (List.mem_cons_of_mem _ h)

namespace Nesting

/-- Whether one of some characters is seen at depth zero. -/
def isCut (p : Char → Bool) (m : Char × Option Nat) : Bool := p m.1 && m.2 == some 0

/-- The parts of a walked text between the characters in `p` that are seen at depth zero. -/
def partsAt (p : Char → Bool) (ms : List (Char × Option Nat)) : List (List Char) :=
  (ms.splitOnP (isCut p)).map (·.map Prod.fst)

section

variable {p : Char → Bool} {s : Nesting} {c : Char} {cs : List Char}

/-- Nothing is open after a cut. -/
theorem after_of_isCut (hp : p '(' = false) (h : isCut p (c, s.level? c) = true) :
    s.after c = {} := by
  rw [isCut, Bool.and_eq_true, beq_iff_eq] at h
  obtain ⟨hc, hlevel⟩ := h
  have ho : c ≠ '(' := by
    rintro rfl
    rw [hp] at hc
    cases hc
  obtain ⟨quote, depth⟩ := s
  cases quote with
  | some mark => cases hlevel
  | none =>
    by_cases hm : isQuoteMark c = true
    · rw [level?_mark hm] at hlevel
      cases hlevel
    rw [Bool.not_eq_true] at hm
    by_cases hclose : c = ')'
    · subst hclose
      exact congrArg (Nesting.mk none) (Option.some.inj hlevel)
    · rw [level?_plain hm hclose] at hlevel
      obtain rfl : depth = 0 := Option.some.inj hlevel
      exact after_plain hm ho hclose 0

/-- **Each part is walked as it would be by itself.**  The first part is walked from where the text
is, and each later one from the start, whatever stands before it. -/
theorem splitOnP_marks (hp : p '(' = false) (s : Nesting) (cs : List Char) :
    ∃ part parts, cutAtDepthZero p s cs = part :: parts ∧
      (s.marks cs).splitOnP (isCut p) = s.marks part :: parts.map (marks {}) := by
  induction cs generalizing s with
  | nil => exact ⟨[], [], rfl, List.splitOnP_nil⟩
  | cons c cs ih =>
    obtain ⟨part, parts, hcut, hsplit⟩ := ih (s.after c)
    rw [marks, List.splitOnP_cons_eq_if_modifyHead, hsplit]
    cases hc : isCut p (c, s.level? c) with
    | true =>
      refine ⟨[], part :: parts, ?_, ?_⟩
      · rw [cutAtDepthZero_cons_of_pos hc, hcut]
      · rw [if_pos rfl, after_of_isCut hp hc]
        rfl
    | false =>
      refine ⟨c :: part, parts, cutAtDepthZero_cons_of_neg hc hcut, ?_⟩
      rw [if_neg Bool.false_ne_true]
      rfl

theorem cutAtDepthZero_eq_partsAt (hp : p '(' = false) (s : Nesting) (cs : List Char) :
    cutAtDepthZero p s cs = partsAt p (s.marks cs) := by
  obtain ⟨part, parts, hcut, hsplit⟩ := splitOnP_marks hp s cs
  rw [partsAt, hcut, hsplit, List.map_cons, map_fst_marks, List.map_map]
  simp [Function.comp_def, map_fst_marks]

/-- Within a part there is nothing to cut at. -/
theorem isCut_of_mem_cutAtDepthZero (hp : p '(' = false) {part : List Char}
    (h : part ∈ cutAtDepthZero p {} cs) : ∀ m ∈ marks {} part, isCut p m = false := by
  obtain ⟨first, parts, hcut, hsplit⟩ := splitOnP_marks hp {} cs
  rw [hcut] at h
  refine eq_false_of_mem_splitOnP (l := marks {} cs) ?_
  rw [hsplit]
  exact List.mem_map_of_mem (f := marks {}) h

/-- The last part of a text is not empty if the text does not end in a cut. -/
theorem exists_cutAtDepthZero_concat (h : isCut p (c, (s.afterAll cs).level? c) = false) :
    ∃ parts last, cutAtDepthZero p s (cs ++ [c]) = parts ++ [last ++ [c]] := by
  induction cs generalizing s with
  | nil => exact ⟨[], [], cutAtDepthZero_cons_of_neg h rfl⟩
  | cons x cs ih =>
    obtain ⟨parts, last, hcut⟩ := ih h
    rw [List.cons_append]
    cases hx : isCut p (x, s.level? x) with
    | true => exact ⟨[] :: parts, last, by rw [cutAtDepthZero_cons_of_pos hx, hcut]; rfl⟩
    | false =>
      cases parts with
      | nil => exact ⟨[], x :: last, cutAtDepthZero_cons_of_neg hx hcut⟩
      | cons part parts => exact ⟨(x :: part) :: parts, last, cutAtDepthZero_cons_of_neg hx hcut⟩

/-- A comma is seen at depth zero where nothing is open. -/
theorem eq_of_level?_comma (h : s.level? ',' = some 0) : s = {} := by
  obtain ⟨quote, depth⟩ := s
  cases quote with
  | some mark => cases h
  | none => exact congrArg (Nesting.mk none) (Option.some.inj h)

theorem getLast?_marks_concat (s : Nesting) (cs : List Char) (c : Char) :
    (s.marks (cs ++ [c])).getLast? = some (c, (s.afterAll cs).level? c) := by
  rw [marks_append]
  exact List.getLast?_concat

end

end Nesting

/-! ## Clauses -/

theorem joinWith_cutAtDepthZero (sep : Char) (s : Nesting) (cs : List Char) :
    joinWith [sep] (Nesting.cutAtDepthZero (· == sep) s cs) = cs := by
  induction cs generalizing s with
  | nil => rfl
  | cons c cs ih =>
    obtain ⟨part, parts, hcut⟩ :=
      List.exists_cons_of_ne_nil (Nesting.cutAtDepthZero_ne_nil (· == sep) (s.after c) cs)
    have hrest := ih (s.after c)
    rw [hcut, joinWith_cons] at hrest
    cases hc : Nesting.isCut (· == sep) (c, s.level? c) with
    | true =>
      obtain rfl : c = sep := beq_iff_eq.1 (Bool.and_eq_true_iff.1 hc).1
      rw [Nesting.cutAtDepthZero_cons_of_pos (p := (· == c)) hc, hcut, joinWith_cons,
        List.flatMap_cons, List.nil_append, List.append_assoc, hrest]
      rfl
    | false =>
      rw [Nesting.cutAtDepthZero_cons_of_neg (p := (· == sep)) hc hcut, joinWith_cons,
        List.cons_append, hrest]

theorem dropEmptyLast_concat_nil (parts : List (List Char)) :
    dropEmptyLast (parts ++ [[]]) = parts := by
  induction parts with
  | nil => rfl
  | cons part parts ih =>
    cases parts with
    | nil => rfl
    | cons next parts => exact congrArg (part :: ·) ih

theorem dropEmptyLast_subset (parts : List (List Char)) : dropEmptyLast parts ⊆ parts := by
  induction parts with
  | nil => exact List.Subset.refl _
  | cons part parts ih =>
    cases parts with
    | nil =>
      rw [dropEmptyLast]
      split
      · exact List.nil_subset _
      · exact List.Subset.refl _
    | cons next parts => exact List.cons_subset_cons part ih

/-- The clauses of a text make up the text, but for a comma at its end. -/
theorem joinWith_splitTopLevel (text : List Char) :
    joinWith [','] (splitTopLevel ',' text) ++
      (if (Nesting.marks {} text).getLast? = some (',', some 0) then [','] else []) = text := by
  rcases List.eq_nil_or_concat text with rfl | ⟨cs, c, rfl⟩
  · rfl
  rw [List.concat_eq_append, Nesting.getLast?_marks_concat]
  split
  · -- the comma at the end is followed by an empty part, which is dropped
    rename_i hlast
    obtain ⟨rfl, hlevel⟩ : c = ',' ∧ (Nesting.afterAll {} cs).level? c = some 0 := by
      simpa using hlast
    have hcut : Nesting.cutAtDepthZero (· == ',') {} (cs ++ [',']) =
        Nesting.cutAtDepthZero (· == ',') {} cs ++ [[]] :=
      Nesting.cutAtDepthZero_append_cons (Nesting.eq_of_level?_comma hlevel) rfl []
    rw [splitTopLevel, hcut, dropEmptyLast_concat_nil, joinWith_cutAtDepthZero]
  · rename_i hlast
    have hcut : Nesting.isCut (· == ',') (c, (Nesting.afterAll {} cs).level? c) = false := by
      simpa [Nesting.isCut] using hlast
    obtain ⟨parts, last, hparts⟩ := Nesting.exists_cutAtDepthZero_concat hcut
    rw [splitTopLevel, dropEmptyLast_of_getLast?, joinWith_cutAtDepthZero, List.append_nil]
    simp [hparts]

/-- What a text has at the top level is what the walk sees at depth zero. -/
theorem isBalancedFrom_of_marks {p q : Char → Bool} {quote : Option Char} {depth : Nat}
    {cs : List Char} (h : isBalancedFrom p quote depth cs = true)
    (hq : ∀ c, (c, some 0) ∈ Nesting.marks ⟨quote, depth⟩ cs → q c = true) :
    isBalancedFrom q quote depth cs = true := by
  induction cs generalizing quote depth with
  | nil => exact h
  | cons c cs ih =>
    have hrest : ∀ x, (x, some 0) ∈ ((Nesting.after ⟨quote, depth⟩ c).marks cs) → q x = true :=
      fun x hx => hq x (List.mem_cons_of_mem _ hx)
    cases quote with
    | some mark =>
      rw [Nesting.after_quoted] at hrest
      rw [isBalancedFrom_quoted] at h ⊢
      exact ih h hrest
    | none =>
      rcases isBalancedFrom_cons_cases h with ⟨hm, h⟩ | ⟨rfl, h⟩ | ⟨rfl, n, rfl, h⟩ |
        ⟨hm, ho, hc, -, h⟩
      · rw [Nesting.after_mark hm] at hrest
        rw [isBalancedFrom_mark hm]
        exact ih h hrest
      · exact ih h hrest
      · rw [isBalancedFrom_close]
        exact ih h hrest
      · rw [Nesting.after_plain hm ho hc] at hrest
        rw [isBalancedFrom_plain hm ho hc, ih h hrest, Bool.and_true, Bool.or_eq_true, bne_iff_ne]
        by_cases hd : depth = 0
        · subst hd
          rw [Nesting.marks, Nesting.level?_plain hm hc] at hq
          exact .inr (hq c List.mem_cons_self)
        · exact .inl hd

/-- Paired texts without commas at the top level are the clauses of what they are joined to. -/
theorem splitTopLevel_joinWith_of_isPaired {parts : List (List Char)}
    (h : ∀ part ∈ parts, IsPaired part ∧ (',', some 0) ∉ Nesting.marks {} part)
    (hlast : ∀ last ∈ parts.getLast?, last ≠ []) :
    splitTopLevel ',' (joinWith [','] parts) = parts := by
  refine splitTopLevel_joinWith hlast fun part hpart => ?_
  obtain ⟨hpaired, hcomma⟩ := h part hpart
  refine isBalancedFrom_of_marks (isPaired_iff.1 hpaired) fun c hc => ?_
  rw [bne_iff_ne]
  rintro rfl
  exact hcomma hc

/-- **Cutting at commas and joining with commas undo each other.**  The clauses of any text, joined,
are the text without the comma that may stand at its end, and none of them, walked by itself, has a
comma at the top level.  Any clauses that are paired and have no comma at the top level, of which
the last one is not empty, are the clauses of the text that they are joined to. -/
theorem splitTopLevel_inverts_joinWith :
    (∀ text : List Char,
      joinWith [','] (splitTopLevel ',' text) ++
          (if (Nesting.marks {} text).getLast? = some (',', some 0) then [','] else []) = text ∧
        ∀ part ∈ splitTopLevel ',' text, (',', some 0) ∉ Nesting.marks {} part) ∧
    ∀ parts : List (List Char),
      (∀ part ∈ parts, IsPaired part ∧ (',', some 0) ∉ Nesting.marks {} part) →
      (∀ last ∈ parts.getLast?, last ≠ []) →
        splitTopLevel ',' (joinWith [','] parts) = parts := by
  refine ⟨fun text => ⟨joinWith_splitTopLevel text, fun part hpart hcomma => ?_⟩,
    fun _ hparts hlast => splitTopLevel_joinWith_of_isPaired hparts hlast⟩
  have hcut := Nesting.isCut_of_mem_cutAtDepthZero (p := (· == ',')) rfl
    (dropEmptyLast_subset _ hpart) _ hcomma
  cases hcut

/-- Commas in parentheses and in quotes, two commas in a row, and a parenthesis in quotes. -/
theorem splitTopLevel_inverts_joinWith_emptyClause :
    let parts := ["a numeric(10,2)".toList, [], " b text DEFAULT 'x,y)'".toList]
    (∀ part ∈ parts, IsPaired part ∧ (',', some 0) ∉ Nesting.marks {} part) ∧
      (∀ last ∈ parts.getLast?, last ≠ []) ∧
      splitTopLevel ',' "a numeric(10,2),, b text DEFAULT 'x,y)'".toList = parts := by
  intro parts
  have hparts : ∀ part ∈ parts, IsPaired part ∧ (',', some 0) ∉ Nesting.marks {} part := by decide
  have hlast : ∀ last ∈ parts.getLast?, last ≠ [] := by decide
  exact ⟨hparts, hlast, splitTopLevel_inverts_joinWith.2 parts hparts hlast⟩

/-! ## Tokens -/

theorem closeToken_eq (current : List Char) (tokens : List (List Char)) :
    closeToken current tokens = [current.reverse].filter (!·.isEmpty) ++ tokens := by
  cases current with
  | nil => rfl
  | cons c current => simp [closeToken]

/-- The tokens of a text of which something has been read: it belongs to the first part of what is
still to come, and empty parts are no tokens. -/
theorem tokensFrom_eq {s : Nesting} {cs part : List Char} {parts : List (List Char)}
    (h : Nesting.cutAtDepthZero isAsciiBlank s cs = part :: parts) (current : List Char) :
    tokensFrom s.quote s.depth current cs =
      ((current.reverse ++ part) :: parts).filter (!·.isEmpty) := by
  induction cs generalizing s part parts current with
  | nil =>
    cases h
    rw [tokensFrom, closeToken_eq, List.append_nil, List.append_nil]
  | cons c cs ih =>
    obtain ⟨part', parts', hcut⟩ :=
      List.exists_cons_of_ne_nil (Nesting.cutAtDepthZero_ne_nil isAsciiBlank (s.after c) cs)
    rw [tokensFrom_cons]
    cases hc : isAsciiBlank c && s.level? c == some 0 with
    | true =>
      rw [Nesting.cutAtDepthZero_cons_of_pos hc, hcut] at h
      cases h
      rw [if_pos rfl, ih hcut, closeToken_eq, List.append_nil, ← List.filter_append]
      rfl
    | false =>
      rw [Nesting.cutAtDepthZero_cons_of_neg hc hcut] at h
      cases h
      rw [if_neg Bool.false_ne_true, ih hcut, List.reverse_cons, List.append_assoc]
      rfl

/-! ## Parentheses -/

namespace Nesting

/-- A search gives the text around the first character that is seen and is looked for. -/
theorem breakAt_eq_findIdx? (p : Char → Nat → Bool) (s : Nesting) (cs : List Char) :
    breakAt p s cs =
      ((s.marks cs).findIdx? fun m => m.2.any (p m.1)).map fun i =>
        (cs.take i, cs.drop (i + 1)) := by
  induction cs generalizing s with
  | nil => rfl
  | cons c cs ih =>
    rw [breakAt, marks, List.findIdx?_cons]
    split
    · rfl
    · rw [ih, Option.map_map, Option.map_map]
      rfl

end Nesting

/-- Nothing is open before the first opening parenthesis. -/
theorem PrecedesOpening.afterAll_eq {cs : List Char} (h : PrecedesOpening cs) :
    Nesting.afterAll {} cs = {} := by
  obtain ⟨seen, hseen, hopen⟩ := h
  induction hseen with
  | nil => rfl
  | @cons c cs seen hc hseen ih =>
    rw [List.mem_cons, not_or] at hopen
    have hafter : Nesting.after {} c = {} := by
      by_cases hclose : c = ')'
      · subst hclose
        rfl
      · exact Nesting.after_plain hc (Ne.symm hopen.1) hclose 0
    rw [Nesting.afterAll_cons, hafter, ih hopen.2]
  | quotation hmark hinside hseen ih =>
    rw [Nesting.afterAll_cons, Nesting.after_mark hmark, Nesting.afterAll_quotation hinside,
      ih hopen]

/-- The walk that starts after the first opening parenthesis sees what the walk over the whole text
sees there. -/
theorem marks_of_breakAtOpening {cs before rest : List Char}
    (h : breakAtOpening cs = some (before, rest)) :
    Nesting.marks ⟨none, 1⟩ rest = (Nesting.marks {} cs).drop (before.length + 1) := by
  obtain ⟨rfl, hbefore⟩ := breakAtOpening_eq_some_iff.1 h
  have hlength : (Nesting.marks {} before).length = before.length := by
    rw [← List.length_map (f := Prod.fst), Nesting.map_fst_marks]
  rw [Nesting.marks_append, hbefore.afterAll_eq, ← hlength, List.drop_length_add_append]
  rfl

/-- **All scans see the same.**  Tokens, clauses and the place of the list are told from one walk over
the text: tokens are the parts between the blanks that it sees at depth zero, without the empty
ones; clauses are the parts between the commas that it sees at depth zero; and the list starts after
the first opening parenthesis that it sees.  The scan for the end of the list starts anew there, and
sees what the walk over the whole text sees. -/
theorem scans_eq_marks (text : List Char) :
    tokens text =
        (Nesting.partsAt isAsciiBlank (Nesting.marks {} text)).filter (!·.isEmpty) ∧
      splitTopLevel ',' text =
        dropEmptyLast (Nesting.partsAt (· == ',') (Nesting.marks {} text)) ∧
      breakAtOpening text =
        ((Nesting.marks {} text).findIdx? fun m => m.1 == '(' && m.2.isSome).map
          (fun i => (text.take i, text.drop (i + 1))) ∧
      ∀ before rest, breakAtOpening text = some (before, rest) →
        Nesting.marks ⟨none, 1⟩ rest = (Nesting.marks {} text).drop (before.length + 1) := by
  refine ⟨?_, ?_, ?_, fun before rest => marks_of_breakAtOpening⟩
  · obtain ⟨part, parts, hcut⟩ :=
      List.exists_cons_of_ne_nil (Nesting.cutAtDepthZero_ne_nil isAsciiBlank {} text)
    rw [← Nesting.cutAtDepthZero_eq_partsAt rfl, hcut]
    exact tokensFrom_eq hcut []
  · rw [splitTopLevel, Nesting.cutAtDepthZero_eq_partsAt rfl]
  · have hseen : (fun m : Char × Option Nat => m.2.any fun _ => m.1 == '(') =
        fun m => m.1 == '(' && m.2.isSome := by
      funext m
      cases m.2 <;> simp
    rw [breakAtOpening, Nesting.breakAt_eq_findIdx?, hseen]

/-- Parentheses that do not match, and a quotation that is not closed. -/
theorem scans_eq_marks_unclosed :
    tokens "a) b(c d,e\tf) 'g, h".toList = ["a)".toList, "b(c d,e\tf)".toList, "'g, h".toList] ∧
      breakAtOpening "a) b(c d,e\tf) 'g, h".toList =
        some ("a) b".toList, "c d,e\tf) 'g, h".toList) ∧
      Nesting.marks ⟨none, 1⟩ "c d,e\tf) 'g, h".toList =
        (Nesting.marks {} "a) b(c d,e\tf) 'g, h".toList).drop 5 := by
  have hscans := scans_eq_marks "a) b(c d,e\tf) 'g, h".toList
  have hopening : breakAtOpening "a) b(c d,e\tf) 'g, h".toList =
      some ("a) b".toList, "c d,e\tf) 'g, h".toList) := by decide
  exact ⟨hscans.1.trans (by decide), hopening, hscans.2.2.2 _ _ hopening⟩

end Codebook.Sql
