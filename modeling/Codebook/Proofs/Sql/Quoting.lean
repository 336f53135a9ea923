import Codebook.Proofs.Sql.DottedName
import Codebook.Sql.Statement.Split

/-!
# Writing in quotes

A text is put in quotes by writing its quote twice wherever it occurs, and where a backslash escapes
the backslash as well.  Two machines look at the result: the one that cuts the comments out of a
line knows of no escapes, and the one that reads lexemes undoes them.  Neither loses its way, since
a quote that is written twice closes the quotation for the first and opens it again.

What is here: `quoted`; `readQuoted_doubled` and the lexemes of quoted names and texts; and `Kept`,
the texts that the first machine leaves as they are.
-/

set_option autoImplicit false

namespace Codebook.Sql

open Codebook.Text

/-! ## Quoting -/

/-- A text with each quote mark, and each backslash if it escapes, written twice. -/
def doubled (mark : Char) (escapes : Bool) (cs : List Char) : List Char :=
  cs.flatMap fun c => if c = mark ∨ (escapes = true ∧ c = '\\') then [c, c] else [c]

/-- A text in quotes. -/
def quoted (mark : Char) (escapes : Bool) (cs : List Char) : List Char :=
  mark :: (doubled mark escapes cs ++ [mark])

section

variable {mark : Char} {escapes : Bool}

theorem doubled_cons_of_twice {c : Char} (h : c = mark ∨ (escapes = true ∧ c = '\\'))
    (cs : List Char) : doubled mark escapes (c :: cs) = c :: c :: doubled mark escapes cs := by
  rw [doubled, List.flatMap_cons, if_pos h]
  rfl

theorem doubled_cons_of_once {c : Char} (h : ¬(c = mark ∨ (escapes = true ∧ c = '\\')))
    (cs : List Char) : doubled mark escapes (c :: cs) = c :: doubled mark escapes cs := by
  rw [doubled, List.flatMap_cons, if_neg h]
  rfl

/-- Quoting brings in no character but the mark. -/
theorem mem_quoted {cs : List Char} {c : Char} (h : c ∈ quoted mark escapes cs) :
    c = mark ∨ c ∈ cs := by
  rw [quoted, List.mem_cons, List.mem_append, List.mem_singleton, doubled, List.mem_flatMap] at h
  obtain h | ⟨x, hx, hc⟩ | h := h
  · exact .inl h
  · split at hc
    · obtain rfl : c = x := by simpa using hc
      exact .inr hx
    · rw [List.mem_singleton.1 hc]
      exact .inr hx
  · exact .inl h

/-! ## Reading back -/

/-- One step of the reading. -/
theorem readQuoted_cons (c : Char) (cs : List Char) :
    readQuoted mark escapes (c :: cs) =
      if c = mark then
        match cs with
        | [] => some ([], [])
        | d :: ds =>
          if d = mark then (readQuoted mark escapes ds).map (consRead mark) else some ([], d :: ds)
      else if escapes = true ∧ c = '\\' then
        match cs with
        | [] => none
        | d :: ds => (readQuoted mark escapes ds).map (consRead (unescape d))
      else (readQuoted mark escapes cs).map (consRead c) := by
  cases cs <;> rfl

/-- What is written in quotes is read back. -/
theorem readQuoted_doubled (hmark : mark ≠ '\\') (cs : List Char) {rest : List Char}
    (hrest : rest.head? ≠ some mark) :
    readQuoted mark escapes (doubled mark escapes cs ++ mark :: rest) = some (cs, rest) := by
  induction cs with
  | nil =>
    rw [doubled, List.flatMap_nil, List.nil_append, readQuoted_cons, if_pos rfl]
    cases rest with
    | nil => rfl
    | cons d rest =>
      have hd : d ≠ mark := by
        rintro rfl
        exact hrest rfl
      exact if_neg hd
  | cons c cs ih =>
    by_cases hc : c = mark
    · subst hc
      rw [doubled_cons_of_twice (.inl rfl), List.cons_append, List.cons_append, readQuoted_cons,
        if_pos rfl]
      simp only [if_true, ih]
      rfl
    by_cases hb : escapes = true ∧ c = '\\'
    · obtain ⟨rfl, rfl⟩ := hb
      rw [doubled_cons_of_twice (.inr ⟨rfl, rfl⟩), List.cons_append, List.cons_append,
        readQuoted_cons, if_neg hc, if_pos ⟨rfl, rfl⟩]
      simp only [ih]
      rfl
    · rw [doubled_cons_of_once (by simp [hc, hb]), List.cons_append, readQuoted_cons, if_neg hc,
        if_neg hb,
        ih]
      rfl

end

theorem length_append_cons_le {α : Type} (l : List α) (a : α) (m : List α) :
    m.length ≤ (l ++ a :: m).length := by
  rw [List.length_append, List.length_cons]
  omega

namespace Reads

variable {d : Dialect} {rest : List Char} {ls : List Lexeme}

/-- A quoted name at the front. -/
theorem quotedName (cs : List Char) (hrest : rest.head? ≠ some d.nameMark) (h : Reads d rest ls) :
    Reads d (quoted d.nameMark false cs ++ rest)
      (.word (String.ofList cs) (some d.nameMark) :: ls) := by
  have hmark : d.nameMark ≠ '\\' := by cases d <;> decide
  have hread : readQuoted d.nameMark false _ = _ := readQuoted_doubled hmark cs hrest
  have hone : readOne d d.nameMark (doubled d.nameMark false cs ++ d.nameMark :: rest) =
      .ok (some (.word (String.ofList cs) (some d.nameMark)), rest) := by
    cases d <;> simp only [Dialect.nameMark] at hread ⊢ <;> simp [readOne, Dialect.nameMark, hread]
  rw [quoted, List.cons_append, List.append_assoc]
  exact cons hone (length_append_cons_le _ _ _) h

/-- A quoted text at the front. -/
theorem quotedText (cs : List Char) (hrest : rest.head? ≠ some '\'') (h : Reads d rest ls) :
    Reads d (quoted '\'' d.hasBackslashEscapes cs ++ rest)
      (.text .plain (String.ofList cs) :: ls) := by
  have hread : readQuoted '\'' d.hasBackslashEscapes _ = _ :=
    readQuoted_doubled (by decide) cs hrest
  have hone : readOne d '\'' (doubled '\'' d.hasBackslashEscapes cs ++ '\'' :: rest) =
      .ok (some (.text .plain (String.ofList cs)), rest) := by
    simp [readOne, readText, hread]
  rw [quoted, List.cons_append, List.append_assoc]
  exact cons hone (length_append_cons_le _ _ _) h

end Reads

/-- A quoted name is a segment. -/
theorem readsSegment_quoted (d : Dialect) (cs : List Char) :
    ReadsSegment d (quoted d.nameMark false cs) (.word (String.ofList cs) (some d.nameMark)) := by
  refine ⟨⟨d.nameMark, _, rfl, by cases d <;> decide⟩, fun rest ls hrest hls => ?_⟩
  refine Reads.quotedName cs (fun hhead => ?_) hls
  rcases hrest _ hhead with hmark | hmark <;> cases d <;> cases hmark

/-! ## Comments -/

/-- A text that keeps all its characters when comments are cut out, and after which the line goes on
as if it started there. -/
def Kept (cs : List Char) : Prop :=
  ∀ rest, stripFrom .plain (cs ++ rest) = (stripFrom .plain rest).map (cs ++ ·)

namespace Kept

theorem append {cs ds : List Char} (hcs : Kept cs) (hds : Kept ds) : Kept (cs ++ ds) := by
  intro rest
  rw [List.append_assoc, hcs, hds, Option.map_map]
  simp only [Function.comp_def, List.append_assoc]

theorem stripComments_eq {cs : List Char} (h : Kept cs) : stripComments cs = some cs := by
  have hnil := h []
  rw [List.append_nil] at hnil
  rw [stripComments, hnil, show stripFrom .plain [] = some [] from rfl, Option.map_some,
    List.append_nil]

/-- Characters outside of quotations, of which none may start a comment. -/
theorem plain {cs : List Char} (h : ∀ c ∈ cs, isQuoteMark c = false ∧ c ≠ '-' ∧ c ≠ '/') :
    Kept cs := by
  intro rest
  induction cs with
  | nil => exact Option.map_id'.symm
  | cons c cs ih =>
    obtain ⟨hm, hdash, hslash⟩ := h c List.mem_cons_self
    rw [List.cons_append, stripFrom, hm, if_neg Bool.false_ne_true,
      ih fun x hx => h x (List.mem_cons_of_mem _ hx), Option.map_map]
    · rfl
    · simp [hdash]
    · simp [hslash]

theorem stripFrom_mark {c : Char} (hc : isQuoteMark c = true) (cs : List Char) :
    stripFrom .plain (c :: cs) = (stripFrom (.quoted c) cs).map (c :: ·) := by
  rw [stripFrom, if_pos hc]
  · rintro _ rfl
    cases hc
  · rintro _ rfl
    cases hc

theorem stripFrom_quoted_self (c : Char) (cs : List Char) :
    stripFrom (.quoted c) (c :: cs) = (stripFrom .plain cs).map (c :: ·) := by
  show (stripFrom (if c = c then .plain else .quoted c) cs).map (c :: ·) = _
  rw [if_pos rfl]

theorem stripFrom_quoted_of_ne {c mark : Char} (hc : c ≠ mark) (cs : List Char) :
    stripFrom (.quoted mark) (c :: cs) = (stripFrom (.quoted mark) cs).map (c :: ·) := by
  show (stripFrom (if c = mark then .plain else .quoted mark) cs).map (c :: ·) = _
  rw [if_neg hc]

/-- A quotation runs to its closing mark, past all marks that are written twice. -/
theorem stripFrom_quoted_doubled {mark : Char} (hmark : isQuoteMark mark = true) (escapes : Bool)
    (cs rest : List Char) :
    stripFrom (.quoted mark) (doubled mark escapes cs ++ mark :: rest) =
      (stripFrom .plain rest).map (doubled mark escapes cs ++ mark :: ·) := by
  induction cs with
  | nil => exact stripFrom_quoted_self mark rest
  | cons c cs ih =>
    by_cases hc : c = mark
    · subst hc
      rw [doubled_cons_of_twice (.inl rfl), List.cons_append, List.cons_append,
        stripFrom_quoted_self, stripFrom_mark hmark, ih, Option.map_map, Option.map_map]
      rfl
    by_cases hb : escapes = true ∧ c = '\\'
    · rw [doubled_cons_of_twice (.inr hb), List.cons_append, List.cons_append,
        stripFrom_quoted_of_ne hc, stripFrom_quoted_of_ne hc, ih, Option.map_map, Option.map_map]
      rfl
    · rw [doubled_cons_of_once (by simp [hc, hb]), List.cons_append, stripFrom_quoted_of_ne hc, ih,
        Option.map_map]
      rfl

/-- What is in quotes is no comment, whatever it says. -/
theorem quoted {mark : Char} (hmark : isQuoteMark mark = true) (escapes : Bool) (cs : List Char) :
    Kept (quoted mark escapes cs) := by
  intro rest
  rw [Sql.quoted, List.cons_append, List.append_assoc, stripFrom_mark hmark, List.singleton_append,
    stripFrom_quoted_doubled hmark, Option.map_map]
  simp only [Function.comp_def, List.cons_append, List.append_assoc, List.nil_append]

theorem joinWith {sep : List Char} (hsep : Kept sep) {parts : List (List Char)}
    (h : ∀ part ∈ parts, Kept part) : Kept (joinWith sep parts) := by
  induction parts with
  | nil =>
    show Kept []
    exact plain (by simp)
  | cons part parts ih =>
    have hpart := h part List.mem_cons_self
    cases parts with
    | nil => exact hpart
    | cons next parts =>
      exact (hpart.append hsep).append (ih fun x hx => h x (List.mem_cons_of_mem _ hx))

end Kept

end Codebook.Sql
