import Codebook.Text.Blank

/-!
# Trimming, cutting and joining

A text that neither starts nor ends with a blank is what trimming leaves of it, also where blanks
stand around it.  Cutting finds the part before the first cut.  A joined text has the characters of
its parts and of the separator.
-/

set_option autoImplicit false

namespace Codebook.Text

/-! ## Deciding

A property of all characters of a text is decided by a look at these, and not at all characters
that there are. -/

instance decidableForallMem {p : Char → Prop} [DecidablePred p] (cs : List Char) :
    Decidable (∀ c ∈ cs, p c) :=
  List.decidableBAll p cs

instance decidableForallMemOption {p : Char → Prop} [DecidablePred p] (o : Option Char) :
    Decidable (∀ c ∈ o, p c) :=
  decidable_of_iff (∀ c ∈ o.toList, p c) (by simp)

/-! ## Trimming -/

variable {cs before after : List Char}

/-- A text without blanks at its ends. -/
structure IsTrimmed (cs : List Char) : Prop where
  /-- It does not start with a blank. -/
  head : ∀ c ∈ cs.head?, isBlank c = false
  /-- It does not end with one. -/
  last : ∀ c ∈ cs.getLast?, isBlank c = false

theorem dropWhile_eq_self_of_head? {α : Type} {p : α → Bool} {l : List α}
    (h : ∀ a ∈ l.head?, p a = false) : l.dropWhile p = l := by
  cases l with
  | nil => rfl
  | cons a l => rw [List.dropWhile_cons_of_neg (by simp [h a rfl])]

/-- Whether a text is trimmed is told by its ends. -/
theorem IsTrimmed.append {mid ds : List Char} (hcs : IsTrimmed cs) (hcs' : cs ≠ [])
    (hds : IsTrimmed ds) (hds' : ds ≠ []) : IsTrimmed (cs ++ mid ++ ds) := by
  constructor
  · obtain ⟨x, xs, rfl⟩ := List.exists_cons_of_ne_nil hcs'
    exact hcs.head
  · intro c hc
    rw [List.getLast?_append, List.getLast?_eq_some_getLast hds', Option.some_or] at hc
    exact hds.last c (by rwa [List.getLast?_eq_some_getLast hds'])

/-- Trimming takes the blanks around a text away, and nothing of the text. -/
theorem trim_append (h : IsTrimmed cs) (hbefore : ∀ c ∈ before, isBlank c = true)
    (hafter : ∀ c ∈ after, isBlank c = true) : trim (before ++ cs ++ after) = cs := by
  rw [trim, trimWhile, trimLeftWhile, trimRightWhile, List.append_assoc,
    List.dropWhile_append_of_pos hbefore]
  have hafter' : ∀ c ∈ after.reverse, isBlank c = true := fun c hc =>
    hafter c (List.mem_reverse.1 hc)
  by_cases hcs : cs = []
  · have hnone : (after ++ []).dropWhile isBlank = [] := List.dropWhile_append_of_pos hafter
    rw [List.append_nil] at hnone
    rw [hcs, List.nil_append, hnone]
    rfl
  · have hleft : (cs ++ after).dropWhile isBlank = cs ++ after := by
      refine dropWhile_eq_self_of_head? fun c hc => h.head c ?_
      obtain ⟨x, xs, rfl⟩ := List.exists_cons_of_ne_nil hcs
      exact hc
    have hright : cs.reverse.dropWhile isBlank = cs.reverse := by
      refine dropWhile_eq_self_of_head? fun c hc => h.last c ?_
      rwa [List.head?_reverse] at hc
    rw [hleft, List.reverse_append, List.dropWhile_append_of_pos hafter', hright,
      List.reverse_reverse]

/-- A text is one without a blank at its end and the blanks after that. -/
theorem exists_append_blanks (cs : List Char) :
    ∃ ds after, cs = ds ++ after ∧ (∀ c ∈ ds.getLast?, isBlank c = false) ∧
      ∀ c ∈ after, isBlank c = true := by
  induction cs with
  | nil => exact ⟨[], [], rfl, by simp, by simp⟩
  | cons x cs ih =>
    obtain ⟨ds, after, rfl, hlast, hafter⟩ := ih
    by_cases hx : ds = [] ∧ isBlank x = true
    · obtain ⟨rfl, hx⟩ := hx
      exact ⟨[], x :: after, rfl, by simp, List.forall_mem_cons.2 ⟨hx, hafter⟩⟩
    · refine ⟨x :: ds, after, rfl, ?_, hafter⟩
      cases ds with
      | nil => simpa using hx
      | cons d ds => rwa [List.getLast?_cons_cons]

/-- A text that does not start with a blank is a trimmed one and the blanks after that. -/
theorem exists_isTrimmed_append {c : Char} (hc : isBlank c = false) (cs : List Char) :
    ∃ ds after, cs = ds ++ after ∧ IsTrimmed (c :: ds) ∧ ∀ x ∈ after, isBlank x = true := by
  obtain ⟨ds, after, rfl, hlast, hafter⟩ := exists_append_blanks cs
  refine ⟨ds, after, rfl, ⟨by simpa using hc, ?_⟩, hafter⟩
  cases ds with
  | nil => simpa using hc
  | cons d ds => rwa [List.getLast?_cons_cons]

theorem trim_eq_self (h : IsTrimmed cs) : trim cs = cs := by
  have h' : trim ([] ++ cs ++ []) = cs := trim_append h (by simp) (by simp)
  rwa [List.nil_append, List.append_nil] at h'

/-! ## Trimming at one end -/

theorem trimRight_append_blanks (h : ∀ c ∈ after, isBlank c = true) :
    trimRight (cs ++ after) = trimRight cs := by
  have hreverse : ∀ c ∈ after.reverse, isBlank c = true := fun c hc =>
    h c (List.mem_reverse.1 hc)
  rw [trimRight, trimRightWhile, List.reverse_append, List.dropWhile_append_of_pos hreverse]
  rfl

theorem trimRight_eq_self (h : ∀ c ∈ cs.getLast?, isBlank c = false) : trimRight cs = cs := by
  have hreverse : cs.reverse.dropWhile isBlank = cs.reverse :=
    dropWhile_eq_self_of_head? fun c hc => h c (by rwa [List.head?_reverse] at hc)
  rw [trimRight, trimRightWhile, hreverse, List.reverse_reverse]

/-- What stands before a text that does not end with a blank is not trimmed. -/
theorem trimRight_append {c : Char} (h : cs.getLast? = some c) (hc : isBlank c = false)
    (ds : List Char) : trimRight (cs ++ ds) = cs ++ trimRight ds := by
  obtain ⟨es, after, rfl, hlast, hafter⟩ := exists_append_blanks ds
  rw [← List.append_assoc, trimRight_append_blanks hafter, trimRight_append_blanks hafter,
    trimRight_eq_self hlast, trimRight_eq_self]
  intro x hx
  rw [List.getLast?_append, h] at hx
  cases hes : es.getLast? with
  | none =>
    rw [hes] at hx
    obtain rfl := Option.some.inj hx
    exact hc
  | some y =>
    rw [hes] at hx
    exact hlast x (hes.trans hx)

/-- Trimming begins at either end. -/
theorem trim_trimRight (cs : List Char) : trim (trimRight cs) = trim cs := by
  obtain ⟨ds, after, rfl, hlast, hafter⟩ := exists_append_blanks cs
  rw [trimRight_append_blanks hafter, trimRight_eq_self hlast]
  show trimRight (ds.dropWhile isBlank) = trimRight ((ds ++ after).dropWhile isBlank)
  rw [List.dropWhile_append]
  split
  · rename_i hnil
    have hnone : (after ++ []).dropWhile isBlank = [] := List.dropWhile_append_of_pos hafter
    rw [List.append_nil] at hnone
    rw [List.isEmpty_iff.1 hnil, hnone]
  · exact (trimRight_append_blanks hafter).symm

/-- Blanks before a text are trimmed away. -/
theorem trim_blanks_append (h : ∀ c ∈ before, isBlank c = true) (cs : List Char) :
    trim (before ++ cs) = trim cs := by
  rw [trim, trimWhile, trimLeftWhile, List.dropWhile_append_of_pos h]
  rfl

/-- And so are blanks after it. -/
theorem trim_append_blanks (h : ∀ c ∈ after, isBlank c = true) : trim (cs ++ after) = trim cs := by
  rw [← trim_trimRight, trimRight_append_blanks h, trim_trimRight]

/-! ## Trimming any characters -/

section

variable {p : Char → Bool}

theorem trimWhile_eq_self (hhead : ∀ c ∈ cs.head?, p c = false)
    (hlast : ∀ c ∈ cs.getLast?, p c = false) : trimWhile p cs = cs := by
  have hright : cs.reverse.dropWhile p = cs.reverse :=
    dropWhile_eq_self_of_head? fun c hc => hlast c (by rwa [List.head?_reverse] at hc)
  rw [trimWhile, trimLeftWhile, dropWhile_eq_self_of_head? hhead, trimRightWhile, hright,
    List.reverse_reverse]

/-- Characters that are trimmed away may as well not stand at the ends. -/
theorem trimWhile_cons_append {c : Char} (hc : p c = true) (cs : List Char) :
    trimWhile p (c :: (cs ++ [c])) = trimWhile p cs := by
  rw [trimWhile, trimWhile, trimLeftWhile, trimLeftWhile, List.dropWhile_cons_of_pos hc,
    List.dropWhile_append]
  split
  · rename_i hnil
    rw [List.isEmpty_iff.1 hnil, List.dropWhile_cons_of_pos hc]
    rfl
  · rw [trimRightWhile, List.reverse_append, List.reverse_singleton, List.singleton_append,
      List.dropWhile_cons_of_pos hc]
    rfl

/-- No character that is trimmed away stands at the end of what is left. -/
theorem of_mem_getLast?_trimWhile {c : Char} (h : c ∈ (trimWhile p cs).getLast?) : p c = false := by
  rw [trimWhile, trimRightWhile, List.getLast?_reverse] at h
  have hstop := List.head?_dropWhile_not p (trimLeftWhile p cs).reverse
  rw [Option.mem_def.1 h] at hstop
  exact hstop

/-- What is trimmed away at the end stands there. -/
theorem dropWhile_eq_trimWhile_append (p : Char → Bool) (cs : List Char) :
    cs.dropWhile p = trimWhile p cs ++ ((cs.dropWhile p).reverse.takeWhile p).reverse := by
  rw [trimWhile, trimRightWhile, trimLeftWhile, ← List.reverse_append,
    List.takeWhile_append_dropWhile, List.reverse_reverse]

/-- And none at its start. -/
theorem of_mem_head?_trimWhile {c : Char} (h : c ∈ (trimWhile p cs).head?) : p c = false := by
  have hstop := List.head?_dropWhile_not p cs
  rw [dropWhile_eq_trimWhile_append, List.head?_append, Option.mem_def.1 h] at hstop
  exact hstop

/-- What is trimmed away stands before and after what is left. -/
theorem exists_trimWhile_append (p : Char → Bool) (cs : List Char) :
    ∃ before after, cs = before ++ trimWhile p cs ++ after ∧ (∀ c ∈ before, p c = true) ∧
      ∀ c ∈ after, p c = true := by
  have hall : ∀ l : List Char, ∀ c ∈ l.takeWhile p, p c = true := fun l =>
    List.all_eq_true.1 List.all_takeWhile
  refine ⟨cs.takeWhile p, ((cs.dropWhile p).reverse.takeWhile p).reverse, ?_, hall cs,
    fun c hc => hall _ c (List.mem_reverse.1 hc)⟩
  rw [List.append_assoc, ← dropWhile_eq_trimWhile_append, List.takeWhile_append_dropWhile]

theorem mem_of_mem_trimWhile {c : Char} (h : c ∈ trimWhile p cs) : c ∈ cs := by
  obtain ⟨before, after, heq, -⟩ := exists_trimWhile_append p cs
  rw [heq]
  exact List.mem_append_left _ (List.mem_append_right _ h)

theorem mem_of_mem_trimRight {c : Char} (h : c ∈ trimRight cs) : c ∈ cs :=
  List.mem_reverse.1 ((List.dropWhile_sublist _).subset (List.mem_reverse.1 h))

/-- A last character that is not trimmed away stays the last one. -/
theorem getLast?_trimWhile {c : Char} (h : cs.getLast? = some c) (hc : p c = false) :
    (trimWhile p cs).getLast? = some c := by
  obtain ⟨before, after, heq, hbefore, hafter⟩ := exists_trimWhile_append p cs
  have hnot : ∀ l : List Char, (∀ x ∈ l, p x = true) → l.getLast? ≠ some c := by
    intro l hl hlast
    rw [hl c (List.mem_of_getLast? hlast)] at hc
    cases hc
  have hcases := h
  rw [heq, List.getLast?_append, List.getLast?_append, Option.or_eq_some_iff,
    Option.or_eq_some_iff] at hcases
  rcases hcases with hlast | ⟨-, hlast | ⟨-, hlast⟩⟩
  · exact absurd hlast (hnot after hafter)
  · exact hlast
  · exact absurd hlast (hnot before hbefore)

/-- A character that is not trimmed away is left. -/
theorem trimWhile_ne_nil {c : Char} (h : c ∈ cs) (hc : p c = false) : trimWhile p cs ≠ [] := by
  intro hnil
  obtain ⟨before, after, heq, hbefore, hafter⟩ := exists_trimWhile_append p cs
  rw [heq, hnil, List.append_nil, List.mem_append] at h
  rw [h.elim (hbefore c) (hafter c)] at hc
  cases hc

/-- So a trimmed text has no blanks at its ends. -/
theorem isTrimmed_trim (cs : List Char) : IsTrimmed (trim cs) :=
  ⟨fun _ => of_mem_head?_trimWhile, fun _ => of_mem_getLast?_trimWhile⟩

end

/-! ## Cutting and joining -/

/-- A text without cuts is one part. -/
theorem cutAt_of_forall {p : Char → Bool} (h : ∀ c ∈ cs, p c = false) : cutAt p cs = [cs] := by
  induction cs with
  | nil => rfl
  | cons c cs ih =>
    rw [cutAt, h c List.mem_cons_self, if_neg Bool.false_ne_true,
      ih fun x hx => h x (List.mem_cons_of_mem _ hx)]

/-- The first part ends at the first cut. -/
theorem cutAt_append {p : Char → Bool} (h : ∀ c ∈ cs, p c = false) {s : Char} (hs : p s = true)
    (rest : List Char) : cutAt p (cs ++ s :: rest) = cs :: cutAt p rest := by
  induction cs with
  | nil => rw [List.nil_append, cutAt, if_pos hs]
  | cons c cs ih =>
    rw [List.cons_append, cutAt, h c List.mem_cons_self, if_neg Bool.false_ne_true,
      ih fun x hx => h x (List.mem_cons_of_mem _ hx)]

/-- There is one part more than there are cuts. -/
theorem length_cutAt (p : Char → Bool) (cs : List Char) :
    (cutAt p cs).length = cs.countP p + 1 := by
  induction cs with
  | nil => rfl
  | cons c cs ih =>
    rw [cutAt, List.countP_cons]
    cases p c with
    | true => simpa using ih
    | false =>
      cases hcut : cutAt p cs with
      | nil => rw [hcut] at ih; cases ih
      | cons part parts => rw [hcut] at ih; simpa using ih

theorem cutAt_ne_nil (p : Char → Bool) (cs : List Char) : cutAt p cs ≠ [] := by
  rw [ne_eq, ← List.length_eq_zero_iff, length_cutAt]
  omega

/-- The parts have characters of the text, and none at which it is cut. -/
theorem of_mem_cutAt {p : Char → Bool} {part : List Char} (h : part ∈ cutAt p cs) :
    ∀ c ∈ part, c ∈ cs ∧ p c = false := by
  induction cs generalizing part with
  | nil =>
    obtain rfl := List.mem_singleton.1 h
    simp
  | cons d cs ih =>
    rw [cutAt] at h
    obtain ⟨first, rest, hcut⟩ := List.exists_cons_of_ne_nil (cutAt_ne_nil p cs)
    have hlater {x : List Char} (hx : x ∈ cutAt p cs) : ∀ c ∈ x, c ∈ d :: cs ∧ p c = false :=
      fun c hc => (ih hx c hc).imp_left (List.mem_cons_of_mem d)
    split at h
    · rcases List.mem_cons.1 h with rfl | h
      · simp
      · exact hlater h
    · rename_i hd
      rw [hcut] at h hlater
      rcases List.mem_cons.1 h with rfl | h
      · intro c hc
        rcases List.mem_cons.1 hc with rfl | hc
        · exact ⟨List.mem_cons_self, by simpa using hd⟩
        · exact hlater List.mem_cons_self c hc
      · exact hlater (List.mem_cons_of_mem _ h)

theorem newline_not_mem_of_mem_cutLines {line : List Char} (h : line ∈ cutLines cs) :
    '\n' ∉ line :=
  fun hmem => absurd (of_mem_cutAt h _ hmem).2 (by decide)

theorem of_mem_words {w : List Char} (h : w ∈ words cs) : ∀ c ∈ w, c ∈ cs ∧ isBlank c = false :=
  of_mem_cutAt (List.mem_filter.1 h).1

/-- A cut within a text leaves the cuts before it and those after it. -/
theorem cutAt_append_cons {p : Char → Bool} {s : Char} (hs : p s = true) (cs ds : List Char) :
    cutAt p (cs ++ s :: ds) = cutAt p cs ++ cutAt p ds := by
  induction cs with
  | nil =>
    show cutAt p (s :: ds) = [] :: cutAt p ds
    rw [cutAt, if_pos hs]
  | cons c cs ih =>
    rw [List.cons_append, cutAt, cutAt, ih]
    split
    · rfl
    · obtain ⟨part, parts, hcut⟩ := List.exists_cons_of_ne_nil (cutAt_ne_nil p cs)
      rw [hcut]
      rfl

/-- The first word of a text that starts with one. -/
theorem words_append (hcs : cs ≠ []) (h : ∀ c ∈ cs, isBlank c = false) (rest : List Char) :
    words (cs ++ ' ' :: rest) = cs :: words rest := by
  have hfull : (!cs.isEmpty) = true := by simp [hcs]
  rw [words, cutAt_append (s := ' ') h (by decide), List.filter_cons, if_pos hfull]
  rfl

theorem cutLines_of_not_mem (h : '\n' ∉ cs) : cutLines cs = [cs] := by
  refine cutAt_of_forall fun c hc => ?_
  rw [beq_eq_false_iff_ne]
  rintro rfl
  exact h hc

/-- Lines that are joined are cut apart again. -/
theorem cutLines_joinWith {lines : List (List Char)} (hne : lines ≠ [])
    (h : ∀ line ∈ lines, '\n' ∉ line) : cutLines (joinWith ['\n'] lines) = lines := by
  induction lines with
  | nil => exact absurd rfl hne
  | cons line lines ih =>
    have hline := h line List.mem_cons_self
    cases lines with
    | nil => exact cutLines_of_not_mem hline
    | cons next lines =>
      have hrest := ih (List.cons_ne_nil _ _) fun x hx => h x (List.mem_cons_of_mem _ hx)
      have hnone : ∀ c ∈ line, (c == '\n') = false := by
        intro c hc
        rw [beq_eq_false_iff_ne]
        rintro rfl
        exact hline hc
      rw [joinWith, List.append_assoc, cutLines, List.singleton_append,
        cutAt_append hnone (by simp)]
      · exact congrArg (line :: ·) hrest
      · simp

/-- There is a separator before each part but the first. -/
theorem joinWith_cons (sep part : List Char) (parts : List (List Char)) :
    joinWith sep (part :: parts) = part ++ parts.flatMap (sep ++ ·) := by
  induction parts generalizing part with
  | nil => exact (List.append_nil part).symm
  | cons next parts ih => simp only [joinWith, ih, List.flatMap_cons, List.append_assoc]

theorem joinWith_append (sep : List Char) {xs ys : List (List Char)} (hxs : xs ≠ [])
    (hys : ys ≠ []) :
    joinWith sep (xs ++ ys) = joinWith sep xs ++ (sep ++ joinWith sep ys) := by
  obtain ⟨x, xs, rfl⟩ := List.exists_cons_of_ne_nil hxs
  obtain ⟨y, ys, rfl⟩ := List.exists_cons_of_ne_nil hys
  rw [List.cons_append, joinWith_cons, joinWith_cons, joinWith_cons, List.flatMap_append,
    List.flatMap_cons]
  simp only [List.append_assoc]

theorem mem_joinWith {sep : List Char} {parts : List (List Char)} {c : Char}
    (h : c ∈ joinWith sep parts) : c ∈ sep ∨ ∃ part ∈ parts, c ∈ part := by
  induction parts with
  | nil => cases h
  | cons part parts ih =>
    cases parts with
    | nil => exact .inr ⟨part, List.mem_cons_self, h⟩
    | cons next parts =>
      rw [joinWith, List.mem_append, List.mem_append] at h
      · rcases h with (h | h) | h
        · exact .inr ⟨part, List.mem_cons_self, h⟩
        · exact .inl h
        · obtain hsep | ⟨t, ht, hc⟩ := ih h
          · exact .inl hsep
          · exact .inr ⟨t, List.mem_cons_of_mem _ ht, hc⟩
      · simp

end Codebook.Text
