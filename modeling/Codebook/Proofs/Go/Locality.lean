import Codebook.Proofs.Go.Scanning

/-!
# What a token depends on

A matcher for words, numbers and symbols does not look beyond the end of a line.  A string, a rune
or a block comment may go on there; but it depends on nothing behind its end.  So a token that has
been read before the end of a line is read there whatever stands behind that, with one exception:
whether a block comment is closed at all may be decided anywhere.

What is here: `WithinLine` and `IsClosed`, the two sorts of matchers; `PassedOn`, a property that
matchers pass on to those that are made of them; and `matchToken_append`, that a token stays if what
stands behind the line is changed.
-/

set_option autoImplicit false

namespace Codebook.Go

open Codebook.Text Matcher

/-! ## Matchers that stay on a line -/

/-- A matcher does not look beyond the end of a line. -/
def WithinLine (m : Matcher) : Prop :=
  ∀ cs, ∃ o : Option (List Char), ∀ rest, m (cs ++ '\n' :: rest) = o.map (· ++ '\n' :: rest)

section

variable {a b m : Matcher} {p : Char → Bool}

theorem WithinLine.andThen (ha : WithinLine a) (hb : WithinLine b) :
    WithinLine (a.andThen b) := by
  intro cs
  obtain ⟨o, ho⟩ := ha cs
  cases o with
  | none => exact ⟨none, fun rest => by rw [Matcher.andThen, ho]; rfl⟩
  | some left =>
    obtain ⟨o', ho'⟩ := hb left
    exact ⟨o', fun rest => by rw [Matcher.andThen, ho]; exact ho' rest⟩

theorem WithinLine.orNothing (ha : WithinLine a) : WithinLine (Matcher.orNothing a) := by
  intro cs
  obtain ⟨o, ho⟩ := ha cs
  refine ⟨some (o.getD cs), fun rest => ?_⟩
  rw [Matcher.orNothing, ho]
  cases o <;> rfl

theorem withinLine_one (hp : p '\n' = false) : WithinLine (one p) := by
  intro cs
  cases cs with
  | nil => exact ⟨none, fun rest => by rw [List.nil_append, one, hp]; rfl⟩
  | cons c cs =>
    refine ⟨if p c then some cs else none, fun rest => ?_⟩
    rw [List.cons_append, one]
    cases p c <;> rfl

theorem exists_skipDigits_append (hp : p '\n' = false) (cs : List Char) :
    ∃ left, ∀ rest, skipDigits p (cs ++ '\n' :: rest) = left ++ '\n' :: rest := by
  have hend (rest : List Char) : skipDigits p ('\n' :: rest) = '\n' :: rest := by
    rw [skipDigits, if_neg (by simp [hp])]
    simp
  -- what is left behind one character that is no underscore before another
  have hone {c : Char} {cs : List Char} (hnot : ∀ x xs, c = '_' → cs = x :: xs → False) :
      (c = '_' ∧ cs = []) ∨ ∀ rest, skipDigits p (c :: (cs ++ '\n' :: rest)) =
        if p c then skipDigits p (cs ++ '\n' :: rest) else c :: (cs ++ '\n' :: rest) := by
    by_cases hc : c = '_'
    · cases cs with
      | nil => exact .inl ⟨hc, rfl⟩
      | cons x xs => exact (hnot x xs hc rfl).elim
    · exact .inr fun rest => by rw [skipDigits]; exact fun x xs hx => absurd hx hc
  have hunderscore : ∃ left, ∀ rest, skipDigits p ('_' :: '\n' :: rest) = left ++ '\n' :: rest :=
    ⟨['_'], fun rest => by rw [skipDigits, if_neg (by simp [hp])]; rfl⟩
  fun_induction skipDigits p cs with
  | case1 => exact ⟨[], hend⟩
  | case2 c cs hc ih =>
    obtain ⟨left, hleft⟩ := ih
    refine ⟨left, fun rest => ?_⟩
    rw [List.cons_append, List.cons_append, skipDigits, if_pos hc, hleft]
  | case3 c cs hc =>
    refine ⟨'_' :: c :: cs, fun rest => ?_⟩
    rw [List.cons_append, List.cons_append, skipDigits, if_neg hc]
  | case4 c cs hnot hc ih =>
    rcases hone hnot with ⟨rfl, rfl⟩ | hstep
    · exact hunderscore
    · obtain ⟨left, hleft⟩ := ih
      exact ⟨left, fun rest => by rw [List.cons_append, hstep, if_pos hc, hleft]⟩
  | case5 c cs hnot hc =>
    rcases hone hnot with ⟨rfl, rfl⟩ | hstep
    · exact hunderscore
    · exact ⟨c :: cs, fun rest => by rw [List.cons_append, hstep, if_neg hc]⟩

theorem withinLine_digits (hp : p '\n' = false) : WithinLine (digits p) := by
  intro cs
  obtain ⟨o, ho⟩ := withinLine_one hp cs
  cases o with
  | none => exact ⟨none, fun rest => by rw [digits, ho]; rfl⟩
  | some left =>
    obtain ⟨left', hleft'⟩ := exists_skipDigits_append hp left
    exact ⟨some left', fun rest => by rw [digits, ho]; exact congrArg some (hleft' rest)⟩

theorem longer_map_append (o o' : Option (List Char)) (rest : List Char) :
    longer (o.map (· ++ rest)) (o'.map (· ++ rest)) = (longer o o').map (· ++ rest) := by
  cases o with
  | none => rfl
  | some x =>
    cases o' with
    | none => rfl
    | some y =>
      simp only [Option.map_some, longer, List.length_append, Nat.add_lt_add_iff_right]
      split <;> rfl

theorem withinLine_longest {ms : List Matcher} (h : ∀ m ∈ ms, WithinLine m) :
    WithinLine (longest ms) := by
  intro cs
  have hfold (best : Option (List Char)) : ∃ o : Option (List Char), ∀ rest,
      ms.foldl (fun best m => longer best (m (cs ++ '\n' :: rest)))
        (best.map (· ++ '\n' :: rest)) = o.map (· ++ '\n' :: rest) := by
    induction ms generalizing best with
    | nil => exact ⟨best, fun rest => rfl⟩
    | cons m ms ih =>
      obtain ⟨o, ho⟩ := h m List.mem_cons_self cs
      obtain ⟨o', ho'⟩ := ih (fun x hx => h x (List.mem_cons_of_mem m hx)) (longer best o)
      refine ⟨o', fun rest => ?_⟩
      rw [List.foldl_cons, ho, longer_map_append]
      exact ho' rest
  exact hfold none

end

/-! ## Numbers and symbols -/

/-- A property that matchers of a line pass on to those that are put together from them. -/
structure PassedOn (P : Matcher → Prop) : Prop where
  /-- A character that is no line end has it. -/
  one : ∀ {p : Char → Bool}, p '\n' = false ∧ p '\r' = false → P (one p)
  /-- And so have digits. -/
  digits : ∀ {p : Char → Bool}, p '\n' = false ∧ p '\r' = false → P (digits p)
  /-- Two matchers pass it on to one after the other. -/
  andThen : ∀ {a b : Matcher}, P a → P b → P (a.andThen b)
  /-- And one to itself or nothing. -/
  orNothing : ∀ {a : Matcher}, P a → P (orNothing a)

namespace PassedOn

variable {P : Matcher → Prop} (hP : PassedOn P)

include hP

theorem spacedDigits {p : Char → Bool} (hp : p '\n' = false ∧ p '\r' = false) :
    P (spacedDigits p) :=
  hP.andThen (hP.orNothing (hP.one (by decide))) (hP.digits hp)

theorem integers : ∀ m ∈ integers, P m := by
  have hzero : P (char '0') := hP.one (by decide)
  have hb : P (letter 'b' 'B') := hP.one (by decide)
  have ho : P (letter 'o' 'O') := hP.one (by decide)
  have hx : P (letter 'x' 'X') := hP.one (by decide)
  simp only [Go.integers, List.forall_mem_cons, List.not_mem_nil, false_implies, implies_true,
    and_true]
  exact ⟨hzero, hP.andThen (hP.one (by decide)) (hP.orNothing (hP.spacedDigits (by decide))),
    hP.andThen hzero (hP.andThen hb (hP.spacedDigits (by decide))),
    hP.andThen hzero (hP.andThen (hP.orNothing ho) (hP.spacedDigits (by decide))),
    hP.andThen hzero (hP.andThen hx (hP.spacedDigits (by decide)))⟩

theorem exponent {small capital : Char} (hletter : P (letter small capital)) :
    P (exponent small capital) :=
  hP.andThen hletter (hP.andThen (hP.orNothing (hP.one (by decide))) (hP.digits (by decide)))

theorem decimals : ∀ m ∈ decimals, P m := by
  have hexponent : P (Go.exponent 'e' 'E') := hP.exponent (hP.one (by decide))
  have hdigits : P (Go.digits Char.isDigit) := hP.digits (by decide)
  have hpoint : P (char '.') := hP.one (by decide)
  simp only [Go.decimals, List.forall_mem_cons, List.not_mem_nil, false_implies, implies_true,
    and_true]
  exact ⟨hP.andThen hdigits (hP.andThen hpoint
      (hP.andThen (hP.orNothing hdigits) (hP.orNothing hexponent))),
    hP.andThen hdigits hexponent,
    hP.andThen hpoint (hP.andThen hdigits (hP.orNothing hexponent))⟩

theorem hexFractions : ∀ m ∈ hexFractions, P m := by
  have hdigits : P (Go.digits isHexDigit) := hP.digits (by decide)
  have hspaced : P (Go.spacedDigits isHexDigit) := hP.spacedDigits (by decide)
  have hpoint : P (char '.') := hP.one (by decide)
  have hexponent : P (Go.exponent 'p' 'P') := hP.exponent (hP.one (by decide))
  have hzero : P (char '0') := hP.one (by decide)
  have hx : P (letter 'x' 'X') := hP.one (by decide)
  simp only [Go.hexFractions, List.map_cons, List.map_nil, List.forall_mem_cons, List.not_mem_nil,
    false_implies, implies_true, and_true]
  exact ⟨hP.andThen hzero (hP.andThen hx
      (hP.andThen (hP.andThen hspaced (hP.andThen hpoint (hP.orNothing hdigits))) hexponent)),
    hP.andThen hzero (hP.andThen hx (hP.andThen hspaced hexponent)),
    hP.andThen hzero (hP.andThen hx (hP.andThen (hP.andThen hpoint hdigits) hexponent))⟩

/-- **What is passed on gets to numbers**, if the longest match has it, too. -/
theorem number (hlongest : ∀ {ms : List Matcher}, (∀ m ∈ ms, P m) → P (longest ms)) :
    P number := by
  have hreal : ∀ m ∈ Go.integers ++ Go.decimals ++ Go.hexFractions, P m :=
    List.forall_mem_append.2 ⟨List.forall_mem_append.2 ⟨hP.integers, hP.decimals⟩,
      hP.hexFractions⟩
  refine hlongest (List.forall_mem_append.2 ⟨hreal, ?_⟩)
  rw [List.forall_mem_map]
  refine List.forall_mem_cons.2 ⟨?_, fun m hm => ?_⟩
  · exact hP.andThen (hP.digits (by decide)) (hP.one (by decide))
  · exact hP.andThen (hreal m hm) (hP.one (by decide))

end PassedOn

theorem passedOn_withinLine : PassedOn WithinLine where
  one hp := withinLine_one hp.1
  digits hp := withinLine_digits hp.1
  andThen := WithinLine.andThen
  orNothing := WithinLine.orNothing

theorem withinLine_number : WithinLine number := passedOn_withinLine.number withinLine_longest

theorem afterPrefix?_append {s : List Char} (hs : '\n' ∉ s) (cs rest : List Char) :
    afterPrefix? s (cs ++ '\n' :: rest) = (afterPrefix? s cs).map (· ++ '\n' :: rest) := by
  induction s generalizing cs with
  | nil => rfl
  | cons x s ih =>
    rw [List.mem_cons, not_or] at hs
    cases cs with
    | nil =>
      simp only [List.nil_append, afterPrefix?, if_neg hs.1, Option.map_none]
    | cons c cs =>
      rw [List.cons_append, afterPrefix?, afterPrefix?, ih hs.2]
      split <;> rfl

theorem findSome?_afterPrefix?_append {symbols : List String}
    (h : ∀ s ∈ symbols, '\n' ∉ s.toList) (cs rest : List Char) :
    symbols.findSome? (fun s => afterPrefix? s.toList (cs ++ '\n' :: rest)) =
      (symbols.findSome? fun s => afterPrefix? s.toList cs).map (· ++ '\n' :: rest) := by
  induction symbols with
  | nil => rfl
  | cons s symbols ih =>
    rw [List.forall_mem_cons] at h
    rw [List.findSome?_cons, List.findSome?_cons, afterPrefix?_append h.1, ih h.2]
    cases afterPrefix? s.toList cs <;> rfl

theorem withinLine_symbol : WithinLine Go.symbol := by
  intro cs
  obtain ⟨o, ho⟩ := withinLine_one (p := fun c => shortSymbols.contains c) (by decide) cs
  refine ⟨(longSymbols.findSome? fun s => afterPrefix? s.toList cs).or o, fun rest => ?_⟩
  rw [Go.symbol, findSome?_afterPrefix?_append (by decide), ho]
  cases longSymbols.findSome? fun s => afterPrefix? s.toList cs <;> rfl

theorem dropWhile_append_newline {p : Char → Bool} (hp : p '\n' = false) (cs rest : List Char) :
    (cs ++ '\n' :: rest).dropWhile p = cs.dropWhile p ++ '\n' :: rest := by
  induction cs with
  | nil => rw [List.nil_append, List.dropWhile_cons_of_neg (by simp [hp])]; rfl
  | cons c cs ih =>
    rw [List.cons_append, List.dropWhile_cons, List.dropWhile_cons, ih]
    split <;> rfl

theorem skipLineComment_append_newline (cs rest : List Char) :
    skipLineComment (cs ++ '\n' :: rest) = skipLineComment cs ++ '\n' :: rest := by
  induction cs with
  | nil => rfl
  | cons c cs ih =>
    simp only [List.cons_append, skipLineComment, ih]
    split <;> rfl

/-! ## Matchers that are closed -/

/-- A matcher depends on nothing behind what it takes. -/
def IsClosed (m : Matcher) : Prop :=
  ∀ cs rest, m cs = some rest →
    ∃ taken, cs = taken ++ rest ∧ ∀ rest', m (taken ++ rest') = some rest'

section

variable {a b : Matcher}

theorem IsClosed.andThen (ha : IsClosed a) (hb : IsClosed b) : IsClosed (a.andThen b) := by
  intro cs rest h
  obtain ⟨left, hleft, hrest⟩ := Option.bind_eq_some_iff.1 h
  obtain ⟨taken, rfl, htaken⟩ := ha cs left hleft
  obtain ⟨more, rfl, hmore⟩ := hb left rest hrest
  refine ⟨taken ++ more, (List.append_assoc ..).symm, fun rest' => ?_⟩
  rw [List.append_assoc, Matcher.andThen, htaken]
  exact hmore rest'

theorem isClosed_one (p : Char → Bool) : IsClosed (one p) := by
  intro cs rest h
  cases cs with
  | nil => cases h
  | cons c cs =>
    rw [one] at h
    split at h
    · rename_i hc
      obtain rfl := Option.some.inj h
      exact ⟨[c], rfl, fun rest' => if_pos hc⟩
    · cases h

theorem isClosed_exactly (p : Char → Bool) (n : Nat) : IsClosed (exactly p n) := by
  induction n with
  | zero =>
    intro cs rest h
    obtain rfl := Option.some.inj h
    exact ⟨[], rfl, fun rest' => rfl⟩
  | succ n ih => exact (isClosed_one p).andThen ih

/-- A string behind its opening quote: it is read with as much fuel as it is long. -/
def IsString (taken : List Char) : Prop :=
  ∀ n, taken.length ≤ n → ∀ rest, skipString n (taken ++ rest) = some rest

/-- What is read in one step before a string belongs to it. -/
theorem IsString.append {taken : List Char} (h : IsString taken) (front : List Char)
    (hfront : front ≠ [])
    (hstep : ∀ n rest, skipString (n + 1) (front ++ (taken ++ rest)) =
      skipString n (taken ++ rest)) : IsString (front ++ taken) := by
  intro n hn rest
  have hpos := List.length_pos_iff.2 hfront
  rw [List.length_append] at hn
  cases n with
  | zero => omega
  | succ n => rw [List.append_assoc, hstep, h n (by omega)]

/-- A character that is written by its number. -/
theorem IsString.append_digits {c : Char} {k : Nat} {digits taken : List Char} (h : IsString taken)
    (hstep : ∀ n cs, skipString (n + 1) ('\\' :: c :: cs) =
      (exactly isHexDigit k cs).bind (skipString n))
    (hdigits : ∀ rest, exactly isHexDigit k (digits ++ rest) = some rest) :
    IsString ('\\' :: c :: (digits ++ taken)) := by
  refine h.append ('\\' :: c :: digits) (List.cons_ne_nil _ _) fun n rest => ?_
  rw [List.cons_append, List.cons_append, hstep, hdigits]
  rfl

/-- A string is closed. -/
theorem exists_taken_of_skipString {fuel : Nat} {cs rest : List Char}
    (h : skipString fuel cs = some rest) : ∃ taken, cs = taken ++ rest ∧ IsString taken := by
  induction fuel generalizing cs with
  | zero => cases h
  | succ fuel ih =>
    have hdigits {c : Char} {k : Nat} {cs : List Char}
        (hstep : ∀ n cs, skipString (n + 1) ('\\' :: c :: cs) =
          (exactly isHexDigit k cs).bind (skipString n))
        (h : (exactly isHexDigit k cs).bind (skipString fuel) = some rest) :
        ∃ taken, '\\' :: c :: cs = taken ++ rest ∧ IsString taken := by
      obtain ⟨left, hleft, hrest⟩ := Option.bind_eq_some_iff.1 h
      obtain ⟨digits, rfl, hdigits⟩ := isClosed_exactly _ _ _ _ hleft
      obtain ⟨taken, rfl, htaken⟩ := ih hrest
      exact ⟨_, by simp, htaken.append_digits hstep hdigits⟩
    cases cs with
    | nil => cases h
    | cons c cs =>
      unfold skipString at h
      split at h
      · rename_i hquote
        subst hquote
        obtain rfl := Option.some.inj h
        refine ⟨['"'], rfl, fun n hn rest' => ?_⟩
        cases n with
        | zero => cases hn
        | succ n => rfl
      · rename_i hquote
        split at h
        · cases h
        · rename_i hend
          split at h
          · rename_i hescape
            subst hescape
            split at h
            · exact hdigits (fun _ _ => rfl) h
            · exact hdigits (fun _ _ => rfl) h
            · exact hdigits (fun _ _ => rfl) h
            · cases h
            · rename_i x more hx hu hU hnull
              obtain ⟨taken, rfl, htaken⟩ := ih h
              refine ⟨_, rfl, htaken.append ['\\', x] (by simp) fun n rest' => ?_⟩
              simp [skipString]
            · cases h
          · rename_i hescape
            obtain ⟨taken, rfl, htaken⟩ := ih h
            refine ⟨_, rfl, htaken.append [c] (by simp) fun n rest' => ?_⟩
            simp only [List.singleton_append, skipString, if_neg hquote, if_neg hend,
              if_neg hescape]

theorem isClosed_skipRawString : IsClosed skipRawString := by
  intro cs rest h
  fun_induction skipRawString cs with
  | case1 => cases h
  | case2 cs =>
    obtain rfl := Option.some.inj h
    exact ⟨['\x60'], rfl, fun rest' => rfl⟩
  | case3 => cases h
  | case4 c cs hquote hnull ih =>
    obtain ⟨taken, rfl, htaken⟩ := ih h
    refine ⟨c :: taken, rfl, fun rest' => ?_⟩
    rw [List.cons_append, skipRawString, if_neg hquote, if_neg hnull, htaken]

theorem isClosed_runeEscape : IsClosed runeEscape := by
  intro cs rest h
  have hexact {c : Char} {n : Nat} {p : Char → Bool} {cs : List Char}
      (h : exactly p n cs = some rest)
      (hstep : ∀ cs left, exactly p n cs = some left → runeEscape (c :: cs) = some left) :
      ∃ taken, c :: cs = taken ++ rest ∧ ∀ rest', runeEscape (taken ++ rest') = some rest' := by
    obtain ⟨taken, rfl, htaken⟩ := isClosed_exactly _ _ _ _ h
    exact ⟨c :: taken, rfl, fun rest' => hstep _ _ (htaken rest')⟩
  unfold runeEscape at h
  split at h
  · exact hexact h fun _ _ h => h
  · exact hexact h fun _ _ h => h
  · exact hexact h fun _ _ h => h
  · rename_i c cs hx hu hU
    split at h
    · rename_i hoctal
      refine hexact h fun cs left h => ?_
      simp [runeEscape, hoctal, h]
    · rename_i hoctal
      split at h
      · rename_i hescape
        obtain rfl := Option.some.inj h
        refine ⟨[c], rfl, fun rest' => ?_⟩
        simp only [List.singleton_append, runeEscape, if_neg hoctal, if_pos hescape]
      · cases h
  · cases h

theorem isClosed_skipRune : IsClosed skipRune := by
  intro cs rest h
  unfold skipRune at h
  split at h
  · rename_i cs
    obtain ⟨taken, htaken, hrest⟩ :=
      isClosed_runeEscape.andThen (isClosed_one (· == '\'')) cs rest h
    exact ⟨'\\' :: taken, congrArg ('\\' :: ·) htaken, hrest⟩
  · rename_i c cs hescape
    split at h
    · cases h
    · rename_i hc
      obtain ⟨taken, rfl, htaken⟩ := isClosed_one _ _ _ h
      refine ⟨c :: taken, rfl, fun rest' => ?_⟩
      rw [List.cons_append, skipRune, if_neg hc]
      · exact htaken rest'
      · exact hescape
  · cases h

theorem isClosed_skipBlockComment : IsClosed skipBlockComment := by
  intro cs rest h
  fun_induction skipBlockComment cs with
  | case1 => cases h
  | case2 cs =>
    obtain rfl := Option.some.inj h
    exact ⟨['*', '/'], rfl, fun rest' => rfl⟩
  | case3 => cases h
  | case4 c cs hnot hnull ih =>
    obtain ⟨taken, rfl, htaken⟩ := ih h
    refine ⟨c :: taken, rfl, fun rest' => ?_⟩
    cases taken with
    | nil => cases htaken []
    | cons x taken =>
      rw [List.cons_append, skipBlockComment, if_neg hnull, htaken]
      rintro cs rfl heq
      obtain ⟨rfl, -⟩ := List.cons.inj heq
      exact hnot _ rfl rfl

end

/-! ## Tokens -/

/-- A text up to the end of a line. -/
def EndsInNewline (cs : List Char) : Prop := ∃ line, cs = line ++ ['\n']

theorem EndsInNewline.cons {cs : List Char} (h : EndsInNewline cs) (c : Char) :
    EndsInNewline (c :: cs) := by
  obtain ⟨line, rfl⟩ := h
  exact ⟨c :: line, rfl⟩

theorem EndsInNewline.tail {c : Char} {cs : List Char} (h : EndsInNewline (c :: cs)) :
    cs = [] ∧ c = '\n' ∨ EndsInNewline cs := by
  obtain ⟨line, hline⟩ := h
  cases line with
  | nil => exact .inl ⟨(List.cons.inj hline).2, (List.cons.inj hline).1⟩
  | cons x line => exact .inr ⟨line, (List.cons.inj hline).2⟩

/-- Behind its line, what stays on a line only passes on what follows. -/
theorem WithinLine.exists_map {m : Matcher} (hm : WithinLine m) {cs : List Char}
    (hcs : EndsInNewline cs) : ∃ o : Option (List Char), ∀ rest, m (cs ++ rest) =
      o.map (· ++ rest) := by
  obtain ⟨line, rfl⟩ := hcs
  obtain ⟨o, ho⟩ := hm line
  refine ⟨o.map (· ++ ['\n']), fun rest => ?_⟩
  rw [List.append_assoc, List.singleton_append, ho, Option.map_map]
  exact Option.map_congr fun x _ => by simp

/-- What stays on a line is matched whatever follows that line. -/
theorem WithinLine.match_append {m : Matcher} (hm : WithinLine m) {cs left rest : List Char}
    (hcs : EndsInNewline cs) (h : m (cs ++ rest) = some (left ++ rest)) (rest' : List Char) :
    m (cs ++ rest') = some (left ++ rest') := by
  obtain ⟨o, ho⟩ := hm.exists_map hcs
  rw [ho] at h ⊢
  obtain ⟨x, rfl, heq⟩ := Option.map_eq_some_iff.1 h
  rw [Option.map_some, ← List.append_cancel_right heq]

theorem WithinLine.match_append_none {m : Matcher} (hm : WithinLine m) {cs rest : List Char}
    (hcs : EndsInNewline cs) (h : m (cs ++ rest) = none) (rest' : List Char) :
    m (cs ++ rest') = none := by
  obtain ⟨o, ho⟩ := hm.exists_map hcs
  rw [ho] at h ⊢
  cases o with
  | none => rfl
  | some x => cases h

/-- What is closed is matched whatever follows it. -/
theorem IsClosed.match_append {m : Matcher} (hm : IsClosed m) {cs left rest : List Char}
    (h : m (cs ++ rest) = some (left ++ rest)) (rest' : List Char) :
    m (cs ++ rest') = some (left ++ rest') := by
  obtain ⟨taken, heq, htaken⟩ := hm _ _ h
  rw [← List.append_assoc] at heq
  rw [List.append_cancel_right heq, List.append_assoc]
  exact htaken _

theorem withinLine_dropWhile {p : Char → Bool} (hp : p '\n' = false) :
    WithinLine fun cs => some (cs.dropWhile p) := fun cs =>
  ⟨some (cs.dropWhile p), fun rest => congrArg some (dropWhile_append_newline hp cs rest)⟩

theorem withinLine_skipLineComment : WithinLine fun cs => some (skipLineComment cs) := fun cs =>
  ⟨some (skipLineComment cs), fun rest => congrArg some (skipLineComment_append_newline cs rest)⟩

section

variable {m : Matcher} {cs left rest rest' : List Char} {kind k : TokenKind}

/-- What is matched with some sort is matched with it whatever follows, if so does the matcher. -/
theorem map_match_append
    (hm : ∀ left, m (cs ++ rest) = some (left ++ rest) → m (cs ++ rest') = some (left ++ rest'))
    (h : (m (cs ++ rest)).map (k, ·) = some (kind, left ++ rest)) :
    (m (cs ++ rest')).map (k, ·) = some (kind, left ++ rest') := by
  obtain ⟨x, hx, heq⟩ := Option.map_eq_some_iff.1 h
  obtain ⟨rfl, rfl⟩ := Prod.mk.inj heq
  rw [hm left hx]
  rfl

theorem WithinLine.map_match_append (hm : WithinLine m) (hcs : EndsInNewline cs)
    (h : (m (cs ++ rest)).map (k, ·) = some (kind, left ++ rest)) :
    (m (cs ++ rest')).map (k, ·) = some (kind, left ++ rest') :=
  Go.map_match_append (fun _ h => hm.match_append hcs h rest') h

theorem IsClosed.map_match_append (hm : IsClosed m)
    (h : (m (cs ++ rest)).map (k, ·) = some (kind, left ++ rest)) :
    (m (cs ++ rest')).map (k, ·) = some (kind, left ++ rest') :=
  Go.map_match_append (fun _ h => hm.match_append h rest') h

/-- A text up to the end of a line starts with some character. -/
theorem EndsInNewline.exists_cons (h : EndsInNewline cs) : ∃ c tail, cs = c :: tail := by
  obtain ⟨line, rfl⟩ := h
  cases line <;> exact ⟨_, _, rfl⟩

/-- A number, and else a symbol. -/
def numberOrSymbol (cs : List Char) : Option (TokenKind × List Char) :=
  match number cs with
  | some rest => some (.number, rest)
  | none => (Go.symbol cs).map (.symbol, ·)

theorem numberOrSymbol_append (hcs : EndsInNewline cs)
    (h : numberOrSymbol (cs ++ rest) = some (kind, left ++ rest)) :
    numberOrSymbol (cs ++ rest') = some (kind, left ++ rest') := by
  unfold numberOrSymbol at h ⊢
  cases hnumber : number (cs ++ rest) with
  | none =>
    rw [hnumber] at h
    rw [withinLine_number.match_append_none hcs hnumber]
    exact withinLine_symbol.map_match_append hcs h
  | some x =>
    rw [hnumber] at h
    obtain ⟨rfl, rfl⟩ := Prod.mk.inj (Option.some.inj h)
    rw [withinLine_number.match_append hcs hnumber]

/-- What has no mark of its own at the front is a word, a number or a symbol. -/
theorem matchToken_cons_eq {c : Char} (hc : c ∉ openingMarks) (cs : List Char) :
    matchToken (c :: cs) =
      if startsWord c then some (.word, cs.dropWhile isIdentifierContinue)
      else numberOrSymbol (c :: cs) := by
  unfold numberOrSymbol
  exact matchToken_cons hc cs

/-! ## Slashes -/

/-- A slash starts no comment before another character. -/
theorem matchToken_slash {c : Char} (hc : c ≠ '/' ∧ c ≠ '*') (rest : List Char) :
    matchToken ('/' :: c :: rest) = numberOrSymbol ('/' :: c :: rest) := by
  have hword : startsWord '/' = false := by decide
  rw [matchToken, hword, if_neg Bool.false_ne_true] <;> first
    | rfl
    | simp [hc]

theorem matchToken_slashStar (cs : List Char) : matchToken ('/' :: '*' :: cs) =
    match skipBlockComment cs with
    | some rest => some (.comment, rest)
    | none => some (.symbol, '*' :: cs) := rfl

/-- A block comment that is closed is read whatever follows; and so is the slash of one that is not,
if it stays so. -/
theorem matchToken_slashStar_append
    (h : matchToken ('/' :: '*' :: (cs ++ rest)) = some (kind, left ++ rest))
    (hopen : skipBlockComment (cs ++ rest) = none → skipBlockComment (cs ++ rest') = none) :
    matchToken ('/' :: '*' :: (cs ++ rest')) = some (kind, left ++ rest') := by
  rw [matchToken_slashStar] at h ⊢
  cases hclose : skipBlockComment (cs ++ rest) with
  | none =>
    rw [hclose] at h
    rw [hopen hclose]
    obtain ⟨rfl, hleft⟩ := Prod.mk.inj (Option.some.inj h)
    rw [← List.cons_append] at hleft ⊢
    rw [List.append_cancel_right hleft]
  | some x =>
    rw [hclose] at h
    obtain ⟨rfl, rfl⟩ := Prod.mk.inj (Option.some.inj h)
    rw [isClosed_skipBlockComment.match_append hclose]

theorem matchToken_slash_append (hcs : EndsInNewline cs)
    (h : matchToken ('/' :: (cs ++ rest)) = some (kind, left ++ rest))
    (hopen : ∀ more, cs = '*' :: more → skipBlockComment (more ++ rest) = none →
      skipBlockComment (more ++ rest') = none) :
    matchToken ('/' :: (cs ++ rest')) = some (kind, left ++ rest') := by
  obtain ⟨c, cs, rfl⟩ := hcs.exists_cons
  by_cases hc : c ≠ '/' ∧ c ≠ '*'
  · rw [List.cons_append, matchToken_slash hc, ← List.cons_append, ← List.cons_append] at h ⊢
    exact numberOrSymbol_append (hcs.cons '/') h
  · rw [not_and_or, not_not, not_not] at hc
    rcases hc with rfl | rfl
    · exact withinLine_skipLineComment.map_match_append (hcs.tail.resolve_left (by simp)) h
    · exact matchToken_slashStar_append h (hopen cs rfl)

/-! ## All tokens -/

theorem matchToken_quote_append
    (h : matchToken ('"' :: (cs ++ rest)) = some (kind, left ++ rest)) :
    matchToken ('"' :: (cs ++ rest')) = some (kind, left ++ rest') := by
  obtain ⟨x, hx, heq⟩ := Option.map_eq_some_iff.1 h
  obtain ⟨rfl, rfl⟩ := Prod.mk.inj heq
  obtain ⟨taken, htaken, hstring⟩ := exists_taken_of_skipString hx
  rw [← List.append_assoc] at htaken
  obtain rfl := List.append_cancel_right htaken
  -- there is fuel for all that follows, and so for the string
  have hfuel : taken.length ≤ (taken ++ left ++ rest').length + 1 := by simp; omega
  have hagain := hstring _ hfuel (left ++ rest')
  rw [← List.append_assoc] at hagain
  exact congrArg (Option.map (TokenKind.string, ·)) hagain

/-- **A token before the end of a line is read whatever follows that line**, if that closes no block
comment that has not been closed. -/
theorem matchToken_append (hcs : EndsInNewline cs)
    (h : matchToken (cs ++ rest) = some (kind, left ++ rest))
    (hopen : ∀ more, cs = '/' :: '*' :: more → skipBlockComment (more ++ rest) = none →
      skipBlockComment (more ++ rest') = none) :
    matchToken (cs ++ rest') = some (kind, left ++ rest') := by
  obtain ⟨c, cs, rfl⟩ := hcs.exists_cons
  by_cases hmark : c ∈ openingMarks
  · simp only [openingMarks, List.mem_cons, List.not_mem_nil, or_false] at hmark
    rcases hmark with rfl | rfl | rfl | rfl | rfl
    · obtain ⟨rfl, hleft⟩ := Prod.mk.inj (Option.some.inj h)
      rw [← List.append_cancel_right hleft]
      rfl
    · refine matchToken_slash_append (hcs.tail.resolve_left (by simp)) h fun more hmore => ?_
      exact hopen more (congrArg ('/' :: ·) hmore)
    · exact matchToken_quote_append h
    · exact isClosed_skipRawString.map_match_append h
    · exact isClosed_skipRune.map_match_append h
  · have htail : EndsInNewline cs :=
      hcs.tail.resolve_left (by rintro ⟨-, rfl⟩; exact hmark (by decide))
    rw [List.cons_append, matchToken_cons_eq hmark] at h ⊢
    split at h
    · rename_i hword
      rw [if_pos hword]
      exact WithinLine.map_match_append (m := fun cs => some (cs.dropWhile isIdentifierContinue))
        (withinLine_dropWhile (by decide)) htail h
    · rename_i hword
      rw [← List.cons_append] at h
      rw [if_neg hword, ← List.cons_append]
      exact numberOrSymbol_append hcs h

end

end Codebook.Go
