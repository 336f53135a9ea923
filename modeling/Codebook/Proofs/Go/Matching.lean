import Codebook.Go.Token.Lexer
import Codebook.Proofs.Text.Ascii

/-!
# Which token stands at the front of a text

A token at the front of a text is told from what follows it: a word ends before a character that
continues no word, a number before a blank, a comment before the end of the line.  The number needs
an argument, since the longest of many matches counts: no matcher for numbers takes a blank, so none
takes more than the one that takes all digits.

What is here: `Fronts`, all that `matchToken` can find; `IsName` and `IsInteger`, the texts of words
and of plain numbers; and what `matchToken` gives for words, numbers, comments and some symbols.
-/

set_option autoImplicit false

namespace Codebook.Go

open Codebook.Text Matcher

/-! ## Matchers stop at a character -/

/-- A matcher never takes a character, wherever it stands. -/
def StopsAt (c : Char) (m : Matcher) : Prop :=
  ∀ cs rest r, m (cs ++ c :: rest) = some r → ∃ ds, r = ds ++ c :: rest

namespace StopsAt

variable {c : Char} {a b : Matcher} {p : Char → Bool}

theorem one (h : p c = false) : StopsAt c (Matcher.one p) := by
  intro cs rest r hr
  cases cs with
  | nil =>
    rw [List.nil_append, Matcher.one, h] at hr
    cases hr
  | cons x cs =>
    rw [List.cons_append, Matcher.one] at hr
    split at hr
    · exact ⟨cs, (Option.some.inj hr).symm⟩
    · cases hr

theorem andThen (ha : StopsAt c a) (hb : StopsAt c b) : StopsAt c (a.andThen b) := by
  intro cs rest r hr
  obtain ⟨left, hleft, hr⟩ := Option.bind_eq_some_iff.1 hr
  obtain ⟨ds, rfl⟩ := ha cs rest left hleft
  exact hb ds rest r hr

theorem orNothing (ha : StopsAt c a) : StopsAt c (Matcher.orNothing a) := by
  intro cs rest r hr
  obtain rfl := Option.some.inj hr
  cases h : a (cs ++ c :: rest) with
  | none => exact ⟨cs, rfl⟩
  | some left => exact ha cs rest left h

theorem skipDigits (h : p c = false) (hc : c ≠ '_') (cs rest : List Char) :
    ∃ ds, Go.skipDigits p (cs ++ c :: rest) = ds ++ c :: rest := by
  -- the character is still to come after any other
  have hstep {text x xs} (htext : ∃ cs, cs ++ c :: rest = text) (heq : text = x :: xs)
      (hx : x ≠ c) : ∃ cs, cs ++ c :: rest = xs := by
    obtain ⟨cs, rfl⟩ := htext
    rcases List.append_eq_cons_iff.1 heq with ⟨-, heq⟩ | ⟨cs', -, heq⟩
    · exact absurd (List.cons.inj heq).1.symm hx
    · exact ⟨cs', heq.symm⟩
  have hne {x : Char} (hx : p x = true) : x ≠ c := by
    rintro rfl
    rw [hx] at h
    cases h
  have htext : ∃ ds, ds ++ c :: rest = cs ++ c :: rest := ⟨cs, rfl⟩
  generalize cs ++ c :: rest = text at htext
  fun_induction Go.skipDigits p text with
  | case1 => simp at htext
  | case2 x xs hx ih => exact ih (hstep (hstep htext rfl (Ne.symm hc)) rfl (hne hx))
  | case3 x xs hx =>
    obtain ⟨ds, hds⟩ := htext
    exact ⟨ds, hds.symm⟩
  | case4 x xs _ hx ih => exact ih (hstep htext rfl (hne hx))
  | case5 x xs _ hx =>
    obtain ⟨ds, hds⟩ := htext
    exact ⟨ds, hds.symm⟩

theorem digits (h : p c = false) (hc : c ≠ '_') : StopsAt c (Go.digits p) := by
  intro cs rest r hr
  obtain ⟨left, hleft, rfl⟩ := Option.map_eq_some_iff.1 hr
  obtain ⟨ds, rfl⟩ := one h cs rest left hleft
  exact skipDigits h hc ds rest

theorem spacedDigits (h : p c = false) (hc : c ≠ '_') : StopsAt c (Go.spacedDigits p) :=
  (orNothing (one (by simp [hc]))).andThen (digits h hc)

theorem letter {small capital : Char} (hsmall : c ≠ small) (hcapital : c ≠ capital) :
    StopsAt c (Go.letter small capital) :=
  one (by simp [hsmall, hcapital])

end StopsAt

/-! ## The longest match -/

section

variable {c : Char} {cs rest : List Char}

theorem longer_eq_or (a b : Option (List Char)) : longer a b = a ∨ longer a b = b := by
  cases a with
  | none => exact .inr rfl
  | some x =>
    cases b with
    | none => exact .inl rfl
    | some y =>
      rw [longer]
      split
      · exact .inr rfl
      · exact .inl rfl

/-- Of two matches that leave a character, the longer one goes up to it if one of them does. -/
theorem longer_eq_some {a b : Option (List Char)} (ha : ∀ r ∈ a, ∃ ds, r = ds ++ c :: rest)
    (hb : ∀ r ∈ b, ∃ ds, r = ds ++ c :: rest)
    (h : a = some (c :: rest) ∨ b = some (c :: rest)) : longer a b = some (c :: rest) := by
  rcases h with rfl | rfl
  · cases b with
    | none => rfl
    | some y =>
      obtain ⟨es, rfl⟩ := hb y rfl
      have hle : (c :: rest).length ≤ (es ++ c :: rest).length := by simp
      rw [longer, if_neg (Nat.not_lt.2 hle)]
  · cases a with
    | none => rfl
    | some x =>
      obtain ⟨ds, rfl⟩ := ha x rfl
      cases ds with
      | nil => rw [List.nil_append, longer, if_neg (Nat.lt_irrefl _)]
      | cons d ds =>
        have hlt : (c :: rest).length < (d :: ds ++ c :: rest).length := by
          simp only [List.length_append, List.length_cons]
          omega
        rw [longer, if_pos hlt]

/-- A match that goes up to a character that no matcher takes is the longest one. -/
theorem longest_eq_some {ms : List Matcher} {m : Matcher} (hm : m ∈ ms)
    (hmatch : m (cs ++ c :: rest) = some (c :: rest)) (hstops : ∀ m ∈ ms, StopsAt c m) :
    longest ms (cs ++ c :: rest) = some (c :: rest) := by
  have hfold : ∀ best : Option (List Char), (∀ r ∈ best, ∃ ds, r = ds ++ c :: rest) →
      (best = some (c :: rest) ∨ ∃ m ∈ ms, m (cs ++ c :: rest) = some (c :: rest)) →
      ms.foldl (fun best m => longer best (m (cs ++ c :: rest))) best = some (c :: rest) := by
    clear hm hmatch
    induction ms with
    | nil =>
      intro best _ h
      simpa using h
    | cons m ms ih =>
      intro best hbest h
      have hm : ∀ r ∈ m (cs ++ c :: rest), ∃ ds, r = ds ++ c :: rest := fun r hr =>
        hstops m List.mem_cons_self cs rest r hr
      have hlonger : ∀ r ∈ longer best (m (cs ++ c :: rest)), ∃ ds, r = ds ++ c :: rest := by
        rcases longer_eq_or best (m (cs ++ c :: rest)) with heq | heq
        · rwa [heq]
        · rwa [heq]
      refine ih (fun x hx => hstops x (List.mem_cons_of_mem _ hx)) _ hlonger ?_
      rcases h with h | ⟨x, hx, h⟩
      · exact .inl (longer_eq_some hbest hm (.inl h))
      · rcases List.mem_cons.1 hx with rfl | hx
        · exact .inl (longer_eq_some hbest hm (.inr h))
        · exact .inr ⟨x, hx, h⟩
  exact hfold none (by simp) (.inr ⟨m, hm, hmatch⟩)

/-- There is no longest match if there is no match. -/
theorem longest_eq_none {ms : List Matcher} (h : ∀ m ∈ ms, m cs = none) : longest ms cs = none := by
  rw [longest]
  induction ms with
  | nil => rfl
  | cons m ms ih =>
    rw [List.foldl_cons, h m List.mem_cons_self]
    exact ih fun x hx => h x (List.mem_cons_of_mem _ hx)

end

/-! ## Numbers -/

section

variable {c : Char}

/-- A character that is no part of any number. -/
def EndsNumber (c : Char) : Prop := c = ' ' ∨ c = '\n'

section

variable (hc : EndsNumber c)

include hc

theorem EndsNumber.digit : c.isDigit = false := by
  rcases hc with rfl | rfl <;> decide

theorem EndsNumber.underscore : c ≠ '_' := by
  rcases hc with rfl | rfl <;> decide

theorem EndsNumber.hexDigit : isHexDigit c = false := by
  rcases hc with rfl | rfl <;> decide

theorem stopsAt_digits : StopsAt c (digits Char.isDigit) := .digits hc.digit hc.underscore

theorem stopsAt_char {x : Char} (hx : x ≠ ' ' ∧ x ≠ '\n') : StopsAt c (char x) := by
  refine .one (beq_eq_false_iff_ne.2 ?_)
  rcases hc with rfl | rfl
  · exact hx.1.symm
  · exact hx.2.symm

theorem stopsAt_zero : StopsAt c (char '0') := stopsAt_char hc (by decide)

theorem stopsAt_point : StopsAt c (char '.') := stopsAt_char hc (by decide)

theorem stopsAt_letter {small capital : Char} (hsmall : small ≠ ' ' ∧ small ≠ '\n')
    (hcapital : capital ≠ ' ' ∧ capital ≠ '\n') : StopsAt c (letter small capital) := by
  rcases hc with rfl | rfl
  · exact .letter hsmall.1.symm hcapital.1.symm
  · exact .letter hsmall.2.symm hcapital.2.symm

theorem stopsAt_integers : ∀ m ∈ integers, StopsAt c m := by
  have hnonzero : ('1' ≤ c && c ≤ '9') = false := by
    rcases hc with rfl | rfl <;> decide
  have hbinary : isBinaryDigit c = false := by
    rcases hc with rfl | rfl <;> decide
  have hoctal : isOctalDigit c = false := by
    rcases hc with rfl | rfl <;> decide
  simp only [integers, List.forall_mem_cons]
  exact ⟨stopsAt_zero hc,
    .andThen (.one hnonzero) (.orNothing (.spacedDigits hc.digit hc.underscore)),
    .andThen (stopsAt_zero hc) (.andThen (stopsAt_letter hc (by decide) (by decide))
      (.spacedDigits hbinary hc.underscore)),
    .andThen (stopsAt_zero hc) (.andThen (.orNothing (stopsAt_letter hc (by decide) (by decide)))
      (.spacedDigits hoctal hc.underscore)),
    .andThen (stopsAt_zero hc) (.andThen (stopsAt_letter hc (by decide) (by decide))
      (.spacedDigits hc.hexDigit hc.underscore)), by simp⟩

theorem stopsAt_exponent {small capital : Char} (hsmall : small ≠ ' ' ∧ small ≠ '\n')
    (hcapital : capital ≠ ' ' ∧ capital ≠ '\n') : StopsAt c (exponent small capital) := by
  have hsign : (c == '+' || c == '-') = false := by
    rcases hc with rfl | rfl <;> decide
  exact .andThen (stopsAt_letter hc hsmall hcapital) (.andThen (.orNothing (.one hsign))
    (stopsAt_digits hc))

theorem stopsAt_decimals : ∀ m ∈ decimals, StopsAt c m := by
  have hexponent : StopsAt c (exponent 'e' 'E') := stopsAt_exponent hc (by decide) (by decide)
  simp only [decimals, List.forall_mem_cons]
  exact ⟨.andThen (stopsAt_digits hc) (.andThen (stopsAt_point hc)
      (.andThen (.orNothing (stopsAt_digits hc)) (.orNothing hexponent))),
    .andThen (stopsAt_digits hc) hexponent,
    .andThen (stopsAt_point hc) (.andThen (stopsAt_digits hc) (.orNothing hexponent)), by simp⟩

theorem stopsAt_hexFractions : ∀ m ∈ hexFractions, StopsAt c m := by
  have hhex : StopsAt c (digits isHexDigit) := .digits hc.hexDigit hc.underscore
  have hspaced : StopsAt c (spacedDigits isHexDigit) := .spacedDigits hc.hexDigit hc.underscore
  have hmantissa {m : Matcher} (hm : StopsAt c m) :
      StopsAt c ((char '0').andThen ((letter 'x' 'X').andThen (m.andThen (exponent 'p' 'P')))) :=
    .andThen (stopsAt_zero hc) (.andThen (stopsAt_letter hc (by decide) (by decide))
      (.andThen hm (stopsAt_exponent hc (by decide) (by decide))))
  simp only [hexFractions, List.map_cons, List.map_nil, List.forall_mem_cons]
  exact ⟨hmantissa (.andThen hspaced (.andThen (stopsAt_point hc) (.orNothing hhex))),
    hmantissa hspaced, hmantissa (.andThen (stopsAt_point hc) hhex), by simp⟩

end

/-- A number is one token up to a blank, if one of the matchers for integers takes it. -/
theorem number_eq_some (hc : EndsNumber c) {m : Matcher} (hm : m ∈ integers) {cs rest : List Char}
    (hmatch : m (cs ++ c :: rest) = some (c :: rest)) :
    number (cs ++ c :: rest) = some (c :: rest) := by
  refine longest_eq_some (m := m) (by simp [hm]) hmatch ?_
  have himaginary : StopsAt c (char 'i') := stopsAt_char hc (by decide)
  have hreal : ∀ m ∈ integers ++ decimals ++ hexFractions, StopsAt c m :=
    List.forall_mem_append.2 ⟨List.forall_mem_append.2 ⟨stopsAt_integers hc,
      stopsAt_decimals hc⟩, stopsAt_hexFractions hc⟩
  refine List.forall_mem_append.2 ⟨hreal, ?_⟩
  rw [List.forall_mem_map]
  intro m hm
  refine .andThen ?_ himaginary
  rcases List.mem_cons.1 hm with rfl | hm
  · exact stopsAt_digits hc
  · exact hreal m hm

/-- A period is no number, if no digit follows. -/
theorem number_period {x : Char} (hx : x.isDigit = false) (rest : List Char) :
    number ('.' :: x :: rest) = none := by
  have hdigits : digits Char.isDigit (x :: rest) = none := by
    rw [digits, one, hx, if_neg Bool.false_ne_true]
    rfl
  have hfraction : ((char '.').andThen ((digits Char.isDigit).andThen
      (orNothing (exponent 'e' 'E')))) ('.' :: x :: rest) = none :=
    show (digits Char.isDigit (x :: rest)).bind _ = none by rw [hdigits, Option.bind_none]
  have hreal : ∀ m ∈ integers ++ decimals ++ hexFractions, m ('.' :: x :: rest) = none := by
    simp only [integers, decimals, hexFractions, List.map_cons, List.map_nil,
      List.forall_mem_append, List.forall_mem_cons]
    exact ⟨⟨⟨rfl, rfl, rfl, rfl, rfl, by simp⟩, rfl, rfl, hfraction, by simp⟩, rfl, rfl, rfl,
      by simp⟩
  refine longest_eq_none (List.forall_mem_append.2 ⟨hreal, ?_⟩)
  rw [List.forall_mem_map]
  intro m hm
  have hnone : m ('.' :: x :: rest) = none := by
    rcases List.mem_cons.1 hm with rfl | hm
    · rfl
    · exact hreal m hm
  rw [andThen, hnone, Option.bind_none]

/-- A decimal integer without leading zeros. -/
def IsInteger (cs : List Char) : Prop :=
  cs = ['0'] ∨ cs ≠ [] ∧ (∀ d ∈ cs.head?, d ≠ '0') ∧ ∀ d ∈ cs, d.isDigit = true

instance : DecidablePred IsInteger := fun cs =>
  inferInstanceAs (Decidable (cs = ['0'] ∨ cs ≠ [] ∧ (∀ d ∈ cs.head?, d ≠ '0') ∧
    ∀ d ∈ cs, d.isDigit = true))

theorem ne_underscore_of_isDigit {d : Char} (h : d.isDigit = true) : d ≠ '_' := by
  rintro rfl
  cases h

theorem skipDigits_append (hc : EndsNumber c) {cs : List Char}
    (hcs : ∀ d ∈ cs, d.isDigit = true) (rest : List Char) :
    skipDigits Char.isDigit (cs ++ c :: rest) = c :: rest := by
  induction cs with
  | nil =>
    rw [List.nil_append, skipDigits, if_neg (by simp [hc.digit])]
    rintro x xs rfl
    exact absurd rfl hc.underscore
  | cons d cs ih =>
    have hd := hcs d List.mem_cons_self
    rw [List.cons_append, skipDigits, if_pos hd, ih fun x hx => hcs x (List.mem_cons_of_mem _ hx)]
    rintro x xs rfl
    exact absurd rfl (ne_underscore_of_isDigit hd)

/-- The digits after the first one are taken if there are any. -/
theorem orNothing_spacedDigits (hc : EndsNumber c) {cs : List Char}
    (hcs : ∀ d ∈ cs, d.isDigit = true) (rest : List Char) :
    orNothing (spacedDigits Char.isDigit) (cs ++ c :: rest) = some (c :: rest) := by
  cases cs with
  | nil =>
    have hchar : char '_' (c :: rest) = none := by
      rw [char, one, beq_eq_false_iff_ne.2 hc.underscore, if_neg Bool.false_ne_true]
    have hdigits : digits Char.isDigit (c :: rest) = none := by
      rw [digits, one, hc.digit, if_neg Bool.false_ne_true]
      rfl
    simp [orNothing, spacedDigits, andThen, hchar, hdigits]
  | cons d cs =>
    have hd := hcs d List.mem_cons_self
    have hchar : char '_' (d :: (cs ++ c :: rest)) = none := by
      rw [char, one, beq_eq_false_iff_ne.2 (ne_underscore_of_isDigit hd), if_neg Bool.false_ne_true]
    have hdigits : digits Char.isDigit (d :: (cs ++ c :: rest)) = some (c :: rest) := by
      rw [digits, one, if_pos hd, Option.map_some,
        skipDigits_append hc fun x hx => hcs x (List.mem_cons_of_mem _ hx)]
    simp [orNothing, spacedDigits, andThen, hchar, hdigits]

/-- An integer is a number up to a blank. -/
theorem number_integer (hc : EndsNumber c) {cs : List Char} (hcs : IsInteger cs)
    (rest : List Char) : number (cs ++ c :: rest) = some (c :: rest) := by
  rcases hcs with rfl | ⟨hne, hhead, hcs⟩
  · exact number_eq_some hc (m := char '0') (by simp [integers]) rfl
  · obtain ⟨d, cs, rfl⟩ := List.exists_cons_of_ne_nil hne
    have hall : ∀ n < 128, (Char.ofNat n).isDigit = true → Char.ofNat n ≠ '0' →
        ('1' ≤ Char.ofNat n && Char.ofNat n ≤ '9') = true := by decide
    have hd : ('1' ≤ d && d ≤ '9') = true := by
      have hdigit := hcs d List.mem_cons_self
      have hlt : d.toNat < 128 :=
        toNat_lt_128_of_isAlphanum (.inl (by simp [Char.isAlphanum, hdigit]))
      exact forall_of_lt_128 (p := fun d => d.isDigit = true → d ≠ '0' →
        ('1' ≤ d && d ≤ '9') = true) hall hlt hdigit (hhead d rfl)
    refine number_eq_some hc (m := (one fun c => '1' ≤ c && c ≤ '9').andThen
      (orNothing (spacedDigits Char.isDigit))) (by simp [integers]) ?_
    rw [andThen, List.cons_append, one, if_pos hd]
    exact orNothing_spacedDigits hc (fun x hx => hcs x (List.mem_cons_of_mem _ hx)) rest

end

/-! ## Tokens -/

/-- What token stands at the front of a text, and what is left behind it. -/
inductive Fronts : List Char → TokenKind → List Char → Prop where
  | lineEnd (rest : List Char) : Fronts ('\n' :: rest) .lineEnd rest
  | lineComment (rest : List Char) : Fronts ('/' :: '/' :: rest) .comment (skipLineComment rest)
  | blockComment {rest left : List Char} (h : skipBlockComment rest = some left) :
      Fronts ('/' :: '*' :: rest) .comment left
  /-- A slash is a symbol where a comment is not closed. -/
  | slash {rest : List Char} (h : skipBlockComment rest = none) :
      Fronts ('/' :: '*' :: rest) .symbol ('*' :: rest)
  | string {rest left : List Char} (h : skipString (rest.length + 1) rest = some left) :
      Fronts ('"' :: rest) .string left
  | rawString {rest left : List Char} (h : skipRawString rest = some left) :
      Fronts ('\x60' :: rest) .string left
  | rune {rest left : List Char} (h : skipRune rest = some left) : Fronts ('\'' :: rest) .rune left
  | word {c : Char} (h : startsWord c = true) (rest : List Char) :
      Fronts (c :: rest) .word (rest.dropWhile isIdentifierContinue)
  | number {cs left : List Char} (h : number cs = some left) : Fronts cs .number left
  | symbol {cs left : List Char} (h : symbol cs = some left) : Fronts cs .symbol left

/-- **Whatever is matched stands at the front.** -/
theorem fronts_of_matchToken {cs left : List Char} {kind : TokenKind}
    (h : matchToken cs = some (kind, left)) : Fronts cs kind left := by
  have hmap {o : Option (List Char)} {k : TokenKind} (h : o.map (k, ·) = some (kind, left)) :
      o = some left ∧ k = kind := by
    obtain ⟨rest, rfl, heq⟩ := Option.map_eq_some_iff.1 h
    exact ⟨congrArg some (Prod.mk.inj heq).2, (Prod.mk.inj heq).1⟩
  unfold matchToken at h
  split at h
  case h_1 => cases h
  case h_2 => cases h; exact .lineEnd _
  case h_3 => cases h; exact .lineComment _
  case h_4 =>
    split at h
    · rename_i hclose
      cases h
      exact .blockComment hclose
    · rename_i hclose
      cases h
      exact .slash hclose
  case h_5 => obtain ⟨hskip, rfl⟩ := hmap h; exact .string hskip
  case h_6 => obtain ⟨hskip, rfl⟩ := hmap h; exact .rawString hskip
  case h_7 => obtain ⟨hskip, rfl⟩ := hmap h; exact .rune hskip
  case h_8 =>
    split at h
    · rename_i hstarts
      cases h
      exact .word hstarts _
    · split at h
      · rename_i hnumber
        cases h
        exact .number hnumber
      · obtain ⟨hsymbol, rfl⟩ := hmap h
        exact .symbol hsymbol

/-- The characters that start a token of a sort of their own. -/
def openingMarks : List Char := ['\n', '/', '"', '\x60', '\'']

/-- Any other character starts a word, a number or a symbol. -/
theorem matchToken_cons {c : Char} (hc : c ∉ openingMarks) (rest : List Char) :
    matchToken (c :: rest) =
      if startsWord c then some (.word, rest.dropWhile isIdentifierContinue)
      else
        match number (c :: rest) with
        | some rest => some (.number, rest)
        | none => (symbol (c :: rest)).map (.symbol, ·) := by
  simp only [openingMarks, List.mem_cons, List.not_mem_nil, or_false, not_or] at hc
  obtain ⟨hline, hslash, hquote, hbackquote, happostrophe⟩ := hc
  -- none of the marks that the cases before the last one ask for
  rw [matchToken] <;> first
    | rfl
    | simp [hline, hslash, hquote, hbackquote, happostrophe]

theorem startsWord_of_mem {c : Char} (hc : c ∈ openingMarks) : startsWord c = false := by
  have hall : ∀ c ∈ openingMarks, startsWord c = false := by decide
  exact hall c hc

/-- A name, which is a word or a keyword. -/
def IsName : List Char → Prop
  | [] => False
  | c :: cs => startsWord c = true ∧ ∀ x ∈ cs, isIdentifierContinue x = true

instance : DecidablePred IsName
  | [] => inferInstanceAs (Decidable False)
  | c :: cs => inferInstanceAs
      (Decidable (startsWord c = true ∧ ∀ x ∈ cs, isIdentifierContinue x = true))

/-- A word is one token up to a character that continues no word. -/
theorem matchToken_name {cs rest : List Char} (hcs : IsName cs)
    (hrest : ∀ c ∈ rest.head?, isIdentifierContinue c = false) :
    matchToken (cs ++ rest) = some (.word, rest) := by
  cases cs with
  | nil => exact hcs.elim
  | cons c cs =>
    have hc : c ∉ openingMarks := fun hmem => by
      have := hcs.1
      rw [startsWord_of_mem hmem] at this
      cases this
    have hdrop : rest.dropWhile isIdentifierContinue = rest := by
      cases rest with
      | nil => rfl
      | cons x rest => rw [List.dropWhile_cons_of_neg (by simp [hrest x rfl])]
    rw [List.cons_append, matchToken_cons hc, if_pos hcs.1, List.dropWhile_append_of_pos hcs.2,
      hdrop]

/-- A digit starts no word. -/
theorem startsWord_of_isDigit {d : Char} (hd : d.isDigit = true) :
    startsWord d = false ∧ d ∉ openingMarks := by
  have hall : ∀ n < 128, (Char.ofNat n).isDigit = true →
      startsWord (Char.ofNat n) = false ∧ Char.ofNat n ∉ openingMarks := by decide
  exact forall_of_lt_128 (p := fun d => d.isDigit = true →
    startsWord d = false ∧ d ∉ openingMarks) hall
    (toNat_lt_128_of_isAlphanum (.inl (by simp [Char.isAlphanum, hd]))) hd

theorem IsInteger.isDigit {cs : List Char} (hcs : IsInteger cs) :
    ∀ d ∈ cs, d.isDigit = true := by
  rcases hcs with rfl | ⟨-, -, hcs⟩
  · decide
  · exact hcs

theorem IsInteger.ne_nil {cs : List Char} (hcs : IsInteger cs) : cs ≠ [] := by
  rcases hcs with rfl | ⟨hne, -, -⟩
  · exact List.cons_ne_nil _ _
  · exact hne

/-- An integer is one token up to a blank. -/
theorem matchToken_integer {c : Char} (hc : EndsNumber c) {cs : List Char} (hcs : IsInteger cs)
    (rest : List Char) : matchToken (cs ++ c :: rest) = some (.number, c :: rest) := by
  have hnumber := number_integer hc hcs rest
  obtain ⟨d, ds, rfl⟩ := List.exists_cons_of_ne_nil hcs.ne_nil
  obtain ⟨hword, hmark⟩ := startsWord_of_isDigit (hcs.isDigit d List.mem_cons_self)
  rw [List.cons_append] at hnumber ⊢
  rw [matchToken_cons hmark, hword, if_neg Bool.false_ne_true, hnumber]

theorem skipLineComment_append {cs : List Char} (hcs : ∀ c ∈ cs, c ≠ '\n' ∧ c ≠ '\x00')
    (rest : List Char) : skipLineComment (cs ++ '\n' :: rest) = '\n' :: rest := by
  induction cs with
  | nil => rfl
  | cons c cs ih =>
    have hc := hcs c List.mem_cons_self
    rw [List.cons_append, skipLineComment, if_neg (not_or.2 hc),
      ih fun x hx => hcs x (List.mem_cons_of_mem _ hx)]

/-- A comment goes up to the end of its line. -/
theorem matchToken_comment {cs : List Char} (hcs : ∀ c ∈ cs, c ≠ '\n' ∧ c ≠ '\x00')
    (rest : List Char) :
    matchToken ('/' :: '/' :: (cs ++ '\n' :: rest)) = some (.comment, '\n' :: rest) := by
  rw [matchToken, skipLineComment_append hcs]

theorem matchToken_opening (rest : List Char) :
    matchToken ('(' :: rest) = some (.symbol, rest) := by
  rw [matchToken_cons (by decide)]
  rfl

theorem matchToken_closing (rest : List Char) :
    matchToken (')' :: rest) = some (.symbol, rest) := by
  rw [matchToken_cons (by decide)]
  rfl

theorem matchToken_equals (rest : List Char) :
    matchToken ('=' :: ' ' :: rest) = some (.symbol, ' ' :: rest) := by
  rw [matchToken_cons (by decide)]
  rfl

/-- A period before a word is one token. -/
theorem matchToken_period {c : Char} (hc : startsWord c = true) (rest : List Char) :
    matchToken ('.' :: c :: rest) = some (.symbol, c :: rest) := by
  have hdigit : c.isDigit = false := by
    cases h : c.isDigit with
    | false => rfl
    | true =>
      rw [(startsWord_of_isDigit h).1] at hc
      cases hc
  have hperiod : c ≠ '.' := by
    rintro rfl
    revert hc
    decide
  have hsymbol : symbol ('.' :: c :: rest) = some (c :: rest) := by
    have hlong : longSymbols.findSome? (fun s => afterPrefix? s.toList ('.' :: c :: rest)) =
        none := by
      simp [longSymbols, afterPrefix?, hperiod]
    rw [symbol, hlong]
    rfl
  rw [matchToken_cons (by decide), number_period hdigit, hsymbol]
  rfl

end Codebook.Go
