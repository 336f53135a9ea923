import Codebook.Proofs.Json.Grammar
import Codebook.Proofs.Text.Blank

/-!
# Reading the strings, numbers and words of JSON

What holds no other values is read for itself: the text between the quotes of a string, and a number
or a word.  Each reader takes what the grammar has, and nothing else.

What is here: `body?` and `body?_eq_some_iff`, for strings; `isNumber` and `isNumber_iff`, for
numbers; and `bare?` and `bare?_eq_some_iff`, for what is written without marks.
-/

set_option autoImplicit false

namespace Codebook.Json

open Text

/-! ## Strings -/

/-- The string that a text between quotes stands for. -/
def body? : List Char → Option (List Char)
  | [] => some []
  | '\\' :: e :: cs =>
    if e = 'u' then
      match cs with
      | d₁ :: d₂ :: d₃ :: d₄ :: cs =>
        match hexFrom? 0 [d₁, d₂, d₃, d₄] with
        | none => none
        | some n =>
          if isHighUnit n then
            match cs with
            | '\\' :: 'u' :: e₁ :: e₂ :: e₃ :: e₄ :: cs =>
              match hexFrom? 0 [e₁, e₂, e₃, e₄] with
              | none => none
              | some m =>
                if isLowUnit m then (body? cs).map (Char.ofNat (pairNumber n m) :: ·) else none
            | _ => none
          else if isLowUnit n then none
          else (body? cs).map (Char.ofNat n :: ·)
      | _ => none
    else
      match namedEscapes.lookup e with
      | none => none
      | some c => (body? cs).map (c :: ·)
  | c :: cs =>
    if 0x20 ≤ c.toNat ∧ c ≠ '"' ∧ c ≠ '\\' then (body? cs).map (c :: ·) else none

theorem body?_of_isBody {cs s : List Char} (h : IsBody cs s) : body? cs = some s := by
  induction h with
  | nil => rfl
  | plain hc hquote hbackslash h ih =>
    rw [body?, if_pos ⟨hc, hquote, hbackslash⟩, ih]
    · rfl
    · exact fun e cs hc => absurd hc hbackslash
  | @named e c cs s he h ih =>
    have hlookup : e ≠ 'u' ∧ namedEscapes.lookup e = some c := by
      have hall : ∀ p ∈ namedEscapes, p.1 ≠ 'u' ∧ namedEscapes.lookup p.1 = some p.2 := by decide
      exact hall (e, c) he
    unfold body?
    simp only [if_neg hlookup.1, hlookup.2, ih]
    rfl
  | unit hn hhigh hlow h ih =>
    simp [body?, hn, hhigh, hlow, ih]
  | pair hn hhigh hm hlow h ih =>
    simp [body?, hn, hhigh, hm, hlow, ih]

theorem mem_of_lookup {e c : Char} {l : List (Char × Char)} (h : l.lookup e = some c) :
    (e, c) ∈ l := by
  obtain ⟨before, after, rfl, -⟩ := List.lookup_eq_some_iff.1 h
  exact List.mem_append_right _ List.mem_cons_self

theorem isBody_of_body? {cs s : List Char} (h : body? cs = some s) : IsBody cs s := by
  have hmap {c : Char} {cs s : List Char} {p : List Char → Prop}
      (hcons : ∀ {rest}, body? cs = some rest → p (c :: rest))
      (hs : (body? cs).map (c :: ·) = some s) : p s := by
    obtain ⟨rest, hrest, rfl⟩ := Option.map_eq_some_iff.1 hs
    exact hcons hrest
  fun_induction body? cs generalizing s with
  | case1 => exact Option.some.inj h ▸ .nil
  | case4 d₁ d₂ d₃ d₄ n hn hhigh e₁ e₂ e₃ e₄ cs m hm hlow ih =>
    exact hmap (fun hrest => .pair hn hhigh hm hlow (ih hrest)) h
  | case8 d₁ d₂ d₃ d₄ cs n hn hhigh hlow ih =>
    exact hmap (fun hrest => .unit hn (by simpa using hhigh) (by simpa using hlow) (ih hrest)) h
  | case11 e cs hu c hc ih => exact hmap (fun hrest => .named (mem_of_lookup hc) (ih hrest)) h
  | case12 c cs _ hc ih => exact hmap (fun hrest => .plain hc.1 hc.2.1 hc.2.2 (ih hrest)) h
  | _ => cases h

theorem body?_eq_some_iff {cs s : List Char} : body? cs = some s ↔ IsBody cs s :=
  ⟨isBody_of_body?, body?_of_isBody⟩

/-! ## Numbers -/

/-- What follows the digits at the front, of which there is one at least. -/
def skipDigits? : List Char → Option (List Char)
  | [] => none
  | c :: cs => if c.isDigit then some (cs.dropWhile Char.isDigit) else none

/-- What follows the whole part of a number. -/
def skipWhole? : List Char → Option (List Char)
  | '0' :: cs => some cs
  | cs => skipDigits? cs

/-- What follows the fraction, if there is one. -/
def skipFraction? : List Char → Option (List Char)
  | '.' :: cs => skipDigits? cs
  | cs => some cs

/-- What follows the sign of an exponent, if there is one. -/
def skipSign : List Char → List Char
  | '+' :: cs => cs
  | '-' :: cs => cs
  | cs => cs

/-- What follows the exponent, if there is one. -/
def skipExponent? : List Char → Option (List Char)
  | [] => some []
  | c :: cs => if c = 'e' ∨ c = 'E' then skipDigits? (skipSign cs) else some (c :: cs)

/-- What follows the sign of a number, if there is one. -/
def skipMinus : List Char → List Char
  | '-' :: cs => cs
  | cs => cs

/-- Whether a text is a number. -/
def isNumber (cs : List Char) : Bool :=
  ((skipWhole? (skipMinus cs)).bind skipFraction?).bind skipExponent? == some []

/-- No digit comes next. -/
def EndsDigits (cs : List Char) : Prop := ∀ c ∈ cs.head?, c.isDigit = false

section

variable {cs rest : List Char}

theorem skipDigits?_append (h : IsDigits cs) (hrest : EndsDigits rest) :
    skipDigits? (cs ++ rest) = some rest := by
  obtain ⟨c, cs, rfl⟩ := List.exists_cons_of_ne_nil h.1
  rw [List.cons_append, skipDigits?, if_pos (h.2 c List.mem_cons_self),
    List.dropWhile_append_of_pos fun d hd => h.2 d (List.mem_cons_of_mem c hd),
    dropWhile_eq_self_of_head? hrest]

theorem exists_of_skipDigits? (h : skipDigits? cs = some rest) :
    ∃ digits, IsDigits digits ∧ cs = digits ++ rest := by
  cases cs with
  | nil => cases h
  | cons c cs =>
    rw [skipDigits?] at h
    split at h
    · rename_i hc
      obtain rfl := Option.some.inj h
      refine ⟨c :: cs.takeWhile Char.isDigit, ⟨by simp, fun d hd => ?_⟩, by simp⟩
      rcases List.mem_cons.1 hd with rfl | hd
      · exact hc
      · exact List.all_eq_true.1 List.all_takeWhile d hd
    · cases h

theorem skipWhole?_of_ne (h : cs.head? ≠ some '0') : skipWhole? cs = skipDigits? cs := by
  unfold skipWhole?
  split
  · exact absurd rfl h
  · rfl

theorem skipWhole?_append (h : IsWhole cs) (hrest : EndsDigits rest) :
    skipWhole? (cs ++ rest) = some rest := by
  cases h with
  | zero => rfl
  | digits h hzero =>
    obtain ⟨c, cs, rfl⟩ := List.exists_cons_of_ne_nil h.1
    have hhead : (c :: cs ++ rest).head? ≠ some '0' := hzero
    rw [skipWhole?_of_ne hhead, skipDigits?_append h hrest]

theorem exists_of_skipWhole? (h : skipWhole? cs = some rest) :
    ∃ whole, IsWhole whole ∧ cs = whole ++ rest := by
  unfold skipWhole? at h
  split at h
  · exact ⟨['0'], .zero, congrArg _ (Option.some.inj h)⟩
  · rename_i hzero
    obtain ⟨digits, hdigits, rfl⟩ := exists_of_skipDigits? h
    refine ⟨digits, .digits hdigits fun hhead => ?_, rfl⟩
    obtain ⟨more, rfl⟩ := List.head?_eq_some_iff.1 hhead
    exact hzero _ rfl

theorem skipFraction?_of_ne (h : cs.head? ≠ some '.') : skipFraction? cs = some cs := by
  unfold skipFraction?
  split
  · exact absurd rfl h
  · rfl

theorem skipFraction?_append (h : IsFraction cs) (hrest : EndsDigits rest)
    (hpoint : rest.head? ≠ some '.') : skipFraction? (cs ++ rest) = some rest := by
  cases h with
  | none => exact skipFraction?_of_ne hpoint
  | digits h => exact skipDigits?_append h hrest

theorem exists_of_skipFraction? (h : skipFraction? cs = some rest) :
    ∃ fraction, IsFraction fraction ∧ cs = fraction ++ rest := by
  unfold skipFraction? at h
  split at h
  · obtain ⟨digits, hdigits, rfl⟩ := exists_of_skipDigits? h
    exact ⟨'.' :: digits, .digits hdigits, rfl⟩
  · exact ⟨[], .none, Option.some.inj h⟩

/-- Digits do not start with a sign. -/
theorem IsDigits.head?_ne (h : IsDigits cs) {sign : Char} (hsign : sign.isDigit = false) :
    (cs ++ rest).head? ≠ some sign := by
  obtain ⟨c, cs, rfl⟩ := List.exists_cons_of_ne_nil h.1
  rintro ⟨⟩
  exact absurd (h.2 _ List.mem_cons_self) (by simp [hsign])

theorem IsWhole.head?_ne (h : IsWhole cs) {sign : Char} (hsign : sign.isDigit = false) :
    (cs ++ rest).head? ≠ some sign := by
  cases h with
  | zero =>
    rintro ⟨⟩
    exact absurd hsign (by decide)
  | digits h => exact h.head?_ne hsign

theorem exists_skipSign (cs : List Char) :
    ∃ sign ∈ [[], ['+'], ['-']], cs = sign ++ skipSign cs := by
  unfold skipSign
  split
  · exact ⟨['+'], by simp, rfl⟩
  · exact ⟨['-'], by simp, rfl⟩
  · exact ⟨[], by simp, rfl⟩

theorem skipSign_append {sign : List Char} (hsign : sign ∈ [[], ['+'], ['-']])
    (hplus : cs.head? ≠ some '+') (hminus : cs.head? ≠ some '-') : skipSign (sign ++ cs) = cs := by
  simp only [List.mem_cons, List.not_mem_nil, or_false] at hsign
  rcases hsign with rfl | rfl | rfl
  · rw [List.nil_append]
    unfold skipSign
    split
    · exact absurd rfl hplus
    · exact absurd rfl hminus
    · rfl
  · rfl
  · rfl

theorem skipExponent?_eq_nil_iff : skipExponent? cs = some [] ↔ IsExponent cs := by
  constructor
  · intro h
    cases cs with
    | nil => exact .none
    | cons e cs =>
      rw [skipExponent?] at h
      split at h
      · rename_i he
        obtain ⟨sign, hsign, hcs⟩ := exists_skipSign cs
        obtain ⟨digits, hdigits, hskip⟩ := exists_of_skipDigits? h
        rw [hcs, hskip, List.append_nil]
        exact .digits (by simpa using he) hsign hdigits
      · cases h
  · intro h
    cases h with
    | none => rfl
    | @digits e sign cs he hsign h =>
      have hhead {x : Char} (hx : x.isDigit = false) : cs.head? ≠ some x := by
        simpa using @IsDigits.head?_ne cs [] h x hx
      rw [skipExponent?, if_pos (by simpa using he),
        skipSign_append hsign (hhead (by decide)) (hhead (by decide))]
      simpa using @skipDigits?_append cs [] h (by simp [EndsDigits])

theorem exists_skipMinus (cs : List Char) : ∃ sign ∈ [[], ['-']], cs = sign ++ skipMinus cs := by
  unfold skipMinus
  split
  · exact ⟨['-'], by simp, rfl⟩
  · exact ⟨[], by simp, rfl⟩

theorem skipMinus_append {sign : List Char} (hsign : sign ∈ [[], ['-']])
    (hminus : cs.head? ≠ some '-') : skipMinus (sign ++ cs) = cs := by
  simp only [List.mem_cons, List.not_mem_nil, or_false] at hsign
  rcases hsign with rfl | rfl
  · rw [List.nil_append]
    unfold skipMinus
    split
    · exact absurd rfl hminus
    · rfl
  · rfl

/-- What may follow a fraction. -/
theorem IsExponent.ends (h : IsExponent cs) : EndsDigits cs ∧ cs.head? ≠ some '.' := by
  cases h with
  | none => simp [EndsDigits]
  | @digits e sign cs he hsign h =>
    simp only [List.mem_cons, List.not_mem_nil, or_false] at he
    rcases he with rfl | rfl <;> simp [EndsDigits]

theorem IsFraction.endsDigits (h : IsFraction cs) (hrest : EndsDigits rest) :
    EndsDigits (cs ++ rest) := by
  cases h with
  | none => exact hrest
  | digits h => simp [EndsDigits]

/-- **What is told to be a number is a number.** -/
theorem isNumber_iff : isNumber cs = true ↔ IsNumber cs := by
  rw [isNumber, beq_iff_eq]
  constructor
  · intro h
    obtain ⟨afterFraction, hskip, hexponent⟩ := Option.bind_eq_some_iff.1 h
    obtain ⟨afterWhole, hskip, hskip'⟩ := Option.bind_eq_some_iff.1 hskip
    obtain ⟨sign, hsign, hcs⟩ := exists_skipMinus cs
    obtain ⟨whole, hwhole, heq⟩ := exists_of_skipWhole? hskip
    obtain ⟨fraction, hfraction, rfl⟩ := exists_of_skipFraction? hskip'
    rw [hcs, heq]
    exact .mk hsign hwhole hfraction (skipExponent?_eq_nil_iff.1 hexponent)
  · rintro ⟨hsign, hwhole, hfraction, hexponent⟩
    obtain ⟨hends, hpoint⟩ := hexponent.ends
    rw [skipMinus_append hsign (hwhole.head?_ne (by decide)),
      skipWhole?_append hwhole (hfraction.endsDigits hends), Option.bind_some,
      skipFraction?_append hfraction hends hpoint, Option.bind_some,
      skipExponent?_eq_nil_iff.2 hexponent]

end

/-! ## Words and numbers -/

/-- The value of a word or a number. -/
def bare? (cs : List Char) : Option Datum :=
  if cs = "null".toList then some .null
  else if cs = "true".toList then some (.bool true)
  else if cs = "false".toList then some (.bool false)
  else if isNumber cs then some (.number (String.ofList cs))
  else none

/-- Whether a character may be in a word or a number. -/
def isBareChar (c : Char) : Bool := c.isAlphanum || c == '-' || c == '+' || c == '.'

section

variable {cs : List Char} {v : Datum}

theorem bare?_eq_some_iff : bare? cs = some v ↔ IsBare cs v := by
  have hwords : isNumber "null".toList = false ∧ isNumber "true".toList = false ∧
      isNumber "false".toList = false := by decide
  constructor
  · intro h
    unfold bare? at h
    split at h
    · rename_i hcs
      obtain rfl := Option.some.inj h
      exact hcs ▸ .nullWord
    split at h
    · rename_i hcs
      obtain rfl := Option.some.inj h
      exact hcs ▸ .trueWord
    split at h
    · rename_i hcs
      obtain rfl := Option.some.inj h
      exact hcs ▸ .falseWord
    split at h
    · rename_i hnumber
      obtain rfl := Option.some.inj h
      exact .number (isNumber_iff.1 hnumber)
    · cases h
  · intro h
    cases h with
    | nullWord => rfl
    | trueWord => rfl
    | falseWord => rfl
    | number h =>
      have hnumber := isNumber_iff.2 h
      have hne {word : List Char} (hword : isNumber word = false) : cs ≠ word := by
        rintro rfl
        simp [hnumber] at hword
      rw [bare?, if_neg (hne hwords.1), if_neg (hne hwords.2.1), if_neg (hne hwords.2.2),
        if_pos hnumber]

theorem IsDigits.isBareChar (h : IsDigits cs) : ∀ c ∈ cs, isBareChar c = true := by
  intro c hc
  simp [Json.isBareChar, Char.isAlphanum, h.2 c hc]

theorem IsWhole.isBareChar (h : IsWhole cs) : ∀ c ∈ cs, isBareChar c = true := by
  cases h with
  | zero => decide
  | digits h => exact h.isBareChar

theorem IsFraction.isBareChar (h : IsFraction cs) : ∀ c ∈ cs, isBareChar c = true := by
  cases h with
  | none => simp
  | digits h => exact List.forall_mem_cons.2 ⟨by decide, h.isBareChar⟩

theorem IsExponent.isBareChar (h : IsExponent cs) : ∀ c ∈ cs, isBareChar c = true := by
  cases h with
  | none => simp
  | @digits e sign cs he hsign h =>
    have hmarks : (∀ e ∈ ['e', 'E'], Json.isBareChar e = true) ∧
        ∀ sign ∈ [[], ['+'], ['-']], ∀ c ∈ sign, Json.isBareChar c = true := by decide
    exact List.forall_mem_cons.2 ⟨hmarks.1 e he,
      List.forall_mem_append.2 ⟨hmarks.2 sign hsign, h.isBareChar⟩⟩

/-- A number is made of characters of its own. -/
theorem IsNumber.isBareChar (h : IsNumber cs) : ∀ c ∈ cs, isBareChar c = true := by
  obtain ⟨hsign, hwhole, hfraction, hexponent⟩ := h
  have hminus : ∀ sign ∈ [[], ['-']], ∀ c ∈ sign, Json.isBareChar c = true := by decide
  simp only [List.forall_mem_append]
  exact ⟨hminus _ hsign, hwhole.isBareChar, hfraction.isBareChar, hexponent.isBareChar⟩

theorem IsNumber.ne_nil (h : IsNumber cs) : cs ≠ [] := by
  rintro rfl
  exact absurd (isNumber_iff.2 h) (by decide)

theorem IsBare.ne_nil (h : IsBare cs v) : cs ≠ [] := by
  cases h with
  | nullWord => decide
  | trueWord => decide
  | falseWord => decide
  | number h => exact h.ne_nil

theorem IsBare.isBareChar (h : IsBare cs v) : ∀ c ∈ cs, isBareChar c = true := by
  cases h with
  | nullWord => decide
  | trueWord => decide
  | falseWord => decide
  | number h => exact h.isBareChar

end

end Codebook.Json
