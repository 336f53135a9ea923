import Codebook.Proofs.Text.Ascii
import Codebook.Proofs.Text.Blank
import Codebook.Sql.Reading

/-!
# Reading a text piece by piece

`Reads d cs ls` says that the lexemes of a text are `ls`, with as many characters of fuel as one
likes.  It is built from the end of a text to its front: each lemma here puts one more piece before
a text that has been read.

What is here: blanks, words, periods, and a semicolon.
-/

set_option autoImplicit false

namespace Codebook.Sql

open Codebook.Text

/-- The lexemes of a text are these, however much fuel there is beyond its length. -/
def Reads (d : Dialect) (cs : List Char) (ls : List Lexeme) : Prop :=
  ∀ fuel, cs.length ≤ fuel → Lexeme.scanFrom d fuel cs = .ok ls

namespace Reads

variable {d : Dialect} {cs rest : List Char} {ls : List Lexeme}

theorem lexemes_eq (h : Reads d cs ls) : lexemes d cs = .ok ls := by
  rw [lexemes, Lexeme.scan, h cs.length (Nat.le_refl _)]

theorem nil (d : Dialect) : Reads d [] [] := by
  intro fuel _
  cases fuel <;> rfl

/-- One more lexeme at the front. -/
theorem cons {c : Char} {l : Option Lexeme} (hone : readOne d c cs = .ok (l, rest))
    (hlength : rest.length ≤ cs.length) (h : Reads d rest ls) :
    Reads d (c :: cs) (l.toList ++ ls) := by
  intro fuel hfuel
  obtain ⟨fuel, rfl⟩ : ∃ n, fuel = n + 1 := ⟨fuel - 1, by rw [List.length_cons] at hfuel; omega⟩
  rw [List.length_cons] at hfuel
  simp only [Lexeme.scanFrom, hone, h fuel (by omega)]

theorem space (h : Reads d rest ls) : Reads d (' ' :: rest) ls :=
  cons (l := none) rfl (Nat.le_refl _) h

theorem semicolon (d : Dialect) : Reads d [';'] [.other] := by
  refine cons (l := some .other) ?_ (Nat.le_refl _) (nil d)
  cases d <;> rfl

end Reads

/-! ## Words -/

/-- A letter of ASCII or an underscore. -/
def IsWordHead (c : Char) : Prop := c.isAlpha = true ∨ c = '_'

theorem IsWordHead.ne {c x : Char} (hc : IsWordHead c) (hx : x.isAlpha = false) (hx' : x ≠ '_') :
    c ≠ x := by
  rintro rfl
  rcases hc with h | h
  · rw [h] at hx; cases hx
  · exact hx' h

theorem IsWordHead.toNat_lt_128 {c : Char} (h : IsWordHead c) : c.toNat < 128 := by
  refine toNat_lt_128_of_isAlphanum (h.imp_left fun halpha => ?_)
  rw [Char.isAlphanum, halpha, Bool.true_or]

theorem isAlphabetic_of_isAlpha {c : Char} (h : c.isAlpha = true) : isAlphabetic c = true := by
  have hlt : c.toNat < 0x80 := IsWordHead.toNat_lt_128 (.inl h)
  rw [isAlphabetic, if_pos hlt, h]

theorem isWordStart_of_isWordHead (d : Dialect) {c : Char} (h : IsWordHead c) :
    d.isWordStart c = true := by
  rcases h with h | rfl
  · cases d <;> simp [Dialect.isWordStart, isAlphabetic_of_isAlpha h]
  · cases d <;> decide

theorem isWordPart_of_isWordHead (d : Dialect) {c : Char} (h : IsWordHead c) :
    d.isWordPart c = true := by
  cases d with
  | postgreSql =>
    rcases h with h | rfl
    · simp [Dialect.isWordPart, isAlphabetic_of_isAlpha h]
    · decide
  | mySql => simp [Dialect.isWordPart, isWordStart_of_isWordHead .mySql h]

theorem isWordPart_of_isDigit (d : Dialect) {c : Char} (h : c.isDigit = true) :
    d.isWordPart c = true := by
  cases d <;> simp [Dialect.isWordPart, h]

theorem isDigit_of_isWordHead {c : Char} (h : IsWordHead c) : c.isDigit = false := by
  have hall : ∀ n < 128, ((Char.ofNat n).isAlpha = true ∨ Char.ofNat n = '_') →
      (Char.ofNat n).isDigit = false := by decide
  exact forall_of_lt_128 (p := fun c => c.isAlpha = true ∨ c = '_' → c.isDigit = false) hall
    h.toNat_lt_128 h

/-- A letter or underscore starts a word, unless it is the letter of a quoted text. -/
theorem readOne_of_isWordHead (d : Dialect) {c : Char} {rest : List Char} (hc : IsWordHead c)
    (hquote : ∀ more, rest ≠ '\'' :: more) (hdouble : ∀ more, rest ≠ '"' :: more)
    (hand : ∀ more, rest ≠ '&' :: more) :
    readOne d c rest = .ok (some (readWord d [c] rest).1, (readWord d [c] rest).2) := by
  have hsymbol : "-/|=!<>:&^#~@?%".toList.contains c = false := by
    rw [← Bool.not_eq_true, List.contains_iff_mem]
    intro hmem
    have hall : ∀ x ∈ "-/|=!<>:&^#~@?%".toList, x.isAlpha = false ∧ x ≠ '_' := by decide
    exact hc.ne (hall c hmem).1 (hall c hmem).2 rfl
  have hname : c ≠ d.nameMark := by cases d <;> exact hc.ne (by decide) (by decide)
  unfold readOne
  simp only [beq_iff_eq, Bool.or_eq_true, isDigit_of_isWordHead hc, hsymbol, hname,
    isWordStart_of_isWordHead d hc, hc.ne (x := ' ') rfl (by decide),
    hc.ne (x := '\t') rfl (by decide), hc.ne (x := '\n') rfl (by decide),
    hc.ne (x := '\r') rfl (by decide), hc.ne (x := '\'') rfl (by decide),
    hc.ne (x := '"') rfl (by decide), hc.ne (x := '.') rfl (by decide), or_self, if_false, if_true,
    Bool.false_eq_true]
  -- the letters that may start a quoted text, which does not follow here
  split
  · rfl
  split
  · rfl
  split
  · rfl
  split
  · split
    · exact (hand _ rfl).elim
    · rfl
  split
  · rfl
  · rfl

/-- A word of ASCII: letters, digits and underscores. -/
def IsWord (cs : List Char) : Prop := cs ≠ [] ∧ ∀ c ∈ cs, c.isAlphanum = true ∨ c = '_'

/-- A word that is no number: it does not start with a digit. -/
def IsIdentifier (cs : List Char) : Prop :=
  IsWord cs ∧ ∀ c ∈ cs.head?, c.isDigit = false

/-- A word that starts with digits and is no number: what follows the digits starts no exponent, and
behind a zero alone no hexadecimal digits. -/
def IsNumbered (cs : List Char) : Prop :=
  IsWord cs ∧ cs.takeWhile Char.isDigit ≠ [] ∧ cs.dropWhile Char.isDigit ≠ [] ∧
    ∀ c ∈ (cs.dropWhile Char.isDigit).head?,
      c ≠ 'e' ∧ c ≠ 'E' ∧ (cs.takeWhile Char.isDigit = ['0'] → c ≠ 'x')

instance : DecidablePred IsWord := fun cs =>
  inferInstanceAs (Decidable (cs ≠ [] ∧ ∀ c ∈ cs, c.isAlphanum = true ∨ c = '_'))

instance : DecidablePred IsIdentifier := fun cs =>
  inferInstanceAs (Decidable (IsWord cs ∧ ∀ c ∈ cs.head?, c.isDigit = false))

instance : DecidablePred IsNumbered := fun cs =>
  inferInstanceAs (Decidable (IsWord cs ∧ cs.takeWhile Char.isDigit ≠ [] ∧
    cs.dropWhile Char.isDigit ≠ [] ∧ ∀ c ∈ (cs.dropWhile Char.isDigit).head?,
      c ≠ 'e' ∧ c ≠ 'E' ∧ (cs.takeWhile Char.isDigit = ['0'] → c ≠ 'x')))

/-- A word has no blanks, no marks, and no punctuation. -/
theorem isPlain_of_isWord {cs : List Char} (h : IsWord cs) {c : Char} (hc : c ∈ cs) :
    isBlank c = false ∧ isQuoteMark c = false ∧ c ∉ [',', '(', ')', '['] := by
  have hall : ∀ n < 128, ((Char.ofNat n).isAlphanum = true ∨ Char.ofNat n = '_') →
      isBlank (Char.ofNat n) = false ∧ isQuoteMark (Char.ofNat n) = false ∧
        Char.ofNat n ∉ [',', '(', ')', '['] := by decide
  exact forall_of_lt_128 (p := fun c => c.isAlphanum = true ∨ c = '_' →
    isBlank c = false ∧ isQuoteMark c = false ∧ c ∉ [',', '(', ')', '[']) hall
    (toNat_lt_128_of_isAlphanum (h.2 c hc)) (h.2 c hc)

theorem isWordPart_of_isWord (d : Dialect) {cs : List Char} (h : IsWord cs) :
    ∀ c ∈ cs, d.isWordPart c = true := by
  intro c hc
  rcases h.2 c hc with hc | hc
  · rw [Char.isAlphanum, Bool.or_eq_true] at hc
    rcases hc with hc | hc
    · exact isWordPart_of_isWordHead d (.inl hc)
    · exact isWordPart_of_isDigit d hc
  · exact isWordPart_of_isWordHead d (.inr hc)

/-- What a word part runs into: the first character after a word is none of its characters, and
opens no quoted text. -/
def EndsWord (d : Dialect) (rest : List Char) : Prop :=
  ∀ c ∈ rest.head?, d.isWordPart c = false ∧ c ≠ '\'' ∧ c ≠ '"' ∧ c ≠ '&'

theorem endsWord_space (d : Dialect) (rest : List Char) : EndsWord d (' ' :: rest) := by
  intro c hc
  obtain rfl := Option.some.inj hc
  cases d <;> decide

theorem endsWord_period (d : Dialect) (rest : List Char) : EndsWord d ('.' :: rest) := by
  intro c hc
  obtain rfl := Option.some.inj hc
  cases d <;> decide

/-- A word runs to the first character that is no part of it. -/
theorem readWord_append (d : Dialect) (start : List Char) {cs rest : List Char}
    (hcs : ∀ c ∈ cs, d.isWordPart c = true) (hrest : EndsWord d rest) :
    readWord d start (cs ++ rest) = (.word (String.ofList (start ++ cs)) none, rest) := by
  have htake : (cs ++ rest).takeWhile d.isWordPart = cs := by
    rw [List.takeWhile_append_of_pos hcs]
    cases rest with
    | nil => simp
    | cons c rest => rw [List.takeWhile_cons_of_neg (by simp [(hrest c rfl).1]), List.append_nil]
  have hdrop : (cs ++ rest).dropWhile d.isWordPart = rest := by
    rw [List.dropWhile_append_of_pos hcs]
    cases rest with
    | nil => rfl
    | cons c rest => rw [List.dropWhile_cons_of_neg (by simp [(hrest c rfl).1])]
  rw [readWord, htake, hdrop]

/-- A word is one lexeme. -/
theorem readOne_word {d : Dialect} {c : Char} {cs rest : List Char} (hcs : IsIdentifier (c :: cs))
    (hrest : EndsWord d rest) :
    readOne d c (cs ++ rest) = .ok (some (.word (String.ofList (c :: cs)) none), rest) := by
  obtain ⟨⟨hne, hall⟩, hdigit⟩ := hcs
  have hpart : ∀ x ∈ c :: cs, d.isWordPart x = true := isWordPart_of_isWord d ⟨hne, hall⟩
  have hhead : IsWordHead c := by
    rcases hall c (by simp) with hc | hc
    · rw [Char.isAlphanum, Bool.or_eq_true, hdigit c rfl] at hc
      exact .inl (hc.resolve_right (by decide))
    · exact .inr hc
  -- nothing that may follow the first letter opens a quoted text
  have hnext : ∀ x more, cs ++ rest = x :: more → x ≠ '\'' ∧ x ≠ '"' ∧ x ≠ '&' := by
    intro x more hx
    cases cs with
    | nil =>
      subst hx
      exact (hrest x rfl).2
    | cons y ys =>
      obtain rfl : y = x := (List.cons.inj hx).1
      have hy := hpart y (by simp)
      refine ⟨?_, ?_, ?_⟩ <;> · rintro rfl; revert hy; cases d <;> decide
  rw [readOne_of_isWordHead d hhead (fun more e => (hnext _ more e).1 rfl)
    (fun more e => (hnext _ more e).2.1 rfl) (fun more e => (hnext _ more e).2.2 rfl),
    readWord_append d [c] (fun x hx => hpart x (List.mem_cons_of_mem _ hx)) hrest]
  rfl

/-- A digit starts what is read as a number. -/
theorem readOne_of_isDigit (d : Dialect) {c : Char} (hc : c.isDigit = true) (rest : List Char) :
    readOne d c rest = .ok (some (readNumber d (c :: rest)).1, (readNumber d (c :: rest)).2) := by
  have hne {x : Char} (hx : x.isDigit = false) : c ≠ x := by
    rintro rfl
    rw [hc] at hx
    cases hx
  have hname : c ≠ d.nameMark := by cases d <;> exact hne (by decide)
  simp [readOne, hc, hname, hne (x := ' ') rfl, hne (x := '\t') rfl, hne (x := '\n') rfl,
    hne (x := '\r') rfl, hne (x := 'b') rfl, hne (x := 'B') rfl, hne (x := 'n') rfl,
    hne (x := 'N') rfl, hne (x := 'e') rfl, hne (x := 'E') rfl, hne (x := 'u') rfl,
    hne (x := 'U') rfl, hne (x := 'x') rfl, hne (x := 'X') rfl, hne (x := '\'') rfl,
    hne (x := '"') rfl]

/-- Where the digits of such a word end. -/
theorem IsNumbered.exists_digits {cs : List Char} (h : IsNumbered cs) :
    ∃ digits c more, cs = digits ++ c :: more ∧ (∀ x ∈ digits, x.isDigit = true) ∧
      c.isDigit = false ∧ c ≠ 'e' ∧ c ≠ 'E' ∧ (digits = ['0'] → c ≠ 'x') := by
  obtain ⟨-, -, hne, hhead⟩ := h
  obtain ⟨c, more, hmore⟩ := List.exists_cons_of_ne_nil hne
  have hdigit := List.head?_dropWhile_not Char.isDigit cs
  rw [hmore] at hdigit
  refine ⟨cs.takeWhile Char.isDigit, c, more, ?_, List.all_eq_true.1 List.all_takeWhile, hdigit,
    hhead c (List.head?_eq_some_iff.2 ⟨more, hmore⟩)⟩
  rw [← hmore, List.takeWhile_append_dropWhile]

/-- In MySQL a word that starts with digits is one lexeme too. -/
theorem readNumber_of_isNumbered {cs rest : List Char} (hcs : IsNumbered cs)
    (hrest : EndsWord .mySql rest) :
    readNumber .mySql (cs ++ rest) = (.word (String.ofList cs) none, rest) := by
  have hword := hcs.1
  obtain ⟨digits, c, more, rfl, hall, hdigit, he, hE, hx⟩ := hcs.exists_digits
  -- the digits end at this character, and what follows them continues the word
  have htake : (digits ++ c :: (more ++ rest)).takeWhile Char.isDigit = digits := by
    rw [List.takeWhile_append_of_pos hall, List.takeWhile_cons_of_neg (by simp [hdigit]),
      List.append_nil]
  have hdrop : (digits ++ c :: (more ++ rest)).dropWhile Char.isDigit = c :: (more ++ rest) := by
    rw [List.dropWhile_append_of_pos hall, List.dropWhile_cons_of_neg (by simp [hdigit])]
  have hpart : ∀ x ∈ c :: more, Dialect.mySql.isWordPart x = true := fun x hx =>
    isWordPart_of_isWord .mySql hword x (List.mem_append_right _ hx)
  have hpoint : c ≠ '.' := by
    rintro rfl
    exact absurd (hpart '.' List.mem_cons_self) (by decide)
  have hsingle : digits ≠ ['.'] := by
    rintro rfl
    exact absurd (hall '.' List.mem_cons_self) (by decide)
  have hread := readWord_append .mySql digits hpart hrest
  rw [List.append_assoc, List.cons_append, readNumber]
  simp only [htake, hdrop]
  split
  · rename_i heq
    exact absurd (List.cons.inj heq).1 (hx rfl)
  · simpa [readWord, hpoint, hdigit, he, hE, hpart c List.mem_cons_self, hsingle] using hread

/-- A period is one lexeme, if no digit follows. -/
theorem readOne_period (d : Dialect) {rest : List Char}
    (hrest : ∀ c ∈ rest.head?, c.isDigit = false) :
    readOne d '.' rest = .ok (some .period, rest) := by
  have htake : rest.takeWhile Char.isDigit = [] := by
    cases rest with
    | nil => rfl
    | cons c rest => rw [List.takeWhile_cons_of_neg (by simp [hrest c rfl])]
  have hdrop : rest.dropWhile Char.isDigit = rest := by
    cases rest with
    | nil => rfl
    | cons c rest => rw [List.dropWhile_cons_of_neg (by simp [hrest c rfl])]
  have hnumber : readNumber d ('.' :: rest) = (.period, rest) := by
    have hwhole : ('.' :: rest).takeWhile Char.isDigit = [] := rfl
    have hafter : ('.' :: rest).dropWhile Char.isDigit = '.' :: rest := rfl
    rw [readNumber]
    simp [hwhole, hafter, htake, hdrop]
  cases d <;> simp [readOne, hnumber, Dialect.nameMark]

namespace Reads

variable {d : Dialect} {cs rest : List Char} {ls : List Lexeme}

/-- A word at the front. -/
theorem word (hcs : IsIdentifier cs) (hrest : EndsWord d rest) (h : Reads d rest ls) :
    Reads d (cs ++ rest) (.word (String.ofList cs) none :: ls) := by
  obtain ⟨c, cs, rfl⟩ := List.exists_cons_of_ne_nil hcs.1.1
  exact cons (readOne_word hcs hrest) (by simp) h

/-- In MySQL a word that starts with digits at the front. -/
theorem numbered (hcs : IsNumbered cs) (hrest : EndsWord .mySql rest) (h : Reads .mySql rest ls) :
    Reads .mySql (cs ++ rest) (.word (String.ofList cs) none :: ls) := by
  obtain ⟨c, cs, rfl⟩ := List.exists_cons_of_ne_nil hcs.1.1
  have hdigit : c.isDigit = true :=
    Decidable.byContradiction fun hnot => hcs.2.1 (List.takeWhile_cons_of_neg hnot)
  have hone := readOne_of_isDigit .mySql hdigit (cs ++ rest)
  rw [← List.cons_append, readNumber_of_isNumbered hcs hrest] at hone
  exact cons hone (by simp) h

/-- A period at the front, if no digit follows. -/
theorem period (hrest : ∀ c ∈ rest.head?, c.isDigit = false) (h : Reads d rest ls) :
    Reads d ('.' :: rest) (.period :: ls) :=
  cons (readOne_period d hrest) (Nat.le_refl _) h

end Reads

end Codebook.Sql
