import Codebook.Proofs.Sql.Lexing

/-!
# Keywords and dotted names

The name of a table or column is written in segments with periods between them.  How a segment is
written is left open here: as a word, or in quotes.  All that counts is that it is read as one
lexeme, and that behind a period it does not start with a digit, since a period before a digit
starts a number.

What is here: `Reads.keywords`, the lexemes of keywords; `ReadsAs` and `ReadsSegment`;
`Reads.dotted`, the lexemes of a dotted name; `IsUnquotedName`, the names without quotes; and
`objectName_dotted`, the segments of a name.
-/

set_option autoImplicit false

namespace Codebook.Sql

open Codebook.Text

/-! ## Keywords -/

/-- Keywords with a space after each. -/
def keywords (ks : List String) : List Char := ks.flatMap fun k => k.toList ++ [' ']

theorem keywords_cons_append (k : String) (ks : List String) (rest : List Char) :
    keywords (k :: ks) ++ rest = k.toList ++ ' ' :: (keywords ks ++ rest) := by
  rw [keywords, List.flatMap_cons, List.append_assoc, List.append_assoc]
  rfl

/-- Keywords are read as words. -/
theorem Reads.keywords {d : Dialect} {ks : List String} (hks : ∀ k ∈ ks, IsIdentifier k.toList)
    {rest : List Char} {ls : List Lexeme} (h : Reads d rest ls) :
    Reads d (Sql.keywords ks ++ rest) (ks.map (.word · none) ++ ls) := by
  induction ks with
  | nil => exact h
  | cons k ks ih =>
    have htail := ih fun x hx => hks x (List.mem_cons_of_mem _ hx)
    have hword := Reads.word (hks k List.mem_cons_self) (endsWord_space d _) htail.space
    rwa [String.ofList_toList, ← keywords_cons_append] at hword

/-- Keywords are found where they stand. -/
theorem afterKeywords?_map (ks : List String) (rest : List Lexeme) :
    afterKeywords? ks (ks.map (.word · none) ++ rest) = some rest := by
  induction ks with
  | nil => rfl
  | cons k ks ih =>
    have hk : Lexeme.isKeyword k (.word k none) = true := beq_self_eq_true _
    rw [List.map_cons, List.cons_append, afterKeywords?, hk, if_pos rfl, ih]

/-! ## Names -/

/-- What may follow a segment: a space, a period, or nothing. -/
def EndsSegment (rest : List Char) : Prop := ∀ c ∈ rest.head?, c = ' ' ∨ c = '.'

theorem endsSegment_space (rest : List Char) : EndsSegment (' ' :: rest) := by
  intro c hc
  exact .inl (Option.some.inj hc).symm

/-- A text is read as one lexeme wherever a segment may end after it. -/
def ReadsAs (d : Dialect) (text : List Char) (l : Lexeme) : Prop :=
  ∀ rest ls, EndsSegment rest → Reads d rest ls → Reads d (text ++ rest) (l :: ls)

/-- A text that is read as one lexeme behind a period too. -/
structure ReadsSegment (d : Dialect) (text : List Char) (l : Lexeme) : Prop where
  /-- It does not start with a digit, and there is something to start with. -/
  head : ∃ c cs, text = c :: cs ∧ c.isDigit = false
  /-- It is read as that lexeme. -/
  reads : ReadsAs d text l

theorem endsWord_of_endsSegment (d : Dialect) {rest : List Char} (h : EndsSegment rest) :
    EndsWord d rest := by
  cases rest with
  | nil => simp [EndsWord]
  | cons c rest =>
    rcases h c rfl with rfl | rfl
    · exact endsWord_space d rest
    · exact endsWord_period d rest

/-- A word is a segment. -/
theorem IsIdentifier.readsSegment (d : Dialect) {cs : List Char} (h : IsIdentifier cs) :
    ReadsSegment d cs (.word (String.ofList cs) none) := by
  refine ⟨?_, fun rest ls hrest hls => Reads.word h (endsWord_of_endsSegment d hrest) hls⟩
  obtain ⟨c, cs, rfl⟩ := List.exists_cons_of_ne_nil h.1.1
  exact ⟨c, cs, rfl, h.2 c rfl⟩

/-- The lexemes of a dotted name, each segment with the mark around it. -/
def dotted (mark : Option Char) : List String → List Lexeme
  | [] => []
  | [name] => [.word name mark]
  | name :: next :: names => .word name mark :: .period :: dotted mark (next :: names)

/-- A name whose segments are read as words is read as a dotted name.  All but the first one stand
behind a period. -/
theorem Reads.dotted {d : Dialect} {mark : Option Char} (write : List Char → List Char)
    {first : List Char} {later : List (List Char)}
    (hfirst : ReadsAs d (write first) (.word (String.ofList first) mark))
    (hlater : ∀ n ∈ later, ReadsSegment d (write n) (.word (String.ofList n) mark))
    {rest : List Char} {ls : List Lexeme} (hrest : EndsSegment rest) (h : Reads d rest ls) :
    Reads d (joinWith ['.'] ((first :: later).map write) ++ rest)
      (Sql.dotted mark ((first :: later).map String.ofList) ++ ls) := by
  induction later generalizing first with
  | nil => exact hfirst rest ls hrest h
  | cons n later ih =>
    have hn := hlater n List.mem_cons_self
    obtain ⟨c, cs, hwrite, hdigit⟩ := hn.head
    have hhead : ∀ x ∈ (joinWith ['.'] ((n :: later).map write) ++ rest).head?,
        x.isDigit = false := by
      intro x hx
      have : c = x := by cases later <;> simpa [joinWith, hwrite] using hx
      exact this ▸ hdigit
    have htail := ih hn.reads fun x hx => hlater x (List.mem_cons_of_mem _ hx)
    rw [List.map_cons, List.map_cons, joinWith, List.append_assoc, List.append_assoc]
    · exact hfirst _ _ (fun x hx => .inr (Option.some.inj hx).symm) (.period hhead htail)
    · simp

/-! ## Names without quotes -/

/-- Where a name starts without quotes: with an identifier, or in MySQL with a word that starts with
digits. -/
def StartsName (d : Dialect) (cs : List Char) : Prop := IsIdentifier cs ∨ d = .mySql ∧ IsNumbered cs

instance (d : Dialect) : DecidablePred (StartsName d) := fun cs =>
  inferInstanceAs (Decidable (IsIdentifier cs ∨ d = .mySql ∧ IsNumbered cs))

/-- The segments of a name without quotes.  Behind a period digits start a number. -/
def IsUnquotedName (d : Dialect) : List (List Char) → Prop
  | [] => False
  | first :: later => StartsName d first ∧ ∀ s ∈ later, IsIdentifier s

instance (d : Dialect) : DecidablePred (IsUnquotedName d)
  | [] => inferInstanceAs (Decidable False)
  | first :: later => inferInstanceAs (Decidable (StartsName d first ∧ ∀ s ∈ later, IsIdentifier s))

section

variable {d : Dialect} {cs : List Char} {segments : List (List Char)}

theorem IsIdentifier.isUnquotedName (h : IsIdentifier cs) : IsUnquotedName d [cs] :=
  ⟨.inl h, by simp⟩

theorem StartsName.readsAs (h : StartsName d cs) : ReadsAs d cs (.word (String.ofList cs) none) := by
  rcases h with h | ⟨rfl, h⟩
  · exact (h.readsSegment d).reads
  · exact fun rest ls hrest hls => .numbered h (endsWord_of_endsSegment .mySql hrest) hls

namespace IsUnquotedName

/-- All segments are words. -/
theorem isWord (h : IsUnquotedName d segments) : ∀ s ∈ segments, IsWord s := by
  cases segments with
  | nil => exact h.elim
  | cons first later =>
    refine List.forall_mem_cons.2 ⟨?_, fun s hs => (h.2 s hs).1⟩
    rcases h.1 with hfirst | ⟨-, hfirst⟩ <;> exact hfirst.1

theorem reads (h : IsUnquotedName d segments) {rest : List Char} {ls : List Lexeme}
    (hrest : EndsSegment rest) (hls : Reads d rest ls) :
    Reads d (joinWith ['.'] segments ++ rest) (dotted none (segments.map String.ofList) ++ ls) := by
  cases segments with
  | nil => exact h.elim
  | cons first later =>
    have hread := Reads.dotted id h.1.readsAs (fun s hs => (h.2 s hs).readsSegment d) hrest hls
    rwa [List.map_id] at hread

end IsUnquotedName

end

/-! ## Segments -/

/-- The segments of a dotted name, and what follows it. -/
theorem objectName_dotted (mark : Option Char) {names : List String} (hne : names ≠ [])
    {rest : List Lexeme} (hrest : rest.head? ≠ some .period) :
    objectName (dotted mark names ++ rest) = (names, rest) := by
  induction names with
  | nil => exact absurd rfl hne
  | cons n names ih =>
    cases names with
    | nil =>
      cases rest with
      | nil => rfl
      | cons l rest =>
        cases l with
        | period => exact absurd rfl hrest
        | word | text | other => rfl
    | cons m names =>
      rw [dotted, List.cons_append, List.cons_append, objectName, ih (List.cons_ne_nil _ _)]

end Codebook.Sql
