import Codebook.Proofs.Sql.Literal

/-!
# What words are made of

The lexer takes a text from its front and never puts anything back that was not there.  The text of
a string may have characters that are only escaped in the source; a word has none, since names in
quotes know of no escapes.  So the characters of a word are characters of the text.

What is here: `LeavesEnd` and `IsTaken`, what each part of the lexer keeps; `readsOff_readOne`, that
every lexeme keeps it; `letters_subset`, which says it of all lexemes of a text; and
`subset_of_read`, which says it of the table that a statement is about.
-/

set_option autoImplicit false

namespace Codebook.Sql

open Codebook.Text

variable {d : Dialect} {c : Char} {cs ds rest : List Char}

/-! ## What is left -/

/-- A text that is read leaves an end of what was there. -/
def LeavesEnd (cs : List Char) (r : Option (List Char × List Char)) : Prop :=
  ∀ value rest, r = some (value, rest) → rest <:+ cs

namespace LeavesEnd

theorem mono {r : Option (List Char × List Char)} (h : LeavesEnd cs r) (hds : cs <:+ ds) :
    LeavesEnd ds r := fun value rest hr => (h value rest hr).trans hds

theorem cons {r : Option (List Char × List Char)} (h : LeavesEnd cs r) (c : Char) :
    LeavesEnd (c :: cs) r := h.mono (List.suffix_cons c cs)

theorem none (cs : List Char) : LeavesEnd cs .none := fun _ _ hr => by cases hr

theorem some {value : List Char} (hrest : rest <:+ cs) : LeavesEnd cs (.some (value, rest)) := by
  rintro _ _ ⟨⟩
  exact hrest

theorem map_consRead {r : Option (List Char × List Char)} (h : LeavesEnd cs r) (c : Char) :
    LeavesEnd cs (r.map (consRead c)) := by
  intro value rest hr
  obtain ⟨⟨value', rest'⟩, hread, heq⟩ := Option.map_eq_some_iff.1 hr
  obtain ⟨-, rfl⟩ := Prod.mk.inj heq
  exact h _ _ hread

theorem consEscape {r : Option (List Char × List Char)} (h : LeavesEnd cs r) (c : Option Char) :
    LeavesEnd cs (consEscape c r) := by
  cases c with
  | none => exact .none cs
  | some c =>
    cases r with
    | none => exact .none cs
    | some r => exact h.map_consRead c

end LeavesEnd

theorem leavesEnd_readQuoted (mark : Char) (escapes : Bool) (cs : List Char) :
    LeavesEnd cs (readQuoted mark escapes cs) := by
  induction cs using readQuoted.induct mark escapes with
  | case1 => exact .none _
  | case2 =>
    rw [readQuoted_cons, if_pos rfl]
    exact .some (List.nil_suffix)
  | case3 ds ih =>
    rw [readQuoted_cons, if_pos rfl]
    simp only [if_true]
    exact ((ih.cons _).cons _).map_consRead mark
  | case4 d ds hd =>
    rw [readQuoted_cons, if_pos rfl]
    simp only [if_neg hd]
    exact .some (List.suffix_cons mark _)
  | case5 c hc hescape =>
    rw [readQuoted_cons, if_neg hc, if_pos hescape]
    exact .none _
  | case6 c hc hescape d ds ih =>
    rw [readQuoted_cons, if_neg hc, if_pos hescape]
    exact ((ih.cons d).cons c).map_consRead _
  | case7 c cs hc hescape ih =>
    rw [readQuoted_cons, if_neg hc, if_neg hescape]
    exact (ih.cons c).map_consRead c

/-- Without escapes, a text in quotes is made of characters that were there. -/
theorem subset_of_readQuoted {mark : Char} {value : List Char}
    (h : readQuoted mark false cs = some (value, rest)) : value ⊆ cs := by
  have hmap {more : List Char} (ih : ∀ {value}, readQuoted mark false more = some (value, rest) →
      value ⊆ more) {c : Char} {value : List Char}
      (hread : (readQuoted mark false more).map (consRead c) = some (value, rest)) :
      value ⊆ c :: more := by
    obtain ⟨⟨value', rest'⟩, hmore, heq⟩ := Option.map_eq_some_iff.1 hread
    obtain ⟨rfl, rfl⟩ := Prod.mk.inj heq
    exact List.cons_subset_cons c (ih hmore)
  induction cs using readQuoted.induct mark false generalizing value with
  | case1 => cases h
  | case2 =>
    rw [readQuoted_cons, if_pos rfl] at h
    cases h
    exact List.nil_subset _
  | case3 ds ih =>
    rw [readQuoted_cons, if_pos rfl] at h
    simp only [if_true] at h
    exact List.Subset.trans (hmap ih h) (List.subset_cons_self _ _)
  | case4 d ds hd =>
    rw [readQuoted_cons, if_pos rfl] at h
    simp only [if_neg hd] at h
    cases h
    exact List.nil_subset _
  | case5 c hc hescape => exact absurd hescape.1 (by decide)
  | case6 c hc hescape d ds ih => exact absurd hescape.1 (by decide)
  | case7 c cs hc hescape ih =>
    rw [readQuoted_cons, if_neg hc, if_neg hescape] at h
    exact hmap ih h

theorem leavesEnd_readEscaped (cs : List Char) : LeavesEnd cs (readEscaped cs) := by
  fun_induction readEscaped cs <;>
    first
    | exact .none _
    | exact .some (by simp)
    | exact .mono (.map_consRead ‹_› _) (by simp [List.suffix_cons_iff])
    | exact .mono (.consEscape ‹_› _) (by simp [List.suffix_cons_iff])

theorem suffix_of_readHexDigits {value n : Nat}
    (h : readHexDigits value n cs = .ok (c, rest)) : rest <:+ cs := by
  fun_induction readHexDigits value n cs <;> grind [List.suffix_cons_iff, List.suffix_refl]

theorem suffix_of_skipUnicode {fuel : Nat} (h : skipUnicode fuel cs = .ok rest) : rest <:+ cs := by
  induction fuel generalizing cs with
  | zero => simp [skipUnicode] at h
  | succ fuel ih =>
    have hdigits {n : Nat} {ds : List Char}
        (hread : (readHexDigits 0 n ds >>= fun x => skipUnicode fuel x.2) = .ok rest) :
        rest <:+ ds := by
      cases hd : readHexDigits 0 n ds with
      | error e => simp [hd, bind, Except.bind] at hread
      | ok x =>
        simp only [hd, bind, Except.bind] at hread
        exact (ih hread).trans (suffix_of_readHexDigits hd)
    unfold skipUnicode at h
    split at h
    · cases h
    · cases h
    · rename_i fuel' c cs heq
      obtain rfl := Nat.succ.inj heq
      refine List.IsSuffix.trans ?_ (List.suffix_cons c cs)
      split at h
      · split at h
        · exact (ih h).trans (List.suffix_cons _ _)
        · exact Except.ok.inj h ▸ List.suffix_refl _
      · split at h
        · split at h
          · exact (ih h).trans (List.suffix_cons _ _)
          · exact (hdigits h).trans (List.suffix_cons _ _)
          · exact hdigits h
        · exact ih h

theorem suffix_of_skipDollars (h : skipDollars cs = some rest) : rest <:+ cs := by
  fun_induction skipDollars cs <;> grind [List.suffix_cons_iff, List.suffix_refl]

theorem suffix_of_matchTag {tag : List Char}
    (h : matchTag tag cs = .ok rest ∨ matchTag tag cs = .error rest) : rest <:+ cs := by
  fun_induction matchTag tag cs <;> grind [List.suffix_cons_iff, List.suffix_refl]

theorem suffix_of_skipTagged {tag : List Char} {fuel : Nat}
    (h : skipTagged tag fuel cs = some rest) : rest <:+ cs := by
  induction fuel generalizing cs with
  | zero => simp [skipTagged] at h
  | succ fuel ih => 
    have hdrop := List.dropWhile_suffix (· != '$') (l := cs)
    rw [skipTagged] at h
    split at h
    · cases h
    · rename_i more heq
      have hmore : more <:+ cs := (heq ▸ hdrop) |> (List.suffix_cons _ _).trans
      split at h
      · rename_i hmatch
        obtain rfl := Option.some.inj h
        exact (List.suffix_cons _ _).trans ((suffix_of_matchTag (.inl hmatch)).trans hmore)
      · rename_i hmatch
        exact (ih h).trans ((suffix_of_matchTag (.inl hmatch)).trans hmore)
      · rename_i hmatch
        exact (ih h).trans ((suffix_of_matchTag (.inr hmatch)).trans hmore)

theorem suffix_of_skipDollarValue (h : skipDollarValue cs = .ok rest) : rest <:+ cs := by
  unfold skipDollarValue at h
  split at h
  · split at h
    · rename_i hskip
      obtain rfl := Except.ok.inj h
      exact (suffix_of_skipDollars hskip).trans (List.suffix_cons _ _)
    · cases h
  · have hdrop := List.dropWhile_suffix (fun c => isAlphanumeric c || c == '_') (l := cs)
    dsimp only at h
    split at h
    · rename_i heq
      rw [heq] at hdrop
      split at h
      · rename_i hskip
        obtain rfl := Except.ok.inj h
        exact (suffix_of_skipTagged hskip).trans ((List.suffix_cons _ _).trans hdrop)
      · cases h
    · obtain rfl := Except.ok.inj h
      exact hdrop

theorem skipLineComment_suffix (d : Dialect) (cs : List Char) : skipLineComment d cs <:+ cs := by
  induction cs with
  | nil => exact List.suffix_refl _
  | cons c cs ih =>
    rw [skipLineComment]
    split
    · exact List.suffix_cons c cs
    · exact ih.trans (List.suffix_cons c cs)

theorem suffix_of_skipBlockComment {opened : Nat} {last : Char}
    (h : skipBlockComment opened last cs = .ok rest) : rest <:+ cs := by
  fun_induction skipBlockComment opened last cs <;> grind [List.suffix_cons_iff, List.suffix_refl]

theorem suffix_of_skipExponent? (h : skipExponent? cs = some rest) : rest <:+ cs := by
  have hdigits (ds : List Char) := List.dropWhile_suffix Char.isDigit (l := ds)
  unfold skipExponent? at h
  grind [List.suffix_cons_iff, List.suffix_refl]

/-! ## What is read -/

/-- The characters of a word; other lexemes have none. -/
def Lexeme.letters : Lexeme → List Char
  | word value _ => value.toList
  | _ => []

/-- A lexeme is made of characters that were there, and it leaves an end of what was there. -/
def IsTaken (cs : List Char) (l : Lexeme) (rest : List Char) : Prop :=
  l.letters ⊆ cs ∧ rest <:+ cs

theorem isTaken_readWord (d : Dialect) (start cs : List Char) :
    IsTaken (start ++ cs) (readWord d start cs).1 (readWord d start cs).2 := by
  constructor
  · simp only [readWord, Lexeme.letters, String.toList_ofList]
    exact List.append_subset.2 ⟨List.subset_append_left _ _,
      List.Subset.trans (List.takeWhile_subset _) (List.subset_append_right _ _)⟩
  · exact (List.dropWhile_suffix _).trans (List.suffix_append _ _)

namespace IsTaken

variable {l : Lexeme}

theorem of_suffix (h : IsTaken cs l rest) (hcs : cs <:+ ds) : IsTaken ds l rest :=
  ⟨List.Subset.trans h.1 hcs.subset, h.2.trans hcs⟩

theorem other (h : rest <:+ cs) : IsTaken cs .other rest := ⟨List.nil_subset _, h⟩

theorem period (h : rest <:+ cs) : IsTaken cs .period rest := ⟨List.nil_subset _, h⟩

theorem text {style : TextStyle} {value : String} (h : rest <:+ cs) :
    IsTaken cs (.text style value) rest := ⟨List.nil_subset _, h⟩

end IsTaken

theorem isTaken_readNumber (d : Dialect) (cs : List Char) :
    IsTaken cs (readNumber d cs).1 (readNumber d cs).2 := by
  have hwhole : cs.takeWhile Char.isDigit ⊆ cs := List.takeWhile_subset _
  have hafter : cs.dropWhile Char.isDigit <:+ cs := List.dropWhile_suffix _
  unfold readNumber
  extract_lets whole afterWhole
  change whole ⊆ cs at hwhole
  change afterWhole <:+ cs at hafter
  clear_value whole afterWhole
  split
  · exact .other ((List.dropWhile_suffix _).trans ((List.suffix_cons 'x' _).trans hafter))
  split
  rename_i point afterPoint hpoint
  have hsplit : point ++ afterPoint = afterWhole := by
    split at hpoint <;> (cases hpoint; rfl)
  have hsub : point ++ afterPoint ⊆ cs := hsplit ▸ hafter.subset
  have hrest : afterPoint.dropWhile Char.isDigit <:+ cs :=
    (List.dropWhile_suffix _).trans ((hsplit ▸ List.suffix_append point _).trans hafter)
  have hdigits : whole ++ point ++ afterPoint.takeWhile Char.isDigit ⊆ cs := by
    simp only [List.append_subset] at hsub ⊢
    exact ⟨⟨hwhole, hsub.1⟩, List.Subset.trans (List.takeWhile_subset _) hsub.2⟩
  extract_lets digits rest
  change rest <:+ cs at hrest
  change digits ⊆ cs at hdigits
  clear_value digits rest
  split
  · exact .period hrest
  split
  · rename_i c after
    have hmore : after <:+ cs := (List.suffix_cons c after).trans hrest
    split
    · split
      · rename_i hskip
        exact .other ((List.suffix_cons _ _).trans ((suffix_of_skipExponent? hskip).trans hmore))
      · rename_i hskip
        exact .other ((suffix_of_skipExponent? hskip).trans hmore)
      · exact .other hrest
    split
    · refine ⟨?_, (List.dropWhile_suffix _).trans hrest⟩
      rw [Lexeme.letters, String.toList_ofList]
      exact List.append_subset.2 ⟨hdigits, List.Subset.trans (List.takeWhile_subset _) hrest.subset⟩
    split
    · exact .other hmore
    · exact .other hrest
  · exact .other List.nil_suffix

/-- What is read off a text: what is left ends it, and a word is made of its characters. -/
def ReadsOff (cs : List Char) (r : Except LexicalError (Option Lexeme × List Char)) : Prop :=
  ∀ l rest, r = .ok (l, rest) → IsTaken cs (l.getD .other) rest

namespace ReadsOff

theorem ok {l : Lexeme} (h : IsTaken cs l rest) : ReadsOff cs (.ok (some l, rest)) := by
  rintro _ _ ⟨⟩
  exact h

theorem skipped (h : rest <:+ cs) : ReadsOff cs (.ok (none, rest)) := by
  rintro _ _ ⟨⟩
  exact .other h

theorem error (e : LexicalError) : ReadsOff cs (.error e) := fun _ _ h => by cases h

theorem of_suffix {r : Except LexicalError (Option Lexeme × List Char)} (h : ReadsOff cs r)
    (hcs : cs <:+ ds) : ReadsOff ds r := fun l rest hr => (h l rest hr).of_suffix hcs

theorem ite {p : Prop} [Decidable p] {a b : Except LexicalError (Option Lexeme × List Char)}
    (ha : p → ReadsOff cs a) (hb : ¬p → ReadsOff cs b) : ReadsOff cs (if p then a else b) := by
  split
  · exact ha ‹_›
  · exact hb ‹_›

end ReadsOff

theorem readsOff_readOperator (d : Dialect) (cs : List Char) : ReadsOff cs (readOperator d cs) :=
  .ok (.other (List.dropWhile_suffix _))

theorem readsOff_readWord (d : Dialect) (start cs : List Char) :
    ReadsOff (start ++ cs) (.ok (some (readWord d start cs).1, (readWord d start cs).2)) :=
  .ok (isTaken_readWord d start cs)

theorem readsOff_readAtSign (d : Dialect) (cs : List Char) :
    ReadsOff ('@' :: cs) (readAtSign d cs) := by
  have hall : ReadsOff ('@' :: cs) (.ok (some .other, cs)) := .ok (.other (List.suffix_cons _ _))
  have hrest : ReadsOff ('@' :: cs) (.ok (some .other, cs.drop 1)) :=
    .ok (.other ((List.drop_suffix 1 cs).trans (List.suffix_cons _ _)))
  have hoperator : ReadsOff ('@' :: cs) (readOperator d (cs.drop 1)) :=
    (readsOff_readOperator d _).of_suffix ((List.drop_suffix 1 cs).trans (List.suffix_cons _ _))
  unfold readAtSign
  extract_lets word
  have hword (start rest : List Char) (h : '@' :: cs = start ++ rest) :
      ReadsOff ('@' :: cs) (word start rest) := by
    cases d with
    | postgreSql =>
      have hdrop : start.drop 1 ++ rest <:+ start ++ rest := by
        cases start with
        | nil => exact List.suffix_refl _
        | cons c start => exact List.suffix_cons c _
      exact h ▸ (readsOff_readOperator _ _).of_suffix hdrop
    | mySql => exact h ▸ readsOff_readWord _ start rest
  clear_value word
  split
  · exact hoperator
  · exact hoperator
  · exact hrest
  · exact hword _ _ rfl
  · exact .ok (.other List.nil_suffix)
  · exact .ok (.other List.nil_suffix)
  · exact .ite (fun _ => hall) fun _ => hword _ _ rfl

theorem readsOff_readText (mark : Char) (escapes : Bool) (make : String → Lexeme)
    (hmake : ∀ s, (make s).letters = []) (cs : List Char) :
    ReadsOff cs (readText mark escapes make cs) := by
  unfold readText
  split
  · rename_i hread
    refine .ok ⟨?_, (leavesEnd_readQuoted _ _ _ _ _ hread).trans (List.drop_suffix 1 cs)⟩
    rw [hmake]
    exact List.nil_subset _
  · exact .error _

theorem readsOff_readSymbol (d : Dialect) (c : Char) (cs : List Char) :
    ReadsOff (c :: cs) (readSymbol d c cs) := by
  have hother {rest : List Char} (h : rest <:+ cs) : ReadsOff (c :: cs) (.ok (some .other, rest)) :=
    .ok (.other (h.trans (List.suffix_cons c cs)))
  have hoperator := (readsOff_readOperator d cs).of_suffix (List.suffix_cons c cs)
  have hall := hother (List.suffix_refl cs)
  have hrest := hother (List.drop_suffix 1 cs)
  unfold readSymbol
  split
  case h_1 rest =>
    exact .skipped (((skipLineComment_suffix d _).trans (List.suffix_cons _ _)).trans
      (List.suffix_cons _ _))
  case h_2 rest =>
    cases hskip : skipBlockComment 0 ' ' rest with
    | error e => exact .error e
    | ok rest' =>
      exact .skipped (((suffix_of_skipBlockComment hskip).trans (List.suffix_cons _ _)).trans
        (List.suffix_cons _ _))
  case h_3 rest =>
    split
    · exact .skipped ((skipLineComment_suffix _ _).trans (List.suffix_cons _ _))
    · exact hall
    · exact hoperator
  case h_4 => exact readsOff_readAtSign d cs
  case h_5 rest =>
    split
    · exact hrest
    · exact hother (List.dropWhile_suffix _)
  case h_6 next rest => exact .ite (fun _ => hall) fun _ => hoperator
  case h_7 next more => split <;> assumption
  case h_8 next more => split <;> assumption
  case h_9 next more => split <;> assumption
  case h_10 next more =>
    refine .ite (fun _ => hrest) fun _ => .ite (fun _ => ?_) fun _ => hall
    refine hother (List.IsSuffix.trans ?_ (List.suffix_cons next more))
    grind [List.suffix_refl, List.suffix_cons_iff]
  case h_11 => exact .ite (fun _ => hoperator) fun _ => hall

/-- **What is read off a text.**  Whatever is read next, a word is made of characters that were
there, and what is left ends what was there. -/
theorem readsOff_readOne (d : Dialect) (c : Char) (rest : List Char) :
    ReadsOff (c :: rest) (readOne d c rest) := by
  have hword := readsOff_readWord d [c] rest
  have hcons := List.suffix_cons c rest
  have hother (mark : Char) (escapes : Bool) :
      ReadsOff (c :: rest) (readText mark escapes (fun _ => .other) rest) :=
    (readsOff_readText mark escapes _ (fun _ => rfl) rest).of_suffix hcons
  unfold readOne
  refine .ite (fun _ => .skipped hcons) fun _ => .ite (fun _ => ?bits) fun _ =>
    .ite (fun _ => ?national) fun _ => .ite (fun _ => ?escaped) fun _ => .ite (fun _ => ?unicode)
    fun _ => .ite (fun _ => ?bytes) fun _ => .ite (fun _ => ?plain) fun _ => .ite (fun _ => ?name)
    fun _ => .ite (fun _ => ?double) fun _ => .ite (fun _ => ?number) fun _ =>
    .ite (fun _ => ?symbol) fun _ => .ite (fun _ => hword) fun _ => .ite (fun _ => ?dollar)
    fun _ => .ite (fun _ => .skipped hcons) fun _ => .ok (.other hcons)
  case bits =>
    split
    · exact hother _ _
    · exact hother _ _
    · exact hword
  case national =>
    split
    · exact (readsOff_readText _ _ _ (fun _ => rfl) _).of_suffix hcons
    · exact hword
  case escaped =>
    split
    · split
      · rename_i hread
        exact .ok (.text (((leavesEnd_readEscaped _ _ _ hread).trans (List.suffix_cons _ _)).trans
          hcons))
      · exact .error _
    · exact hword
  case unicode =>
    split
    · rename_i text
      cases hskip : skipUnicode (text.length + 1) text with
      | error e => exact .error e
      | ok rest' =>
        exact .ok (.other ((((suffix_of_skipUnicode hskip).trans (List.suffix_cons _ _)).trans
          (List.suffix_cons _ _)).trans hcons))
    · exact hword
  case bytes =>
    split
    · exact hother _ _
    · exact hword
  case plain => exact readsOff_readText _ _ _ (fun _ => rfl) _
  case name =>
    split
    · rename_i value rest' hread
      refine .ok ⟨?_, (leavesEnd_readQuoted _ _ _ _ _ hread).trans hcons⟩
      rw [Lexeme.letters, String.toList_ofList]
      exact List.Subset.trans (subset_of_readQuoted hread) hcons.subset
    · exact .error _
  case double => exact readsOff_readText _ _ _ (fun _ => rfl) _
  case number => exact .ok (isTaken_readNumber d _)
  case symbol => exact readsOff_readSymbol d c rest
  case dollar =>
    split
    · rename_i hskip
      exact .ok (.other ((suffix_of_skipDollarValue hskip).trans hcons))
    · exact .error _

theorem letters_subset_of_scanFrom {fuel : Nat} {ls : List Lexeme}
    (h : Lexeme.scanFrom d fuel cs = .ok ls) : ∀ l ∈ ls, l.letters ⊆ cs := by
  induction fuel generalizing cs ls with
  | zero => simp_all [Lexeme.scanFrom]
  | succ fuel ih =>
    cases cs with
    | nil => simp_all [Lexeme.scanFrom]
    | cons c cs =>
      rw [Lexeme.scanFrom] at h
      split at h
      · cases h
      · rename_i lexeme rest hone
        have htaken := readsOff_readOne d c cs _ _ hone
        split at h
        · cases h
        · rename_i lexemes hrest
          obtain rfl := Except.ok.inj h
          intro l hl
          rcases List.mem_append.1 hl with hl | hl
          · obtain rfl := Option.mem_toList.1 hl
            exact htaken.1
          · exact List.Subset.trans (ih hrest l hl) htaken.2.subset

/-- **Words are made of characters of the text.** -/
theorem letters_subset {ls : List Lexeme} (h : lexemes d cs = .ok ls) :
    ∀ l ∈ ls, l.letters ⊆ cs := by
  unfold lexemes at h
  split at h
  · rename_i ls' hscan
    obtain rfl := Except.ok.inj h
    exact letters_subset_of_scanFrom hscan
  · cases h

/-! ## What a statement is about -/

section

variable {d : Dialect} {text : List Char} {ls rest : List Lexeme}

/-- The segments of a name are words that were there. -/
theorem exists_word_of_mem_objectName {segment : String} (h : segment ∈ (objectName ls).1) :
    ∃ quote, .word segment quote ∈ ls := by
  fun_induction objectName ls with
  | case1 word quote rest segments more heq ih =>
    rcases List.mem_cons.1 h with rfl | h
    · exact ⟨quote, List.mem_cons_self⟩
    · rw [heq] at ih
      obtain ⟨q, hq⟩ := ih h
      exact ⟨q, List.mem_cons_of_mem _ (List.mem_cons_of_mem _ hq)⟩
  | case2 word quote rest =>
    obtain rfl := List.mem_singleton.1 h
    exact ⟨quote, List.mem_cons_self⟩
  | case3 => cases h

theorem suffix_of_afterKeywords? {keywords : List String}
    (h : afterKeywords? keywords ls = some rest) : rest <:+ ls := by
  fun_induction afterKeywords? keywords ls with
  | case1 => exact Option.some.inj h ▸ List.suffix_refl _
  | case2 => cases h
  | case3 keyword keywords l more hkeyword ih => exact (ih h).trans (List.suffix_cons l more)
  | case4 => cases h

theorem commentTarget_suffix (ls : List Lexeme) : (commentTarget ls).2 <:+ ls := by
  unfold commentTarget
  split
  · exact List.suffix_refl _
  · split
    · exact List.suffix_cons _ _
    · split
      · exact List.suffix_cons _ _
      · exact List.suffix_refl _

theorem header_subset (text : List Char) : header text ⊆ text := by
  unfold header
  split
  · rename_i hbreak
    obtain ⟨c, hc, -⟩ := Nesting.breakAt_eq_some_iff.1 hbreak
    rw [hc]
    exact List.subset_append_left _ _
  · rw [trimRightWhile]
    intro c hc
    exact List.mem_reverse.1 ((List.dropWhile_suffix _).subset (List.mem_reverse.1 hc))

theorem mem_of_describe {target : CommentTarget} {comment : Option String} {segments : List String}
    {reading : Reading} {table : String} (h : describe target comment segments = .ok reading)
    (htable : reading.table? = some table) : table ∈ segments := by
  induction segments with
  | nil => cases h
  | cons first segments ih =>
    match segments with
    | [] =>
      obtain rfl := Except.ok.inj h
      obtain rfl := Option.some.inj htable
      exact List.mem_singleton_self _
    | [second] =>
      rw [describe] at h
      split at h
      · obtain rfl := Except.ok.inj h
        obtain rfl := Option.some.inj htable
        simp
      · obtain rfl := Except.ok.inj h
        obtain rfl := Option.some.inj htable
        simp
    | second :: third :: more => exact List.mem_cons_of_mem _ (ih h)

theorem mem_of_ofSegments? {segments : List String} {q : QualifiedName}
    (h : QualifiedName.ofSegments? segments = some q) : q.name ∈ segments := by
  have hlast := QualifiedName.name_ofSegments? segments
  rw [h] at hlast
  exact List.mem_of_getLast? hlast.symm

theorem exists_word_of_tableName? {q : QualifiedName} (h : tableName? ls = some q) :
    ∃ quote, .word q.name quote ∈ ls := by
  rw [tableName?] at h
  split at h
  · cases h
  · rename_i rest hafter
    obtain ⟨quote, hword⟩ := exists_word_of_mem_objectName (mem_of_ofSegments? h)
    refine ⟨quote, (suffix_of_afterKeywords? hafter).subset ?_⟩
    cases hexists : afterKeywords? ["IF", "NOT", "EXISTS"] rest with
    | none => simpa [hexists] using hword
    | some rest' =>
      rw [hexists] at hword
      exact (suffix_of_afterKeywords? hexists).subset hword

theorem subset_of_readCreateTable {reading : Reading} {table : String}
    (h : readCreateTable d text = .ok reading) (htable : reading.table? = some table) :
    table.toList ⊆ text := by
  rw [readCreateTable] at h
  split at h
  case h_1 => cases h
  case h_2 ls hlexemes =>
    split at h
    case h_1 => cases h
    case h_2 q hname =>
      split at h
      case h_1 => cases h
      case h_2 =>
        obtain rfl := Except.ok.inj h
        obtain rfl := Option.some.inj htable
        obtain ⟨quote, hword⟩ := exists_word_of_tableName? hname
        exact List.Subset.trans (letters_subset hlexemes _ hword) (header_subset text)

theorem subset_of_readComment {reading : Reading} {table : String}
    (h : readComment d text = .ok reading) (htable : reading.table? = some table) :
    table.toList ⊆ text := by
  rw [readComment] at h
  split at h
  case h_1 => cases h
  case h_2 ls hlexemes =>
    split at h
    case h_1 => cases h
    case h_2 rest hafter =>
      dsimp only at h
      split at h
      case h_1 => cases h
      case h_2 segment segments rest' hname =>
        split at h
        case h_1 => cases h
        case h_2 => cases h
        case h_3 l _ _ =>
          split at h
          case h_1 => cases h
          case h_2 comment _ =>
            have hmem := mem_of_describe h htable
            rw [show segment :: segments = (objectName (commentTarget rest).2).1 by rw [hname]]
              at hmem
            obtain ⟨quote, hword⟩ := exists_word_of_mem_objectName hmem
            have hls := (commentTarget_suffix rest).subset hword
            exact letters_subset hlexemes _ ((suffix_of_afterKeywords? hafter).subset hls)

/-- **The name of the table that a statement is about is made of its characters.** -/
theorem subset_of_read {s : Statement} {reading : Reading} {table : String}
    (h : s.read d = .ok reading) (htable : reading.table? = some table) :
    table.toList ⊆ s.text.toList := by
  rw [Statement.read] at h
  split at h
  · exact subset_of_readCreateTable h htable
  · exact subset_of_readComment h htable
  · obtain rfl := Except.ok.inj h
    cases htable

end

end Codebook.Sql
