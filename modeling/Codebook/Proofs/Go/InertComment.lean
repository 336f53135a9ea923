import Codebook.Proofs.Go.Aside
import Codebook.Proofs.Go.Detached
import Codebook.Proofs.Go.Inserted
import Codebook.Proofs.Text.Utf8

/-!
# A comment by itself says nothing

A blank line that no declaration, statement or comment of a file lies on may become a blank line, a
comment and another blank line, and the groups of the file stay the same.  That holds whatever the
comment says, unless a null character ends it, or it closes a block comment that nothing closes.

What is here: `Detached.IsOutside`, that nothing lies on the blank line; `Detached.not_reaches`,
that no token goes over it then; and `Detached.scan_replaced`.
-/

set_option autoImplicit false

namespace Codebook.Go

open Codebook.Text Form

/-! ## Trees and their tokens -/

theorem Tree.tokens_sublist {forest : List Tree} {x : Tree} (hx : x ∈ forest) :
    x.tokens.Sublist (forestTokens forest) := by
  obtain ⟨front, back, rfl⟩ := List.append_of_mem hx
  rw [forestTokens_append, forestTokens_cons]
  exact (List.sublist_append_left _ _).trans (List.sublist_append_right _ _)

/-- A tree starts at or above its tokens. -/
theorem row_le_row {a : Tree} (h : Token.Ordered a.tokens) {t : Token} (ht : t ∈ a.tokens) :
    a.row ≤ t.row := by
  rw [Tree.row]
  cases htokens : a.tokens with
  | nil => exact Nat.zero_le _
  | cons first rest =>
    rw [htokens] at h ht
    rcases List.mem_cons.1 ht with rfl | ht
    · exact Nat.le_refl _
    · have hsplit : Token.Ordered ([first] ++ rest) := h
      exact Nat.le_trans (h.row_le_endRow first List.mem_cons_self)
        (hsplit.endRow_le (List.mem_singleton_self first) ht)

/-- A tree ends at or below the ends of its tokens. -/
theorem endRow_le_of_mem {a : Tree} (h : Token.Ordered a.tokens) {t : Token} (ht : t ∈ a.tokens) :
    t.endRow ≤ a.endRow :=
  endRow_le_endRow (t := .leaf t) h (List.singleton_sublist.2 ht)

/-- A token that ends a statement ends on its own row. -/
theorem Scanned.endRow_of_endsStatement {p q : Place} {cs rest : List Char} {ts : List Token}
    (h : Scanned p cs ts q rest) {t : Token} (ht : t ∈ ts) (hends : endsStatement t = true) :
    t.endRow = t.row := by
  rw [h.eq_of t ht, Token.of]
  split
  · rfl
  · rename_i hline
    rw [endsStatement, Token.isLineEnd, beq_eq_false_iff_ne.2 hline, Bool.false_or,
      Bool.and_eq_true, Bool.or_eq_true, beq_iff_eq, beq_iff_eq, beq_iff_eq] at hends
    have hone : '\n' ∉ t.text.toList := by
      rcases hends.2 with htext | htext <;> rw [htext] <;> decide
    show (t.text.toList.foldl Place.after ⟨t.row, t.column⟩).row = t.row
    rw [foldl_after hone]

namespace Detached

variable {d : Detached}

/-- No declaration, statement or comment of a file lies on the blank line. -/
def IsOutside (d : Detached) (forest : List Tree) : Prop :=
  ∀ t ∈ forest, t.isNamed = true → t.endRow < d.row ∨ d.row < t.row

instance (d : Detached) (forest : List Tree) : Decidable (d.IsOutside forest) :=
  inferInstanceAs (Decidable (∀ t ∈ forest, _))

/-- The file with the blank line. -/
def bytes (d : Detached) : List UInt8 := (String.ofList d.source).toUTF8.toList

/-- The file with the comment in the place of the blank line. -/
def replacedBytes (d : Detached) : List UInt8 := (String.ofList d.replaced).toUTF8.toList

theorem decode?_bytes (d : Detached) : Utf8.decode? d.bytes = some d.source :=
  Utf8.decode?_encoded _

theorem decode?_replacedBytes (d : Detached) : Utf8.decode? d.replacedBytes = some d.replaced :=
  Utf8.decode?_encoded _

theorem isTrivia_inserted (d : Detached) : IsTrivia d.inserted := by
  simp [IsTrivia, inserted, comment, Token.isComment, Token.isLineEnd]

theorem lowers_moved (d : Detached) : Token.Lowers d.moved 2 where
  kind_eq _ := rfl
  text_eq _ := rfl
  row_eq _ := rfl
  endRow_eq _ := rfl

/-! ## Nothing lies on the blank line -/

section

variable {ts : List Token} {forest : List Tree} {rest : List Token}

/-- What counts is in the trees. -/
theorem exists_tree (h : Gives Rule.topLevel ts (some (forest, rest))) {t : Token} (ht : t ∈ ts)
    (hline : t.isLineEnd = false) : ∃ x ∈ forest, t ∈ x.tokens := by
  obtain ⟨taken, heq, hkept⟩ := h.took _ rfl
  rw [h.rest_eq_nil, List.append_nil] at heq
  have hmem : t ∈ withoutBreaks (Tree.forestTokens forest) := by
    rw [hkept, ← heq]
    exact List.mem_filter.2 ⟨ht, by rw [hline]; rfl⟩
  exact Tree.mem_forestTokens.1 (List.mem_filter.1 hmem).1

/-- What has a name has all its tokens above the blank line, or all of them below it. -/
theorem IsOutside.lt_or_lt (h : d.IsOutside forest)
    (hordered : Token.Ordered (Tree.forestTokens forest)) {x : Tree} (hx : x ∈ forest)
    (hnamed : x.isNamed = true) {a b : Token} (ha : a ∈ x.tokens) (hb : b ∈ x.tokens) :
    b.endRow < d.row ∨ d.row < a.row := by
  have hxOrdered : Token.Ordered x.tokens := hordered.sublist (Tree.tokens_sublist hx)
  exact (h x hx hnamed).imp (Nat.lt_of_le_of_lt (endRow_le_of_mem hxOrdered hb))
    fun hrow => Nat.lt_of_lt_of_le hrow (row_le_row hxOrdered ha)

/-- **No token goes over the blank line.** -/
theorem not_reaches (hscan : Token.scan d.source = .ok ts)
    (h : Gives Rule.topLevel ts (some (forest, rest)))
    (hordered : Token.Ordered (Tree.forestTokens forest)) (houtside : d.IsOutside forest) :
    ∀ t ∈ ts, ¬ t.Reaches d.row := by
  rintro t ht ⟨hline, hrow, hendRow⟩
  obtain ⟨x, hx, htx⟩ := exists_tree h ht hline
  cases hnamed : x.isNamed with
  | true => rcases houtside.lt_or_lt hordered hx hnamed htx htx with hout | hout <;> omega
  | false =>
    -- what is not named ends a statement, so that it does not go over the end of a line
    have halone := h.standsAlone (by decide) _ rfl x hx
    obtain ⟨q, hscanned⟩ := exists_scanned_of_scanFrom (Nat.le_refl _) hscan
    cases x with
    | node label parts => cases hnamed
    | leaf x =>
      obtain rfl := List.mem_singleton.1 htx
      rw [Tree.standsAlone, show t.isComment = false from hnamed, Bool.false_or] at halone
      have hone := hscanned.endRow_of_endsStatement ht halone
      omega

/-- No tree has something that counts above the blank line and something behind it. -/
theorem parted {us vs : List Token} (hdivides : d.Divides us vs)
    (hordered : Token.Ordered (Tree.forestTokens forest)) (houtside : d.IsOutside forest) :
    Parted us vs forest := by
  rintro x hx a ha b hb - - hmem hmem'
  have habove := (hdivides.above a hmem).1
  have hbelow := hdivides.below b hmem'
  have hrow := (hordered.sublist (Tree.tokens_sublist hx)).row_le_endRow b hb
  cases hnamed : x.isNamed with
  | true => rcases houtside.lt_or_lt hordered hx hnamed ha hb with hout | hout <;> omega
  | false =>
    cases x with
    | node label parts => cases hnamed
    | leaf x =>
      obtain rfl := List.mem_singleton.1 ha
      obtain rfl := List.mem_singleton.1 hb
      omega

/-- **What the comment is put between is above and below it.** -/
theorem isAside {us vs : List Token} (hdivides : d.Divides us vs) {front back : List Tree}
    (hfront : LiesIn us front) (hback : LiesIn vs back)
    (hfilled : ∀ t ∈ front ++ back, t.isFilled = true)
    (hordered : Token.Ordered (Tree.forestTokens (front ++ back)))
    (houtside : d.IsOutside (front ++ back)) : IsAside d.row front d.comment back d.moved where
  lowers := lowers_moved d
  isComment := rfl
  row_eq := rfl
  endRow_eq := rfl
  above t ht := (hdivides.above t (hfront t ht)).2
  isFilled := hfilled
  below x hx hnamed := by
    have hmem : x ∈ front ++ back := List.mem_append_right front hx
    have hxOrdered : Token.Ordered x.tokens := hordered.sublist (Tree.tokens_sublist hmem)
    obtain ⟨t, ht⟩ := List.exists_mem_of_ne_nil _ (Tree.tokens_ne_nil (hfilled x hmem))
    have hbelow := hdivides.below t (hback t (Tree.mem_forestTokens.2 ⟨x, hx, ht⟩))
    have hrow := hxOrdered.row_le_endRow t ht
    have hend := endRow_le_of_mem hxOrdered ht
    refine (houtside x hmem hnamed).resolve_left fun hout => ?_
    omega

end

/-! ## The groups -/

/-- **The groups of a file stay the same if a blank line becomes a blank line, a comment and another
blank line.** -/
theorem scan_replaced {path : String} {bytes bytes' : List UInt8} {gs : List Group}
    (hbytes : Utf8.decode? bytes = some d.source) (hbytes' : Utf8.decode? bytes' = some d.replaced)
    (h : scan path bytes = .ok gs)
    (houtside : ∀ forest, readFile path bytes = .ok forest → d.IsOutside forest)
    (hnull : '\x00' ∉ d.text) (hopen : d.IsOpen → ¬ ['*', '/'] <:+: d.text) :
    scan path bytes' = .ok gs := by
  obtain ⟨forest, hforest, rfl⟩ := exists_readFile_of_scan h
  have hordered := ordered_of_readFile hforest
  specialize houtside forest hforest
  obtain ⟨source, ts, hsource, hscan, hgives⟩ := readFile_eq_ok_iff.1 hforest
  obtain rfl : source = d.source := Option.some.inj (hsource.symm.trans hbytes)
  obtain ⟨us, vs, rfl, hdivides, hscan'⟩ := exists_scan_replaced hscan
    (not_reaches hscan hgives hordered houtside) hnull hopen
  obtain ⟨front, back, rfl, hfront, hback, hgives'⟩ := hgives.inserted (lowers_moved d).toMoves
    (isTrivia_inserted d) hdivides.isLines (parted hdivides hordered houtside)
  have hfilled := hgives.isFilled (by decide) _ rfl
  have hread : readFile path bytes' =
      .ok (front ++ .leaf d.comment :: back.map (Tree.map d.moved)) :=
    readFile_eq_ok_iff.2 ⟨_, _, hbytes', hscan', hgives'⟩
  have haside := isAside hdivides hfront hback hfilled hordered houtside
  rw [scan, hread, ← haside.groupsOf_eq path]
  rfl

/-- A blank line between two marked declarations, the first one with a comment beside it. -/
def betweenMarks : Detached where
  before := "package p\n\n// @ai D\nconst A = 1 // a\n".toList
  after := "\n// @ai E\nvar b = 2\n".toList
  above := "\t".toList
  indent := "  ".toList
  text := " @ai F".toList
  startsLine := .inr ⟨"package p\n\n// @ai D\nconst A = 1 // a".toList, rfl⟩
  endsLine := .inr ⟨"// @ai E\nvar b = 2\n".toList, rfl⟩

theorem scan_replaced_betweenMarks :
    ∃ gs, scan "a.go" betweenMarks.bytes = .ok gs ∧ gs.map Group.name = ["A D", "b E"] ∧
      scan "a.go" betweenMarks.replacedBytes = .ok gs := by
  have hnames : (scan "a.go" betweenMarks.bytes).toOption.map (List.map Group.name) =
      some ["A D", "b E"] := by decide +kernel
  have houtside : (readFile "a.go" betweenMarks.bytes).toOption.all
      (fun forest => decide (betweenMarks.IsOutside forest)) = true := by decide +kernel
  cases hscan : scan "a.go" betweenMarks.bytes with
  | error e => rw [hscan] at hnames; cases hnames
  | ok gs =>
    rw [hscan] at hnames
    refine ⟨gs, rfl, Option.some.inj hnames, ?_⟩
    refine scan_replaced betweenMarks.decode?_bytes betweenMarks.decode?_replacedBytes hscan
      (fun forest hforest => ?_) (by decide) fun _ => by decide
    rw [hforest] at houtside
    exact of_decide_eq_true houtside

/-- A comment that a null character ends, between two blank lines. -/
def endedByNull : Detached where
  before := "package p\n".toList
  after := "\n// @ai D\nconst A = 1\n".toList
  text := " a\x00b".toList
  startsLine := .inr ⟨"package p".toList, rfl⟩
  endsLine := .inr ⟨"// @ai D\nconst A = 1\n".toList, rfl⟩

/-- A comment below slashes and stars that it closes, between two blank lines. -/
def closesAbove : Detached where
  before := "package p\n\n// @ai D\nvar y = x /*p\n".toList
  after := "\nconst B = 1\n".toList
  text := " */".toList
  startsLine := .inr ⟨"package p\n\n// @ai D\nvar y = x /*p".toList, rfl⟩
  endsLine := .inr ⟨"const B = 1\n".toList, rfl⟩

/-- Nothing of a file lies on the blank line, and still the groups change. -/
def Disturbs (d : Detached) (path : String) : Prop :=
  ∃ gs, scan path d.bytes = .ok gs ∧
    (∀ forest, readFile path d.bytes = .ok forest → d.IsOutside forest) ∧
    scan path d.replacedBytes ≠ .ok gs

theorem disturbs_of_ne {α : Type} {path : String} (f : List Group → α)
    (houtside : (readFile path d.bytes).toOption.any (fun forest => d.IsOutside forest) = true)
    (hne : (scan path d.bytes).toOption.map f ≠ (scan path d.replacedBytes).toOption.map f) :
    d.Disturbs path := by
  cases hforest : readFile path d.bytes with
  | error e => rw [hforest] at houtside; cases houtside
  | ok forest =>
    rw [hforest] at houtside
    have hscan : scan path d.bytes = .ok (groupsOf path forest) := by rw [scan, hforest]; rfl
    refine ⟨_, hscan, ?_, fun hreplaced => hne (by rw [hscan, hreplaced])⟩
    rintro _ h
    obtain rfl := Except.ok.inj (hforest.symm.trans h)
    exact of_decide_eq_true houtside

/-- **A comment that is ended by a null character, or closes what is above it, may change the
groups.** -/
theorem disturbs_endedByNull_and_closesAbove :
    endedByNull.Disturbs "a.go" ∧ closesAbove.Disturbs "a.go" :=
  ⟨disturbs_of_ne List.length (by decide +kernel) (by decide +kernel),
    disturbs_of_ne (List.flatMap fun g => g.members.map Member.comment) (by decide +kernel)
      (by decide +kernel)⟩

end Detached

end Codebook.Go
