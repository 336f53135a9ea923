import Codebook.Proofs.Go.Outlook

/-!
# Reading a declaration of constants

The trees of a file that has a package clause and one declaration of constants in parentheses.  Each
constant stands on a line of its own, with a simple value or none; comments stand above it and at
the end of its line.  A constant with a value is read by one rule and one without by the next, since
the first rule asks for more on the same line.

What is here: `IsValue` and `IsSpec`, which tokens are a value and a constant; `SpecLine`, a
constant with the comments around it; and `read_topLevel`, the trees of the file.
-/

set_option autoImplicit false

namespace Codebook.Go

open Form Rule

/-! ## Single tokens -/

/-- A token is of this sort and has this text. -/
structure Token.Is (t : Token) (kind : TokenKind) (text : String) : Prop where
  /-- It is of this sort. -/
  kind : t.kind = kind
  /-- It has this text. -/
  text : t.text = text

/-- What is known about the next token if all is known. -/
def Outlook.exactly (kind : TokenKind) (text : String) : Outlook := .of kind (· == text)

theorem Token.Is.outlook {t : Token} {kind : TokenKind} {text : String} (h : t.Is kind text)
    (hkind : kind ≠ .comment ∧ kind ≠ .lineEnd) {lead : List Token} (hlead : IsTrivia lead)
    (rest : List Token) : (Outlook.exactly kind text).Holds (lead ++ t :: rest) :=
  Outlook.holds_of hlead h.kind hkind (by simp [h.text])

namespace Takes

variable {n : Nat} {lead rest : List Token} {t : Token}

theorem symbol {s : String} (ht : t.Is .symbol s) :
    Takes (n + 1) (symbol s) (t :: rest) [.leaf t] rest :=
  .leaf isTrivia_nil (Token.counts_of_kind ht.kind (by decide))
    (by simp [Terminal.fits, ht.kind, ht.text])

theorem word (hlead : IsTrivia lead) (ht : t.kind = .word) :
    Takes (n + 1) word (lead ++ t :: rest) (commentLeaves lead ++ [.leaf t]) rest :=
  .leaf hlead (Token.counts_of_kind ht (by decide)) (by simp [Terminal.fits, ht])

theorem keyword {s : String} (hlead : IsTrivia lead) (ht : t.Is .word s) :
    Takes (n + 1) (keyword s) (lead ++ t :: rest) (commentLeaves lead ++ [.leaf t]) rest :=
  .leaf hlead (Token.counts_of_kind ht.kind (by decide))
    (by simp [Terminal.fits, ht.kind, ht.text])

theorem sameLineBefore (ht : t.Counts) : Takes (n + 1) .sameLine (t :: rest) [] (t :: rest) := by
  have hskip : (skip false (t :: rest)).2 = t :: rest := by
    simp [skip, ht.notComment, ht.notLineEnd]
  exact .sameLine ht.notLineEnd hskip

theorem name {ks : List String} (hks : outcome (.wordBut ks) 60 (Form.keywords ks) = .fails)
    (hlead : IsTrivia lead) (ht : t.kind = .word) (htext : t.text ∉ ks) :
    Takes (n + 3) (Rule.name ks) (lead ++ t :: rest) (commentLeaves lead ++ [.leaf t]) rest :=
  seqNil (notAhead ((Outlook.holds_wordBut hlead ht htext).fails hks)) (word hlead ht)

end Takes

/-! ## Values -/

/-- The keywords that start an expression of more than one token. -/
def longKeywords : List String := typeKeywords ++ ["new", "make"]

/-- Tokens that are a simple value: a number, a name, or a name of a package. -/
inductive IsValue : List Token → Prop
  | number {t : Token} (ht : t.kind = .number) : IsValue [t]
  | word {t : Token} (ht : t.kind = .word) (htext : t.text ∉ longKeywords) : IsValue [t]
  | pair {t dot u : Token} (ht : t.kind = .word) (htext : t.text ∉ longKeywords)
      (hdot : dot.Is .symbol ".") (hu : u.kind = .word) :
      IsValue [t, dot, u]

/-- What follows the first name of a composite literal. -/
def literalRest : Form Rule :=
  all [opt (onLine true (seq (symbol ".") word)), opt (onLine true (rule typeArguments)),
    onLine true (rule literalValue)]

section

variable {n : Nat} {tail : List Token} {t dot u : Token}

theorem not_mem_operandKeywords {s : String} (hlong : s ∉ longKeywords)
    (hconst : s ∉ ["nil", "true", "false", "iota"]) : s ∉ operandKeywords := by
  simp only [operandKeywords, longKeywords, List.mem_append, List.mem_cons, List.not_mem_nil,
    or_false, not_or] at *
  simp [hlong, hconst]

theorem takes_operand_number (ht : t.kind = .number) :
    Takes 10 (rule (operand .ofStatement)) (t :: tail) [.leaf t] tail :=
  Takes.rule (.altLeft (.leaf isTrivia_nil (Token.counts_of_kind ht (by decide))
    (by simp [Terminal.fits, ht])))

/-- A name is an operand, if it is not the start of a composite literal. -/
theorem takes_operand_word (ht : t.kind = .word) (htext : t.text ∉ longKeywords)
    (htail : Fails 10 literalRest tail) :
    Takes 40 (rule (operand .ofStatement)) (t :: tail) [.leaf t] tail := by
  by_cases hconst : t.text ∈ ["nil", "true", "false", "iota"]
  · have ho : (Outlook.wordBut longKeywords).Holds (t :: tail) :=
      Outlook.holds_wordBut isTrivia_nil ht htext
    have hword : Takes 5 (keywords ["nil", "true", "false", "iota"]) (t :: tail) [.leaf t] tail :=
      .keywords isTrivia_nil ht hconst
    exact (Takes.rule (.passOver ho 8 (by decide) (.altLeft hword))).mono (by omega)
  · have ho : (Outlook.wordBut operandKeywords).Holds (t :: tail) :=
      Outlook.holds_wordBut isTrivia_nil ht (not_mem_operandKeywords htext hconst)
    have hname : Takes 10 (Rule.name operandKeywords) (t :: tail) [.leaf t] tail :=
      .name (by decide) isTrivia_nil ht (not_mem_operandKeywords htext hconst)
    have hliteral : Fails 11 (seq (Rule.name operandKeywords) literalRest) (t :: tail) :=
      .seqRight hname htail
    exact (Takes.rule (.passOver ho 11 (by decide)
      (.altRight hliteral (hname.mono (by omega))))).mono (by omega)

/-- A simple value is an operand and what follows a period. -/
theorem takes_primary {ts : List Token} (h : IsValue ts) (htail : AtLineEnd tail) :
    Takes 50 (rule (primary .ofStatement)) (ts ++ tail) (ts.map .leaf) tail := by
  have hend := Outlook.holds_lineEnd htail
  have hnone {n : Nat} : Takes (n + 1) (many (onLine true (rule (suffix .ofStatement)))) tail []
      tail := .manyNil (hend.fails (by decide))
  cases h with
  | number ht => exact Takes.rule (.seq ((takes_operand_number ht).mono (by omega)) hnone)
  | word ht htext =>
    have hliteral : Fails 10 literalRest tail := hend.fails (by decide)
    exact Takes.rule (.seq ((takes_operand_word ht htext hliteral).mono (by omega)) hnone)
  | @pair t dot u ht htext hdot hu =>
    have hcounts : dot.Counts := Token.counts_of_kind hdot.kind (by decide)
    have hperiod (n : Nat) : Takes (n + 4) (seq (symbol ".") Form.word) (dot :: u :: tail)
        [.leaf dot, .leaf u] tail := .seq (.symbol hdot) (.word isTrivia_nil hu)
    -- the name is no composite literal, since the line ends after the selector
    have hliteral : Fails 10 literalRest (dot :: u :: tail) :=
      .seqRight (.altLeft (.seq (.sameLineBefore hcounts) (hperiod 3))) (hend.fails (by decide))
    have hsuffix : Takes 46 (rule (suffix .ofStatement)) (dot :: u :: tail)
        [.leaf dot, .leaf u] tail := .rule (.altLeft (hperiod _))
    exact Takes.rule (.seq ((takes_operand_word ht htext hliteral).mono (by omega))
      (.manyCons (.seq (.sameLineBefore hcounts) hsuffix)
        (by simp only [List.length_cons]; omega) hnone))

/-- An expression that starts with no operator and ends with the line is a primary one. -/
theorem takes_expression {o : Outlook} {ts : List Token} {trees : List Tree} (ho : o.Holds ts)
    (hoperator : outcome o 60 prefixOperator = .fails)
    (h : Takes n (rule (primary .ofStatement)) ts trees tail) (htail : AtLineEnd tail) :
    Takes (n + 10) (rule (expression .ofStatement)) ts trees tail := by
  have hend := Outlook.holds_lineEnd htail
  have hunary : Takes (n + 8) (rule (unary .ofStatement)) ts trees tail :=
    .rule (.altRight (.seqLeft (ho.fails hoperator)) (h.mono (by omega)))
  have hall := Takes.seq hunary (.manyNil (hend.fails (n := n + 7) (f := seq
    (onLine true (infixOperator .ofStatement)) (rule (unary .ofStatement))) (by decide)))
  rw [List.append_nil] at hall
  exact .rule hall

theorem IsValue.exists_outlook {ts : List Token} (h : IsValue ts) (tail : List Token) :
    ∃ o : Outlook, o.Holds (ts ++ tail) ∧ outcome o 60 prefixOperator = .fails := by
  have hword {t : Token} (ht : t.kind = .word) (rest : List Token) :
      (Outlook.wordBut []).Holds (t :: rest) :=
    Outlook.holds_wordBut isTrivia_nil ht List.not_mem_nil
  cases h with
  | number ht =>
    exact ⟨.of .number fun _ => true, Outlook.holds_of isTrivia_nil ht (by decide) rfl,
      by decide⟩
  | word ht _ => exact ⟨_, hword ht _, by decide⟩
  | pair ht _ _ _ => exact ⟨_, hword ht _, by decide⟩

theorem IsValue.mark {ts : List Token} (h : IsValue ts) (label : Label) :
    Tree.mark label (ts.map .leaf) = [.node label (ts.map .leaf)] := by
  cases h with
  | number ht => simp [Tree.mark, Tree.isComment, Tree.comment?, Token.isComment, ht]
  | word ht _ => simp [Tree.mark, Tree.isComment, Tree.comment?, Token.isComment, ht]
  | pair ht _ _ _ => simp [Tree.mark, Tree.isComment, Tree.comment?, Token.isComment, ht]

theorem takes_values {ts : List Token} (h : IsValue ts) (htail : AtLineEnd tail) :
    Takes 70 (rule values) (ts ++ tail) [.node .value (ts.map .leaf)] tail := by
  obtain ⟨o, ho, hoperator⟩ := h.exists_outlook tail
  have hend := Outlook.holds_lineEnd htail
  have hnode : Takes 68 (node .value (expr .ofStatement)) (ts ++ tail)
      [.node .value (ts.map .leaf)] tail := by
    rw [← h.mark]
    exact .node _ ((takes_expression ho hoperator (takes_primary h htail) htail).mono (by omega))
  exact .rule (.seq hnode (.manyNil (hend.fails (by decide))))

end

/-! ## Constants -/

/-- Tokens that are a constant, with a value or without. -/
inductive IsSpec : List Token → Prop
  | bare {name : Token} (hname : name.kind = .word) : IsSpec [name]
  | valued {name eq : Token} {ts : List Token} (hname : name.kind = .word)
      (heq : eq.Is .symbol "=") (hts : IsValue ts) : IsSpec (name :: eq :: ts)

/-- The trees of the tokens of a constant. -/
def specParts : List Token → List Tree
  | name :: eq :: ts => [.leaf name, .leaf eq, .node .value (ts.map .leaf)]
  | ts => ts.map .leaf

/-- A constant, as it is read in a list of constants. -/
def oneSpec : Form Rule := alt (rule (constSpec true)) (rule (constSpec false))

theorem mark_commentLeaves (label : Label) (lead : List Token) {x : Tree} (hx : x.isComment = false)
    (xs : List Tree) :
    Tree.mark label (commentLeaves lead ++ x :: xs) =
      commentLeaves lead ++ [.node label (x :: xs)] := by
  have hall : ∀ t ∈ commentLeaves lead, t.isComment = true := by
    intro t ht
    obtain ⟨c, hc, rfl⟩ := List.mem_map.1 ht
    have hcomment : c.isComment = true := (List.mem_filter.1 hc).2
    simp [Tree.isComment, Tree.comment?, hcomment]
  rw [Tree.mark, List.takeWhile_append_of_pos hall, List.dropWhile_append_of_pos hall,
    List.takeWhile_cons_of_neg (by simp [hx]), List.dropWhile_cons_of_neg (by simp [hx]),
    List.append_nil]

theorem Tree.isComment_leaf_of_kind {t : Token} {kind : TokenKind} (h : t.kind = kind)
    (hkind : kind ≠ .comment) : (Tree.leaf t).isComment = false := by
  simp [Tree.isComment, Tree.comment?, Token.isComment, h, hkind]

section

variable {lead tail : List Token}

/-- The name of a constant that ends with the line is read by the second rule. -/
theorem takes_spec_bare {name : Token} (hlead : IsTrivia lead) (hname : name.kind = .word)
    (htail : AtLineEnd tail) :
    Takes 90 oneSpec (lead ++ name :: tail) (commentLeaves lead ++ [.node .spec [.leaf name]])
      tail := by
  have hend := Outlook.holds_lineEnd htail
  have hnames (n : Nat) : Takes (n + 10) (names true) (lead ++ name :: tail)
      (commentLeaves lead ++ [.leaf name] ++ []) tail :=
    .seq (.word hlead hname) (.manyNil (hend.fails (by decide)))
  have hvalued : Fails 89 (rule (constSpec true)) (lead ++ name :: tail) :=
    .rule (.node (.seqRight (hnames 76) (hend.fails (by decide))))
  have hbare := Takes.node .spec (hnames 77)
  rw [List.append_nil, mark_commentLeaves .spec lead
    (Tree.isComment_leaf_of_kind hname (by decide))] at hbare
  exact .altRight hvalued (.rule hbare)

theorem takes_spec_valued {name eq : Token} {ts : List Token} (hlead : IsTrivia lead)
    (hname : name.kind = .word) (heq : eq.Is .symbol "=") (hts : IsValue ts)
    (htail : AtLineEnd tail) :
    Takes 90 oneSpec (lead ++ name :: eq :: (ts ++ tail))
      (commentLeaves lead ++ [.node .spec [.leaf name, .leaf eq, .node .value (ts.map .leaf)]])
      tail := by
  have hcounts : eq.Counts := Token.counts_of_kind heq.kind (by decide)
  have ho := heq.outlook (by decide) isTrivia_nil (ts ++ tail)
  have hnames : Takes 86 (names true) (lead ++ name :: eq :: (ts ++ tail))
      (commentLeaves lead ++ [.leaf name] ++ []) (eq :: (ts ++ tail)) :=
    .seq (.word hlead hname) (.manyNil (ho.fails (by decide)))
  have hrest : Takes 86 (all [sameLine, opt (node .type (typ false)), symbol "=", rule values])
      (eq :: (ts ++ tail)) [.leaf eq, .node .value (ts.map .leaf)] tail :=
    .seqNil (.sameLineBefore hcounts) (.seqNil (.optNone (ho.fails (by decide))) (.seq (.symbol heq)
        ((takes_values hts htail).mono (by omega))))
  have hspec := Takes.node .spec (.seq hnames hrest)
  rw [List.append_nil, List.append_assoc, List.singleton_append, mark_commentLeaves .spec lead
    (Tree.isComment_leaf_of_kind hname (by decide))] at hspec
  exact .altLeft (.rule hspec)

theorem takes_spec {ts : List Token} (h : IsSpec ts) (hlead : IsTrivia lead)
    (htail : AtLineEnd tail) :
    Takes 90 oneSpec (lead ++ (ts ++ tail)) (commentLeaves lead ++ [.node .spec (specParts ts)])
      tail := by
  cases h with
  | bare hname => exact takes_spec_bare hlead hname htail
  | valued hname heq hts => exact takes_spec_valued hlead hname heq hts htail

end

/-! ## Several constants -/

/-- A constant on a line of its own, with what stands above it and beside it. -/
structure SpecLine where
  /-- The comments above it, and the line ends before it. -/
  above : List Token
  /-- That is all that stands above it. -/
  isTrivia_above : IsTrivia above
  /-- The constant. -/
  spec : List Token
  /-- It is one. -/
  isSpec : IsSpec spec
  /-- The comment beside it. -/
  beside : Option Token
  /-- It is one. -/
  isComment_beside : ∀ c ∈ beside, c.isComment = true
  /-- The end of the line. -/
  stop : Token
  /-- It is one. -/
  isLineEnd_stop : stop.isLineEnd = true

namespace SpecLine

/-- The tokens of a line. -/
def tokens (l : SpecLine) : List Token :=
  l.above ++ (l.spec ++ (l.beside.toList ++ [l.stop]))

/-- The trees of a line. -/
def trees (l : SpecLine) : List Tree :=
  commentLeaves l.above ++
    .node .spec (specParts l.spec) :: (l.beside.toList.map .leaf ++ [.leaf l.stop])

theorem isComment_of_mem_beside (l : SpecLine) : ∀ c ∈ l.beside.toList, c.isComment = true :=
  fun c hc => l.isComment_beside c (Option.mem_toList.1 hc)

/-- A line has a token. -/
theorem length_le_length_tokens (lines : List SpecLine) :
    lines.length ≤ (lines.flatMap SpecLine.tokens).length := by
  induction lines with
  | nil => exact Nat.le_refl 0
  | cons l lines ih =>
    rw [List.flatMap_cons, List.length_append, tokens]
    simp only [List.length_append, List.length_cons]
    omega

end SpecLine

theorem skip_comments {after rest : List Token} {stop : Token}
    (hafter : ∀ c ∈ after, c.isComment = true) (hstop : stop.isLineEnd = true) :
    skip false (after ++ stop :: rest) = (after.map .leaf, stop :: rest) := by
  induction after with
  | nil =>
    rw [List.nil_append, skip]
    simp [Token.isComment_of_isLineEnd hstop]
  | cons c after ih =>
    rw [List.cons_append, skip, ih fun x hx => hafter x (List.mem_cons_of_mem _ hx)]
    simp [hafter c List.mem_cons_self]

section

variable {n : Nat} {lead rest : List Token} {const opening closing stop : Token}

theorem atLineEnd_comments {after : List Token} (hafter : ∀ c ∈ after, c.isComment = true)
    (hstop : stop.isLineEnd = true) (rest : List Token) : AtLineEnd (after ++ stop :: rest) :=
  ⟨stop, rest, by rw [skip_comments hafter hstop], hstop⟩

/-- The end of a line ends a statement. -/
theorem Takes.lineEnd {after : List Token} (hafter : ∀ c ∈ after, c.isComment = true)
    (hstop : stop.isLineEnd = true) :
    Takes (n + 1) .terminator (after ++ stop :: rest) (after.map .leaf ++ [.leaf stop]) rest := by
  refine terminator ?_
  rw [take, skip_comments hafter hstop]
  simp [endsStatement, hstop]

theorem Takes.lineEndAlone (hstop : stop.isLineEnd = true) :
    Takes (n + 1) .terminator (stop :: rest) [.leaf stop] rest :=
  show Takes (n + 1) .terminator ([] ++ stop :: rest) _ rest from lineEnd (by simp) hstop

theorem takes_specLine (l : SpecLine) :
    Takes 91 (seq oneSpec .terminator) (l.tokens ++ rest) l.trees rest := by
  have hspec := (takes_spec l.isSpec l.isTrivia_above (atLineEnd_comments
    l.isComment_of_mem_beside l.isLineEnd_stop rest)).seq
      (.lineEnd l.isComment_of_mem_beside l.isLineEnd_stop)
  simpa only [SpecLine.tokens, SpecLine.trees, List.append_assoc, List.cons_append,
    List.nil_append] using hspec

/-- The constants up to the closing parenthesis. -/
theorem takes_specLines (lines : List SpecLine) (hclosing : closing.Is .symbol ")") :
    Takes (lines.length + 100) (many (seq oneSpec .terminator))
      (lines.flatMap SpecLine.tokens ++ closing :: rest) (lines.flatMap SpecLine.trees)
      (closing :: rest) := by
  induction lines with
  | nil => exact .manyNil ((hclosing.outlook (by decide) isTrivia_nil rest).fails (by decide))
  | cons l lines ih =>
    rw [List.flatMap_cons, List.flatMap_cons, List.append_assoc, List.length_cons,
      Nat.add_right_comm]
    have hshorter : (lines.flatMap SpecLine.tokens ++ closing :: rest).length <
        (l.tokens ++ (lines.flatMap SpecLine.tokens ++ closing :: rest)).length := by
      simp only [SpecLine.tokens, List.length_append, List.length_cons]
      omega
    exact .manyCons ((takes_specLine l).mono (by omega)) hshorter ih

/-! ## The file -/

/-- The tree of a declaration of constants in parentheses. -/
def constsTree (const opening closing : Token) (lines : List SpecLine) : Tree :=
  .node .consts (.leaf const :: .leaf opening :: (lines.flatMap SpecLine.trees ++ [.leaf closing]))

theorem takes_consts (hlead : IsTrivia lead) (hconst : const.Is .word "const")
    (hopening : opening.Is .symbol "(") (lines : List SpecLine)
    (hclosing : closing.Is .symbol ")") (rest : List Token) :
    Takes (lines.length + 110) (rule (consts false))
      (lead ++ const :: opening :: (lines.flatMap SpecLine.tokens ++ closing :: rest))
      (commentLeaves lead ++ [constsTree const opening closing lines]) rest := by
  have hbetween : Takes (lines.length + 105) (between "(" ")" (many (seq oneSpec .terminator)))
      (opening :: (lines.flatMap SpecLine.tokens ++ closing :: rest))
      (.leaf opening :: (lines.flatMap SpecLine.trees ++ [.leaf closing])) rest :=
    (Takes.seq (.symbol hopening) (.seq (takes_specLines lines hclosing) (.symbol hclosing))).mono
      (by omega)
  have hconsts := Takes.node .consts (.seq (.keyword hlead hconst)
    (.altLeft (b := rule (constSpec false)) hbetween))
  rw [List.append_assoc, List.singleton_append, mark_commentLeaves .consts lead
    (Tree.isComment_leaf_of_kind hconst.kind (by decide))] at hconsts
  exact (Takes.rule hconsts).mono (by omega)

/-- The word `const` starts no labelled statement, and neither do other words that start a
statement. -/
theorem fails_labelled (hlead : IsTrivia lead) (hconst : const.Is .word "const") :
    Fails 40 (labelled .file) (lead ++ const :: rest) := by
  have hmem : const.text ∈ operandKeywords ++ statementKeywords ++ Position.file.keywords := by
    rw [hconst.text]
    decide
  exact .seqLeft (.seqLeft (.notAhead ((Takes.keywords hlead hconst.kind hmem).mono (by decide))))

/-- Nor does it start an open statement, if a parenthesis follows. -/
theorem fails_openStatement (hlead : IsTrivia lead) (hconst : const.Is .word "const")
    (hopening : opening.Is .symbol "(") :
    Fails 60 (rule (openStatement .file)) (lead ++ const :: opening :: rest) := by
  have ho := hconst.outlook (by decide) hlead (opening :: rest)
  have hopen := hopening.outlook (by decide) isTrivia_nil rest
  have hlabelled : Fails 58 (node .item (seq (labelled .file) (rule (openStatement .file))))
      (lead ++ const :: opening :: rest) :=
    .node (.seqLeft ((fails_labelled hlead hconst).mono (by omega)))
  have hvalued : Fails 57 (rule (consts true)) (lead ++ const :: opening :: rest) :=
    .rule (.node (.seqRight (.keyword hlead hconst) (hopen.fails (by decide))))
  have hmem : const.text ∈ statementKeywords ++ Position.file.keywords := by
    rw [hconst.text]
    decide
  have hbarred : Fails 54 (barring (statementKeywords ++ Position.file.keywords)
      (seq (notAhead (labelled .file))
        (node .item (rule (simpleOpen .startOfStatement .ofStatement)))))
      (lead ++ const :: opening :: rest) :=
    .seqLeft (.notAhead ((Takes.keywords hlead hconst.kind hmem).mono (by decide)))
  exact .rule (.alt hlabelled (.alt hvalued (.alt (ho.fails (by decide))
    (.alt (ho.fails (by decide)) (.alt (ho.fails (by decide)) hbarred)))))

/-- A declaration of constants and the end of its line are an item of a file. -/
theorem takes_topItem_consts (hlead : IsTrivia lead) (hconst : const.Is .word "const")
    (hopening : opening.Is .symbol "(") (lines : List SpecLine)
    (hclosing : closing.Is .symbol ")") (hstop : stop.isLineEnd = true) (rest : List Token) :
    Takes (lines.length + 120) (rule topItem)
      (lead ++ const :: opening :: (lines.flatMap SpecLine.tokens ++ closing :: stop :: rest))
      (commentLeaves lead ++ [constsTree const opening closing lines] ++ [.leaf stop]) rest := by
  have ho := hconst.outlook (by decide) hlead
    (opening :: (lines.flatMap SpecLine.tokens ++ closing :: stop :: rest))
  have hopen : Fails (lines.length + 116) (rule (openStatement .file))
      (lead ++ const :: opening :: (lines.flatMap SpecLine.tokens ++ closing :: stop :: rest)) :=
    (fails_openStatement hlead hconst hopening).mono (by omega)
  have hlabelled : Fails (lines.length + 112) (labelled .file)
      (lead ++ const :: opening :: (lines.flatMap SpecLine.tokens ++ closing :: stop :: rest)) :=
    (fails_labelled hlead hconst).mono (by omega)
  have hconsts := takes_consts hlead hconst hopening lines hclosing (stop :: rest)
  have hclosed := Takes.rule (r := closedStatement .file)
    (.altRight (.node (.seqLeft hlabelled)) (.altLeft (hconsts.mono (by omega))))
  exact .rule (.altRight (.seqLeft (ho.fails (by decide))) (.altRight (.seqLeft hopen)
    (.seq hclosed (.lineEndAlone hstop))))

/-- A package clause and the end of its line are an item of a file. -/
theorem takes_topItem_package {package name : Token} (hpackage : package.Is .word "package")
    (hname : name.kind = .word) (hstop : stop.isLineEnd = true) (rest : List Token) :
    Takes (n + 20) (rule topItem) (package :: name :: stop :: rest)
      ([.node .package [.leaf package, .leaf name]] ++ [.leaf stop]) rest := by
  have hkeyword : Takes (n + 13) (keyword "package") (package :: name :: stop :: rest)
      [.leaf package] (name :: stop :: rest) := .keyword isTrivia_nil hpackage
  have hclause := Takes.node .package (.seq hkeyword (.word isTrivia_nil hname))
  have hmark : Tree.mark .package [.leaf package, .leaf name] =
      [.node .package [.leaf package, .leaf name]] :=
    mark_commentLeaves .package [] (Tree.isComment_leaf_of_kind hpackage.kind (by decide)) _
  have hdeclaration : Takes (n + 17) (rule topDeclaration) (package :: name :: stop :: rest)
      [.node .package [.leaf package, .leaf name]] (stop :: rest) := by
    rw [← hmark]
    exact .rule (.altLeft hclause)
  exact .rule (.altLeft (.seq hdeclaration (.lineEndAlone hstop)))

/-- **The trees of a file with a package clause and a declaration of constants.** -/
theorem read_topLevel {package name stop' : Token} (hpackage : package.Is .word "package")
    (hname : name.kind = .word) (hstop : stop.isLineEnd = true) (hlead : IsTrivia lead)
    (hconst : const.Is .word "const") (hopening : opening.Is .symbol "(")
    (lines : List SpecLine) (hclosing : closing.Is .symbol ")")
    (hstop' : stop'.isLineEnd = true) :
    Form.read form topLevel (package :: name :: stop ::
        (lead ++ const :: opening :: (lines.flatMap SpecLine.tokens ++ [closing, stop']))) =
      some (.node .package [.leaf package, .leaf name] :: .leaf stop :: (commentLeaves lead ++
        [constsTree const opening closing lines, .leaf stop']), []) := by
  have hconsts := takes_topItem_consts hlead hconst hopening lines hclosing hstop' []
  have hnothing : Takes (lines.length + 120) (many (rule topItem)) [] [] [] :=
    .manyNil (Outlook.holds_nothing.fails (by decide))
  have hmany := Takes.manyCons
    (takes_topItem_package (n := lines.length + 101) hpackage hname hstop (lead ++ const ::
      opening :: (lines.flatMap SpecLine.tokens ++ [closing, stop'])))
    (by simp only [List.length_cons]; omega)
    (.manyCons hconsts (by simp only [List.length_append, List.length_cons]; omega) hnothing)
  have hall := Takes.seq hmany (.seq (.optNone (a := rule topDeclaration)
    (Outlook.holds_nothing.fails (by decide))) .finish)
  simp only [List.append_nil, List.append_assoc, List.cons_append, List.nil_append] at hall
  have hlength := SpecLine.length_le_length_tokens lines
  exact hall _ (by simp only [depthFor, List.length_cons, List.length_append]; omega)

end

end Codebook.Go
