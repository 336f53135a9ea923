import Codebook.Proofs.Go.MarkedGroup
import Codebook.Proofs.Go.Siblings
import Codebook.Proofs.Go.Written
import Codebook.Proofs.Text.Utf8

/-!
# Written enumerations are recovered

Scanning the file of a written enumeration gives one group, with the constants that were written
and the comment that belongs to each.  Only a name of a package that is called `iota`, `nil`, `true`
or `false` is lost: to the scanner these are values, and no packages.

The lines of the file are turned into what the reader takes, one constant after the other, with the
row on which it stands; all else is known of such lines.

What is here: `Entry.member` and `Enumeration.group`, what is recovered; `Entry.specLine`, a
constant as it is read; `linesTokens_lines`, the tokens of the file; and `scan_bytes`, its group.
-/

set_option autoImplicit false

namespace Codebook.Go

open Codebook.Text

/-! ## What is recovered -/

/-- The value as it is written. -/
def Written.value : Written → Value
  | integer digits _ => .literal (String.ofList digits)
  | word w _ => .identifier (String.ofList w.text)
  | selector w x _ => .qualified (String.ofList w.text) (String.ofList x.text)

/-- The value is a name of a package that is called like a value of its own. -/
def Written.IsOfConstant : Written → Prop
  | selector w _ _ => String.ofList w.text ∈ constantWords
  | _ => False

instance : DecidablePred Written.IsOfConstant
  | .integer .. => inferInstanceAs (Decidable False)
  | .word .. => inferInstanceAs (Decidable False)
  | .selector w .. => inferInstanceAs (Decidable (String.ofList w.text ∈ constantWords))

/-- The value that is recovered. -/
def Written.kept (v : Written) : Value := if v.IsOfConstant then .absent else v.value

namespace Entry

/-- The value as it is written. -/
def written (e : Entry) : Value := e.value.elim .absent Written.value

/-- What is said about a constant: beside it, else above it, else about the group. -/
def said (e : Entry) (description : String) : String :=
  match e.comment, e.docs with
  | some t, _ => String.ofList (trim t.text)
  | none, [] => description
  | none, docs => String.ofList (trim (joinWith ['\n'] (docs.map fun t => trimRight t.text)))

/-- The constant as a member of a group. -/
def member (e : Entry) (description : String) : Member where
  name := String.ofList e.name.text
  value := e.value.elim .absent Written.kept
  comment := e.said description

end Entry

namespace Enumeration

/-- The description of the group. -/
def said (e : Enumeration) : String := String.ofList (trim e.description.text)

/-- The name of the group. -/
def groupName (e : Enumeration) : String :=
  String.ofList (baseName e.first.name.text) ++ " " ++ e.said

/-- The group, up to its tags. -/
def untagged (e : Enumeration) (path : String) : Group where
  name := e.groupName
  description := e.said
  package := "p"
  file := path
  kind := .const
  members := e.entries.map fun m => m.member e.said
  category := Category.infer e.groupName.toList

/-- The group. -/
def group (e : Enumeration) (path : String) : Group :=
  { e.untagged path with tags := (e.untagged path).generateTags }

end Enumeration

/-! ## Comments on lines of their own -/

/-- The token of a comment. -/
def LineText.token (t : LineText) (row column : Nat) : Token :=
  ⟨.comment, String.ofList t.comment, row, column, row⟩

theorem LineText.says_token (t : LineText) (row column : Nat) :
    (t.token row column).Says t.text := String.toList_ofList

/-- The tokens of some comments, each on a row of its own. -/
def commentTokens : Nat → List LineText → List Token
  | _, [] => []
  | row, t :: ts => t.token row 0 :: commentTokens (row + 1) ts

section

variable (row : Nat) (ts : List LineText)

theorem isTrivia_ownLines : IsTrivia (linesTokens row (ownLines ts)) := by
  induction ts generalizing row with
  | nil => exact isTrivia_nil
  | cons t ts ih => exact List.forall_mem_cons.2 ⟨.inl rfl, List.forall_mem_cons.2 ⟨.inr rfl, ih _⟩⟩

theorem filter_isComment_ownLines :
    (linesTokens row (ownLines ts)).filter Token.isComment = commentTokens row ts := by
  induction ts generalizing row with
  | nil => rfl
  | cons t ts ih => exact congrArg (t.token row 0 :: ·) (ih (row + 1))

theorem onRows_commentTokens : OnRows row (commentTokens row ts) := by
  induction ts generalizing row with
  | nil => trivial
  | cons t ts ih => exact ⟨rfl, rfl, rfl, ih (row + 1)⟩

theorem length_commentTokens : (commentTokens row ts).length = ts.length := by
  induction ts generalizing row with
  | nil => rfl
  | cons t ts ih => exact congrArg (· + 1) (ih (row + 1))

theorem flatMap_commentLines_commentTokens :
    (commentTokens row ts).flatMap (fun c => commentLines c.text.toList) =
      ts.map fun t => trimRight t.text := by
  induction ts generalizing row with
  | nil => rfl
  | cons t ts ih =>
    rw [commentTokens, List.flatMap_cons, (t.says_token row 0).commentLines, ih, List.map_cons]
    rfl

/-- What comments say together are their trimmed lines. -/
theorem commentText_commentTokens :
    commentText (commentTokens row ts) =
      String.ofList (trim (joinWith ['\n'] (ts.map fun t => trimRight t.text))) := by
  rw [commentText, flatMap_commentLines_commentTokens]

/-- After comments without a mark, the one with the mark describes the group. -/
theorem findSome?_description?_commentTokens {ts : List LineText}
    (hts : ∀ t ∈ ts, containsText marker t.text = false) {marked : LineText} {cs : List Char}
    (hmarked : marked.text = '@' :: 'a' :: 'i' :: ' ' :: cs) :
    (commentTokens row (ts ++ [marked])).findSome? description? =
      some (String.ofList (trim cs)) := by
  induction ts generalizing row with
  | nil =>
    have hsays := marked.says_token row 0
    rw [hmarked] at hsays
    rw [List.nil_append, commentTokens, List.findSome?_cons, description?_marked hsays]
  | cons t ts ih =>
    rw [List.forall_mem_cons] at hts
    rw [List.cons_append, commentTokens, List.findSome?_cons,
      description?_of_not (t.says_token row 0) hts.1]
    exact ih (row + 1) hts.2

end

/-! ## The tokens of a constant -/

theorem Written.isValue (v : Written) (row column : Nat) :
    IsValue (pieceTokens row column v.pieces) := by
  cases v with
  | integer digits _ => exact .number rfl
  | word w h => exact .word rfl h
  | selector w x h => exact .pair rfl h ⟨rfl, rfl⟩ rfl

/-- The value of the tokens of a value. -/
theorem Written.valueOf_pieceTokens (v : Written) (row column : Nat) :
    valueOf ((pieceTokens row column v.pieces).filter (!·.isComment)) = v.kept := by
  cases v with
  | integer digits _ => rfl
  | word w _ => rfl
  | selector w x _ =>
    by_cases hconst : String.ofList w.text ∈ constantWords
    · simp [pieces, pieceTokens, valueOf, kept, IsOfConstant, Token.isComment, hconst]
    · simp [pieces, pieceTokens, valueOf, kept, IsOfConstant, Token.isComment, hconst, value]

namespace Entry

variable (e : Entry) (row : Nat)

theorem isSpec : IsSpec (pieceTokens row 0 e.specPieces) := by
  rw [specPieces]
  cases e.value with
  | none => exact .bare rfl
  | some v => exact .valued rfl ⟨rfl, rfl⟩ (v.isValue row _)

/-- The token of the comment beside a constant. -/
def besideToken : Option Token :=
  e.comment.map fun t => t.token row (width (lineText e.specPieces) + 1)

theorem pieceTokens_besidePieces :
    pieceTokens row (width (lineText e.specPieces)) e.besidePieces =
      (e.besideToken row).toList := by
  rw [besidePieces, besideToken]
  cases e.comment <;> rfl

theorem eq_token_of_mem_besideToken {c : Token} (hc : c ∈ e.besideToken row) :
    ∃ (t : LineText) (column : Nat), c = t.token row column := by
  obtain ⟨t, -, rfl⟩ := Option.map_eq_some_iff.1 hc
  exact ⟨t, _, rfl⟩

/-- A constant as it is read, where the comments above it start on some row. -/
def specLine : SpecLine where
  above := linesTokens row (ownLines e.docs)
  isTrivia_above := isTrivia_ownLines row e.docs
  spec := pieceTokens (row + e.docs.length) 0 e.specPieces
  isSpec := e.isSpec _
  beside := e.besideToken (row + e.docs.length)
  isComment_beside := by
    intro c hc
    obtain ⟨t, column, rfl⟩ := e.eq_token_of_mem_besideToken _ hc
    rfl
  stop := lineEnd (row + e.docs.length) (e.specPieces ++ e.besidePieces)
  isLineEnd_stop := isLineEnd_lineEnd _ _

theorem tokens_specLine : (e.specLine row).tokens = linesTokens row e.lines := by
  have hlength : (ownLines e.docs).length = e.docs.length := List.length_map _
  rw [lines, linesTokens_append, hlength, linesTokens, pieceTokens_append, Nat.zero_add,
    pieceTokens_besidePieces, List.append_assoc]
  rfl

theorem comments_specLine : (e.specLine row).comments = commentTokens row e.docs :=
  filter_isComment_ownLines row e.docs

theorem length_comments_specLine : (e.specLine row).comments.length = e.docs.length := by
  rw [comments_specLine, length_commentTokens]

theorem standsOn_specLine : (e.specLine row).StandsOn row := by
  constructor
  · rw [comments_specLine]
    exact onRows_commentTokens row e.docs
  · rw [length_comments_specLine]
    exact row_of_mem_pieceTokens
  · rw [length_comments_specLine]
    intro c hc
    obtain ⟨t, column, rfl⟩ := e.eq_token_of_mem_besideToken _ hc
    exact ⟨rfl, rfl⟩

/-- What is said about a constant is what the comments of its line say. -/
theorem comment_specLine (description : String) :
    (e.specLine row).toSpec.comment description = e.said description := by
  have habove : (e.specLine row).toSpec.above = commentTokens row e.docs := e.comments_specLine row
  have hbeside : (e.specLine row).toSpec.beside = e.besideToken (row + e.docs.length) := rfl
  rw [Spec.comment, habove, hbeside, besideToken, said]
  cases e.comment with
  | some t => exact commentText_singleton (t.says_token _ _)
  | none =>
    cases hdocs : e.docs with
    | nil => rfl
    | cons t ts => exact commentText_commentTokens row (t :: ts)

theorem parts_specLine :
    (e.specLine row).toSpec.parts =
      specParts (pieceTokens (row + e.docs.length) 0 e.specPieces) := rfl

theorem names_specLine : (e.specLine row).toSpec.names = [String.ofList e.name.text] := by
  rw [Spec.names, parts_specLine, specPieces]
  cases e.value <;> rfl

theorem values_specLine :
    (e.specLine row).toSpec.values = (e.value.map Written.kept).toList := by
  rw [Spec.values, parts_specLine, specPieces]
  cases e.value with
  | none => rfl
  | some v =>
    show [valueOf ((Tree.forestTokens ((pieceTokens _ _ v.pieces).map .leaf)).filter _)] = [v.kept]
    rw [forestTokens_map_leaf, v.valueOf_pieceTokens]

theorem typeName?_specLine : (e.specLine row).toSpec.typeName? = none := by
  rw [Spec.typeName?, parts_specLine, specPieces]
  cases e.value <;> rfl

/-- The line of a constant declares one member. -/
theorem members_specLine (description : String) :
    (e.specLine row).toSpec.members description = [e.member description] := by
  rw [Spec.members, comment_specLine, names_specLine, values_specLine, member]
  cases e.value <;> rfl

end Entry

/-! ## The tokens of the file -/

/-- The constants as they are read, where the first line is on some row. -/
def specLinesFrom : Nat → List Entry → List SpecLine
  | _, [] => []
  | row, m :: ms => m.specLine row :: specLinesFrom (row + m.docs.length + 1) ms

theorem length_lines_entry (m : Entry) : m.lines.length = m.docs.length + 1 := by
  rw [Entry.lines, ownLines, List.length_append, List.length_map]
  rfl

theorem linesTokens_entries (row : Nat) (ms : List Entry) (rest : List (List Piece)) :
    linesTokens row (ms.flatMap Entry.lines ++ rest) =
      (specLinesFrom row ms).flatMap SpecLine.tokens ++
        linesTokens (row + (ms.flatMap Entry.lines).length) rest := by
  induction ms generalizing row with
  | nil => rfl
  | cons m ms ih =>
    rw [List.flatMap_cons, List.append_assoc, linesTokens_append, ← m.tokens_specLine, ih,
      length_lines_entry, specLinesFrom, List.flatMap_cons, List.append_assoc, List.length_append,
      length_lines_entry, Nat.add_assoc row, Nat.add_assoc row]

theorem standFrom_specLinesFrom (row : Nat) (ms : List Entry) :
    SpecLine.StandFrom row (specLinesFrom row ms) := by
  induction ms generalizing row with
  | nil => trivial
  | cons m ms ih =>
    refine ⟨m.standsOn_specLine row, ?_⟩
    rw [m.length_comments_specLine]
    exact ih _

theorem members_specLinesFrom (row : Nat) (ms : List Entry) (description : String) :
    ((specLinesFrom row ms).map SpecLine.toSpec).flatMap (fun s => s.members description) =
      ms.map fun m => m.member description := by
  induction ms generalizing row with
  | nil => rfl
  | cons m ms ih =>
    rw [specLinesFrom, List.map_cons, List.flatMap_cons, m.members_specLine, ih, List.map_cons]
    rfl

/-- A line with the end of the line before it. -/
def SpecLine.below (stop : Token) (hstop : stop.isLineEnd = true) (l : SpecLine) : SpecLine :=
  { l with
    above := stop :: l.above
    isTrivia_above := List.forall_mem_cons.2 ⟨.inr hstop, l.isTrivia_above⟩ }

theorem SpecLine.comments_below {stop : Token} (hstop : stop.isLineEnd = true) (l : SpecLine) :
    (l.below stop hstop).comments = l.comments := by
  show (stop :: l.above).filter Token.isComment = _
  rw [List.filter_cons_of_neg (by simp [Token.isComment_of_isLineEnd hstop]), comments]

theorem SpecLine.toSpec_below {stop : Token} (hstop : stop.isLineEnd = true) (l : SpecLine) :
    (l.below stop hstop).toSpec = l.toSpec := by
  rw [toSpec, comments_below]
  rfl

theorem SpecLine.StandsOn.below {stop : Token} (hstop : stop.isLineEnd = true) {l : SpecLine}
    {row : Nat} (hl : l.StandsOn row) : (l.below stop hstop).StandsOn row := by
  constructor
  · rw [comments_below]
    exact hl.above
  · rw [comments_below]
    exact hl.spec
  · rw [comments_below]
    exact hl.beside

namespace Enumeration

variable (e : Enumeration)

/-- The row on which the declaration starts. -/
def constRow : Nat := 2 + e.above.length

/-- The row on which it ends. -/
def closingRow : Nat := e.constRow + 1 + (e.entries.flatMap Entry.lines).length

/-- The tokens between the package clause and the declaration. -/
def lead : List Token := lineEnd 1 [] :: linesTokens 2 (ownLines e.above)

/-- The constants as they are read. -/
def specLines : List SpecLine :=
  (e.first.specLine (e.constRow + 1)).below (lineEnd e.constRow constLine)
      (isLineEnd_lineEnd _ _) ::
    specLinesFrom (e.constRow + 1 + e.first.docs.length + 1) e.more

theorem tokens_specLines :
    e.specLines.flatMap SpecLine.tokens =
      lineEnd e.constRow constLine ::
        (specLinesFrom (e.constRow + 1) e.entries).flatMap SpecLine.tokens := rfl

theorem standFrom_specLines : SpecLine.StandFrom (e.constRow + 1) e.specLines := by
  refine ⟨(e.first.standsOn_specLine _).below (isLineEnd_lineEnd _ _), ?_⟩
  rw [SpecLine.comments_below, e.first.length_comments_specLine]
  exact standFrom_specLinesFrom _ e.more

theorem map_toSpec_specLines :
    e.specLines.map SpecLine.toSpec =
      (specLinesFrom (e.constRow + 1) e.entries).map SpecLine.toSpec := by
  rw [specLines, List.map_cons, SpecLine.toSpec_below]
  rfl

/-- The word that starts the package clause. -/
def packageToken : Token := ⟨.word, "package", 0, 0, 0⟩

/-- The name of the package. -/
def nameToken : Token := ⟨.word, "p", 0, 8, 0⟩

/-- The word that starts the declaration. -/
def constToken : Token := ⟨.word, "const", e.constRow, 0, e.constRow⟩

/-- The parenthesis that opens it. -/
def openingToken : Token := ⟨.symbol, "(", e.constRow, 6, e.constRow⟩

/-- The parenthesis that closes it. -/
def closingToken : Token := ⟨.symbol, ")", e.closingRow, 0, e.closingRow⟩

/-- The tokens of the file. -/
theorem linesTokens_lines :
    linesTokens 0 e.lines =
      packageToken :: nameToken :: lineEnd 0 packageLine ::
        (e.lead ++ e.constToken :: e.openingToken ::
          (e.specLines.flatMap SpecLine.tokens ++
            [e.closingToken, lineEnd e.closingRow closingLine])) := by
  have habove : (ownLines e.above).length = e.above.length := List.length_map _
  rw [lines, linesTokens, linesTokens, linesTokens_append, habove, linesTokens,
    linesTokens_entries, tokens_specLines]
  rfl

/-! ## The group of the file -/

/-- The trees of the file. -/
def forest : List Tree :=
  .node .package [.leaf packageToken, .leaf nameToken] :: .leaf (lineEnd 0 packageLine) ::
    (commentLeaves e.lead ++ [constsTree e.constToken e.openingToken e.closingToken e.specLines,
      .leaf (lineEnd e.closingRow closingLine)])

theorem readFile_bytes (path : String) : readFile path e.bytes = .ok e.forest := by
  have htrivia : IsTrivia e.lead :=
    List.forall_mem_cons.2 ⟨.inr (isLineEnd_lineEnd _ _), isTrivia_ownLines 2 e.above⟩
  have hread : Form.read Rule.form Rule.topLevel (linesTokens 0 e.lines) = some (e.forest, []) := by
    rw [e.linesTokens_lines]
    exact read_topLevel ⟨rfl, rfl⟩ rfl (isLineEnd_lineEnd _ _) htrivia ⟨rfl, rfl⟩ ⟨rfl, rfl⟩
      e.specLines ⟨rfl, rfl⟩ (isLineEnd_lineEnd _ _)
  rw [readFile, bytes, Utf8.decode?_encoded]
  simp only [scan_text, hread]

theorem filter_isComment_lead :
    e.lead.filter Token.isComment = commentTokens 2 e.above := filter_isComment_ownLines 2 e.above

theorem groupOf_specLines (path : String) :
    groupOf "p" path .const e.said (e.specLines.map SpecLine.toSpec) = some (e.group path) := by
  have hbase : baseOf (e.specLines.map SpecLine.toSpec) =
      String.ofList (baseName e.first.name.text) := by
    rw [map_toSpec_specLines, entries, specLinesFrom, List.map_cons,
      baseOf_cons (e.first.names_specLine _) (e.first.typeName?_specLine _), String.toList_ofList]
  have hmembers : (e.specLines.map SpecLine.toSpec).flatMap (fun s => s.members e.said) =
      e.entries.map fun m => m.member e.said := by
    rw [map_toSpec_specLines, members_specLinesFrom]
  rw [groupOf, hbase, hmembers]
  rfl

theorem groupsOf_forest (path : String) : groupsOf path e.forest = [e.group path] := by
  have hlead := e.filter_isComment_lead
  have hrows : OnRows 2 (e.lead.filter Token.isComment) := by
    rw [hlead]
    exact onRows_commentTokens 2 e.above
  have hconst : e.constToken.row = 2 + (e.lead.filter Token.isComment).length := by
    rw [hlead, length_commentTokens]
    rfl
  have hdescription : (e.lead.filter Token.isComment).findSome? description? = some e.said := by
    rw [hlead, above]
    exact findSome?_description?_commentTokens 2 e.isUnmarked rfl
  have hgroups := groupsOf_file (rfl : packageToken.kind = .word) (rfl : nameToken.kind = .word)
    Nat.two_pos (isLineEnd_lineEnd 0 packageLine) hrows hconst
    (rfl : e.openingToken.kind = .symbol) e.standFrom_specLines
    (rfl : e.closingToken.kind = .symbol) (isLineEnd_lineEnd e.closingRow closingLine) path
  rw [hdescription, Option.bind_some] at hgroups
  calc groupsOf path e.forest
      = (groupOf nameToken.text path .const e.said (e.specLines.map SpecLine.toSpec)).toList :=
        hgroups
    _ = [e.group path] := by
        rw [show nameToken.text = "p" from rfl, groupOf_specLines, Option.toList_some]

/-- The file has the group that was written. -/
theorem scan_bytes (path : String) : scan path e.bytes = .ok [e.group path] := by
  rw [scan, readFile_bytes, Except.map, groupsOf_forest]

end Enumeration

/-- **Scanning the file of a written enumeration recovers it.**  Its one group has the description
that follows the mark, and the constants that were written, in their order.  Each has its own
comment, or else the comments above it, or else the description; and it has its own value, unless
that is a name of a package that is called like a value of its own. -/
theorem exists_scan_bytes (e : Enumeration) (path : String) :
    ∃ g, scan path e.bytes = .ok [g] ∧
      g.description = String.ofList (trim e.description.text) ∧
      g.name = String.ofList (baseName e.first.name.text) ++ " " ++ g.description ∧
      g.members = e.entries.map fun m => m.member g.description :=
  ⟨e.group path, e.scan_bytes path, rfl, rfl, rfl⟩

/-- A constant of a package called `iota`, and one that has a comment. -/
def selectorOfIota : Enumeration where
  before := []
  isUnmarked := fun _ h => nomatch h
  description := ⟨['D'], by decide⟩
  first := {
    docs := []
    name := ⟨['A'], by decide⟩
    value := some (.selector ⟨"iota".toList, by decide⟩ ⟨['X'], by decide⟩ (by decide))
    comment := none }
  more := [{
    docs := []
    name := ⟨['B'], by decide⟩
    value := some (.integer ['1'] (by decide))
    comment := some ⟨['c'], by decide⟩ }]

/-- Not every value is recovered as it is written. -/
theorem not_forall_values_written :
    ¬ ∀ (e : Enumeration) (path : String), ∃ g, scan path e.bytes = .ok [g] ∧
      g.members.map Member.value = e.entries.map Entry.written := by
  intro h
  obtain ⟨g, hscan, hvalues⟩ := h selectorOfIota "a.go"
  rw [selectorOfIota.scan_bytes] at hscan
  obtain rfl := (List.cons.inj (Except.ok.inj hscan)).1
  have hlost : (selectorOfIota.group "a.go").members.map Member.value =
      [.absent, .literal "1"] := by decide
  rw [hlost] at hvalues
  exact absurd hvalues (by decide)

end Codebook.Go
