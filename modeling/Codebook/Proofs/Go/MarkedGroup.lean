import Codebook.Proofs.Go.Siblings
import Codebook.Proofs.Text.Blank
import Mathlib.Data.List.Basic

/-!
# The group of a marked declaration

A declaration of constants in parentheses is a group if a comment above it is marked.  Of the
comments above, the first that is marked describes the group.  What a comment to the end of a line
says is what follows its slashes, trimmed.

What is here: `commentText_lines`, what comments say together; `description?_marked` and
`description?_of_not`, the marked comments; and `groupsOf_file`.
-/

set_option autoImplicit false

namespace Codebook.Go

open Codebook.Text

/-! ## What a comment says -/

/-- A comment to the end of a line, with a space after its slashes. -/
def Token.Says (c : Token) (cs : List Char) : Prop := c.text.toList = '/' :: '/' :: ' ' :: cs

theorem Token.Says.commentLines {c : Token} {cs : List Char} (h : c.Says cs) :
    commentLines c.text.toList = [trimRight cs] := by
  rw [show c.text.toList = _ from h, Go.commentLines]

theorem commentText_singleton {c : Token} {cs : List Char} (h : c.Says cs) :
    commentText [c] = String.ofList (trim cs) := by
  rw [commentText, List.flatMap_singleton, h.commentLines, joinWith, trim_trimRight]

/-- A marked comment says what follows the mark. -/
theorem description?_marked {c : Token} {cs : List Char}
    (h : c.Says ('@' :: 'a' :: 'i' :: ' ' :: cs)) :
    description? c = some (String.ofList (trim cs)) := by
  have hmarked : containsText marker c.text.toList = true := by
    rw [show c.text.toList = _ from h]
    rfl
  have hlines : trimRight ('@' :: 'a' :: 'i' :: ' ' :: cs) =
      ['@', 'a', 'i'] ++ trimRight (' ' :: cs) :=
    trimRight_append (by rfl : ['@', 'a', 'i'].getLast? = some 'i') (by decide) _
  have hrest : removeFirst marker (['@', 'a', 'i'] ++ trimRight (' ' :: cs)) =
      trimRight (' ' :: cs) := rfl
  have htrim : trim (' ' :: cs) = trim cs :=
    trim_blanks_append (by decide : ∀ c ∈ [' '], isBlank c = true) cs
  rw [description?, if_pos hmarked, h.commentLines, joinWith, hlines, hrest, trim_trimRight, htrim]

/-- A comment that does not say the mark is not marked. -/
theorem description?_of_not {c : Token} {cs : List Char} (h : c.Says cs)
    (hcs : containsText marker cs = false) : description? c = none := by
  have hnot : containsText marker c.text.toList = false := by
    rw [← hcs, show c.text.toList = _ from h]
    simp [containsText, breakAtText, marker, afterPrefix?]
  rw [description?, hnot, if_neg Bool.false_ne_true]

/-! ## The group -/

/-- A group is called after the first name, if that has no type. -/
theorem baseOf_cons {s : Spec} {name : String} (hnames : s.names = [name])
    (htype : s.typeName? = none) (specs : List Spec) :
    baseOf (s :: specs) = String.ofList (baseName name.toList) := by
  cases specs with
  | nil => simp [baseOf, hnames, htype]
  | cons x specs => simp [baseOf, hnames]

/-- The group at a place of a file. -/
def groupAt (package path : String) (l : Location) : List Group :=
  Option.toList do
    let (kind, parts) ← declaration? l.tree
    let description ← l.above.findSome? description?
    groupOf package path kind description (specsOf l.after parts)

theorem groupsOf_eq (path : String) (forest : List Tree) :
    groupsOf path forest = (locations forest).flatMap (groupAt (packageOf forest) path) :=
  List.filterMap_eq_flatMap_toList _ _

theorem groupAt_leaf (package path : String) (before : List Tree) (t : Token) (after : List Tree) :
    groupAt package path ⟨before, .leaf t, after⟩ = [] := rfl

section

variable {package name stop const : Token} {lead : List Token} {row : Nat}

theorem packageOf_cons (hpackage : package.kind = .word) (hname : name.kind = .word)
    (rest : List Tree) :
    packageOf (.node .package [.leaf package, .leaf name] :: rest) = name.text := by
  simp [packageOf, wordOf?, hpackage, hname]

/-- The comments above what comes after a package clause. -/
theorem above_eq (package : Token) (hrow : name.endRow < row) (hstop : stop.isLineEnd = true)
    (hlead : OnRows row (lead.filter Token.isComment)) {t : Tree}
    (ht : t.row = row + (lead.filter Token.isComment).length) (after : List Tree) :
    (Location.mk ((commentLeaves lead).reverse ++
      [.leaf stop, .node .package [.leaf package, .leaf name]]) t after).above =
      lead.filter Token.isComment := by
  have hstops : Stops row
      (withoutLineEnds [.leaf stop, .node .package [.leaf package, .leaf name]]) := by
    rw [withoutLineEnds_stop hstop, withoutLineEnds_cons_of_not rfl]
    exact stops_cons rfl hrow _
  have habove := hstops.commentsAbove_eq hlead
  rw [← withoutLineEnds_comments fun c hc => (List.mem_filter.1 hc).2, ← ht] at habove
  exact habove

/-- **The group of a file with a package clause and a declaration of constants.** -/
theorem groupsOf_file (hpackage : package.kind = .word) (hname : name.kind = .word)
    (hrow : name.endRow < row) (hstop : stop.isLineEnd = true)
    (hlead : OnRows row (lead.filter Token.isComment))
    (hconst : const.row = row + (lead.filter Token.isComment).length)
    {opening closing stop' : Token} (hopening : opening.kind = .symbol) {lines : List SpecLine}
    (hlines : SpecLine.StandFrom (opening.endRow + 1) lines) (hclosing : closing.kind = .symbol)
    (hstop' : stop'.isLineEnd = true) (path : String) :
    groupsOf path (.node .package [.leaf package, .leaf name] :: .leaf stop ::
        (commentLeaves lead ++ [constsTree const opening closing lines, .leaf stop'])) =
      (((lead.filter Token.isComment).findSome? description?).bind fun description =>
        groupOf name.text path .const description (lines.map SpecLine.toSpec)).toList := by
  have hnamed : (Tree.leaf stop').isNamed = false := Token.isComment_of_isLineEnd hstop'
  have hspecs : specsOf [.leaf stop'] (.leaf const :: .leaf opening ::
      (lines.flatMap SpecLine.trees ++ [.leaf closing])) = lines.map SpecLine.toSpec :=
    specsOf_lines hlines hopening (Nat.lt_succ_self _) hclosing (by simpa using hnamed)
  have hconstsRow : (constsTree const opening closing lines).row =
      row + (lead.filter Token.isComment).length := hconst
  have habove := above_eq package hrow hstop hlead hconstsRow [.leaf stop']
  have hleaves := flatMap_locationsFrom_leaves (groupAt_leaf name.text path)
    (lead.filter Token.isComment) [.leaf stop, .node .package [.leaf package, .leaf name]]
    [constsTree const opening closing lines, .leaf stop']
  rw [groupsOf_eq, packageOf_cons hpackage hname, ← habove, ← hspecs]
  refine hleaves.trans ?_
  exact List.append_nil _

end

end Codebook.Go
