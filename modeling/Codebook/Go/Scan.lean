import Codebook.Diagnostic
import Codebook.Enumeration.Tags
import Codebook.Go.Comment
import Codebook.Go.Grammar
import Codebook.Go.Token.Lexer
import Codebook.Text.Utf8

/-!
# Scanning Go files

A declaration of constants or variables is marked for the document by a comment above it that holds
`@ai`; what else that comment says is the description of the group.  Every name that is declared
becomes a member.

What is here: `ScanError`, why a file cannot be scanned, and `scan`, the groups of a file.
-/

set_option autoImplicit false

namespace Codebook.Go

open Text

/-! ## Errors -/

/-- Why a file cannot be scanned. -/
inductive ScanError where
  /-- The file is not UTF-8. -/
  | invalidUtf8 (path : String)
  /-- The file has a syntax error at a line and column, both counted from one. -/
  | malformed (path : String) (line column : Nat)
  /-- The file gives no trees at all. -/
  | noTree (path : String)
deriving DecidableEq, Repr

namespace ScanError

/-- The file that cannot be scanned. -/
def path : ScanError → String
  | invalidUtf8 path => path
  | malformed path _ _ => path
  | noTree path => path

/-- What is said about an error. -/
def message : ScanError → String
  | invalidUtf8 path => path ++ " is not valid UTF-8"
  | malformed path line column =>
    "syntax error in " ++ path ++ " at line " ++ toString line ++ ", column " ++ toString column
  | noTree path => "parser produced no syntax tree for " ++ path

/-- Where an error is, as far as that is known. -/
def span? : ScanError → Option Span
  | malformed _ line column => some (Span.located line column 1)
  | _ => none

/-- The error as a problem with one file among others. -/
def toDiagnostic (e : ScanError) : Diagnostic :=
  { kind := .unreadableSource
    severity := .error
    message := e.message
    file := some e.path
    span := e.span? }

end ScanError

/-! ## Declarations -/

/-- What marks a declaration for the document. -/
def marker : List Char := "@ai".toList

/-- What a comment says about a group that it marks. -/
def description? (c : Token) : Option String :=
  if containsText marker c.text.toList then
    some (String.ofList (trim (removeFirst marker (joinWith ['\n'] (commentLines c.text.toList)))))
  else none

/-- The text of a tree that is a single word. -/
def wordOf? : Tree → Option String
  | .leaf t => if t.kind == .word then some t.text else none
  | .node _ _ => none

/-- The sorts of tokens that are literals. -/
def TokenKind.isLiteral (k : TokenKind) : Bool := k == .number || k == .rune || k == .string

/-- Names that stand for a value of their own, and not for a package. -/
def constantWords : List String := ["nil", "true", "false", "iota"]

/-- The value that the tokens of an expression give, comments left out. -/
def valueOf : List Token → Value
  | [t] =>
    if t.kind.isLiteral then .literal t.text
    else if t.kind == .word then .identifier t.text
    else .absent
  | [t, dot, u] =>
    if t.kind == .word && !constantWords.contains t.text && dot.text == "." && u.kind == .word then
      .qualified t.text u.text
    else .absent
  | _ => .absent

/-- Some names, each with its value and all with one comment. -/
def membersOf (comment : String) : List String → List Value → List Member
  | [], _ => []
  | name :: names, [] => ⟨name, .absent, comment⟩ :: membersOf comment names []
  | name :: names, v :: values => ⟨name, v, comment⟩ :: membersOf comment names values

/-- A specification in its place. -/
structure Spec where
  /-- What it consists of. -/
  parts : List Tree
  /-- The comments above it. -/
  above : List Token
  /-- The comment beside it. -/
  beside : Option Token

namespace Spec

/-- The names that are declared. -/
def names (s : Spec) : List String := s.parts.filterMap wordOf?

/-- The values that are given. -/
def values (s : Spec) : List Value :=
  s.parts.filterMap fun
    | .node .value parts => some (valueOf ((Tree.forestTokens parts).filter (!·.isComment)))
    | _ => none

/-- The name of the type, if it is one word. -/
def typeName? (s : Spec) : Option String :=
  s.parts.findSome? fun
    | .node .type [t] => wordOf? t
    | _ => none

/-- The comment on what is declared: what is said beside it, else what is said above it, else the
description of the group. -/
def comment (s : Spec) (description : String) : String :=
  match s.beside, s.above with
  | some c, _ => commentText [c]
  | none, [] => description
  | none, cs => commentText cs

/-- The members that are declared. -/
def members (s : Spec) (description : String) : List Member :=
  membersOf (s.comment description) s.names s.values

end Spec

/-- The specifications among some trees, where `outer` is what follows on the levels above. -/
def specsAmong (outer : List (List Tree)) (forest : List Tree) : List Spec :=
  (locations forest).filterMap fun l =>
    match l.tree with
    | .node .spec parts => some ⟨parts, l.above, beside l.tree.endRow (l.after :: outer)⟩
    | _ => none

/-- The specifications of a declaration, where `outer` is what follows it. -/
def specsOf (outer : List Tree) (parts : List Tree) : List Spec :=
  (locations parts).flatMap fun l =>
    match l.tree with
    | .node .varList inner => specsAmong [l.after, outer] inner
    | .node .spec inner => [⟨inner, l.above, beside l.tree.endRow [l.after, outer]⟩]
    | _ => []

/-- The base of the name of a group: the type of a specification that stands alone, else the base of
the first name. -/
def baseOf (specs : List Spec) : String :=
  let ofFirst := match specs.head?.bind fun s => s.names.head? with
    | some name => String.ofList (baseName name.toList)
    | none => "Unknown"
  match specs with
  | [s] => s.typeName?.getD ofFirst
  | _ => ofFirst

/-- The kind of a declaration and its parts. -/
def declaration? : Tree → Option (DeclarationKind × List Tree)
  | .node .consts parts => some (.const, parts)
  | .node .vars parts => some (.var, parts)
  | _ => none

/-- The group of a marked declaration, if it declares anything. -/
def groupOf (package file : String) (kind : DeclarationKind) (description : String)
    (specs : List Spec) : Option Group :=
  match specs.flatMap fun s => s.members description with
  | [] => none
  | m :: members =>
    let name := baseOf specs ++ " " ++ description
    let group : Group :=
      { name, description, package, file, kind
        members := m :: members
        category := Category.infer name.toList }
    some { group with tags := group.generateTags }

/-! ## Files -/

/-- The name of the package of a file. -/
def packageOf (forest : List Tree) : String :=
  let clause? := forest.findSome? fun
    | .node .package parts => some parts
    | _ => none
  (((clause?.getD []).filterMap wordOf?)[1]?).getD ""

/-- The groups of a file that has been read. -/
def groupsOf (path : String) (forest : List Tree) : List Group :=
  (locations forest).filterMap fun l => do
    let (kind, parts) ← declaration? l.tree
    let description ← l.above.findSome? description?
    groupOf (packageOf forest) path kind description (specsOf l.after parts)

/-- The place of the first token that no declaration or statement takes. -/
def errorPlace (tokens : List Token) : Nat × Nat :=
  match Form.read Rule.form (.many (.rule .topItem)) tokens with
  | some (_, t :: _) => (t.row + 1, t.column + 1)
  | _ => (1, 1)

/-- The trees of a file. -/
def readFile (path : String) (bytes : List UInt8) : Except ScanError (List Tree) :=
  match Utf8.decode? bytes with
  | none => .error (.invalidUtf8 path)
  | some source =>
    match Token.scan source with
    | .error place => .error (.malformed path (place.row + 1) (place.column + 1))
    | .ok tokens =>
      match Form.read Rule.form Rule.topLevel tokens with
      | some (forest, _) => .ok forest
      | none =>
        let (line, column) := errorPlace tokens
        .error (.malformed path line column)

/-- The groups that are marked in a file. -/
def scan (path : String) (bytes : List UInt8) : Except ScanError (List Group) :=
  (readFile path bytes).map (groupsOf path)

end Codebook.Go
